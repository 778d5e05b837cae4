import FleetRollout.Proofs.Isolation
import FleetRollout.Proofs.Transparency

set_option autoImplicit false

/-!
Names stay what they are while clients are served. A name is looked up in an index that is
remembered or taken from the store, and no request changes the one that is looked up in; so a
request that found its group finds it again, whether the index was up to date or not.
-/

namespace FleetRollout

open Store FleetRollout.Action

namespace Engine

-- Applications and groups are looked up in these indexes.
structure LooksIn (applications : Index String) (tracks : Index TrackKey) (engine : Engine) :
    Prop where
  keyed : engine.store.Keyed
  applications : engine.directory.applicationsFor engine.store = applications
  tracks : engine.directory.tracksFor engine.store = tracks

theorem looksIn_keptByParts (applications : Index String) (tracks : Index TrackKey) :
    KeptByParts (Carries (LooksIn applications tracks)) := by
  refine carried_byParts (fun engine store same keys looks => ?_)
    ⟨keeps_reading, fun external engine looks => ?_,
      fun applicationId track architecture engine looks => ?_⟩
  · have keyed := keys looks.keyed
    have index : Directory.applicationIndex store =
        Directory.applicationIndex engine.store := by
      rw [Directory.applicationIndex, same.applications, Directory.applicationIndex]
    refine ⟨keyed, ?_, ?_⟩
    · rw [← looks.applications, Directory.applicationsFor, index, Directory.applicationsFor]
    · rw [← looks.tracks, Directory.tracksFor, Directory.tracksFor,
        Directory.trackIndex_congr same.sameTracks looks.keyed keyed]
  · rw [perform_findApplication]
    unfold Directory.findApplication
    split
    · exact looks
    · exact ⟨looks.keyed, looks.applications, looks.tracks⟩
  · rw [perform_findGroup]
    exact ⟨looks.keyed, looks.applications, looks.tracks⟩

/-- Both engines look names up in the same indexes, over the same catalog. -/
structure SameNames (left right : Engine) : Prop where
  indexes : ∃ applications tracks, left.LooksIn applications tracks ∧
    right.LooksIn applications tracks
  catalog : SameCatalog left.store right.store

theorem sameNames_refl {engine : Engine} (keyed : engine.store.Keyed) :
    SameNames engine engine :=
  ⟨⟨_, _, ⟨keyed, rfl, rfl⟩, ⟨keyed, rfl, rfl⟩⟩, SameCatalog.refl engine.store⟩

theorem SameNames.of_parts {α : Type} {action : Action Engine α} {left right : Engine}
    (same : SameNames left right)
    (parts : ∀ {Q : {α : Type} → Action Engine α → Prop}, HoldsOfParts Q → Q action) :
    SameNames left (action.perform right).2 := by
  obtain ⟨applications, tracks, looks, other⟩ := same.indexes
  have catalog := (parts sameCatalog_keptByStages.parts right).store
  have remembered := parts (looksIn_keptByParts applications tracks) right other
  exact ⟨⟨applications, tracks, looks, remembered⟩, same.catalog.trans catalog⟩

theorem blind_lookup_names {α : Type} {action : Action Engine α}
    (answers : ∀ left right : Engine,
      right.directory.applicationsFor right.store = left.directory.applicationsFor left.store →
      right.directory.tracksFor right.store = left.directory.tracksFor left.store →
        (action.perform left).1 = (action.perform right).1)
    (data : Keeps SameData action)
    (kept : ∀ applications tracks, Keeps (Carries (LooksIn applications tracks)) action) :
    Blind SameNames action := by
  intro left right same
  obtain ⟨applications, tracks, looks, other⟩ := same.indexes
  refine ⟨?_, ⟨applications, tracks, kept _ _ left looks, kept _ _ right other⟩, ?_⟩
  · refine answers left right ?_ ?_
    · rw [looks.applications, other.applications]
    · rw [looks.tracks, other.tracks]
  · obtain ⟨_, leftAfter⟩ := data left
    obtain ⟨_, rightAfter⟩ := data right
    rw [leftAfter, rightAfter]
    exact same.catalog

theorem blind_resolveApplication (external : String) (error : EngineError) :
    Blind SameNames (resolveApplication external error) := by
  refine blind_bind ?_ fun _ => blind_composes.require _ _
  refine blind_lookup_names (fun left right applications _ => ?_)
    (sameData_keptByLookups.application external)
    fun applications tracks => (looksIn_keptByParts applications tracks).application external
  rw [perform_findApplication, perform_findApplication]
  unfold Directory.findApplication
  split
  · rfl
  · dsimp only
    rw [applications]

theorem blind_findTrack (applicationId track : String) (architecture : Architecture) :
    Blind SameNames (findGroup applicationId track architecture) := by
  refine blind_lookup_names (fun left right _ tracks => ?_)
    (sameData_keptByLookups.group applicationId track architecture)
    fun applications tracks =>
      (looksIn_keptByParts applications tracks).group applicationId track architecture
  rw [perform_findGroup, perform_findGroup]
  unfold Directory.findGroup
  dsimp only
  rw [tracks]

def place (found : String × String) : Action Engine (String × Group) := do
  let group ← requireGroupOf found.1 found.2
  pure (found.1, group)

theorem place_ok {ids : String × String} {engine after : Engine} {found : String × Group} :
    (place ids).perform engine = (.ok found, after) ↔
      engine.store.groups.get? ids.2 = some found.2 ∧ found.2.applicationId = ids.1 ∧
        found.1 = ids.1 ∧ after = engine := by
  obtain ⟨applicationId, group⟩ := found
  simp only [place, requireGroupOf, bind_ok, perform_readStore, require_ok, check_ok, perform_pure,
    Prod.mk.injEq, Except.ok.injEq, decide_eq_true_eq]
  constructor
  · rintro ⟨_, _, ⟨_, _, ⟨rfl, rfl⟩, _, _, ⟨stored, rfl⟩, _, _, ⟨own, rfl⟩, rfl, rfl⟩,
      ⟨rfl, rfl⟩, rfl⟩
    exact ⟨stored, own, rfl, rfl⟩
  · rintro ⟨stored, own, rfl, rfl⟩
    exact ⟨group, after, ⟨_, _, ⟨rfl, rfl⟩, group, after, ⟨stored, rfl⟩, (), after, ⟨own, rfl⟩,
      rfl, rfl⟩, ⟨rfl, rfl⟩, rfl⟩

def resolveNames (application group : String) : Action Engine (String × String) := do
  let applicationId ← resolveApplication application .invalidApplicationOrGroup
  pure (applicationId, groupIdOf group)

end Engine

namespace Operation

-- The ids of the application and the group that a request asks for.
def names : Operation → Action Engine (String × String)
  | .registerInstance request | .updatePlan request _ | .nextPackage request =>
      Engine.resolveNames request.applicationId request.groupId
  | .registerEvent report => Engine.resolveNames report.applicationId report.groupId
  | .checkIn request => do
      let architecture ← Action.require (.invalidArchitecture request.architecture)
        (Architecture.reported? request.architecture)
      let applicationId ←
        Engine.resolveApplication request.applicationId .invalidApplicationOrGroup
      let groupId ← Action.require .invalidApplicationOrGroup
        (← Engine.findGroup applicationId request.track architecture)
      pure (applicationId, groupId)
  | _ => throw .invalidApplicationOrGroup

theorem locator_eq (operation : Operation) :
    operation.locator = operation.names >>= Engine.place := by
  cases operation with
  | checkIn request =>
    simp only [locator, names, Engine.locate, Engine.place, bind_assoc, pure_bind]
  | registerInstance | updatePlan | nextPackage | registerEvent =>
    simp only [locator, names, Engine.resolveGroup, Engine.resolveNames, Engine.place, bind_assoc,
      pure_bind]
  | _ => rfl

theorem blind_names (operation : Operation) : Blind Engine.SameNames operation.names := by
  cases operation with
  | checkIn request =>
    refine blind_bind (blind_composes.require _ _) fun architecture => ?_
    refine blind_bind (Engine.blind_resolveApplication _ _) fun applicationId => ?_
    refine blind_bind (Engine.blind_findTrack _ _ _) fun groupId => ?_
    exact blind_bind (blind_composes.require _ _) fun _ => blind_composes.pure _
  | registerInstance | updatePlan | nextPackage | registerEvent =>
    exact blind_bind (Engine.blind_resolveApplication _ _) fun _ => blind_composes.pure _
  | _ => exact blind_composes.throw _

theorem located_again {operation : Operation} {before after : Engine}
    (same : Engine.SameNames before after) {applicationId : String} {group : Group}
    (located : (operation.locator.perform before).1 = .ok (applicationId, group)) :
    ∃ current, (operation.locator.perform after).1 = .ok (applicationId, current) ∧
      current.setup = group.setup := by
  rw [locator_eq] at located ⊢
  obtain ⟨ids, between, named, placed⟩ := bind_ok.mp (perform_of_answer located)
  obtain ⟨stored, own, rfl, -⟩ := Engine.place_ok.mp placed
  obtain ⟨answers, alike⟩ := operation.blind_names before after same
  rw [named] at answers alike
  -- The same ids are found; under the id of the group lies the same group, but for its flag.
  obtain ⟨current, found, setup⟩ := alike.catalog.group_after stored
  have application := (Group.same_of_setup setup).2.1
  have placedAgain : (Engine.place ids).perform _ = (.ok (ids.1, current), _) :=
    Engine.place_ok.mpr ⟨found, application.trans own, rfl, rfl⟩
  refine ⟨current, ?_, setup⟩
  rw [perform_bind_ok (perform_of_answer answers.symm), placedAgain]

end Operation

end FleetRollout

import FleetRollout.Proofs.Change
import FleetRollout.Proofs.Sorting

set_option autoImplicit false

/-!
The directory keeps up with the store. Whatever changes what an index was taken from forgets the
index, but for one operation: a channel may be created in the place of one that groups follow.
-/

namespace FleetRollout

open Store FleetRollout.Action

def Channel.place (channel : Channel) : String × Architecture :=
  (channel.applicationId, channel.architecture)

namespace Store

def placeOf (store : Store) (channelId : String) : Option (String × Architecture) :=
  (store.channels.get? channelId).map Channel.place

def SamePlaces (before after : Store) : Prop :=
  ∀ group ∈ before.groups.values, ∀ channelId ∈ group.channelId,
    after.placeOf channelId = before.placeOf channelId

def uproots (before after : Store) : Bool :=
  before.groups.values.any fun group =>
    group.channelId.any fun channelId => after.placeOf channelId ≠ before.placeOf channelId

structure SameTracks (before after : Store) : Prop where
  groups : ∀ id, (after.groups.get? id).map Group.setup = (before.groups.get? id).map Group.setup
  places : SamePlaces before after

variable {before after : Store}

theorem samePlaces_of_not_uproots (rooted : before.uproots after = false) :
    SamePlaces before after := by
  intro group member channelId follows
  have kept := List.any_eq_false.mp rooted group member
  simpa [Option.mem_def.mp follows] using kept

theorem SameCatalog.placeOf (same : SameCatalog before after) (channelId : String) :
    after.placeOf channelId = before.placeOf channelId := by
  rw [Store.placeOf, same.channels, Store.placeOf]

theorem SameCatalog.sameTracks (same : SameCatalog before after) : SameTracks before after :=
  ⟨same.groups, fun _ _ channelId _ => same.placeOf channelId⟩

end Store

namespace Directory

theorem channelArchitecture_eq {store : Store} (keyed : store.channels.KeyedBy Channel.id)
    (channelId : String) :
    channelArchitecture? store channelId =
      ((store.placeOf channelId).filter fun place =>
        store.groups.values.any fun group => group.applicationId == place.1).map (·.2) := by
  unfold channelArchitecture? placeOf
  dsimp only
  rw [keyed.find_valuesWhere]
  cases store.channels.get? channelId with
  | none => rfl
  | some channel =>
    cases served : store.groups.values.any fun group =>
        group.applicationId == channel.applicationId <;>
      simp [Option.filter_some, Channel.place, served]

theorem trackIndex_eq (store : Store) :
    trackIndex store =
      ((Sorting.sortBy isOlder (store.groups.values.map Group.setup)).filterMap
        (trackOf? store)).reverse := by
  -- Neither the order of the groups nor their entries depend on flags and switches.
  have sorted : (Sorting.sortBy isOlder store.groups.values).map Group.setup =
      Sorting.sortBy isOlder (store.groups.values.map Group.setup) :=
    Sorting.map_sortBy isOlder Group.setup store.groups.values
  rw [← sorted, List.filterMap_map]
  rfl

theorem trackIndex_congr {before after : Store} (same : SameTracks before after)
    (keyed : before.Keyed) (keyedAfter : after.Keyed) : trackIndex after = trackIndex before := by
  have setups : after.groups.values.map Group.setup = before.groups.values.map Group.setup :=
    Table.map_values_congr same.groups
  -- Which applications have groups, and so whose channels count, is told by the setups too.
  have serving (applicationId : String) :
      (after.groups.values.any fun group => group.applicationId == applicationId) =
        before.groups.values.any fun group => group.applicationId == applicationId := by
    have listed := congrArg (fun groups : List Group =>
      groups.any fun group => group.applicationId == applicationId) setups
    rwa [List.any_map, List.any_map] at listed
  have entries : ∀ group ∈ Sorting.sortBy isOlder (before.groups.values.map Group.setup),
      trackOf? after group = trackOf? before group := by
    intro group listed
    obtain ⟨stored, member, rfl⟩ := List.mem_map.mp ((Sorting.mem_sortBy _).mp listed)
    unfold trackOf?
    cases follows : stored.channelId with
    | none => simp [Group.setup, follows]
    | some channelId =>
      have place := same.places stored member channelId follows
      have architecture :
          channelArchitecture? after channelId = channelArchitecture? before channelId := by
        rw [channelArchitecture_eq keyed.channels, channelArchitecture_eq keyedAfter.channels,
          place]
        simp only [serving]
      simp [Group.setup, follows, architecture]
  rw [trackIndex_eq, trackIndex_eq, setups, List.filterMap_congr entries]

end Directory

namespace Change

variable {scope : Scope} {store after : Store}

theorem applications_eq (change : Change scope store after) (kept : ¬ scope.dropsApplications) :
    after.applications = store.applications := by
  cases change with
  | applicationPut _ dropped | applicationGone _ dropped => exact absurd dropped kept
  | channelUpdated _ _ _ _ _ _ calm => exact calm.noted.catalog.applications
  | channelGone id channel => rw [withoutChannel_eq]
  | packageGone id package => rw [withoutPackage_eq]
  | _ => rfl

theorem sameTracks (change : Change scope store after) (keyed : store.Keyed)
    (kept : ¬ scope.dropsTracks) (rooted : scope.makesChannels → SamePlaces store after) :
    SameTracks store after := by
  cases change with
  | channelCreated made channel => exact ⟨fun _ => rfl, rooted made⟩
  | channelUpdated channel existing found application architecture _ calm =>
    -- An update moves a channel neither to another application nor to another architecture.
    refine ⟨calm.noted.catalog.groups, fun _ _ channelId _ => ?_⟩
    rw [calm.noted.catalog.placeOf, placeOf, placeOf, putChannel, Table.get_insert]
    split
    next same =>
      rw [← same, found, Option.map_some, Option.map_some, Channel.place, Channel.place,
        application, architecture]
    next => rfl
  | channelGone _ _ _ dropped | groupCreated _ _ _ _ dropped | groupUpdated _ _ _ _ _ _ dropped
  | groupGone _ _ dropped => exact absurd dropped kept
  | packageGone id package =>
    refine ⟨fun groupId => by rw [withoutPackage_eq], fun _ _ channelId _ => ?_⟩
    exact map_withoutPackage Channel.place (fun _ => rfl) keyed.channels package id channelId
  | _ => exact ⟨fun _ => rfl, fun _ _ _ _ => rfl⟩

end Change

namespace Engine

/-- What is remembered of the applications is what the store has. -/
def FindsApplications (engine : Engine) : Prop :=
  engine.directory.applicationsFor engine.store = Directory.applicationIndex engine.store

def FindsTracks (engine : Engine) : Prop :=
  engine.directory.tracksFor engine.store = Directory.trackIndex engine.store

variable {engine after : Engine}

theorem FindsApplications.of_recalls (finds : engine.FindsApplications)
    (recalled : after.directory.applications = engine.directory.applications)
    (same : after.store.applications = engine.store.applications) : after.FindsApplications := by
  have index : Directory.applicationIndex after.store =
      Directory.applicationIndex engine.store := by
    rw [Directory.applicationIndex, same, Directory.applicationIndex]
  unfold FindsApplications Directory.applicationsFor at *
  rw [recalled, index]
  exact finds

theorem FindsTracks.of_recalls (finds : engine.FindsTracks)
    (recalled : after.directory.tracks = engine.directory.tracks)
    (same : Directory.trackIndex after.store = Directory.trackIndex engine.store) :
    after.FindsTracks := by
  unfold FindsTracks Directory.tracksFor at *
  rw [recalled, same]
  exact finds

theorem findApplication_reopen (finds : engine.FindsApplications) (external : String) :
    ((findApplication external).perform engine).1 =
      ((findApplication external).perform engine.reopen).1 := by
  rw [perform_findApplication, perform_findApplication]
  unfold Directory.findApplication
  split
  · rfl
  · dsimp only
    rw [finds]
    rfl

theorem findGroup_reopen (finds : engine.FindsTracks) (applicationId track : String)
    (architecture : Architecture) :
    ((findGroup applicationId track architecture).perform engine).1 =
      ((findGroup applicationId track architecture).perform engine.reopen).1 := by
  rw [perform_findGroup, perform_findGroup]
  unfold Directory.findGroup
  dsimp only
  rw [finds]
  rfl

section Carried

variable {P : Engine → Prop}
  (kept : ∀ engine store, SameCatalog engine.store store → Carries Keyed engine.store store →
    P engine → P { engine with store })
include kept

theorem carried_onStore {α : Type} {action : Action Store α} (same : Keeps SameCatalog action)
    (keyed : Keeps (Carries Keyed) action) : Keeps (Carries P) (onStore action) := by
  intro engine holds
  rw [perform_onStore]
  exact kept engine _ (same engine.store) (keyed engine.store) holds

-- Requests leave the catalog alone, so what holds for a catalog and is kept by lookups is kept.
theorem carried_byParts (looks : KeptByLookups (Carries P)) : KeptByParts (Carries P) where
  toHoldsOfLookups := looks
  register now request applicationId groupId :=
    carried_onStore kept (CheckIn.keeps_register now request applicationId groupId)
      (CheckIn.keyed_register now request applicationId groupId)
  applyEvent now applicationId group instanceId event :=
    carried_onStore kept (CheckIn.keeps_applyEvent now applicationId group instanceId event)
      (CheckIn.keyed_applyEvent now applicationId group instanceId event)
  decide config now applicationId group instanceId mode :=
    carried_onStore kept (CheckIn.keeps_decide config now applicationId group instanceId mode)
      (CheckIn.keyed_decide config now applicationId group instanceId mode)

end Carried

theorem findsApplications_keptByParts : KeptByParts (Carries FindsApplications) := by
  refine carried_byParts (fun engine store same _ finds => finds.of_recalls rfl same.applications)
    ⟨keeps_reading, fun external engine finds => ?_,
      fun applicationId track architecture engine finds => ?_⟩
  · rw [perform_findApplication]
    unfold Directory.findApplication
    split
    · exact finds
    · exact finds
  · rw [perform_findGroup]
    exact finds

/-- Every name is looked up as if nothing were remembered. -/
structure Finds (engine : Engine) : Prop where
  keyed : engine.store.Keyed
  applications : engine.FindsApplications
  tracks : engine.FindsTracks

theorem finds_of_cold (keyed : engine.store.Keyed) (cold : engine.directory = {}) :
    engine.Finds := by
  refine ⟨keyed, ?_, ?_⟩
  · rw [FindsApplications, cold]
    rfl
  · rw [FindsTracks, cold]
    rfl

theorem finds_keptByParts : KeptByParts (Carries Finds) := by
  have lookups := findsApplications_keptByParts.toHoldsOfLookups
  refine carried_byParts (fun engine store same keys finds => ?_)
    ⟨keeps_reading, fun external engine finds => ?_,
      fun applicationId track architecture engine finds => ?_⟩
  · have keyed := keys finds.keyed
    exact ⟨keyed, finds.applications.of_recalls rfl same.applications,
      finds.tracks.of_recalls rfl (Directory.trackIndex_congr same.sameTracks finds.keyed keyed)⟩
  · have applications := lookups.application external engine finds.applications
    rw [perform_findApplication] at *
    refine ⟨finds.keyed, applications, finds.tracks.of_recalls ?_ rfl⟩
    unfold Directory.findApplication
    split <;> rfl
  · have applications := lookups.group applicationId track architecture engine finds.applications
    rw [perform_findGroup] at *
    exact ⟨finds.keyed, applications, finds.tracks⟩

end Engine

namespace Operation

/-- A channel takes the place of one that groups follow, elsewhere or for another architecture. -/
def uproots (engine : Engine) : Operation → Bool
  | .createChannel new => engine.store.uproots ((createChannel new).run engine).store
  | _ => false

/-- The index of tracks is still remembered when what it was taken from has changed. -/
def leavesStale (engine : Engine) (operation : Operation) : Bool :=
  operation.uproots engine && engine.directory.tracks.isSome

theorem samePlaces_of_makesChannels {operation : Operation} {engine : Engine}
    (makes : operation.makesChannels = true) (rooted : operation.uproots engine = false) :
    SamePlaces engine.store (operation.run engine).store := by
  cases operation with
  | createChannel new => exact samePlaces_of_not_uproots rooted
  | _ => simp [makesChannels] at makes

theorem run_findsApplications (operation : Operation) {engine : Engine}
    (finds : engine.FindsApplications) : (operation.run engine).FindsApplications := by
  have parts := Engine.findsApplications_keptByParts
  cases serves : operation.isRequest with
  | true => exact run_serves parts serves engine finds
  | false =>
    cases looks : operation.looksUp with
    | true => exact run_looksUp parts.toHoldsOfLookups looks engine finds
    | false =>
      have recalls := (run_administers serves looks engine).recalls
      -- Forgotten, the index is taken anew; kept, its applications are those that are stored.
      cases remembered : (operation.run engine).directory.applications with
      | none =>
        rw [Engine.FindsApplications, Directory.applicationsFor, remembered, Option.getD_none]
      | some index =>
        have kept : ¬ (operation.scope engine).dropsApplications := by simp [scope, remembered]
        exact finds.of_recalls (recalls.applications.resolve_right kept)
          ((run_changes serves engine).applications_eq kept)

theorem run_finds {operation : Operation} {engine : Engine}
    (current : operation.leavesStale engine = false) (finds : engine.Finds) :
    (operation.run engine).Finds := by
  have parts := Engine.finds_keptByParts
  cases serves : operation.isRequest with
  | true => exact run_serves parts serves engine finds
  | false =>
    cases looks : operation.looksUp with
    | true => exact run_looksUp parts.toHoldsOfLookups looks engine finds
    | false =>
      have keyed := run_keyed operation finds.keyed
      refine ⟨keyed, run_findsApplications operation finds.applications, ?_⟩
      have recalls := (run_administers serves looks engine).recalls
      -- An index that is still there was there before, and its groups and channels are the same.
      cases remembered : (operation.run engine).directory.tracks with
      | none => rw [Engine.FindsTracks, Directory.tracksFor, remembered, Option.getD_none]
      | some index =>
        have kept : ¬ (operation.scope engine).dropsTracks := by simp [scope, remembered]
        have recalled := recalls.tracks.resolve_right kept
        have rooted : operation.uproots engine = false := by
          simpa [leavesStale, ← recalled, remembered] using current
        have same := (run_changes serves engine).sameTracks finds.keyed kept fun makes =>
          samePlaces_of_makesChannels makes rooted
        exact finds.tracks.of_recalls recalled
          (Directory.trackIndex_congr same finds.keyed keyed)

end Operation

end FleetRollout

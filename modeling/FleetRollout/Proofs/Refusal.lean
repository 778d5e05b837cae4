import FleetRollout.Proofs.Spared
import FleetRollout.Proofs.Transparency

set_option autoImplicit false

/-!
Changes of the catalog that are refused. An operation makes all its checks before its first write,
and what it does from there on cannot fail. So a refusal leaves everything as it was, but for an id
that was generated in vain; and no client can tell the number of the next id.
-/

namespace FleetRollout

open Store FleetRollout.Action

namespace Action

variable {σ α β : Type} {R : σ → σ → Prop}

-- An action that fails leaves a state that is related to the one it began with.
def Retracts (R : σ → σ → Prop) (action : Action σ α) : Prop :=
  ∀ state error, (action.perform state).1 = .error error → R state (action.perform state).2

def Succeeds (action : Action σ α) : Prop :=
  ∀ error, Spares error action

theorem succeeds_pure (value : α) : Succeeds (pure value : Action σ α) :=
  fun _ => spares_pure value

theorem succeeds_get : Succeeds (get : Action σ σ) :=
  fun _ => spares_get

theorem succeeds_modify (change : σ → σ) : Succeeds (modify change : Action σ PUnit) :=
  fun _ => spares_modify change

theorem succeeds_bind {first : Action σ α} {next : α → Action σ β} (head : Succeeds first)
    (tail : ∀ value, Succeeds (next value)) : Succeeds (first >>= next) :=
  fun error => spares_bind (head error) fun value => tail value error

theorem Succeeds.retracts {action : Action σ α} (succeeds : Succeeds action) :
    Retracts R action :=
  fun state error failed => absurd failed (succeeds error state)

theorem Inspects.keeps [IsPreorder σ R] {action : Action σ α} {fact : σ → α → Prop}
    (inspects : Inspects action fact) : Keeps R action := by
  intro state
  rw [(inspects state).1]
  exact refl_of R state

theorem retracts_bind [IsPreorder σ R] {first : Action σ α} {next : α → Action σ β}
    (check : Keeps R first) (rest : ∀ value, Retracts R (next value)) :
    Retracts R (first >>= next) := by
  intro state error failed
  -- Whether the first part is what fails or not, it wrote nothing.
  have checked := check state
  rcases result : first.perform state with ⟨failure | value, between⟩
  all_goals rw [result] at checked
  · rwa [perform_bind_error result]
  · rw [perform_bind_ok result] at failed ⊢
    exact trans_of R checked (rest value between error failed)

end Action

namespace Engine

/-- The same but for the number of the next id. -/
def Renumbered (before after : Engine) : Prop :=
  ∃ nextId, after = { before with nextId }

instance : IsPreorder Engine Renumbered where
  refl engine := ⟨engine.nextId, rfl⟩
  trans := by
    rintro _ _ _ ⟨_, rfl⟩ ⟨nextId, rfl⟩
    exact ⟨nextId, rfl⟩

theorem renumbered_idOrNew (given : Option String) : Keeps Renumbered (idOrNew given) := by
  intro engine
  obtain ⟨nextId, named⟩ := perform_idOrNew given engine
  rw [named]
  exact ⟨nextId, rfl⟩

theorem succeeds_write (change : Store → Store) : Succeeds (write change) :=
  succeeds_modify _

theorem succeeds_readStore : Succeeds readStore :=
  succeeds_bind succeeds_get fun _ => succeeds_pure _

theorem succeeds_forgetApplications : Succeeds forgetApplications :=
  succeeds_modify _

theorem succeeds_forgetTracks : Succeeds forgetTracks :=
  succeeds_modify _

theorem succeeds_channelPackageUpdated (channel : Channel) (version : String) (now : Nat) :
    Succeeds (onStore (Journal.channelPackageUpdated channel version now)) :=
  fun _ => spares_onStore (spares_modify _)

section

variable {R : Engine → Engine → Prop} [IsPreorder Engine R]

theorem retracts_createTeam {id : Option String} (named : Keeps R (idOrNew id)) (name : String) :
    Retracts R (createTeam id name) :=
  retracts_bind named fun _ =>
    (succeeds_bind succeeds_get fun _ => succeeds_bind (succeeds_write _) fun _ =>
      succeeds_pure _).retracts

theorem retracts_updateTeam (team : Team) : Retracts R (updateTeam team) :=
  retracts_bind (inspects_requireTeam _).keeps fun _ =>
    (succeeds_bind (succeeds_write _) fun _ => succeeds_pure _).retracts

theorem retracts_createApplication {new : NewApplication} (named : Keeps R (idOrNew new.id)) :
    Retracts R (createApplication new) :=
  retracts_bind (inspects_requireTeam _).keeps fun _ =>
    retracts_bind named fun _ =>
      (succeeds_bind succeeds_get fun _ => succeeds_bind (succeeds_write _) fun _ =>
        succeeds_bind succeeds_forgetApplications fun _ => succeeds_pure _).retracts

theorem retracts_updateApplication (application : Application) :
    Retracts R (updateApplication application) :=
  retracts_bind (inspects_requireApplication _).keeps fun _ =>
    retracts_bind (inspects_requireTeam _).keeps fun _ =>
      (succeeds_bind (succeeds_write _) fun _ =>
        succeeds_bind succeeds_forgetApplications fun _ => succeeds_pure _).retracts

theorem succeeds_deleteApplication (id : String) : Succeeds (deleteApplication id) :=
  succeeds_bind succeeds_readStore fun _ => succeeds_bind (succeeds_write _) fun _ =>
    succeeds_bind succeeds_forgetApplications fun _ =>
      succeeds_bind succeeds_forgetTracks fun _ => succeeds_pure _

theorem retracts_createChannel {new : NewChannel} (named : Keeps R (idOrNew new.id)) :
    Retracts R (createChannel new) :=
  retracts_bind (inspects_requireApplication _).keeps fun _ =>
    retracts_bind named fun _ =>
      retracts_bind (inspects_checkTarget? _ _ _ _).keeps fun _ =>
        (succeeds_bind succeeds_get fun _ => succeeds_bind (succeeds_write _) fun _ =>
          succeeds_pure _).retracts

theorem retracts_updateChannel (channel : Channel) :
    Retracts R (updateChannel channel) := by
  refine retracts_bind (inspects_requireChannel _).keeps fun existing =>
    retracts_bind (inspects_check _ _).keeps fun _ =>
      retracts_bind (inspects_check _ _).keeps fun _ =>
        retracts_bind (inspects_checkTarget? _ _ _ _).keeps fun target =>
          (succeeds_bind (succeeds_write _) fun _ => ?_).retracts
  -- The log is written to last; that is no check, and cannot fail.
  cases target with
  | none => exact succeeds_pure _
  | some package =>
    simp only
    split
    · exact succeeds_pure _
    · exact succeeds_bind succeeds_get fun _ =>
        succeeds_bind (succeeds_channelPackageUpdated _ _ _) fun _ => succeeds_pure _

theorem succeeds_deleteChannel (id : String) : Succeeds (deleteChannel id) := by
  refine succeeds_bind succeeds_readStore fun store => ?_
  split
  · exact succeeds_pure _
  · exact succeeds_bind (succeeds_write _) fun _ => succeeds_bind succeeds_forgetTracks fun _ =>
      succeeds_pure _

theorem retracts_createPackage {new : NewPackage} (named : Keeps R (idOrNew new.id)) :
    Retracts R (createPackage new) :=
  retracts_bind (inspects_requireApplication _).keeps fun _ =>
    retracts_bind (inspects_check _ _).keeps fun _ =>
      retracts_bind named fun _ => retracts_bind keeps_get fun _ =>
        retracts_bind (inspects_checkBlacklist _).keeps fun _ =>
          (succeeds_bind (succeeds_write _) fun _ => succeeds_pure _).retracts

theorem retracts_updatePackage (package : Package) :
    Retracts R (updatePackage package) :=
  retracts_bind (inspects_requirePackage _).keeps fun _ =>
    retracts_bind (inspects_check _ _).keeps fun _ =>
      retracts_bind (inspects_check _ _).keeps fun _ =>
        retracts_bind (inspects_checkBlacklist _).keeps fun _ =>
          retracts_bind (inspects_checkReferences _).keeps fun _ =>
            (succeeds_bind (succeeds_write _) fun _ => succeeds_pure _).retracts

theorem succeeds_deletePackage (id : String) : Succeeds (deletePackage id) := by
  refine succeeds_bind succeeds_readStore fun store => ?_
  split
  · exact succeeds_pure _
  · exact succeeds_bind (succeeds_write _) fun _ => succeeds_pure _

theorem retracts_createGroup {new : NewGroup} (named : Keeps R (idOrNew new.id)) :
    Retracts R (createGroup new) :=
  retracts_bind (inspects_requireApplication _).keeps fun _ =>
    retracts_bind (inspects_checkGroupReferences _ _ _).keeps fun _ =>
      retracts_bind named fun _ =>
        (succeeds_bind succeeds_get fun _ => succeeds_bind (succeeds_write _) fun _ =>
          succeeds_bind succeeds_forgetTracks fun _ => succeeds_pure _).retracts

theorem retracts_updateGroup (group : Group) : Retracts R (updateGroup group) :=
  retracts_bind (inspects_requireGroup _).keeps fun _ =>
    retracts_bind (inspects_check _ _).keeps fun _ =>
      retracts_bind (inspects_checkGroupReferences _ _ _).keeps fun _ =>
        (succeeds_bind (succeeds_write _) fun _ =>
          succeeds_bind succeeds_forgetTracks fun _ => succeeds_pure _).retracts

theorem succeeds_deleteGroup (id : String) : Succeeds (deleteGroup id) :=
  succeeds_bind succeeds_readStore fun _ => succeeds_bind (succeeds_write _) fun _ =>
    succeeds_bind succeeds_forgetTracks fun _ => succeeds_pure _

theorem retracts_addFloor (channelId packageId reason : String) :
    Retracts R (addFloor channelId packageId reason) :=
  retracts_bind (inspects_requireChannel _).keeps fun _ =>
    retracts_bind (inspects_requirePackage _).keeps fun _ =>
      retracts_bind (inspects_check _ _).keeps fun _ =>
        retracts_bind (inspects_check _ _).keeps fun _ =>
          retracts_bind (inspects_check _ _).keeps fun _ =>
            retracts_bind (inspects_check _ _).keeps fun _ =>
              (succeeds_bind succeeds_get fun _ => succeeds_bind (succeeds_write _) fun _ =>
                succeeds_pure _).retracts

theorem succeeds_removeFloor (channelId packageId : String) :
    Succeeds (removeFloor channelId packageId) :=
  succeeds_bind succeeds_readStore fun _ => succeeds_bind (succeeds_write _) fun _ =>
    succeeds_pure _

end

theorem blind_renumbered {α : Type} {action : Action Engine α}
    (commutes : ∀ engine nextId, action.perform { engine with nextId } =
      ((action.perform engine).1, { (action.perform engine).2 with nextId })) :
    Blind Renumbered action := by
  rintro left _ ⟨nextId, rfl⟩
  rw [commutes left nextId]
  exact ⟨rfl, nextId, rfl⟩

theorem renumbered_onStore {α : Type} (action : Action Store α) :
    Blind Renumbered (onStore action) :=
  blind_renumbered fun _ _ => rfl

theorem renumbered_reading :
    ComposesReading (fun action : Action Engine _ => Blind Renumbered action) :=
  blind_reading fun left _ ⟨nextId, same⟩ => ⟨left.directory, nextId, same⟩

theorem renumbered_parts :
    HoldsOfParts (fun action : Action Engine _ => Blind Renumbered action) where
  toComposesReading := renumbered_reading
  application _ := blind_renumbered fun _ _ => by simp only [perform_findApplication]
  group _ _ _ := blind_renumbered fun _ _ => by simp only [perform_findGroup]
  register _ _ _ _ := renumbered_onStore _
  applyEvent _ _ _ _ _ := renumbered_onStore _
  decide _ _ _ _ _ _ := renumbered_onStore _

theorem renumbered_edits :
    HoldsOfEdits (fun action : Action Engine _ => Blind Renumbered action) where
  toComposesReading := renumbered_reading
  write _ := blind_renumbered fun _ _ => rfl
  onStore := renumbered_onStore
  forgetApplications := blind_renumbered fun _ _ => rfl
  forgetTracks := blind_renumbered fun _ _ => rfl
  reopen := blind_renumbered fun _ _ => rfl
  setNow _ := blind_renumbered fun _ _ => rfl
  advance _ := blind_renumbered fun _ _ => rfl

end Engine

namespace Operation

-- The operation creates no entry under a generated id.
abbrev NamesId (operation : Operation) : Prop := operation.givenId? ≠ some none

variable {operation : Operation}

theorem NamesId.holds {Q : {α : Type} → Action Engine α → Prop} (named : operation.NamesId)
    (each : ∀ id : String, Q (Pure.pure id : Action Engine String)) :
    ∀ given ∈ operation.givenId?, Q (Engine.idOrNew given) := by
  intro given member
  cases given with
  | none => exact absurd member named
  | some id => exact each id

theorem retracts_action {R : Engine → Engine → Prop} [IsPreorder Engine R]
    (named : ∀ given ∈ operation.givenId?, Keeps R (Engine.idOrNew given))
    (serves : operation.isRequest = false) (looks : operation.looksUp = false) :
    Retracts R operation.action := by
  cases operation with
  | createTeam id name => exact Engine.retracts_createTeam (named id rfl) name
  | updateTeam team => exact Engine.retracts_updateTeam team
  | createApplication new => exact Engine.retracts_createApplication (named new.id rfl)
  | updateApplication application => exact Engine.retracts_updateApplication application
  | deleteApplication id => exact (Engine.succeeds_deleteApplication id).retracts
  | createChannel new => exact Engine.retracts_createChannel (named new.id rfl)
  | updateChannel channel => exact Engine.retracts_updateChannel channel
  | deleteChannel id => exact (Engine.succeeds_deleteChannel id).retracts
  | createPackage new => exact Engine.retracts_createPackage (named new.id rfl)
  | updatePackage package => exact Engine.retracts_updatePackage package
  | deletePackage id => exact (Engine.succeeds_deletePackage id).retracts
  | createGroup new => exact Engine.retracts_createGroup (named new.id rfl)
  | updateGroup group => exact Engine.retracts_updateGroup group
  | deleteGroup id => exact (Engine.succeeds_deleteGroup id).retracts
  | addFloor channelId packageId reason =>
    exact Engine.retracts_addFloor channelId packageId reason
  | removeFloor channelId packageId =>
    exact (Engine.succeeds_removeFloor channelId packageId).retracts
  | forgetApplications | forgetTracks | reopen | setNow | advance =>
    exact (succeeds_modify _).retracts
  | _ => simp_all [isRequest, looksUp]

theorem blind_action (named : operation.NamesId) : Blind Engine.Renumbered operation.action :=
  action_holds Engine.renumbered_parts Engine.renumbered_edits
    (named.holds (Q := fun action => Blind Engine.Renumbered action)
      Engine.renumbered_reading.pure)

theorem run_renumbered {left right : Engine} (same : Engine.Renumbered left right)
    (named : operation.NamesId) :
    (operation.action.perform left).1 = (operation.action.perform right).1 ∧
      Engine.Renumbered (operation.run left) (operation.run right) := by
  rw [run, run]
  exact blind_action named left right same

theorem answers_renumbered {left right : Engine} (same : Engine.Renumbered left right)
    {operations : List Operation} (named : ∀ operation ∈ operations, operation.NamesId) :
    answers left operations = answers right operations :=
  answers_congr run_renumbered same (.of_forall named left)

end Operation

/--
A change of the catalog that is refused changes nothing: no table, no log and nothing that is
remembered, only the number of the next id if one was to be generated. Whatever is asked later is
answered as if the change had not been tried.
-/
theorem refusal_leaves_no_trace {engine : Engine} {operation : Operation}
    (serves : operation.isRequest = false) (looks : operation.looksUp = false)
    {error : EngineError} (refused : (operation.action.perform engine).1 = .error error) :
    (∃ nextId, operation.run engine = { engine with nextId }) ∧
    (operation.NamesId → operation.run engine = engine) ∧
    ∀ later : List Operation, (∀ next ∈ later, next.NamesId) →
      Operation.answers (operation.run engine) later = Operation.answers engine later := by
  have renumbered : Engine.Renumbered engine (operation.run engine) := by
    rw [Operation.run]
    exact Operation.retracts_action (fun given _ => Engine.renumbered_idOrNew given) serves looks
      engine error refused
  refine ⟨renumbered, fun named => ?_, fun later names => ?_⟩
  · rw [Operation.run]
    exact (Operation.retracts_action (R := Eq)
      (named.holds (Q := fun action => Keeps Eq action) keeps_pure) serves looks engine error
      refused).symm
  · exact (Operation.answers_renumbered renumbered names).symm

theorem refusal_leaves_no_trace_wrongArchitecture :
    let engine := Operation.runAll {} Operation.smallCatalog
    let new : NewChannel :=
      { name := "Beta", applicationId := "agent", architecture := .aarch64
        packageId := some "latest" }
    let operation : Operation := .createChannel new
    let later : List Operation :=
      [.findGroup "agent" "fleet" .amd64, .findApplication "agent", .deleteChannel "stable"]
    operation.isRequest = false ∧ operation.looksUp = false ∧
      ((Engine.createChannel new).perform engine).1 =
        .error (.architectureMismatch .aarch64 .amd64) ∧
      (operation.run engine).nextId = engine.nextId + 1 ∧
      (∃ nextId, operation.run engine = { engine with nextId }) ∧
      Operation.answers (operation.run engine) later = Operation.answers engine later := by
  intro engine new operation later
  have refused : ((Engine.createChannel new).perform engine).1 =
      .error (.architectureMismatch .aarch64 .amd64) := by decide +kernel
  have named : ∀ next ∈ later, next.NamesId := by decide +kernel
  have answered : (operation.action.perform engine).1 =
      .error (.architectureMismatch .aarch64 .amd64) := refused
  obtain ⟨renumbered, -, answers⟩ := refusal_leaves_no_trace rfl rfl answered
  exact ⟨rfl, rfl, refused, by decide +kernel, renumbered, answers later named⟩

end FleetRollout

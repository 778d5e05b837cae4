import FleetRollout.Proofs.Change

set_option autoImplicit false

/-!
What an entry of the catalog gets when it is created and has to keep for as long as it is stored.
Updates keep it, cascades keep it, and so do the requests of clients. To create an entry under an
id that is taken does not: the new entry replaces the old one.
-/

namespace FleetRollout

open Store

/-- What is fixed at an entry's creation. -/
structure Origin where
  createdAt : Nat
  applicationId : Option String := none
  architecture : Option Architecture := none
  deriving Repr, DecidableEq

def Team.origin (team : Team) : Origin :=
  { createdAt := team.createdAt }

def Application.origin (application : Application) : Origin :=
  { createdAt := application.createdAt }

def Channel.origin (channel : Channel) : Origin :=
  { createdAt := channel.createdAt
    applicationId := some channel.applicationId
    architecture := some channel.architecture }

-- The architecture of a package is not fixed; it may change while nothing relies on it.
def Package.origin (package : Package) : Origin :=
  { createdAt := package.createdAt, applicationId := some package.applicationId }

def Group.origin (group : Group) : Origin :=
  { createdAt := group.createdAt, applicationId := some group.applicationId }

namespace Store

def origin? (store : Store) : Kind → String → Option Origin
  | .team, id => (store.teams.get? id).map Team.origin
  | .application, id => (store.applications.get? id).map Application.origin
  | .channel, id => (store.channels.get? id).map Channel.origin
  | .package, id => (store.packages.get? id).map Package.origin
  | .group, id => (store.groups.get? id).map Group.origin

section Writes

variable {α : Type} {read : α → Origin} {table : Table α} {key id : String}

theorem map_insert {value : α} {made : String → Prop}
    (origin : made key ∨ ∃ existing, table.get? key = some existing ∧
      read value = read existing) :
    made id ∨ ((table.insert key value).get? id).map read = none ∨
      ((table.insert key value).get? id).map read = (table.get? id).map read := by
  rw [Table.get_insert]
  by_cases same : key = id
  · subst same
    rcases origin with fresh | ⟨existing, found, kept⟩
    · exact .inl fresh
    · refine .inr (.inr ?_)
      rw [if_pos rfl, found, Option.map_some, Option.map_some, kept]
  · rw [if_neg same]
    exact .inr (.inr rfl)

theorem map_erase :
    ((table.erase key).get? id).map read = none ∨
      ((table.erase key).get? id).map read = (table.get? id).map read := by
  rw [Table.get_erase]
  by_cases same : key = id
  · rw [if_pos same]
    exact .inl rfl
  · rw [if_neg same]
    exact .inr rfl

end Writes

theorem SameCatalog.origin {store after : Store} (same : SameCatalog store after) (kind : Kind)
    (id : String) : after.origin? kind id = store.origin? kind id := by
  cases kind with
  | team => rw [origin?, origin?, same.teams]
  | application => rw [origin?, origin?, same.applications]
  | channel => rw [origin?, origin?, same.channels]
  | package => rw [origin?, origin?, same.packages]
  | group =>
    -- The flag and the switch that requests may change are not part of the origin.
    have kept := congrArg (Option.map Group.origin) (same.groups id)
    rw [Option.map_map, Option.map_map] at kept
    exact kept

end Store

theorem Change.origin {scope : Scope} {store after : Store} (change : Change scope store after)
    (keyed : store.Keyed) (kind : Kind) (id : String) :
    scope.creates kind id ∨ after.origin? kind id = none ∨
      after.origin? kind id = store.origin? kind id := by
  cases change with
  | unchanged => exact .inr (.inr rfl)
  | teamPut team origin =>
    cases kind with
    | team =>
      refine map_insert (origin.imp_right ?_)
      rintro ⟨existing, found, created⟩
      exact ⟨existing, found, congrArg (Origin.mk · none none) created⟩
    | _ => exact .inr (.inr rfl)
  | applicationPut application _ origin =>
    cases kind with
    | application =>
      refine map_insert (origin.imp_right ?_)
      rintro ⟨existing, found, created⟩
      exact ⟨existing, found, congrArg (Origin.mk · none none) created⟩
    | _ => exact .inr (.inr rfl)
  | applicationGone gone =>
    cases kind with
    | application => exact .inr map_erase
    | _ => exact .inr (.inr rfl)
  | channelCreated _ channel _ _ created =>
    cases kind with
    | channel => exact map_insert (.inl created)
    | _ => exact .inr (.inr rfl)
  | channelUpdated channel existing found application architecture _ calm created =>
    rw [calm.noted.catalog.origin kind id]
    cases kind with
    | channel =>
      refine map_insert (.inr ⟨existing, found, ?_⟩)
      rw [Channel.origin, Channel.origin, application, architecture, created]
    | _ => exact .inr (.inr rfl)
  | channelGone gone channel =>
    have detached := map_withoutChannel Group.origin (fun _ => rfl) keyed.groups channel gone id
    rw [withoutChannel_eq] at detached ⊢
    cases kind with
    | channel => exact .inr map_erase
    | group => exact .inr (.inr detached)
    | _ => exact .inr (.inr rfl)
  | packageCreated package _ _ _ created =>
    cases kind with
    | package => exact map_insert (.inl created)
    | _ => exact .inr (.inr rfl)
  | packageUpdated package existing found application _ _ _ _ created =>
    cases kind with
    | package =>
      refine map_insert (.inr ⟨existing, found, ?_⟩)
      rw [Package.origin, Package.origin, application, created]
    | _ => exact .inr (.inr rfl)
  | packageGone gone package =>
    have cleared := map_withoutPackage Channel.origin (fun _ => rfl) keyed.channels package gone id
    rw [withoutPackage_eq] at cleared ⊢
    cases kind with
    | package => exact .inr map_erase
    | channel => exact .inr (.inr cleared)
    | _ => exact .inr (.inr rfl)
  | groupCreated _ group _ _ _ _ created =>
    cases kind with
    | group => exact map_insert (.inl created)
    | _ => exact .inr (.inr rfl)
  | groupUpdated _ group existing found _ _ _ _ application created =>
    cases kind with
    | group =>
      refine map_insert (.inr ⟨existing, found, ?_⟩)
      rw [Group.origin, Group.origin, application, created]
    | _ => exact .inr (.inr rfl)
  | groupGone _ gone =>
    cases kind with
    | group => exact .inr map_erase
    | _ => exact .inr (.inr rfl)
  | floorAdded => exact .inr (.inr rfl)
  | floorRemoved => exact .inr (.inr rfl)

namespace Operation

theorem run_origin (operation : Operation) {engine : Engine} (keyed : engine.store.Keyed)
    (kind : Kind) (id : String) :
    operation.creates engine = some (kind, id) ∨
      (operation.run engine).store.origin? kind id = none ∨
      (operation.run engine).store.origin? kind id = engine.store.origin? kind id := by
  cases serves : operation.isRequest with
  | true =>
    have same := (run_serves Engine.sameCatalog_keptByStages.parts serves engine).store
    exact .inr (.inr (same.origin kind id))
  | false => exact (run_changes serves engine).origin keyed kind id

/-- The entry is still stored after the operation, which has not created it. -/
def LeavesStanding (kind : Kind) (id : String) (engine : Engine) (operation : Operation) : Prop :=
  ((operation.run engine).store.origin? kind id).isSome = true ∧
    operation.creates engine ≠ some (kind, id)

instance (kind : Kind) (id : String) (engine : Engine) (operation : Operation) :
    Decidable (LeavesStanding kind id engine operation) :=
  inferInstanceAs (Decidable (_ ∧ _))

end Operation

/--
As long as an entry stays stored and none is created under its id, its time of creation, its
application, and the architecture of a channel stay what they were.
-/
theorem fixed_at_creation {engine : Engine} (reached : Reachable engine) {kind : Kind}
    {id : String} {operations : List Operation}
    (stays : AllowedRun (Operation.LeavesStanding kind id) engine operations) :
    (Operation.runAll engine operations).store.origin? kind id = engine.store.origin? kind id := by
  induction operations generalizing engine with
  | nil => rfl
  | cons operation rest ih =>
    obtain ⟨⟨remains, notCreated⟩, later⟩ := stays
    refine (ih (reached.step operation trivial) later).trans ?_
    rcases operation.run_origin reached.keyed kind id with created | gone | kept
    · exact absurd created notCreated
    · simp [gone] at remains
    · exact kept

theorem fixed_at_creation_stable :
    let engine := Operation.runAll {} Operation.smallCatalog
    let operations : List Operation :=
      [ .setNow 86400,
        .updateChannel
          { id := "stable", name := "Long term", color := "blue", applicationId := "agent"
            architecture := .amd64, packageId := some "latest", createdAt := 5 },
        .deletePackage "latest",
        .updatePlan .firstContact .multi,
        .createChannel
          { id := some "beta", name := "Beta", applicationId := "agent"
            architecture := .aarch64 } ]
    Reachable engine ∧
      AllowedRun (Operation.LeavesStanding .channel "stable") engine operations ∧
      (Operation.runAll engine operations).store.origin? .channel "stable" =
        engine.store.origin? .channel "stable" := by
  intro engine operations
  have reached : Reachable engine :=
    Operation.reachable_runAll (.start {} rfl) Operation.smallCatalog
  have stays : AllowedRun (Operation.LeavesStanding .channel "stable") engine operations := by
    decide +kernel
  exact ⟨reached, stays, fixed_at_creation reached stays⟩

-- A channel that is created under the id of a stored one takes its place.
theorem not_fixed_at_creation :
    ¬ ∀ (engine : Engine) (kind : Kind) (id : String) (operations : List Operation),
      Reachable engine →
      AllowedRun (fun engine operation =>
        ((operation.run engine).store.origin? kind id).isSome = true) engine operations →
      (Operation.runAll engine operations).store.origin? kind id =
        engine.store.origin? kind id := by
  intro fixed
  have reached : Reachable (Operation.runAll {} Operation.smallCatalog) :=
    Operation.reachable_runAll (.start {} rfl) Operation.smallCatalog
  have kept := fixed _ .channel "stable"
    [.createChannel
      { id := some "stable", name := "Stable", applicationId := "agent"
        architecture := .aarch64 }]
    reached (by decide +kernel)
  exact absurd kept (by decide +kernel)

end FleetRollout

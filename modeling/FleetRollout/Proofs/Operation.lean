import FleetRollout.Proofs.Administration
import FleetRollout.Proofs.Arrival

set_option autoImplicit false

/-!
Runs of the engine: whatever is asked of it, from an empty store on. In every state that is
reached each row lies under the key that is read off the row.
-/

namespace FleetRollout

open Store FleetRollout.Action

def Engine.idFor (engine : Engine) (given : Option String) : String :=
  given.getD (Identifier.numbered engine.nextId)

inductive Operation where
  | createTeam (id : Option String) (name : String)
  | updateTeam (team : Team)
  | createApplication (new : NewApplication)
  | updateApplication (application : Application)
  | deleteApplication (id : String)
  | createChannel (new : NewChannel)
  | updateChannel (channel : Channel)
  | deleteChannel (id : String)
  | createPackage (new : NewPackage)
  | updatePackage (package : Package)
  | deletePackage (id : String)
  | createGroup (new : NewGroup)
  | updateGroup (group : Group)
  | deleteGroup (id : String)
  | addFloor (channelId packageId reason : String)
  | removeFloor (channelId packageId : String)
  | findApplication (external : String)
  | findGroup (applicationId track : String) (architecture : Architecture)
  | findInstance (instanceId application : String)
  | registerInstance (request : Registration)
  | updatePlan (request : Registration) (mode : DeliveryMode)
  | nextPackage (request : Registration)
  | registerEvent (report : EventReport)
  | checkIn (request : CheckInRequest)
  | forgetApplications
  | forgetTracks
  | reopen
  | setNow (now : Nat)
  | advance (seconds : Nat)

namespace Operation

def Answer : Operation → Type
  | .createTeam _ _ | .updateTeam _ => Team
  | .createApplication _ | .updateApplication _ => Application
  | .createChannel _ | .updateChannel _ => Channel
  | .createPackage _ | .updatePackage _ | .nextPackage _ => Package
  | .createGroup _ | .updateGroup _ => Group
  | .addFloor _ _ _ => Floor
  | .deleteApplication _ | .deleteChannel _ | .deletePackage _ | .deleteGroup _
  | .removeFloor _ _ => Bool
  | .findApplication _ | .findGroup _ _ _ => Option String
  | .findInstance _ _ => Option InstanceRecord
  | .registerInstance _ => InstanceRecord
  | .updatePlan _ _ => UpdatePlan
  | .registerEvent _ => Option Status
  | .checkIn _ => CheckInResponse
  | .forgetApplications | .forgetTracks | .reopen | .setNow _ | .advance _ => Unit

def action : (operation : Operation) → Action Engine operation.Answer
  | .createTeam id name => Engine.createTeam id name
  | .updateTeam team => Engine.updateTeam team
  | .createApplication new => Engine.createApplication new
  | .updateApplication application => Engine.updateApplication application
  | .deleteApplication id => Engine.deleteApplication id
  | .createChannel new => Engine.createChannel new
  | .updateChannel channel => Engine.updateChannel channel
  | .deleteChannel id => Engine.deleteChannel id
  | .createPackage new => Engine.createPackage new
  | .updatePackage package => Engine.updatePackage package
  | .deletePackage id => Engine.deletePackage id
  | .createGroup new => Engine.createGroup new
  | .updateGroup group => Engine.updateGroup group
  | .deleteGroup id => Engine.deleteGroup id
  | .addFloor channelId packageId reason => Engine.addFloor channelId packageId reason
  | .removeFloor channelId packageId => Engine.removeFloor channelId packageId
  | .findApplication external => Engine.findApplication external
  | .findGroup applicationId track architecture =>
      Engine.findGroup applicationId track architecture
  | .findInstance instanceId application => Engine.findInstance instanceId application
  | .registerInstance request => Engine.registerInstance request
  | .updatePlan request mode => Engine.updatePlan request mode
  | .nextPackage request => Engine.updatePackage? request
  | .registerEvent report => Engine.registerEvent report
  | .checkIn request => Engine.checkIn request
  | .forgetApplications => Engine.forgetApplications
  | .forgetTracks => Engine.forgetTracks
  | .reopen => modify Engine.reopen
  | .setNow now => modify fun engine => engine.setNow now
  | .advance seconds => modify fun engine => engine.advance seconds

/-- The engine after an operation, whether that succeeded or failed. -/
def run (engine : Engine) (operation : Operation) : Engine :=
  (operation.action.perform engine).2

section Runs

variable (engine : Engine) (request : Registration)

theorem createChannel_run (new : NewChannel) :
    (createChannel new).run engine = ((Engine.createChannel new).perform engine).2 :=
  rfl

theorem registerInstance_run :
    (registerInstance request).run engine = ((Engine.registerInstance request).perform engine).2 :=
  rfl

theorem updatePlan_run (mode : DeliveryMode) :
    (updatePlan request mode).run engine = ((Engine.updatePlan request mode).perform engine).2 :=
  rfl

theorem nextPackage_run :
    (nextPackage request).run engine = ((Engine.updatePackage? request).perform engine).2 :=
  rfl

theorem registerEvent_run (report : EventReport) :
    (registerEvent report).run engine = ((Engine.registerEvent report).perform engine).2 :=
  rfl

theorem checkIn_run (request : CheckInRequest) :
    (checkIn request).run engine = ((Engine.checkIn request).perform engine).2 :=
  rfl

end Runs

def reusesId (engine : Engine) : Operation → Bool
  | .createTeam id _ => engine.store.teams.contains (engine.idFor id)
  | .createApplication new => engine.store.applications.contains (engine.idFor new.id)
  | .createChannel new => engine.store.channels.contains (engine.idFor new.id)
  | .createPackage new => engine.store.packages.contains (engine.idFor new.id)
  | .createGroup new => engine.store.groups.contains (engine.idFor new.id)
  | _ => false

def isRequest : Operation → Bool
  | .registerInstance _ | .updatePlan _ _ | .nextPackage _ | .registerEvent _ | .checkIn _ => true
  | _ => false

def runAll (engine : Engine) (operations : List Operation) : Engine :=
  operations.foldl run engine

def answers (engine : Engine) :
    List Operation → List ((operation : Operation) × Except EngineError operation.Answer)
  | [] => []
  | operation :: rest =>
      ⟨operation, (operation.action.perform engine).1⟩ :: answers (operation.run engine) rest

end Operation

/-- The states that runs of allowed operations lead to from an empty store. -/
inductive ReachableBy (Allowed : Engine → Operation → Prop) : Engine → Prop where
  | start (engine : Engine) (empty : engine.store = Store.empty) : ReachableBy Allowed engine
  | step {engine : Engine} (operation : Operation) (reached : ReachableBy Allowed engine)
      (allowed : Allowed engine operation) : ReachableBy Allowed (operation.run engine)

abbrev Reachable : Engine → Prop := ReachableBy fun _ _ => True

/-- Every new entry gets an id of its own. -/
abbrev ReachableFresh : Engine → Prop :=
  ReachableBy fun engine operation => operation.reusesId engine = false

def AllowedRun (Allowed : Engine → Operation → Prop) : Engine → List Operation → Prop
  | _, [] => True
  | engine, operation :: rest =>
      Allowed engine operation ∧ AllowedRun Allowed (operation.run engine) rest

def AllowedRun.decide {Allowed : Engine → Operation → Prop}
    [∀ engine operation, Decidable (Allowed engine operation)] :
    (engine : Engine) → (operations : List Operation) →
      Decidable (AllowedRun Allowed engine operations)
  | _, [] => inferInstanceAs (Decidable True)
  | engine, operation :: rest =>
      have : Decidable (AllowedRun Allowed (operation.run engine) rest) :=
        AllowedRun.decide (operation.run engine) rest
      inferInstanceAs (Decidable (Allowed engine operation ∧
        AllowedRun Allowed (operation.run engine) rest))

instance {Allowed : Engine → Operation → Prop}
    [∀ engine operation, Decidable (Allowed engine operation)] (engine : Engine)
    (operations : List Operation) : Decidable (AllowedRun Allowed engine operations) :=
  AllowedRun.decide engine operations

-- What every allowed operation carries on, a run of them carries on.
theorem AllowedRun.carries {Allowed : Engine → Operation → Prop} {P : Engine → Prop}
    (kept : ∀ engine operation, Allowed engine operation → P engine → P (operation.run engine))
    {engine : Engine} {operations : List Operation}
    (allowed : AllowedRun Allowed engine operations) (holds : P engine) :
    P (Operation.runAll engine operations) := by
  induction operations generalizing engine with
  | nil => exact holds
  | cons operation rest ih => exact ih allowed.2 (kept engine operation allowed.1 holds)

theorem AllowedRun.of_forall {P : Operation → Prop} {operations : List Operation}
    (each : ∀ operation ∈ operations, P operation) (engine : Engine) :
    AllowedRun (fun _ operation => P operation) engine operations := by
  induction operations generalizing engine with
  | nil => trivial
  | cons operation rest ih =>
    obtain ⟨first, others⟩ := List.forall_mem_cons.mp each
    exact ⟨first, ih others (operation.run engine)⟩

theorem ReachableBy.runAll {Allowed : Engine → Operation → Prop} {engine : Engine}
    (reached : ReachableBy Allowed engine) {operations : List Operation}
    (allowed : AllowedRun Allowed engine operations) :
    ReachableBy Allowed (Operation.runAll engine operations) :=
  allowed.carries (fun _ operation permitted earlier => earlier.step operation permitted) reached

theorem Operation.reachable_runAll {engine : Engine} (reached : Reachable engine)
    (operations : List Operation) : Reachable (Operation.runAll engine operations) := by
  induction operations generalizing engine with
  | nil => exact reached
  | cons operation rest ih => exact ih (reached.step operation trivial)

-- One channel with a floor below its target, and a group that follows it.
def Operation.smallCatalog : List Operation :=
  [ .createTeam (some "ops") "Operations",
    .createApplication { id := some "agent", name := "Agent", teamId := "ops" },
    .createPackage
      { id := some "bridge", applicationId := "agent", version := "2.0.0", architecture := .amd64
        kind := .generic, url := "https://packages/bridge" },
    .createPackage
      { id := some "latest", applicationId := "agent", version := "3.0.0", architecture := .amd64
        kind := .generic, url := "https://packages/latest" },
    .createChannel
      { id := some "stable", name := "Stable", applicationId := "agent", architecture := .amd64
        packageId := some "latest" },
    .addFloor "stable" "bridge" "new file format",
    .createGroup
      { id := some "fleet", name := "Fleet", applicationId := "agent"
        channelId := some "stable" } ]

def Registration.firstContact : Registration :=
  { instanceId := "host", ip := "10.0.0.1", version := "1.0.0", applicationId := "agent"
    groupId := "fleet" }

namespace Store

structure Keyed (store : Store) : Prop where
  teams : store.teams.KeyedBy Team.id
  applications : store.applications.KeyedBy Application.id
  channels : store.channels.KeyedBy Channel.id
  packages : store.packages.KeyedBy Package.id
  floors : store.floors.KeyedBy Floor.key
  groups : store.groups.KeyedBy Group.id
  instances : store.instances.KeyedBy Instance.id
  installations : store.installations.KeyedBy Installation.key

theorem keyed_empty : Keyed Store.empty :=
  ⟨Table.keyedBy_empty, Table.keyedBy_empty, Table.keyedBy_empty, Table.keyedBy_empty,
    Table.keyedBy_empty, Table.keyedBy_empty, Table.keyedBy_empty, Table.keyedBy_empty⟩

variable {store after : Store}

theorem Keyed.mem_fleet (keyed : store.Keyed) {groupId : String} {row : Installation} :
    row ∈ store.fleet groupId ↔ store.installations.get? row.key = some row ∧
      row.groupId = groupId ∧ Identifier.isSynthetic row.instanceId = false := by
  simp only [fleet, installationsOf, Table.valuesWhere, List.mem_filter, beq_iff_eq,
    keyed.installations.mem_values, and_assoc, Bool.not_eq_true']

theorem SameCatalog.keyed_groups (same : SameCatalog store after)
    (keyed : store.groups.KeyedBy Group.id) : after.groups.KeyedBy Group.id := by
  intro id group found
  obtain ⟨earlier, stored, setup⟩ := same.group_before found
  rw [← (Group.same_of_setup setup).1]
  exact keyed id earlier stored

theorem Noted.keyed (noted : Noted store after) (keyed : store.Keyed) : after.Keyed where
  teams := noted.catalog.teams ▸ keyed.teams
  applications := noted.catalog.applications ▸ keyed.applications
  channels := noted.catalog.channels ▸ keyed.channels
  packages := noted.catalog.packages ▸ keyed.packages
  floors := noted.catalog.floors ▸ keyed.floors
  groups := noted.catalog.keyed_groups keyed.groups
  instances := noted.fleet.instances ▸ keyed.instances
  installations := noted.fleet.installations ▸ keyed.installations

theorem Keyed.rewriteRow (keyed : store.Keyed) {key : String} {row changed : Installation}
    (own : row.key = key) (kept : changed.key = row.key) (time : Nat) (errorCode : Option String) :
    (store.rewriteRow key row changed time errorCode).Keyed :=
  { keyed with installations := keyed.installations.insert (kept.trans own) }

theorem Keyed.sighted_key (keyed : store.Keyed) (sighting : Sighting) :
    (store.sighted sighting).key =
      Installation.keyOf sighting.instanceId sighting.applicationId := by
  unfold sighted
  cases found : store.installation? sighting.instanceId sighting.applicationId with
  | none => rfl
  | some row =>
    rw [← keyed.installations _ row found]
    exact row.seen_key sighting

theorem Keyed.recordCheckIn (keyed : store.Keyed) (machine : Option Instance)
    (sighting : Sighting) : (store.recordCheckIn machine sighting).2.Keyed := by
  cases machine with
  | none =>
    exact { keyed with
      installations := keyed.installations.insert (keyed.sighted_key sighting) }
  | some machine =>
    exact
      { keyed with
        instances := keyed.instances.insert rfl
        installations := keyed.installations.insert (keyed.sighted_key sighting) }

end Store

namespace CheckIn

theorem keyed_register (now : Nat) (request : Registration) (applicationId groupId : String) :
    Keeps (Carries Keyed) (register now request applicationId groupId) := by
  intro store keyed
  rcases register_cases now request applicationId groupId store with
    ⟨_, -, refused⟩ | ⟨_, written, -, -, accepted⟩
  · rwa [refused]
  · rw [accepted]
    exact keyed.recordCheckIn written _

theorem keyed_applyEvent (now : Nat) (applicationId : String) (group : Group) (instanceId : String)
    (event : ProgressEvent) :
    Keeps (Carries Keyed) (applyEvent now applicationId group instanceId event) := by
  intro store keyed
  rcases applyEvent_cases now applicationId group instanceId event store with
    unchanged | ⟨row, next, errorCode, found, -, -, -, -, noted, -⟩
  · rwa [unchanged]
  · exact noted.keyed
      (keyed.rewriteRow (keyed.installations _ row found) (row.moved_key next) now errorCode)

theorem Decision.keyed {config : EngineConfig} {now : Nat} {group : Group} {row : Installation}
    {mode : DeliveryMode} {store after : Store} {result : Except EngineError UpdatePlan}
    (decision : Decision config now group row mode store result after) (keyed : store.Keyed) :
    after.Keyed := by
  cases decision with
  | refused calm => exact calm.noted.keyed keyed
  | redelivered => exact keyed
  | closed _ _ _ noted => exact noted.keyed (keyed.rewriteRow rfl (row.moved_key _) now none)
  | held _ _ _ calm => exact calm.noted.keyed (keyed.rewriteRow rfl (row.moved_key _) now none)
  | granted _ _ _ _ _ noted =>
    exact noted.keyed (keyed.rewriteRow rfl (row.granted_key _) now none)

theorem keyed_decide (config : EngineConfig) (now : Nat) (applicationId : String) (group : Group)
    (instanceId : String) (mode : DeliveryMode) :
    Keeps (Carries Keyed) (decide config now applicationId group instanceId mode) := by
  intro store keyed
  cases found : store.installation? instanceId applicationId with
  | none =>
    unfold decide
    rw [perform_bind_ok (perform_get store), found]
    exact keyed
  | some row =>
    exact (decide_cases config now applicationId group instanceId mode found
      (keyed.installations _ row found)).keyed keyed

end CheckIn

namespace Engine

theorem keyed_keptByStages : KeptByStages (Carries Keyed) :=
  ⟨CheckIn.keyed_register, CheckIn.keyed_applyEvent, CheckIn.keyed_decide⟩

end Engine

theorem Engine.Admitted.keyed {engine after : Engine} {request : Registration}
    {applicationId : String} {group : Group}
    (admitted : Engine.Admitted engine request applicationId group after)
    (keyed : engine.store.Keyed) : after.store.Keyed := by
  obtain ⟨directory, machine, rfl⟩ := admitted.recorded
  exact keyed.recordCheckIn machine _

theorem UpdateRequest.Arrived.keyed {request : UpdateRequest} {engine decided : Engine}
    {applicationId : String} {group : Group} {row : Installation}
    (arrived : request.Arrived engine applicationId group row decided)
    (keyed : engine.store.Keyed) : decided.store.Keyed := by
  have kept := (request.keeps_arrival Engine.keyed_keptByStages engine).store keyed
  rwa [arrived.arrival] at kept

namespace Operation

section Actions

variable {Q : {α : Type} → Action Engine α → Prop}

theorem action_serves (parts : Engine.HoldsOfParts Q) {operation : Operation}
    (serves : operation.isRequest = true) : Q operation.action := by
  cases operation with
  | registerInstance request => exact parts.registerInstance request
  | updatePlan request mode => exact parts.updatePlan request mode
  | nextPackage request => exact parts.updatePackage request
  | registerEvent report => exact parts.registerEvent report
  | checkIn request => exact parts.checkIn request
  | _ => simp [isRequest] at serves

def looksUp : Operation → Bool
  | .findApplication _ | .findGroup _ _ _ | .findInstance _ _ => true
  | _ => false

theorem action_looksUp (lookups : Engine.HoldsOfLookups Q) {operation : Operation}
    (looks : operation.looksUp = true) : Q operation.action := by
  cases operation with
  | findApplication external => exact lookups.application external
  | findGroup applicationId track architecture =>
    exact lookups.group applicationId track architecture
  | findInstance instanceId application => exact lookups.findInstance instanceId application
  | _ => simp [looksUp] at looks

-- The id that is given to a new entry, if an entry is created at all.
def givenId? : Operation → Option (Option String)
  | .createTeam id _ => some id
  | .createApplication new => some new.id
  | .createChannel new => some new.id
  | .createPackage new => some new.id
  | .createGroup new => some new.id
  | _ => none

theorem action_edits (edits : Engine.HoldsOfEdits Q) {operation : Operation}
    (named : ∀ given ∈ operation.givenId?, Q (Engine.idOrNew given))
    (serves : operation.isRequest = false) (looks : operation.looksUp = false) :
    Q operation.action := by
  cases operation with
  | createTeam id name => exact edits.createTeam (named id rfl) name
  | updateTeam team => exact edits.updateTeam team
  | createApplication new => exact edits.createApplication (named new.id rfl)
  | updateApplication application => exact edits.updateApplication application
  | deleteApplication id => exact edits.deleteApplication id
  | createChannel new => exact edits.createChannel (named new.id rfl)
  | updateChannel channel => exact edits.updateChannel channel
  | deleteChannel id => exact edits.deleteChannel id
  | createPackage new => exact edits.createPackage (named new.id rfl)
  | updatePackage package => exact edits.updatePackage package
  | deletePackage id => exact edits.deletePackage id
  | createGroup new => exact edits.createGroup (named new.id rfl)
  | updateGroup group => exact edits.updateGroup group
  | deleteGroup id => exact edits.deleteGroup id
  | addFloor channelId packageId reason => exact edits.addFloor channelId packageId reason
  | removeFloor channelId packageId => exact edits.removeFloor channelId packageId
  | forgetApplications => exact edits.forgetApplications
  | forgetTracks => exact edits.forgetTracks
  | reopen => exact edits.reopen
  | setNow now => exact edits.setNow now
  | advance seconds => exact edits.advance seconds
  | _ => simp_all [isRequest, looksUp]

theorem action_administers (writes : Engine.HoldsOfWrites Q) {operation : Operation}
    (serves : operation.isRequest = false) (looks : operation.looksUp = false) :
    Q operation.action :=
  action_edits writes.toHoldsOfEdits (fun given _ => writes.idOrNew given) serves looks

theorem action_holds (parts : Engine.HoldsOfParts Q) (edits : Engine.HoldsOfEdits Q)
    {operation : Operation} (named : ∀ given ∈ operation.givenId?, Q (Engine.idOrNew given)) :
    Q operation.action := by
  cases serves : operation.isRequest with
  | true => exact action_serves parts serves
  | false =>
    cases looks : operation.looksUp with
    | true => exact action_looksUp parts.toHoldsOfLookups looks
    | false => exact action_edits edits named serves looks

end Actions

theorem run_serves {E : Engine → Engine → Prop} (kept : Engine.KeptByParts E)
    {operation : Operation} (serves : operation.isRequest = true) (engine : Engine) :
    E engine (operation.run engine) := by
  rw [run]
  exact action_serves kept serves engine

theorem run_looksUp {E : Engine → Engine → Prop} (kept : Engine.KeptByLookups E)
    {operation : Operation} (looks : operation.looksUp = true) (engine : Engine) :
    E engine (operation.run engine) := by
  rw [run]
  exact action_looksUp kept looks engine

end Operation

namespace Engine

def SameConfig (before after : Engine) : Prop := after.config = before.config

instance : IsPreorder Engine SameConfig where
  refl _ := rfl
  trans _ _ _ head tail := tail.trans head

theorem sameConfig_writes :
    HoldsOfWrites (fun action : Action Engine _ => Keeps SameConfig action) where
  toComposesReading := keeps_reading
  write _ _ := rfl
  onStore _ _ := rfl
  idOrNew given _ := by cases given <;> rfl
  forgetApplications _ := rfl
  forgetTracks _ := rfl
  reopen _ := rfl
  setNow _ _ := rfl
  advance _ _ := rfl

end Engine

theorem Operation.run_config (operation : Operation) (engine : Engine) :
    (operation.run engine).config = engine.config := by
  cases serves : operation.isRequest with
  | true => exact (run_serves Engine.sameCatalog_keptByStages.parts serves engine).config
  | false =>
    cases looks : operation.looksUp with
    | true =>
      obtain ⟨directory, same⟩ := run_looksUp Engine.sameData_keptByLookups looks engine
      rw [same]
    | false =>
      rw [run]
      exact action_administers Engine.sameConfig_writes serves looks engine

end FleetRollout

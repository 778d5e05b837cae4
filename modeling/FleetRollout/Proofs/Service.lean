import FleetRollout.Proofs.Addressing
import FleetRollout.Proofs.Faults
import FleetRollout.Proofs.Origin
import FleetRollout.Proofs.Spelling

set_option autoImplicit false

/-!
Whom a request is served for. Whatever a request does, it does once its application and its group
are found, and what it is refused with until then is no denial. An application is found because it
is stored, or because it was asked for by a UUID; a UUID is taken as it is, and the groups of an
application stay when it is deleted, so such an application is served on.
-/

namespace FleetRollout

open Store FleetRollout.Action Identifier

namespace Engine

def enrol (request : Registration) (found : String × Group) : Action Engine InstanceRecord := do
  onStore (CheckIn.register (← get).now request found.1 found.2.id)

def plan (request : Registration) (mode : DeliveryMode) (found : String × Group) :
    Action Engine UpdatePlan := do
  let engine ← get
  let _ ← onStore (CheckIn.register engine.now request found.1 found.2.id)
  onStore (CheckIn.decide engine.config engine.now found.1 found.2 request.instanceId mode)

def nextOf (request : Registration) (found : String × Group) : Action Engine Package := do
  let plan ← plan request .single found
  Action.require .emptyPlan plan.nextPackage?

def progress (report : EventReport) (found : String × Group) : Action Engine (Option Status) := do
  onStore (CheckIn.applyEvent (← get).now found.1 found.2 report.instanceId report.event)

end Engine

namespace Operation

def guarded : Operation → Action Engine Unit
  | .registerEvent report =>
      Action.check (CheckIn.isInstanceId report.instanceId) (.invalidInstanceId report.instanceId)
  | _ => pure ()

-- What a request does for the application and the group that were found.
def serve : (operation : Operation) → String × Group → Action Engine operation.Answer
  | .registerInstance request => Engine.enrol request
  | .updatePlan request mode => Engine.plan request mode
  | .nextPackage request => Engine.nextOf request
  | .registerEvent report => Engine.progress report
  | .checkIn request => fun found => Engine.attend request found.1 found.2
  | _ => fun _ => throw .invalidApplicationOrGroup

theorem action_eq_serve {operation : Operation} (serves : operation.isRequest = true) :
    operation.action =
      operation.guarded >>= fun _ => operation.locator >>= operation.serve := by
  cases operation with
  | registerEvent report => rfl
  | registerInstance request =>
    have free : (registerInstance request).guarded = pure () := rfl
    rw [free, pure_bind]
    rfl
  | updatePlan request mode =>
    have free : (updatePlan request mode).guarded = pure () := rfl
    rw [free, pure_bind]
    rfl
  | nextPackage request =>
    have free : (nextPackage request).guarded = pure () := rfl
    rw [free, pure_bind]
    exact bind_assoc (Engine.resolveGroup request.applicationId request.groupId)
      (Engine.plan request .single) _
  | checkIn request =>
    have free : (checkIn request).guarded = pure () := rfl
    rw [free, pure_bind]
    exact Engine.checkIn_attend request
  | _ => simp [isRequest] at serves

theorem guarded_cases (operation : Operation) (engine : Engine) :
    operation.guarded.perform engine = (.ok (), engine) ∨
      ∃ error, operation.guarded.perform engine = (.error error, engine) ∧
        error.denial? = none := by
  cases operation with
  | registerEvent report =>
    rw [guarded, Action.check]
    split
    · exact .inl rfl
    · exact .inr ⟨_, rfl, rfl⟩
  | _ => exact .inl rfl

theorem sameData_locator (operation : Operation) : Keeps Engine.SameData operation.locator := by
  have lookups := Engine.sameData_keptByLookups
  cases operation with
  | registerInstance | updatePlan | nextPackage | registerEvent => exact lookups.resolveGroup _ _
  | checkIn request => exact lookups.locate request
  | _ => exact keeps_throw _

theorem failsOnly_locator (operation : Operation) (engine : Engine) :
    FailsOnly (fun error => error.denial? = none) operation.locator engine := by
  cases operation with
  | registerInstance | updatePlan | nextPackage | registerEvent =>
    exact Engine.failsOnly_resolveGroup _ _ rfl
  | checkIn request =>
    intro error failed
    have fault := Engine.failsOnly_locate request error failed
    simp only [CheckInRequest.faults, List.mem_cons, List.not_mem_nil, or_false] at fault
    rcases fault with rfl | rfl | rfl | rfl | rfl <;> rfl
  | _ => exact failsOnly_throw rfl

theorem request_cases {operation : Operation} (serves : operation.isRequest = true)
    (engine : Engine) :
    (∃ error, (operation.action.perform engine).1 = .error error ∧ error.denial? = none ∧
      Engine.SameData engine (operation.run engine)) ∨
    ∃ found directory,
      operation.locator.perform engine = (.ok found, { engine with directory }) ∧
        operation.action.perform engine =
          (operation.serve found).perform { engine with directory } := by
  rw [run, action_eq_serve serves]
  rcases operation.guarded_cases engine with admitted | ⟨error, refused, undenied⟩
  · rw [perform_bind_ok admitted]
    have same := operation.sameData_locator engine
    rcases located : operation.locator.perform engine with ⟨error | found, between⟩
    · rw [located] at same
      have undenied := operation.failsOnly_locator engine error (by rw [located])
      rw [perform_bind_error located]
      exact .inl ⟨error, rfl, undenied, same⟩
    · rw [located] at same
      obtain ⟨directory, rfl⟩ := same
      exact .inr ⟨found, directory, rfl, perform_bind_ok located _⟩
  · rw [perform_bind_error refused]
    exact .inl ⟨error, rfl, undenied, refl_of Engine.SameData engine⟩

def applicationName? : Operation → Option String
  | .registerInstance request | .updatePlan request _ | .nextPackage request =>
      some request.applicationId
  | .registerEvent report => some report.applicationId
  | .checkIn request => some request.applicationId
  | _ => none

theorem located_names {operation : Operation} {engine : Engine} (keyed : engine.store.Keyed)
    (finds : engine.FindsApplications) {found : String × Group}
    (located : (operation.locator.perform engine).1 = .ok found) :
    ∃ name ∈ operation.applicationName?, engine.store.Names name found.1 := by
  cases operation with
  | registerInstance | updatePlan | nextPackage | registerEvent =>
    exact ⟨_, rfl, ((Engine.resolveGroup_answers_iff keyed finds).mp located).1⟩
  | checkIn request =>
    refine ⟨_, rfl, ?_⟩
    obtain ⟨_, _, architecture, located⟩ := bind_ok.mp (perform_of_answer located)
    obtain ⟨-, rfl⟩ := require_ok.mp architecture
    obtain ⟨applicationId, _, resolved, located⟩ := bind_ok.mp located
    have named := (Engine.resolveApplication_answers_iff keyed finds _).mp (by rw [resolved])
    obtain ⟨_, _, _, located⟩ := bind_ok.mp located
    obtain ⟨_, _, _, located⟩ := bind_ok.mp located
    obtain ⟨_, _, _, located⟩ := bind_ok.mp located
    rw [perform_pure, Prod.mk.injEq, Except.ok.injEq] at located
    rw [← located.1]
    exact named
  | _ => cases located

/-- The request is carried out or denied; anything else is an error of the request. -/
def isServed (engine : Engine) (operation : Operation) : Bool :=
  match (operation.action.perform engine).1 with
  | .ok _ => true
  | .error error => error.denial?.isSome

theorem located_of_served {operation : Operation} {engine : Engine}
    (serves : operation.isRequest = true)
    (served : operation.isServed engine = true ∨ (operation.run engine).store ≠ engine.store) :
    ∃ found, (operation.locator.perform engine).1 = .ok found := by
  rcases request_cases serves engine with ⟨error, refused, undenied, directory, same⟩ |
    ⟨found, directory, located, -⟩
  · rcases served with served | changed
    · simp [isServed, refused, undenied] at served
    · exact absurd (by rw [same]) changed
  · exact ⟨found, by rw [located]⟩

abbrev NotCreating (kind : Kind) (id : String) (engine : Engine) (operation : Operation) : Prop :=
  operation.creates engine ≠ some (kind, id)

theorem runAll_absent {engine : Engine} (keyed : engine.store.Keyed) {kind : Kind} {id : String}
    {operations : List Operation} (uncreated : AllowedRun (NotCreating kind id) engine operations)
    (absent : engine.store.origin? kind id = none) :
    (runAll engine operations).store.origin? kind id = none := by
  induction operations generalizing engine with
  | nil => exact absent
  | cons operation rest ih =>
    obtain ⟨uncreated, later⟩ := uncreated
    refine ih (operation.run_keyed keyed) later ?_
    rcases operation.run_origin keyed kind id with created | gone | kept
    · exact absurd created uncreated
    · exact gone
    · exact kept.trans absent

theorem deleteApplication_absent (id : String) (engine : Engine) :
    ((deleteApplication id).run engine).store.origin? .application id = none := by
  have store : ((deleteApplication id).run engine).store = engine.store.deleteApplication id := rfl
  rw [store, origin?, Store.deleteApplication, Table.get_erase, if_pos rfl, Option.map_none]

end Operation

/--
A request that is served, or writes anything, is made for an application that is stored or that was
asked for by its UUID. So an application whose id is no UUID is not served from its deletion on,
until one is created under that id.
-/
theorem served_applications {start : Engine} (keyed : start.store.Keyed)
    (cold : start.directory = {}) (operations : List Operation) :
    let engine := Operation.runAll start operations
    (∀ operation : Operation, operation.isRequest = true →
      operation.isServed engine = true ∨ (operation.run engine).store ≠ engine.store →
        ∃ applicationId group,
          (operation.locator.perform engine).1 = .ok (applicationId, group) ∧
          ((∃ application, engine.store.applications.get? applicationId = some application) ∨
            ∃ name ∈ operation.applicationName?, canonicalUuid name = some applicationId)) ∧
    ∀ id, canonicalUuid id ≠ some id →
      ∀ later, AllowedRun (Operation.NotCreating .application id)
          ((Operation.deleteApplication id).run engine) later →
        ∀ (operation : Operation) (group : Group),
          (operation.locator.perform
            (Operation.runAll ((Operation.deleteApplication id).run engine) later)).1 ≠
              .ok (id, group) := by
  intro engine
  have keyedAfter : engine.store.Keyed := Operation.runAll_keyed operations keyed
  have finds : engine.FindsApplications := Operation.runAll_findsApplications operations
    (Engine.finds_of_cold keyed cold).applications
  refine ⟨fun operation serves served => ?_, fun id unspelled later uncreated operation group
    located => ?_⟩
  · obtain ⟨⟨applicationId, group⟩, located⟩ := Operation.located_of_served serves served
    obtain ⟨name, written, names⟩ := Operation.located_names keyedAfter finds located
    refine ⟨applicationId, group, located, ?_⟩
    rcases names.stored_or_canonical with uuid | stored
    · exact .inr ⟨name, written, uuid⟩
    · exact .inl stored
  · have keyedNext := (Operation.deleteApplication id).run_keyed keyedAfter
    have absent := Operation.runAll_absent keyedNext uncreated
      (Operation.deleteApplication_absent id engine)
    have findsLater := Operation.runAll_findsApplications later
      ((Operation.deleteApplication id).run_findsApplications finds)
    obtain ⟨name, -, names⟩ := Operation.located_names
      (Operation.runAll_keyed later keyedNext) findsLater located
    rcases names.stored_or_canonical with uuid | ⟨application, stored⟩
    · exact unspelled (canonicalUuid_canonical uuid)
    · rw [origin?, stored] at absent
      cases absent

theorem served_applications_agent :
    let engine := Operation.runAll {} Operation.smallCatalog
    let request : Operation := .registerInstance .firstContact
    Store.empty.Keyed ∧ request.isServed engine = true ∧ canonicalUuid "agent" ≠ some "agent" ∧
      ∀ group, (request.locator.perform ((Operation.deleteApplication "agent").run engine)).1 ≠
        .ok ("agent", group) := by
  intro engine request
  have unspelled : canonicalUuid "agent" ≠ some "agent" := by decide +kernel
  exact ⟨keyed_empty, by decide +kernel, unspelled,
    (served_applications keyed_empty rfl Operation.smallCatalog).2 "agent" unspelled [] trivial
      request⟩

-- An application with a UUID for its id is deleted while a group of it is still there.
def Operation.deletedByUuid : List Operation :=
  let id := "e96281a6-d1af-4bde-9a0a-97b76e56dc57"
  [ .createTeam (some "ops") "Operations",
    .createApplication
      { id := some id, productId := some "agent", name := "Agent", teamId := "ops" },
    .createPackage
      { id := some "latest", applicationId := id, version := "3.0.0", architecture := .amd64
        kind := .generic, url := "https://packages/latest" },
    .createChannel
      { id := some "stable", name := "Stable", applicationId := id, architecture := .amd64
        packageId := some "latest" },
    .createGroup
      { id := some "fleet", name := "Fleet", applicationId := id, channelId := some "stable" },
    .deleteApplication id ]

-- By its UUID the application is served as before, by its product id it is not found.
theorem served_though_deleted :
    let engine := Operation.runAll {} Operation.deletedByUuid
    let id := "e96281a6-d1af-4bde-9a0a-97b76e56dc57"
    let request (applicationId : String) : Operation :=
      .updatePlan { Registration.firstContact with applicationId } .single
    engine.store.applications.get? id = none ∧
      (request id).isServed engine = true ∧
      (((request id).run engine).store.installation? "host" id).map (·.status) =
        some .updateGranted ∧
      (request "agent").isServed engine = false := by
  decide +kernel

end FleetRollout

import FleetRollout.Proofs.Idempotence
import FleetRollout.Proofs.Reports

set_option autoImplicit false

/-!
A check-in against its steps. With its events a check-in does what a registration does, then one
report after the other, then the decision about an update: the group it found at first serves for
all events, since no event sees of its group what another one changes.
-/

namespace FleetRollout

open Store FleetRollout.Action

-- What a check-in says of an event that is answered so when it is reported alone.
def EventAck.of (event : ProgressEvent) : Except EngineError (Option Status) → EventAck
  | .ok status => { kind := event.kind, result := event.result, status }
  | .error error =>
      { kind := event.kind, result := event.result, rejected := some error.message }

-- What a check-in says of a decision; nothing where it fails with it.
def UpdateOutcome.of? (mode : DeliveryMode) : Except EngineError UpdatePlan → Option UpdateOutcome
  | .ok plan => some (.update (plan.deliverable mode) plan.hasMoreFloors)
  | .error error => error.denial?.map .noUpdate

def Reporter.acks (reporter : Reporter) : Engine → List ProgressEvent → List EventAck
  | _, [] => []
  | engine, event :: rest =>
      .of event ((Engine.registerEvent (reporter.report event)).perform engine).1 ::
        reporter.acks ((Operation.registerEvent (reporter.report event)).run engine) rest

def CheckInRequest.reporter (request : CheckInRequest) (applicationId : String) (group : Group) :
    Reporter :=
  { instanceId := request.instanceId, applicationId, groupId := group.id }

def CheckInRequest.registered (request : CheckInRequest) (engine : Engine) (applicationId : String)
    (group : Group) : Engine :=
  (Operation.registerInstance (Engine.registrationOf request applicationId group)).run engine

def CheckInRequest.reported (request : CheckInRequest) (engine : Engine) (applicationId : String)
    (group : Group) : Store :=
  (request.reporter applicationId group).storeAfter
    (request.registered engine applicationId group) request.events

/-- A check-in was answered, and left the store, as its steps one by one are and do. -/
structure CheckInRequest.Stepwise (request : CheckInRequest) (engine : Engine)
    (applicationId : String) (group : Group) (response : CheckInResponse) (after : Engine) :
    Prop where
  events : response.events = (request.reporter applicationId group).acks
    (request.registered engine applicationId group) request.events
  unasked : request.updateCheck = false → response.update = .notRequested ∧
    after.store = request.reported engine applicationId group
  asked : request.updateCheck = true →
    ∃ current, (request.reported engine applicationId group).groups.get? group.id = some current ∧
      let decided := (CheckIn.decide engine.config engine.now applicationId current
        request.instanceId (Engine.modeOf request)).perform
          (request.reported engine applicationId group)
      UpdateOutcome.of? (Engine.modeOf request) decided.1 = some response.update ∧
        after.store = decided.2

namespace Engine

variable {engine after : Engine} {applicationId instanceId : String} {group : Group}

theorem acknowledge_ok {event : ProgressEvent} {ack : EventAck}
    (acknowledged : (acknowledge applicationId group instanceId event).perform engine =
      (.ok ack, after)) :
    ack = .of event ((CheckIn.applyEvent engine.now applicationId group instanceId event).perform
        engine.store).1 ∧
      after = { engine with
        store := engine.store.reported engine.now applicationId group instanceId event } := by
  have state := acknowledge_state applicationId group instanceId event engine
  rw [acknowledged] at state
  refine ⟨?_, state⟩
  unfold acknowledge at acknowledged
  simp only [perform_tryCatch, perform_bind, perform_get, perform_onStore, perform_pure]
    at acknowledged
  rcases applied : (CheckIn.applyEvent engine.now applicationId group instanceId event).perform
    engine.store with ⟨error | status, store⟩
  · rw [applied] at acknowledged
    cases error
    case store => simp at acknowledged
    all_goals
      simp only [perform_pure, Prod.mk.injEq, Except.ok.injEq] at acknowledged
      exact acknowledged.1.symm
  · simp only [applied, Prod.mk.injEq, Except.ok.injEq] at acknowledged
    exact acknowledged.1.symm

theorem updateOutcome_ok {mode : DeliveryMode} {outcome : UpdateOutcome}
    (answered : (updateOutcome applicationId group instanceId mode).perform engine =
      (.ok outcome, after)) :
    let decided := (CheckIn.decide engine.config engine.now applicationId group instanceId
      mode).perform engine.store
    UpdateOutcome.of? mode decided.1 = some outcome ∧
      after = { engine with store := decided.2 } := by
  intro decided
  have state := updateOutcome_state applicationId group instanceId mode engine
  rw [answered] at state
  refine ⟨?_, state⟩
  unfold updateOutcome at answered
  simp only [perform_tryCatch, perform_bind, perform_get, perform_onStore, perform_pure] at answered
  rcases result : decided with ⟨error | plan, store⟩
  · cases denied : error.denial? with
    | none => simp [decided, result, denied] at answered
    | some denial =>
      simp only [decided] at result
      simp only [result, denied, perform_pure, Prod.mk.injEq, Except.ok.injEq] at answered
      simp [UpdateOutcome.of?, denied, answered.1]
  · simp only [decided] at result
    simp only [result, Prod.mk.injEq, Except.ok.injEq] at answered
    simp [UpdateOutcome.of?, answered.1]

theorem enter_writes {locate : Action Engine (String × Group)}
    {request : String → Group → Registration} {directory : Directory}
    (located : locate.perform engine = (.ok (applicationId, group), { engine with directory }))
    {found : String × Group}
    (entered : (enter locate request).perform engine = (.ok found, after)) :
    found = (applicationId, group) ∧
      ∃ record store, (CheckIn.register engine.now (request applicationId group) applicationId
          group.id).perform engine.store = (.ok record, store) ∧
        after = { engine with directory, store } := by
  rw [enter, perform_bind_ok located] at entered
  obtain ⟨_, _, read, entered⟩ := bind_ok.mp entered
  cases read
  obtain ⟨record, _, recorded, entered⟩ := bind_ok.mp entered
  cases entered
  obtain ⟨store, registered, rfl⟩ := onStore_ok.mp recorded
  exact ⟨rfl, record, store, registered, rfl⟩

theorem perform_registerInstance (request : Registration) {directory : Directory}
    (located : (resolveGroup request.applicationId request.groupId).perform engine =
      (.ok (applicationId, group), { engine with directory })) {record : InstanceRecord}
    {store : Store}
    (registered : (CheckIn.register engine.now request applicationId group.id).perform
      engine.store = (.ok record, store)) :
    (registerInstance request).perform engine =
      (.ok record, { engine with directory, store }) := by
  rw [registerInstance, perform_bind_ok located, perform_bind_ok (perform_get _), perform_onStore,
    registered]

theorem conclude_ok {request : CheckInRequest} {events : List EventAck}
    {response : CheckInResponse}
    (concluded : (conclude request applicationId group events).perform engine =
      (.ok response, after)) :
    response.events = events ∧
      (request.updateCheck = false → response.update = .notRequested ∧ after = engine) ∧
      (request.updateCheck = true → ∃ current, engine.store.groups.get? group.id = some current ∧
        (updateOutcome applicationId current request.instanceId (modeOf request)).perform engine =
          (.ok response.update, after)) := by
  unfold conclude at concluded
  cases asked : request.updateCheck with
  | false =>
    simp only [asked, Bool.false_eq_true, if_false, pure_bind] at concluded
    rw [perform_bind_ok (perform_readStore engine)] at concluded
    obtain ⟨_, _, found, concluded⟩ := bind_ok.mp concluded
    rw [(require_ok.mp found).2] at concluded
    cases concluded
    exact ⟨rfl, fun _ => ⟨rfl, rfl⟩, by simp⟩
  | true =>
    simp only [asked, if_true] at concluded
    obtain ⟨current, _, stored, concluded⟩ := bind_ok.mp concluded
    obtain ⟨stored, unchanged⟩ := requireGroup_ok.mp stored
    rw [unchanged] at concluded
    obtain ⟨update, decided, outcome, concluded⟩ := bind_ok.mp concluded
    rw [perform_bind_ok (perform_readStore decided)] at concluded
    obtain ⟨_, _, found, concluded⟩ := bind_ok.mp concluded
    rw [(require_ok.mp found).2] at concluded
    cases concluded
    exact ⟨rfl, by simp, fun _ => ⟨current, stored, outcome⟩⟩

end Engine

theorem Reporter.Finds.acknowledged {reporter : Reporter} {start single after : Engine}
    {applicationId : String} {group : Group} {events : List ProgressEvent} {acks : List EventAck}
    (finds : reporter.Finds start applicationId group) (same : Engine.SameNames start single)
    {directory : Directory}
    (applied : (events.mapM (Engine.acknowledge applicationId group reporter.instanceId)).perform
      { single with directory } = (.ok acks, after)) :
    acks = reporter.acks single events ∧
      after = { single with directory, store := reporter.storeAfter single events } := by
  -- Each single report looks the group up anew, so the directories differ along the way.
  induction events generalizing single acks with
  | nil =>
    cases applied
    exact ⟨rfl, rfl⟩
  | cons event rest ih =>
    rw [List.mapM_cons] at applied
    obtain ⟨ack, between, first, applied⟩ := bind_ok.mp applied
    obtain ⟨others, _, further, applied⟩ := bind_ok.mp applied
    cases applied
    obtain ⟨rfl, rfl⟩ := Engine.acknowledge_ok first
    obtain ⟨_, reported, step, ⟨remembered, rfl⟩, onward⟩ := finds.step same event
    obtain ⟨rfl, rfl⟩ := ih onward further
    rw [Reporter.acks, storeAfter_cons, reported, step]
    exact ⟨rfl, rfl⟩

namespace Engine

theorem registered_finds {engine : Engine} {request : CheckInRequest} {applicationId : String}
    {group : Group} {store : Store} {record : InstanceRecord} {directory : Directory}
    (keyed : engine.store.Keyed)
    (again : (resolveGroup applicationId group.id).perform engine =
      (.ok (applicationId, group), { engine with directory }))
    (registered : (CheckIn.register engine.now (registrationOf request applicationId group)
      applicationId group.id).perform engine.store = (.ok record, store)) :
    (request.reporter applicationId group).Finds engine applicationId group ∧
      SameNames engine { engine with directory, store } ∧
      request.registered engine applicationId group = { engine with directory, store } := by
  have performed :=
    perform_registerInstance (registrationOf request applicationId group) again registered
  refine ⟨⟨(CheckIn.register_valid registered).named, ?_⟩, ?_, ?_⟩
  · have answered := congrArg Prod.fst again
    exact answered
  · have names := (sameNames_refl keyed).of_parts fun parts =>
      parts.registerInstance (registrationOf request applicationId group)
    rwa [performed] at names
  · rw [CheckInRequest.registered, Operation.registerInstance_run, performed]

end Engine

/--
A check-in equals its steps. Where the ids of its application and its group lead to that group too,
an accepted check-in says of its events what their reports are answered one by one after its
registration, leaves the store they leave, and says of an update what the decision for the group,
as it is then stored, says on that store.
-/
theorem checkIn_stepwise {engine after : Engine} (reached : Reachable engine)
    {request : CheckInRequest} {response : CheckInResponse} {applicationId : String}
    {group : Group}
    (accepted : (Engine.checkIn request).perform engine = (.ok response, after))
    (located : ((Engine.locate request).perform engine).1 = .ok (applicationId, group))
    (again : ((Engine.resolveGroup applicationId group.id).perform engine).1 =
      .ok (applicationId, group)) :
    request.Stepwise engine applicationId group response after := by
  obtain ⟨directory, looked⟩ := Engine.sameData_keptByLookups.locate request engine
  obtain ⟨other, lookedAgain⟩ :=
    Engine.sameData_keptByLookups.resolveGroup applicationId group.id engine
  rw [Engine.checkIn_eq] at accepted
  obtain ⟨_, entered, letIn, accepted⟩ := bind_ok.mp accepted
  obtain ⟨rfl, record, store, recorded, rfl⟩ :=
    Engine.enter_writes (Prod.ext located looked) letIn
  obtain ⟨acks, applied, acknowledged, concluded⟩ := bind_ok.mp accepted
  obtain ⟨finds, same, stepped⟩ :=
    Engine.registered_finds reached.keyed (Prod.ext again lookedAgain) recorded
  obtain ⟨rfl, rfl⟩ := finds.acknowledged same acknowledged
  obtain ⟨events, unasked, asked⟩ := Engine.conclude_ok concluded
  have reports : (request.reporter applicationId group).storeAfter
      { engine with directory := other, store } request.events =
        request.reported engine applicationId group := by
    rw [CheckInRequest.reported, stepped]
  rw [← stepped] at events
  rw [reports] at unasked asked
  refine ⟨events, fun none => ?_, fun asks => ?_⟩
  · obtain ⟨update, rfl⟩ := unasked none
    exact ⟨update, rfl⟩
  · obtain ⟨current, stored, outcome⟩ := asked asks
    obtain ⟨told, state⟩ := Engine.updateOutcome_ok outcome
    exact ⟨current, stored, told, congrArg Engine.store state⟩

-- One event leads on, one means nothing, and one completes what was granted.
def CheckInRequest.withReports : CheckInRequest :=
  { instanceId := "host", ip := "10.0.0.1", version := "1.0.0", applicationId := "agent"
    track := "fleet", architecture := "amd64"
    events := [⟨13, 1, none, none⟩, ⟨7, 1, none, none⟩, ⟨3, 2, none, none⟩] }

theorem checkIn_stepwise_withReports :
    let engine := Operation.runAll {}
      (Operation.smallCatalog ++ [.updatePlan .firstContact .single])
    ∃ response group after,
      (Engine.checkIn .withReports).perform engine = (.ok response, after) ∧
      group.id = "fleet" ∧
      CheckInRequest.withReports.Stepwise engine "agent" group response after ∧
      response.events.map (·.status) = [some .downloading, none, some .complete] := by
  intro engine
  have reached : Reachable engine := (ReachableBy.start {} rfl).runAll (by decide +kernel)
  have statuses : (((Engine.checkIn .withReports).perform engine).1.toOption.map fun response =>
      response.events.map (·.status)) = some [some .downloading, none, some .complete] := by
    decide +kernel
  -- By the track and by the id, the group is found that is stored as the fleet.
  obtain ⟨group, located, own⟩ : ∃ group, ((Operation.checkIn .withReports).locator.perform
      engine).1 = .ok ("agent", group) ∧ group.id = "fleet" :=
    UpdateRequest.located_of_ids (by decide +kernel)
  obtain ⟨other, again, alsoOwn⟩ : ∃ other,
      ((Operation.registerInstance .firstContact).locator.perform engine).1 =
        .ok ("agent", other) ∧ other.id = "fleet" :=
    UpdateRequest.located_of_ids (by decide +kernel)
  have stored := Operation.located_stored reached.keyed located
  have alsoStored := Operation.located_stored reached.keyed again
  clear_value engine
  rw [own] at stored
  rw [alsoOwn, stored, Option.some.injEq] at alsoStored
  subst alsoStored
  have resolved : ((Engine.resolveGroup "agent" group.id).perform engine).1 =
      .ok ("agent", group) := by
    rw [own]
    exact again
  rcases performed : (Engine.checkIn .withReports).perform engine with ⟨error | response, after⟩
  · rw [performed] at statuses
    cases statuses
  · rw [performed] at statuses
    exact ⟨response, group, after, rfl, own,
      checkIn_stepwise reached performed located resolved, Option.some.inj statuses⟩

end FleetRollout

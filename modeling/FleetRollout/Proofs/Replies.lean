import FleetRollout.Proofs.Faults
import FleetRollout.Proofs.Isolation

set_option autoImplicit false

/-!
What clients are answered, computed: a check-in that is let in, a grant that is handed out again, a
fresh one where the policy admits it, and the denial once the target is reached.
-/

namespace FleetRollout

open Store FleetRollout.Action

namespace CheckIn

variable {config : EngineConfig} {store : Store} {group : Group} {row : Installation}
  {channel : Channel} {target : Package} {required : RequiredFloors}
  {applicationId instanceId : String}

theorem decide_redelivers (found : store.installation? instanceId applicationId = some row)
    (offered : Offered store group row channel target) (pending : row.status = .updateGranted)
    (planned : requiredFloors store channel row.version config.maxFloorsPerResponse =
      .ok required) (now : Nat) (mode : DeliveryMode) :
    (decide config now applicationId group instanceId mode).perform store =
      (.ok (UpdatePlan.make target required), store) := by
  have step : (factsOf row (some (channel, target))).nextStep = .redeliver :=
    redeliver_iff.mpr ⟨pending, (offered_iff offered.targeted).mp offered⟩
  unfold decide
  rw [perform_bind_ok (perform_get store), perform_bind_ok (require_ok.mpr ⟨found, rfl⟩)]
  simp only [offered.targeted, step]
  rw [perform_planFor, planned]
  rfl

theorem decide_grants (keyed : store.Keyed)
    (found : store.installation? instanceId applicationId = some row)
    (stored : store.groups.get? group.id = some group)
    (offered : Offered store group row channel target) (idle : row.status.isInFlight = false)
    {now : Nat} {mode : DeliveryMode} {package : Package}
    (admitted : (enforcePolicy group target.version now).perform store = (.ok (), store))
    (planned : requiredFloors store channel row.version config.maxFloorsPerResponse = .ok required)
    (delivered : (UpdatePlan.make target required).finalPackage? mode = some package) :
    (decide config now applicationId group instanceId mode).perform store =
      (.ok (UpdatePlan.make target required),
        ((Journal.rolloutStarted config.dedupeSeconds group target.version now).perform
          (store.rewriteRow row.key row
            (row.granted (row.grantOf package.version target.version now)) now none)).2) := by
  have own : store.installations.get? row.key = some row := by
    rwa [keyed.installations _ row found]
  have step : (factsOf row (some (channel, target))).nextStep = .evaluatePolicy :=
    evaluatePolicy_iff.mpr ⟨idle, (offered_iff offered.targeted).mp offered⟩
  unfold decide
  rw [perform_bind_ok (perform_get store), perform_bind_ok (require_ok.mpr ⟨found, rfl⟩)]
  simp only [offered.targeted, step]
  exact perform_grantUpdate own stored admitted planned delivered

theorem decide_upToDate (found : store.installation? instanceId applicationId = some row)
    (targeted : groupTarget? store group = some (channel, target))
    (permitted : target.isBlacklistedFor channel.id = false) (done : row.status = .complete)
    (reached : Version.isOlder row.version target.version = false) (now : Nat)
    (mode : DeliveryMode) :
    (decide config now applicationId group instanceId mode).perform store =
      (.error (.denied .noUpdateAvailable), store) := by
  have step : (factsOf row (some (channel, target))).nextStep = .upToDate false := by
    simp [factsOf, targetState, permitted, reached, done, CheckInFacts.nextStep,
      CheckInFacts.hasOpenGrant]
  unfold decide
  rw [perform_bind_ok (perform_get store), perform_bind_ok (require_ok.mpr ⟨found, rfl⟩)]
  simp only [targeted, step]
  rfl

theorem applyEvent_moves {event : ProgressEvent} {next : Status}
    (leads : event.status = .ok (some next))
    (found : store.installation? instanceId applicationId = some row)
    (member : row.groupId = group.id) (running : row.inProgress = true)
    (onward : row.status.isRegression next = false) (keyed : store.groups.KeyedBy Group.id)
    (stored : ∃ current, store.groups.get? group.id = some current) (now : Nat) :
    ∃ errorCode, (applyEvent now applicationId group instanceId event).perform store =
      (.ok (some next),
        ((afterEvent now group instanceId (row.moved next) next).perform
          (store.rewriteRow (Installation.keyOf instanceId applicationId) row (row.moved next) now
            errorCode)).2) := by
  -- A code that comes with anything but a failure is not kept.
  refine ⟨if next = .error then event.errorCode else none, ?_⟩
  have notes : FailsOnly (fun _ => False) (afterEvent now group instanceId (row.moved next) next)
      (store.rewriteRow (Installation.keyOf instanceId applicationId) row (row.moved next) now
        (if next = .error then event.errorCode else none)) := by
    apply failsOnly_afterEvent
    · exact keyed
    · exact stored
  obtain ⟨_, noted⟩ := notes.answers
  rw [perform_applyEvent leads found member running onward, perform_bind_ok noted, perform_pure]

end CheckIn

namespace Engine

variable {engine : Engine} {request : CheckInRequest} {applicationId : String} {group : Group}

theorem enter_recorded {locate : Action Engine (String × Group)}
    (request : String → Group → Registration) {directory : Directory}
    (located : locate.perform engine = (.ok (applicationId, group), { engine with directory }))
    (valid : CheckIn.Valid (request applicationId group)) :
    ∃ address, (enter locate request).perform engine = (.ok (applicationId, group),
      { engine with
        directory
        store := (engine.store.recordCheckIn
          (CheckIn.news engine.store (request applicationId group) address engine.now)
          ((request applicationId group).sighting applicationId group.id engine.now)).2 }) := by
  obtain ⟨address, parsed⟩ := Option.isSome_iff_exists.mp valid.located
  obtain ⟨machine, recorded⟩ := CheckIn.perform_register valid.named parsed valid.reads engine.now
    applicationId group.id engine.store
  refine ⟨address, ?_⟩
  rw [enter, perform_bind_ok located, perform_bind_ok (perform_get _),
    perform_bind_ok (by rw [perform_onStore, recorded]), perform_pure]

variable {after : Engine} {current : Group} {store : Store} {row : Installation}

theorem updateOutcome_planned {instanceId : String} {mode : DeliveryMode} {plan : UpdatePlan}
    (decided : (CheckIn.decide engine.config engine.now applicationId group instanceId
      mode).perform engine.store = (.ok plan, store)) :
    (updateOutcome applicationId group instanceId mode).perform engine =
      (.ok (.update (plan.deliverable mode) plan.hasMoreFloors), { engine with store }) := by
  simp only [updateOutcome, perform_tryCatch, perform_bind, perform_get, perform_onStore, decided,
    perform_pure]

theorem updateOutcome_denied {instanceId : String} {mode : DeliveryMode} {denial : Denial}
    (decided : (CheckIn.decide engine.config engine.now applicationId group instanceId
      mode).perform engine.store = (.error (.denied denial), store)) :
    (updateOutcome applicationId group instanceId mode).perform engine =
      (.ok (.noUpdate denial), { engine with store }) := by
  simp only [updateOutcome, perform_tryCatch, perform_bind, perform_get, perform_onStore, decided,
    EngineError.denial?, perform_pure]

theorem updateOutcome_failed {instanceId : String} {mode : DeliveryMode} {error : EngineError}
    (failed : (CheckIn.decide engine.config engine.now applicationId group instanceId
      mode).perform engine.store = (.error error, store)) (undenied : error.denial? = none) :
    (updateOutcome applicationId group instanceId mode).perform engine =
      (.error error, { engine with store }) := by
  simp only [updateOutcome, perform_tryCatch, perform_bind, perform_get, perform_onStore, failed,
    undenied, perform_throw]

theorem conclude_responds (asked : request.updateCheck = true)
    (stored : engine.store.groups.get? group.id = some current) {update : UpdateOutcome}
    (learned : (updateOutcome applicationId current request.instanceId
      (modeOf request)).perform engine = (.ok update, after))
    (found : after.store.installation? request.instanceId applicationId = some row)
    (acks : List EventAck) :
    (conclude request applicationId group acks).perform engine =
      (.ok
        { applicationId
          groupId := group.id
          events := acks
          update
          installation := row }, after) := by
  unfold conclude
  simp only [asked, if_true]
  rw [perform_bind_ok (perform_requireGroup stored), perform_bind_ok learned,
    perform_bind_ok (perform_readStore _), perform_bind_ok (require_ok.mpr ⟨found, rfl⟩),
    perform_pure]

end Engine

namespace UpdateRequest

def operation : UpdateRequest → Operation
  | .plan request mode => .updatePlan request mode
  | .checkIn request => .checkIn request

def ip : UpdateRequest → String
  | .plan request _ => request.ip
  | .checkIn request => request.ip

-- The request asks for an update, and reports no events.
def asksOnly : UpdateRequest → Bool
  | .plan _ _ => true
  | .checkIn request => request.updateCheck && request.events.isEmpty

/-- The request is answered with the plan; a check-in, with what its mode delivers of it. -/
def HandsOut (engine : Engine) (plan : UpdatePlan) (after : Engine) : UpdateRequest → Prop
  | .plan request mode => (Engine.updatePlan request mode).perform engine = (.ok plan, after)
  | .checkIn request => ∃ response,
      (Engine.checkIn request).perform engine = (.ok response, after) ∧
        response.update =
          .update (plan.deliverable (Engine.modeOf request)) plan.hasMoreFloors

def registration (applicationId : String) (group : Group) : UpdateRequest → Registration
  | .plan request _ => request
  | .checkIn request => Engine.registrationOf request applicationId group

-- The request up to its events.
def entrance (request : UpdateRequest) : Action Engine (String × Group) :=
  Engine.enter request.operation.locator fun applicationId group =>
    request.registration applicationId group

/-- What the client learns: the packages it is handed, or why it is denied any. -/
def outcome : UpdateRequest → Action Engine UpdateOutcome
  | .plan request mode =>
      tryCatch
        (do
          let plan ← Engine.updatePlan request mode
          pure (.update (plan.deliverable mode) plan.hasMoreFloors))
        fun error =>
          match error.denial? with
          | some reason => pure (.noUpdate reason)
          | none => throw error
  | .checkIn request => do
      pure (← Engine.checkIn request).update

variable {request : UpdateRequest} {engine entered after : Engine} {applicationId : String}
  {group : Group} {store : Store} {plan : UpdatePlan} {row : Installation}

theorem registration_instanceId (request : UpdateRequest) (applicationId : String)
    (group : Group) :
    (request.registration applicationId group).instanceId = request.instanceId := by
  cases request <;> rfl

theorem registration_version (request : UpdateRequest) (applicationId : String) (group : Group) :
    (request.registration applicationId group).version = request.version := by
  cases request <;> rfl

theorem registration_valid (named : CheckIn.isInstanceId request.instanceId = true)
    (addressed : (Network.Address.parse? (Text.trim request.ip)).isSome = true)
    (reads : (Version.parse? request.version).isSome = true) (applicationId : String)
    (group : Group) : CheckIn.Valid (request.registration applicationId group) := by
  cases request <;> exact ⟨named, addressed, reads⟩

theorem sameData_locator (request : UpdateRequest) :
    Keeps Engine.SameData request.operation.locator := by
  cases request with
  | plan => exact Engine.sameData_keptByLookups.resolveGroup _ _
  | checkIn => exact Engine.sameData_keptByLookups.locate _

theorem perform_entrance
    (located : (request.operation.locator.perform engine).1 = .ok (applicationId, group))
    (valid : CheckIn.Valid (request.registration applicationId group)) :
    ∃ entered address, request.entrance.perform engine = (.ok (applicationId, group), entered) ∧
      entered.config = engine.config ∧ entered.now = engine.now ∧
      entered.store = (engine.store.recordCheckIn
        (CheckIn.news engine.store (request.registration applicationId group) address engine.now)
        ((request.registration applicationId group).sighting applicationId group.id
          engine.now)).2 := by
  obtain ⟨directory, same⟩ := request.sameData_locator engine
  obtain ⟨address, recorded⟩ := Engine.enter_recorded
    (fun applicationId group => request.registration applicationId group)
    (Prod.ext located same) valid
  exact ⟨_, address, recorded, rfl, rfl, rfl⟩

theorem plan_decided {registration : Registration} {mode : DeliveryMode}
    (letIn : (UpdateRequest.plan registration mode).entrance.perform engine =
      (.ok (applicationId, group), entered)) {result : Except EngineError UpdatePlan}
    (decided : (UpdateRequest.plan registration mode).decision applicationId group entered =
      (result, store)) :
    (Engine.updatePlan registration mode).perform engine = (result, { entered with store }) := by
  have decision : (CheckIn.decide entered.config entered.now applicationId group
      registration.instanceId mode).perform entered.store = (result, store) := decided
  rw [(Engine.registration_ok registration mode letIn).2, Engine.perform_onStore, decision]

theorem checkIn_concludes {request : CheckInRequest} (asks : (checkIn request).asksOnly = true)
    (letIn : (checkIn request).entrance.perform engine = (.ok (applicationId, group), entered)) :
    (Engine.checkIn request).perform engine =
      (Engine.conclude request applicationId group []).perform entered := by
  obtain ⟨-, none⟩ := (Bool.and_eq_true _ _).mp asks
  refine Engine.checkIn_applied letIn ?_
  rw [List.isEmpty_iff.mp none]
  rfl

theorem located_of_ids {answer : Except EngineError (String × Group)}
    {applicationId groupId : String}
    (ids : answer.toOption.map (fun place => (place.1, place.2.id)) =
      some (applicationId, groupId)) :
    ∃ group, answer = .ok (applicationId, group) ∧ group.id = groupId := by
  rcases answer with error | ⟨application, group⟩
  · cases ids
  · obtain ⟨rfl, rfl⟩ := Prod.mk.inj (Option.some.inj ids)
    exact ⟨group, rfl, rfl⟩

theorem handsOut_of_decided (asks : request.asksOnly = true)
    (letIn : request.entrance.perform engine = (.ok (applicationId, group), entered))
    (stored : entered.store.groups.get? group.id = some group)
    (decided : request.decision applicationId group entered = (.ok plan, store))
    (found : store.installation? request.instanceId applicationId = some row) :
    request.HandsOut engine plan { entered with store } := by
  cases request with
  | plan request mode => exact plan_decided letIn decided
  | checkIn request =>
    obtain ⟨asked, -⟩ := (Bool.and_eq_true _ _).mp asks
    have concluded := Engine.conclude_responds asked stored
      (Engine.updateOutcome_planned decided) found []
    rw [← checkIn_concludes asks letIn] at concluded
    exact ⟨_, concluded, rfl⟩

theorem HandsOut.outcome (handsOut : request.HandsOut engine plan after) :
    request.outcome.perform engine =
      (.ok (.update (plan.deliverable request.mode) plan.hasMoreFloors), after) := by
  cases request with
  | plan request mode =>
    have planned : (Engine.updatePlan request mode).perform engine = (.ok plan, after) := handsOut
    rw [UpdateRequest.outcome, perform_tryCatch, perform_bind_ok planned]
    rfl
  | checkIn request =>
    obtain ⟨response, responded, updated⟩ := handsOut
    rw [UpdateRequest.outcome, perform_bind_ok responded, updated]
    rfl

theorem outcome_of_denied (asks : request.asksOnly = true)
    (letIn : request.entrance.perform engine = (.ok (applicationId, group), entered))
    (stored : entered.store.groups.get? group.id = some group) {denial : Denial}
    (decided : request.decision applicationId group entered = (.error (.denied denial), store))
    (found : store.installation? request.instanceId applicationId = some row) :
    request.outcome.perform engine = (.ok (.noUpdate denial), { entered with store }) := by
  cases request with
  | plan request mode =>
    rw [outcome, perform_tryCatch, perform_bind_error (plan_decided letIn decided)]
    rfl
  | checkIn request =>
    obtain ⟨asked, -⟩ := (Bool.and_eq_true _ _).mp asks
    have concluded := Engine.conclude_responds asked stored
      (Engine.updateOutcome_denied decided) found []
    rw [← checkIn_concludes asks letIn] at concluded
    rw [outcome, perform_bind_ok concluded]
    rfl

end UpdateRequest

end FleetRollout

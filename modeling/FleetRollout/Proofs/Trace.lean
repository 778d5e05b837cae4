import FleetRollout.Proofs.Effect

set_option autoImplicit false

/-!
Runs step by step. Asking for an update is an arrival and a decision, a check-in has its events
between the two, and every other operation is a single step. Each step begins where the one before
it ended, and has the effect of its stage.
-/

namespace FleetRollout

open Store FleetRollout.Action

structure Step where
  before : Engine
  stage : Stage
  after : Engine

def Step.time (step : Step) : Nat := step.before.now

-- The steps lead from one state to another, each from where the one before it ended.
def Linked : Engine → List Step → Engine → Prop
  | start, [], last => last = start
  | start, step :: rest, last => step.before = start ∧ Linked step.after rest last

theorem Linked.single (before : Engine) (stage : Stage) (after : Engine) :
    Linked before [⟨before, stage, after⟩] after := ⟨rfl, rfl⟩

theorem Linked.cons {middle last : Engine} {rest : List Step} (before : Engine) (stage : Stage)
    (others : Linked middle rest last) : Linked before (⟨before, stage, middle⟩ :: rest) last :=
  ⟨rfl, others⟩

theorem Linked.append {start middle last : Engine} {front rest : List Step}
    (head : Linked start front middle) (tail : Linked middle rest last) :
    Linked start (front ++ rest) last := by
  induction front generalizing start with
  | nil =>
    obtain rfl : middle = start := head
    exact tail
  | cons step others ih => exact ⟨head.1, ih head.2⟩

theorem Linked.of_kept {P : List Step → Engine → Prop} {start last : Engine} {steps : List Step}
    (linked : Linked start steps last) (done : List Step) (holds : P done start)
    (kept : ∀ done, ∀ step ∈ steps, P done step.before → P (done ++ [step]) step.after) :
    P (done ++ steps) last := by
  -- The induction is on the steps still to come; those that are done are carried along.
  induction steps generalizing start done with
  | nil =>
    obtain rfl : last = start := linked
    rwa [List.append_nil]
  | cons step rest ih =>
    obtain ⟨rfl, others⟩ := linked
    rw [List.append_cons]
    exact ih others (done ++ [step]) (kept done step List.mem_cons_self holds)
      fun done other member => kept done other (List.mem_cons_of_mem step member)

theorem Linked.forall_kept {P : Engine → Prop} {start last : Engine} {steps : List Step}
    (linked : Linked start steps last) (holds : P start)
    (kept : ∀ step ∈ steps, P step.before → P step.after) : ∀ step ∈ steps, P step.after := by
  induction steps generalizing start with
  | nil => simp
  | cons step rest ih =>
    obtain ⟨rfl, others⟩ := linked
    have next := kept step List.mem_cons_self holds
    exact List.forall_mem_cons.mpr ⟨next,
      ih others next fun other member => kept other (List.mem_cons_of_mem step member)⟩

-- A step is upkeep, finds names at most, or carries out one stage of a request.
inductive Performed : Stage → Engine → Engine → Prop where
  | upkeep {before after : Engine} (fleet : SameFleet before.store after.store) :
      Performed .upkeep before after
  | nothing {stage : Stage} {before after : Engine} (same : Engine.SameData before after) :
      Performed stage before after
  | arrived {before after : Engine} {request : Registration} {applicationId : String}
      {group : Group} (admitted : Engine.Admitted before request applicationId group after) :
      Performed .arrival before after
  | reported {before after : Engine} {applicationId instanceId : String} {group : Group}
      {event : ProgressEvent} (keyed : before.store.Keyed) (knows : before.store.Knows group)
      (written : after.store =
        ((CheckIn.applyEvent before.now applicationId group instanceId event).perform
          before.store).2) :
      Performed (.event event) before after
  | decided {before after : Engine} {applicationId instanceId : String} {group : Group}
      {mode : DeliveryMode} {row : Installation} (keyed : before.store.Keyed)
      (found : before.store.installation? instanceId applicationId = some row)
      (stored : before.store.groups.get? row.groupId = some group)
      (written : after.store =
        ((CheckIn.decide before.config before.now applicationId group instanceId mode).perform
          before.store).2) :
      Performed .decision before after

theorem Performed.refl (stage : Stage) (engine : Engine) : Performed stage engine engine :=
  .nothing (refl_of Engine.SameData engine)

theorem Performed.effect {stage : Stage} {before after : Engine}
    (performed : Performed stage before after) : Effect stage before after := by
  cases performed with
  | upkeep fleet => exact .quiet fleet (.inl rfl)
  | nothing same => exact .of_sameData same
  | arrived admitted => exact admitted.effect
  | reported keyed knows written =>
    exact (CheckIn.applyEvent_effect keyed _ knows _ _).of_store written
  | @decided _ _ _ _ _ _ row keyed found stored written =>
    have own := keyed.installations _ row found
    exact (CheckIn.decide_effect keyed _ found own stored).of_store written

def CheckInRequest.upTo (request : CheckInRequest) (count : Nat) : CheckInRequest :=
  { request with events := request.events.take count, updateCheck := false }

namespace Engine

section Events

variable {request : CheckInRequest} {applicationId : String} {group : Group}
  {engine entered : Engine}

theorem checkIn_upTo
    (letIn : (admission request).perform engine = (.ok (applicationId, group), entered))
    (admitted : Admitted engine (registrationOf request applicationId group) applicationId group
      entered) (count : Nat) :
    ((checkIn (request.upTo count)).perform engine).2 =
      (((request.events.take count).mapM (acknowledge applicationId group
        request.instanceId)).perform entered).2 := by
  have enters : (admission (request.upTo count)).perform engine =
      (.ok (applicationId, group), entered) := letIn
  have admits : Admitted engine (registrationOf (request.upTo count) applicationId group)
      applicationId group entered := admitted
  rcases applied : ((request.upTo count).events.mapM (acknowledge applicationId group
      (request.upTo count).instanceId)).perform entered with ⟨error | acks, decided⟩
  · rw [checkIn_failed enters applied]
    exact (congrArg Prod.snd applied).symm
  · obtain ⟨-, arrives, -⟩ := UpdateRequest.arrived_checkIn admits enters applied
    obtain ⟨_, _, answered, ended⟩ := bind_ok.mp arrives
    cases ended
    exact (congrArg Prod.snd answered).trans (congrArg Prod.snd applied).symm

theorem performed_event (keyed : entered.store.Keyed) (knows : entered.store.Knows group)
    (events : List ProgressEvent) (event : ProgressEvent) :
    Performed (.event event)
      ((events.mapM (acknowledge applicationId group request.instanceId)).perform entered).2
      (((events ++ [event]).mapM (acknowledge applicationId group
        request.instanceId)).perform entered).2 := by
  have keptKeyed := (keeps_reading.events (fun now event => keeps_onStore
    (CheckIn.keyed_applyEvent now applicationId group request.instanceId event))
    events entered).store keyed
  have keptGroup := (keeps_reading.events (fun now event => keeps_onStore
    (CheckIn.keeps_applyEvent now applicationId group request.instanceId event))
    events entered).store.knows knows
  rw [perform_mapM_concat]
  rcases applied : (events.mapM (acknowledge applicationId group request.instanceId)).perform
    entered with ⟨error | acks, after⟩
  · exact .refl _ after
  · rw [applied] at keptKeyed keptGroup
    simp only [acknowledge_state]
    exact .reported keptKeyed keptGroup rfl

end Events

theorem Located.knows {engine : Engine} {applicationId : String} {group : Group}
    (located : Located engine applicationId group) (keyed : engine.store.Keyed) :
    engine.store.Knows group := by
  obtain ⟨groupId, stored⟩ := located.stored
  rw [← keyed.groups groupId group stored] at stored
  exact .of_stored stored

theorem performed_registerEvent (report : EventReport) {engine : Engine}
    (keyed : engine.store.Keyed) :
    Performed (.event report.event) engine ((registerEvent report).perform engine).2 := by
  unfold registerEvent
  refine (inspects_check _ _).then_leads (.refl _ engine) fun _ _ => ?_
  have same := sameData_keptByLookups.resolveGroup report.applicationId report.groupId engine
  rcases located : (resolveGroup report.applicationId report.groupId).perform engine with
    ⟨error | ⟨applicationId, group⟩, between⟩
  · rw [located] at same
    rw [perform_bind_error located]
    exact .nothing same
  · rw [located] at same
    have knows := (resolveGroup_ok located).knows keyed
    obtain ⟨directory, rfl⟩ := same
    rw [perform_bind_ok located]
    exact .reported keyed knows rfl

end Engine

namespace UpdateRequest

theorem arrival_checkIn (request : CheckInRequest) (engine : Engine) :
    ((checkIn request).arrival.perform engine).2 =
      ((Engine.checkIn { request with updateCheck := false }).perform engine).2 := by
  rw [arrival, perform_bind]
  rcases (Engine.checkIn { request with updateCheck := false }).perform engine with
    ⟨error | response, after⟩ <;> rfl

theorem performed_answer (request : UpdateRequest) {engine : Engine}
    (keyed : engine.store.Keyed) :
    Performed .decision (request.arrival.perform engine).2 (request.answer.perform engine).2 := by
  rcases request.settled engine with
    ⟨unasked, -⟩ | ⟨applicationId, group, row, decided, arrived, state, -⟩
  · rw [unasked]
    exact .refl _ _
  -- The decision takes the group as it is stored once the events are applied.
  · have decidedKeyed := arrived.keyed keyed
    rw [arrived.arrival, state]
    obtain ⟨groupId, asked, stored, -, member, current⟩ := arrived.named
    have named : asked.id = groupId := keyed.groups _ asked stored
    refine .decided decidedKeyed arrived.found ?_ rfl
    rw [member]
    rcases current with ⟨rfl, same⟩ | same
    · rwa [named]
    · exact same

end UpdateRequest

namespace Operation

-- The state of a check-in once its first events are applied.
def midway (engine : Engine) (request : CheckInRequest) (count : Nat) : Engine :=
  (checkIn (request.upTo count)).run engine

def eventSteps (engine : Engine) (request : CheckInRequest) : List Step :=
  request.events.zipIdx.map fun (event, count) =>
    ⟨midway engine request count, .event event, midway engine request (count + 1)⟩

def steps (engine : Engine) : Operation → List Step
  | .registerInstance request =>
      [⟨engine, .arrival, (registerInstance request).run engine⟩]
  | .updatePlan request mode =>
      [⟨engine, .arrival, (registerInstance request).run engine⟩,
        ⟨(registerInstance request).run engine, .decision, (updatePlan request mode).run engine⟩]
  | .nextPackage request =>
      [⟨engine, .arrival, (registerInstance request).run engine⟩,
        ⟨(registerInstance request).run engine, .decision, (nextPackage request).run engine⟩]
  | .registerEvent report => [⟨engine, .event report.event, (registerEvent report).run engine⟩]
  | .checkIn request =>
      ⟨engine, .arrival, midway engine request 0⟩ :: (eventSteps engine request ++
        [⟨midway engine request request.events.length, .decision,
          (checkIn request).run engine⟩])
  | operation => [⟨engine, .upkeep, operation.run engine⟩]

def trace (engine : Engine) : List Operation → List Step
  | [] => []
  | operation :: rest => operation.steps engine ++ trace (operation.run engine) rest

theorem steps_upkeep {operation : Operation} (serves : operation.isRequest = false)
    (engine : Engine) : operation.steps engine = [⟨engine, .upkeep, operation.run engine⟩] := by
  cases operation <;> first | rfl | simp [isRequest] at serves

theorem linked_zipIdx (states : Nat → Engine) (events : List ProgressEvent) (first : Nat) :
    Linked (states first)
      ((events.zipIdx first).map fun (event, count) =>
        ⟨states count, .event event, states (count + 1)⟩)
      (states (first + events.length)) := by
  induction events generalizing first with
  | nil => rfl
  | cons event rest ih =>
    rw [List.length_cons, ← Nat.succ_add_eq_add_succ]
    exact (ih (first + 1)).cons _ _

theorem linked_steps (engine : Engine) (operation : Operation) :
    Linked engine (operation.steps engine) (operation.run engine) := by
  cases serves : operation.isRequest with
  | false =>
    rw [steps_upkeep serves]
    exact .single _ _ _
  | true =>
    cases operation with
    | registerInstance | registerEvent =>
      rw [steps]
      exact .single _ _ _
    | updatePlan | nextPackage =>
      rw [steps]
      exact .cons _ _ (.single _ _ _)
    | checkIn request =>
      have events := linked_zipIdx (midway engine request) request.events 0
      rw [Nat.zero_add] at events
      rw [steps]
      exact .cons _ _ (events.append (.single _ _ _))
    | _ => simp [isRequest] at serves

theorem linked_trace (engine : Engine) (operations : List Operation) :
    Linked engine (trace engine operations) (runAll engine operations) := by
  induction operations generalizing engine with
  | nil => rfl
  | cons operation rest ih => exact (linked_steps engine operation).append (ih _)

theorem mem_eventSteps {engine : Engine} {request : CheckInRequest} {step : Step}
    (member : step ∈ eventSteps engine request) :
    ∃ count, ∃ inside : count < request.events.length,
      step = ⟨midway engine request count, .event request.events[count],
        midway engine request (count + 1)⟩ := by
  obtain ⟨⟨event, count⟩, listed, rfl⟩ := List.mem_map.mp member
  obtain ⟨inside, rfl⟩ := List.getElem?_eq_some_iff.mp (List.mk_mem_zipIdx_iff_getElem?.mp listed)
  exact ⟨count, inside, rfl⟩

theorem forall_moments {P : Engine → Prop} {engine : Engine} {operation : Operation}
    (start : P engine) (last : P (operation.run engine))
    (requests : ∀ other : Operation, other.isRequest = true → P (other.run engine)) :
    ∀ step ∈ operation.steps engine, P step.before ∧ P step.after := by
  cases serves : operation.isRequest with
  | false =>
    rw [steps_upkeep serves, List.forall_mem_singleton]
    exact ⟨start, last⟩
  | true =>
    cases operation with
    | registerInstance | registerEvent =>
      rw [steps, List.forall_mem_singleton]
      dsimp only
      exact ⟨start, last⟩
    | updatePlan request | nextPackage request =>
      have arrived := requests (registerInstance request) rfl
      rw [steps, List.forall_mem_cons, List.forall_mem_singleton]
      dsimp only
      exact ⟨⟨start, arrived⟩, arrived, last⟩
    | checkIn request =>
      -- Half way through, it is as if a shorter check-in had been made.
      have during (count : Nat) : P (midway engine request count) :=
        requests (checkIn (request.upTo count)) rfl
      rw [steps, List.forall_mem_cons, List.forall_mem_append, List.forall_mem_singleton]
      dsimp only
      refine ⟨⟨start, during 0⟩, fun step member => ?_, during request.events.length, last⟩
      obtain ⟨count, _, rfl⟩ := mem_eventSteps member
      dsimp only
      exact ⟨during count, during (count + 1)⟩
    | _ => simp [isRequest] at serves

theorem reachable_trace {engine : Engine} (reached : Reachable engine)
    (operations : List Operation) :
    ∀ step ∈ trace engine operations, Reachable step.before ∧ Reachable step.after := by
  induction operations generalizing engine with
  | nil => simp [trace]
  | cons operation rest ih =>
    intro step member
    rcases List.mem_append.mp member with during | later
    · exact forall_moments reached (reached.step operation trivial)
        (fun other _ => reached.step other trivial) step during
    · exact ih (reached.step operation trivial) step later

theorem mem_trace {Allowed : Engine → Operation → Prop} {engine : Engine}
    (reached : Reachable engine) {operations : List Operation}
    (allowed : AllowedRun Allowed engine operations) {step : Step}
    (member : step ∈ trace engine operations) :
    ∃ earlier operation, Reachable earlier ∧ Allowed earlier operation ∧
      step ∈ operation.steps earlier := by
  induction operations generalizing engine with
  | nil => cases member
  | cons operation rest ih =>
    rcases List.mem_append.mp member with during | later
    · exact ⟨engine, operation, reached, allowed.1, during⟩
    · exact ih (reached.step operation trivial) allowed.2 later

theorem run_updatePlan (request : Registration) (mode : DeliveryMode) (engine : Engine) :
    (updatePlan request mode).run engine =
        ((UpdateRequest.plan request mode).answer.perform engine).2 ∧
      (registerInstance request).run engine =
        ((UpdateRequest.plan request mode).arrival.perform engine).2 := by
  rw [updatePlan_run, registerInstance_run, UpdateRequest.answer, UpdateRequest.arrival,
    perform_bind, perform_bind]
  constructor
  · rcases (Engine.updatePlan request mode).perform engine with ⟨error | plan, after⟩ <;> rfl
  · rcases (Engine.registerInstance request).perform engine with ⟨error | record, after⟩ <;> rfl

theorem run_nextPackage (request : Registration) (engine : Engine) :
    (nextPackage request).run engine = (updatePlan request .single).run engine := by
  rw [nextPackage_run, updatePlan_run, Engine.updatePackage?, perform_bind]
  rcases (Engine.updatePlan request .single).perform engine with ⟨error | plan, after⟩
  · rfl
  · cases next : plan.nextPackage? <;> simp [next, require]

theorem performed_registerInstance (request : Registration) (engine : Engine) :
    Performed .arrival engine ((registerInstance request).run engine) := by
  rw [registerInstance_run]
  rcases Engine.enter_cases (Engine.sameData_keptByLookups.resolveGroup _ _)
      Engine.resolveGroup_ok (fun _ _ => request) engine with
    ⟨error, after, refused, same⟩ | ⟨applicationId, group, after, letIn, admitted⟩
  · rw [(Engine.registration_error request .single refused).1]
    exact .nothing same
  · obtain ⟨⟨record, recorded⟩, -⟩ := Engine.registration_ok request .single letIn
    rw [recorded]
    exact .arrived admitted

theorem performed_updatePlan (request : Registration) (mode : DeliveryMode) {engine : Engine}
    (keyed : engine.store.Keyed) :
    Performed .decision ((registerInstance request).run engine)
      ((updatePlan request mode).run engine) := by
  obtain ⟨answers, arrives⟩ := run_updatePlan request mode engine
  rw [answers, arrives]
  exact UpdateRequest.performed_answer _ keyed

theorem performed_checkIn (request : CheckInRequest) {engine : Engine}
    (keyed : engine.store.Keyed) :
    Performed .arrival engine (midway engine request 0) ∧
      (∀ count, ∀ inside : count < request.events.length,
        Performed (.event request.events[count]) (midway engine request count)
          (midway engine request (count + 1))) ∧
      Performed .decision (midway engine request request.events.length)
        ((checkIn request).run engine) := by
  have decides := (UpdateRequest.checkIn request).performed_answer keyed
  rw [UpdateRequest.arrival_checkIn, (UpdateRequest.answer_checkIn request engine).1] at decides
  have all : request.upTo request.events.length = { request with updateCheck := false } := by
    simp [CheckInRequest.upTo]
  simp only [midway, checkIn_run]
  rw [all]
  rcases Engine.admission_cases request engine with
    ⟨error, after, refused, same⟩ | ⟨applicationId, group, entered, letIn, admitted⟩
  · -- Every part of the check-in is refused as the whole is.
    have stops (count : Nat) :
        (Engine.checkIn (request.upTo count)).perform engine = (.error error, after) :=
      Engine.checkIn_refused refused
    simp only [stops]
    exact ⟨.nothing same, fun _ _ => .refl _ after, decides⟩
  · simp only [Engine.checkIn_upTo letIn admitted]
    refine ⟨.arrived admitted, fun count inside => ?_, decides⟩
    rw [← List.take_append_getElem inside]
    have knows := admitted.catalog.store.knows (admitted.located.knows keyed)
    exact Engine.performed_event (admitted.keyed keyed) knows _ _

theorem performed_steps {engine : Engine} (keyed : engine.store.Keyed) (operation : Operation) :
    ∀ step ∈ operation.steps engine, Performed step.stage step.before step.after := by
  cases serves : operation.isRequest with
  | false =>
    rw [steps_upkeep serves, List.forall_mem_singleton]
    exact .upkeep (run_changes serves engine).sameFleet
  | true =>
    cases operation with
    | registerInstance request =>
      rw [steps, List.forall_mem_singleton]
      dsimp only
      exact performed_registerInstance request engine
    | registerEvent report =>
      rw [steps, List.forall_mem_singleton]
      dsimp only
      exact Engine.performed_registerEvent report keyed
    | updatePlan request mode =>
      rw [steps, List.forall_mem_cons, List.forall_mem_singleton]
      dsimp only
      exact ⟨performed_registerInstance request engine, performed_updatePlan request mode keyed⟩
    | nextPackage request =>
      rw [steps, List.forall_mem_cons, List.forall_mem_singleton, run_nextPackage]
      dsimp only
      exact ⟨performed_registerInstance request engine, performed_updatePlan request .single keyed⟩
    | checkIn request =>
      obtain ⟨enters, applies, decides⟩ := performed_checkIn request keyed
      rw [steps, List.forall_mem_cons, List.forall_mem_append, List.forall_mem_singleton]
      dsimp only
      refine ⟨enters, fun step member => ?_, decides⟩
      obtain ⟨count, inside, rfl⟩ := mem_eventSteps member
      dsimp only
      exact applies count inside
    | _ => simp [isRequest] at serves

theorem effect_steps {engine : Engine} (keyed : engine.store.Keyed) (operation : Operation) :
    ∀ step ∈ operation.steps engine, Effect step.stage step.before step.after :=
  fun step member => (performed_steps keyed operation step member).effect

theorem performed_trace {engine : Engine} (reached : Reachable engine)
    (operations : List Operation) :
    ∀ step ∈ trace engine operations, Performed step.stage step.before step.after := by
  induction operations generalizing engine with
  | nil => simp [trace]
  | cons operation rest ih =>
    intro step member
    rcases List.mem_append.mp member with during | later
    · exact performed_steps reached.keyed operation step during
    · exact ih (reached.step operation trivial) step later

theorem effect_trace {engine : Engine} (reached : Reachable engine) (operations : List Operation) :
    ∀ step ∈ trace engine operations, Effect step.stage step.before step.after :=
  fun step member => (performed_trace reached operations step member).effect

end Operation

-- What holds as long as nothing is stored and is kept by every step holds in all states.
theorem Reachable.of_performed {P : Engine → Prop} {engine : Engine} (reached : Reachable engine)
    (empty : ∀ engine, engine.store = Store.empty → P engine)
    (kept : ∀ step : Step, Performed step.stage step.before step.after →
      Reachable step.before → Reachable step.after → P step.before → P step.after) : P engine := by
  induction reached with
  | start engine nothing => exact empty engine nothing
  | @step engine operation reached _ ih =>
    have moments := Operation.forall_moments reached (reached.step operation trivial)
      fun other _ => reached.step other trivial
    refine (Operation.linked_steps engine operation).of_kept (P := fun _ => P) [] ih ?_
    intro _ step member
    exact kept step (Operation.performed_steps reached.keyed operation step member)
      (moments step member).1 (moments step member).2

theorem Reachable.of_kept {P : Engine → Prop} {engine : Engine} (reached : Reachable engine)
    (empty : ∀ engine, engine.store = Store.empty → P engine)
    (kept : ∀ step : Step, Effect step.stage step.before step.after →
      Reachable step.before → Reachable step.after → P step.before → P step.after) : P engine :=
  reached.of_performed empty fun step performed => kept step performed.effect

end FleetRollout

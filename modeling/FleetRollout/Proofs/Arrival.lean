import FleetRollout.Engine.Requests
import FleetRollout.Proofs.Stage

set_option autoImplicit false

/-!
Requests of clients as a sequence of stages: a request is let in, its events are applied one by
one, then the update is decided. A request without its update decision leaves the engine in the
state in which the whole request decides.
-/

namespace FleetRollout

open Store FleetRollout.Action

namespace Engine

def SameData (before after : Engine) : Prop :=
  ∃ directory, after = { before with directory }

instance : IsPreorder Engine SameData where
  refl engine := ⟨engine.directory, rfl⟩
  trans := by
    rintro _ _ _ ⟨_, rfl⟩ ⟨directory, rfl⟩
    exact ⟨directory, rfl⟩

structure HoldsOfLookups (Q : {α : Type} → Action Engine α → Prop) : Prop
    extends ComposesReading Q where
  application (external : String) : Q (findApplication external)
  group (applicationId track : String) (architecture : Architecture) :
    Q (findGroup applicationId track architecture)

abbrev KeptByLookups (E : Engine → Engine → Prop) : Prop :=
  HoldsOfLookups fun action : Action Engine _ => Keeps E action

theorem sameData_keptByLookups : KeptByLookups SameData where
  toComposesReading := keeps_reading
  application external engine := by
    rw [perform_findApplication]
    exact ⟨_, rfl⟩
  group applicationId track architecture engine := by
    rw [perform_findGroup]
    exact ⟨_, rfl⟩

section Lookups

variable {Q : {α : Type} → Action Engine α → Prop}

theorem ComposesReading.requireGroupOf (composes : ComposesReading Q)
    (applicationId groupId : String) : Q (Engine.requireGroupOf applicationId groupId) :=
  composes.bind composes.readStore fun _ => composes.bind (composes.require _ _) fun _ =>
    composes.bind (composes.check _ _) fun _ => composes.pure _

variable (looks : HoldsOfLookups Q)
include looks

theorem HoldsOfLookups.resolveApplication (external : String) (error : EngineError) :
    Q (Engine.resolveApplication external error) :=
  looks.bind (looks.application external) fun _ => looks.require _ _

theorem HoldsOfLookups.resolveGroup (application group : String) :
    Q (Engine.resolveGroup application group) :=
  looks.bind (looks.resolveApplication _ _) fun _ =>
    looks.bind (looks.requireGroupOf _ _) fun _ => looks.pure _

theorem HoldsOfLookups.findInstance (instanceId application : String) :
    Q (Engine.findInstance instanceId application) :=
  looks.bind (looks.resolveApplication _ _) fun _ =>
    looks.bind looks.readStore fun _ => looks.pure _

end Lookups

theorem requireGroupOf_ok {applicationId groupId : String} {engine after : Engine} {group : Group}
    (found : (requireGroupOf applicationId groupId).perform engine = (.ok group, after)) :
    after.store.groups.get? groupId = some group ∧ group.applicationId = applicationId := by
  unfold requireGroupOf at found
  rw [perform_bind_ok (perform_readStore engine)] at found
  obtain ⟨_, _, stored, found⟩ := bind_ok.mp found
  obtain ⟨stored, unchanged⟩ := require_ok.mp stored
  obtain ⟨_, _, checked, found⟩ := bind_ok.mp found
  obtain ⟨own, still⟩ := check_ok.mp checked
  rw [perform_pure, Prod.mk.injEq, Except.ok.injEq, still, unchanged] at found
  obtain ⟨rfl, rfl⟩ := found
  exact ⟨stored, of_decide_eq_true own⟩

structure Located (engine : Engine) (applicationId : String) (group : Group) : Prop where
  stored : ∃ groupId, engine.store.groups.get? groupId = some group
  application : group.applicationId = applicationId

theorem resolveGroup_ok {application external applicationId : String} {engine after : Engine}
    {group : Group}
    (found : (resolveGroup application external).perform engine =
      (.ok (applicationId, group), after)) : Located engine applicationId group := by
  have same := sameData_keptByLookups.resolveGroup application external engine
  rw [found] at same
  obtain ⟨directory, rfl⟩ := same
  unfold resolveGroup at found
  obtain ⟨_, _, _, found⟩ := bind_ok.mp found
  obtain ⟨_, _, required, found⟩ := bind_ok.mp found
  rw [perform_pure, Prod.mk.injEq, Except.ok.injEq, Prod.mk.injEq] at found
  obtain ⟨⟨rfl, rfl⟩, rfl⟩ := found
  obtain ⟨stored, own⟩ := requireGroupOf_ok required
  exact ⟨⟨_, stored⟩, own⟩

def locate (request : CheckInRequest) : Action Engine (String × Group) := do
  let architecture ← Action.require (.invalidArchitecture request.architecture)
    (Architecture.reported? request.architecture)
  let applicationId ← resolveApplication request.applicationId .invalidApplicationOrGroup
  let groupId ← Action.require .invalidApplicationOrGroup
    (← findGroup applicationId request.track architecture)
  let group ← requireGroupOf applicationId groupId
  pure (applicationId, group)

theorem HoldsOfLookups.locate {Q : {α : Type} → Action Engine α → Prop}
    (looks : HoldsOfLookups Q) (request : CheckInRequest) : Q (Engine.locate request) :=
  looks.bind (looks.require _ _) fun _ => looks.bind (looks.resolveApplication _ _) fun _ =>
    looks.bind (looks.group _ _ _) fun _ => looks.bind (looks.require _ _) fun _ =>
      looks.bind (looks.requireGroupOf _ _) fun _ => looks.pure _

theorem locate_ok {request : CheckInRequest} {applicationId : String} {engine after : Engine}
    {group : Group}
    (found : (locate request).perform engine = (.ok (applicationId, group), after)) :
    Located engine applicationId group := by
  have same := sameData_keptByLookups.locate request engine
  rw [found] at same
  obtain ⟨directory, rfl⟩ := same
  unfold locate at found
  obtain ⟨_, _, _, found⟩ := bind_ok.mp found
  obtain ⟨_, _, _, found⟩ := bind_ok.mp found
  obtain ⟨_, _, _, found⟩ := bind_ok.mp found
  obtain ⟨_, _, _, found⟩ := bind_ok.mp found
  obtain ⟨_, _, required, found⟩ := bind_ok.mp found
  rw [perform_pure, Prod.mk.injEq, Except.ok.injEq, Prod.mk.injEq] at found
  obtain ⟨⟨rfl, rfl⟩, rfl⟩ := found
  obtain ⟨stored, own⟩ := requireGroupOf_ok required
  exact ⟨⟨_, stored⟩, own⟩

def enter (locate : Action Engine (String × Group)) (request : String → Group → Registration) :
    Action Engine (String × Group) := do
  let (applicationId, group) ← locate
  let _ ← onStore
    (CheckIn.register (← get).now (request applicationId group) applicationId group.id)
  pure (applicationId, group)

-- What a request that was let in has found and written: the check-in of an instance of a group.
structure Admitted (engine : Engine) (request : Registration) (applicationId : String)
    (group : Group) (after : Engine) : Prop where
  located : Located engine applicationId group
  reads : (Version.parse? request.version).isSome = true
  recorded : ∃ directory machine, after =
    { engine with
      directory
      store := (engine.store.recordCheckIn machine
        (request.sighting applicationId group.id engine.now)).2 }
  enrolled : Enrols request.instanceId engine.store after.store

theorem Admitted.catalog {engine after : Engine} {request : Registration} {applicationId : String}
    {group : Group} (admitted : Admitted engine request applicationId group after) :
    Over SameCatalog engine after := by
  obtain ⟨directory, machine, rfl⟩ := admitted.recorded
  exact ⟨recordCheckIn_sameCatalog engine.store machine _, rfl, rfl, rfl⟩

theorem Admitted.groups {engine after : Engine} {request : Registration} {applicationId : String}
    {group : Group} (admitted : Admitted engine request applicationId group after) :
    after.store.groups = engine.store.groups := by
  obtain ⟨directory, machine, rfl⟩ := admitted.recorded
  exact recordCheckIn_groups engine.store machine _

theorem Admitted.present {engine after : Engine} {request : Registration} {applicationId : String}
    {group : Group} (admitted : Admitted engine request applicationId group after) :
    CheckIn.Present request.instanceId applicationId group.id request.version after.store := by
  obtain ⟨directory, machine, rfl⟩ := admitted.recorded
  exact CheckIn.present_recordCheckIn engine.store machine
    (request.sighting applicationId group.id engine.now) admitted.reads

theorem enter_cases {locate : Action Engine (String × Group)} (keeps : Keeps SameData locate)
    (located : ∀ {engine after applicationId group},
      locate.perform engine = (.ok (applicationId, group), after) →
        Located engine applicationId group)
    (request : String → Group → Registration) (engine : Engine) :
    (∃ error after, (enter locate request).perform engine = (.error error, after) ∧
      SameData engine after) ∨
    ∃ applicationId group after,
      (enter locate request).perform engine = (.ok (applicationId, group), after) ∧
        Admitted engine (request applicationId group) applicationId group after := by
  have same := keeps engine
  unfold enter
  rcases found : locate.perform engine with ⟨error | ⟨applicationId, group⟩, between⟩
  · rw [found] at same
    exact .inl ⟨error, between, perform_bind_error found _, same⟩
  · have place := located found
    rw [found] at same
    -- Only the directory has changed, so the registration finds the store of the start.
    obtain ⟨directory, rfl⟩ := same
    simp only [perform_bind_ok found, perform_bind_ok (perform_get _)]
    rcases CheckIn.register_cases engine.now (request applicationId group) applicationId group.id
        engine.store with ⟨error, -, refused⟩ | ⟨machine, written, reads, enrolled, accepted⟩
    · refine .inl ⟨error, { engine with directory }, ?_, ⟨directory, rfl⟩⟩
      rw [perform_bind_error (by rw [perform_onStore, refused])]
    · refine .inr ⟨applicationId, group, _, ?_, place, reads, ⟨directory, written, rfl⟩,
        enrolled⟩
      rw [perform_bind_ok (by rw [perform_onStore, accepted]), perform_pure]

def registrationOf (request : CheckInRequest) (applicationId : String) (group : Group) :
    Registration :=
  { instanceId := request.instanceId
    nickname := request.nickname
    ip := request.ip
    version := request.version
    applicationId
    groupId := group.id }

def admission (request : CheckInRequest) : Action Engine (String × Group) :=
  enter (locate request) (registrationOf request)

theorem admission_cases (request : CheckInRequest) (engine : Engine) :
    (∃ error after, (admission request).perform engine = (.error error, after) ∧
      SameData engine after) ∨
    ∃ applicationId group after,
      (admission request).perform engine = (.ok (applicationId, group), after) ∧
        Admitted engine (registrationOf request applicationId group) applicationId group after :=
  enter_cases (sameData_keptByLookups.locate request) locate_ok (registrationOf request) engine

def modeOf (request : CheckInRequest) : DeliveryMode :=
  if request.multiManifest then .multi else .single

def conclude (request : CheckInRequest) (applicationId : String) (group : Group)
    (events : List EventAck) : Action Engine CheckInResponse := do
  let update ←
    if request.updateCheck then do
      let current ← requireGroup group.id
      updateOutcome applicationId current request.instanceId (modeOf request)
    else pure .notRequested
  let installation ← Action.require (.invalidInstance request.instanceId)
    ((← readStore).installation? request.instanceId applicationId)
  pure { applicationId, groupId := group.id, events, update, installation }

theorem checkIn_eq (request : CheckInRequest) :
    checkIn request = (do
      let (applicationId, group) ← admission request
      let events ← request.events.mapM (acknowledge applicationId group request.instanceId)
      conclude request applicationId group events) := by
  simp only [checkIn, admission, enter, locate, conclude, modeOf, registrationOf, bind_assoc,
    pure_bind]

theorem acknowledge_state (applicationId : String) (group : Group) (instanceId : String)
    (event : ProgressEvent) (engine : Engine) :
    ((acknowledge applicationId group instanceId event).perform engine).2 =
      { engine with
        store := ((CheckIn.applyEvent engine.now applicationId group instanceId event).perform
          engine.store).2 } := by
  unfold acknowledge
  simp only [perform_tryCatch, perform_bind, perform_get, perform_onStore, perform_pure]
  rcases (CheckIn.applyEvent engine.now applicationId group instanceId event).perform
    engine.store with ⟨error | status, after⟩
  · cases error <;> rfl
  · rfl

theorem updateOutcome_state (applicationId : String) (group : Group) (instanceId : String)
    (mode : DeliveryMode) (engine : Engine) :
    ((updateOutcome applicationId group instanceId mode).perform engine).2 =
      { engine with
        store := ((CheckIn.decide engine.config engine.now applicationId group instanceId
          mode).perform engine.store).2 } := by
  unfold updateOutcome
  simp only [perform_tryCatch, perform_bind, perform_get, perform_onStore, perform_pure]
  rcases (CheckIn.decide engine.config engine.now applicationId group instanceId mode).perform
    engine.store with ⟨error | plan, after⟩
  · cases denied : error.denial? <;> simp [denied]
  · rfl

theorem updateOutcome_update {applicationId : String} {group : Group} {instanceId : String}
    {mode : DeliveryMode} {engine after : Engine} {deliveries : List Delivery} {hasMore : Bool}
    (answered : (updateOutcome applicationId group instanceId mode).perform engine =
      (.ok (.update deliveries hasMore), after)) :
    ∃ plan, ((CheckIn.decide engine.config engine.now applicationId group instanceId mode).perform
      engine.store).1 = .ok plan ∧ deliveries = plan.deliverable mode ∧
        hasMore = plan.hasMoreFloors := by
  unfold updateOutcome at answered
  simp only [perform_tryCatch, perform_bind, perform_get, perform_onStore, perform_pure] at answered
  rcases result : (CheckIn.decide engine.config engine.now applicationId group instanceId
    mode).perform engine.store with ⟨error | plan, decided⟩
  · cases denied : error.denial? <;> simp [result, denied] at answered
  · simp only [result, Prod.mk.injEq, Except.ok.injEq, UpdateOutcome.update.injEq] at answered
    exact ⟨plan, rfl, answered.1.1.symm, answered.1.2.symm⟩

theorem conclude_unasked (request : CheckInRequest) (unasked : request.updateCheck = false)
    {applicationId : String} (group : Group) (events : List EventAck) {engine : Engine}
    {row : Installation}
    (found : engine.store.installation? request.instanceId applicationId = some row) :
    ∃ response, response.update = .notRequested ∧
      (conclude request applicationId group events).perform engine = (.ok response, engine) := by
  refine ⟨{ applicationId, groupId := group.id, events, update := .notRequested
            installation := row }, rfl, ?_⟩
  unfold conclude
  simp only [unasked, Bool.false_eq_true, if_false, pure_bind]
  rw [perform_bind_ok (perform_readStore engine), perform_bind_ok (require_ok.mpr ⟨found, rfl⟩),
    perform_pure]

theorem conclude_asked {request : CheckInRequest} (asked : request.updateCheck = true)
    (applicationId : String) (group : Group) (events : List EventAck) (engine : Engine) :
    (∃ error, (conclude request applicationId group events).perform engine =
      (.error error, engine)) ∨
    ∃ current, engine.store.groups.get? group.id = some current ∧
      ((conclude request applicationId group events).perform engine).2 =
        { engine with
          store := ((CheckIn.decide engine.config engine.now applicationId current
            request.instanceId (modeOf request)).perform engine.store).2 } ∧
      ∀ response deliveries hasMore,
        ((conclude request applicationId group events).perform engine).1 = .ok response →
        response.update = .update deliveries hasMore →
        ∃ plan, ((CheckIn.decide engine.config engine.now applicationId current
          request.instanceId (modeOf request)).perform engine.store).1 = .ok plan ∧
          deliveries = plan.deliverable (modeOf request) ∧ hasMore = plan.hasMoreFloors := by
  unfold conclude
  simp only [asked, if_true]
  -- The group is read anew, for the events may have lowered its flag.
  cases stored : engine.store.groups.get? group.id with
  | none =>
    refine .inl ⟨.invalidGroup group.id, ?_⟩
    rw [perform_bind_error (perform_requireGroup_missing stored)]
  | some current =>
    refine .inr ⟨current, rfl, ?_⟩
    rw [perform_bind_ok (perform_requireGroup stored)]
    have state := updateOutcome_state applicationId current request.instanceId (modeOf request)
      engine
    rcases decided : (updateOutcome applicationId current request.instanceId
      (modeOf request)).perform engine with ⟨error | outcome, after⟩
    · rw [decided] at state
      rw [perform_bind_error decided]
      exact ⟨state, by simp⟩
    · rw [decided] at state
      rw [perform_bind_ok decided, perform_bind_ok (perform_readStore after)]
      cases found : after.store.installation? request.instanceId applicationId with
      | none => exact ⟨state, by simp [require]⟩
      | some row =>
        refine ⟨state, ?_⟩
        intro response deliveries hasMore answered updated
        simp only [require, pure_bind, perform_pure, Except.ok.injEq] at answered
        subst answered
        simp only at updated
        subst updated
        exact updateOutcome_update decided

section Stages

variable {request : CheckInRequest} {applicationId : String} {group : Group}
  {engine entered after : Engine} {error : EngineError} {acks : List EventAck}

theorem checkIn_refused (refused : (admission request).perform engine = (.error error, after)) :
    (checkIn request).perform engine = (.error error, after) := by
  rw [checkIn_eq, perform_bind_error refused]

theorem checkIn_failed
    (letIn : (admission request).perform engine = (.ok (applicationId, group), entered))
    (failed : (request.events.mapM (acknowledge applicationId group
      request.instanceId)).perform entered = (.error error, after)) :
    (checkIn request).perform engine = (.error error, after) := by
  rw [checkIn_eq, perform_bind_ok letIn, perform_bind_error failed]

theorem checkIn_applied
    (letIn : (admission request).perform engine = (.ok (applicationId, group), entered))
    (applied : (request.events.mapM (acknowledge applicationId group
      request.instanceId)).perform entered = (.ok acks, after)) :
    (checkIn request).perform engine =
      (conclude request applicationId group acks).perform after := by
  rw [checkIn_eq, perform_bind_ok letIn, perform_bind_ok applied]

end Stages

section Registration

variable (request : Registration) (mode : DeliveryMode) {engine after : Engine}

def registration : Action Engine (String × Group) :=
  enter (resolveGroup request.applicationId request.groupId) fun _ _ => request

theorem registration_error {error : EngineError}
    (refused : (registration request).perform engine = (.error error, after)) :
    (registerInstance request).perform engine = (.error error, after) ∧
      (updatePlan request mode).perform engine = (.error error, after) := by
  unfold registration enter at refused
  unfold registerInstance updatePlan
  rcases located : (resolveGroup request.applicationId request.groupId).perform engine with
    ⟨failure | ⟨applicationId, group⟩, between⟩
  · rw [perform_bind_error located] at refused ⊢
    rw [perform_bind_error located]
    cases refused
    exact ⟨rfl, rfl⟩
  · simp only [perform_bind_ok located, perform_bind_ok (perform_get between)] at refused ⊢
    rcases recorded : (onStore (CheckIn.register between.now request applicationId
      group.id)).perform between with ⟨failure | record, final⟩
    · rw [perform_bind_error recorded] at refused ⊢
      cases refused
      exact ⟨rfl, rfl⟩
    · rw [perform_bind_ok recorded] at refused
      simp at refused

theorem registration_ok {applicationId : String} {group : Group}
    (admitted : (registration request).perform engine = (.ok (applicationId, group), after)) :
    (∃ record, (registerInstance request).perform engine = (.ok record, after)) ∧
      (updatePlan request mode).perform engine =
        (onStore (CheckIn.decide after.config after.now applicationId group request.instanceId
          mode)).perform after := by
  unfold registration enter at admitted
  unfold registerInstance updatePlan
  obtain ⟨⟨_, _⟩, between, located, admitted⟩ := bind_ok.mp admitted
  simp only [perform_bind_ok (perform_get between)] at admitted
  obtain ⟨record, final, recorded, admitted⟩ := bind_ok.mp admitted
  rw [perform_pure, Prod.mk.injEq, Except.ok.injEq, Prod.mk.injEq] at admitted
  obtain ⟨⟨rfl, rfl⟩, rfl⟩ := admitted
  simp only [perform_bind_ok located, perform_bind_ok (perform_get between),
    perform_bind_ok recorded]
  obtain ⟨store, -, rfl⟩ := onStore_ok.mp recorded
  exact ⟨⟨record, recorded⟩, rfl⟩

end Registration

structure HoldsOfParts (Q : {α : Type} → Action Engine α → Prop) : Prop
    extends HoldsOfLookups Q where
  register (now : Nat) (request : Registration) (applicationId groupId : String) :
    Q (onStore (CheckIn.register now request applicationId groupId))
  applyEvent (now : Nat) (applicationId : String) (group : Group) (instanceId : String)
    (event : ProgressEvent) :
    Q (onStore (CheckIn.applyEvent now applicationId group instanceId event))
  decide (config : EngineConfig) (now : Nat) (applicationId : String) (group : Group)
    (instanceId : String) (mode : DeliveryMode) :
    Q (onStore (CheckIn.decide config now applicationId group instanceId mode))

section Requests

variable {Q : {α : Type} → Action Engine α → Prop} {applicationId instanceId : String}
  {group : Group}

section Composes

variable (composes : ComposesReading Q)
include composes

theorem ComposesReading.requireGroup (id : String) : Q (Engine.requireGroup id) :=
  composes.stored _ _

theorem ComposesReading.acknowledge {event : ProgressEvent}
    (applies : ∀ now, Q (onStore (CheckIn.applyEvent now applicationId group instanceId event))) :
    Q (Engine.acknowledge applicationId group instanceId event) := by
  refine composes.tryCatch (composes.reads (fun _ _ _ => rfl) fun _ =>
    composes.bind (applies _) fun _ => composes.pure _) fun error => ?_
  -- Only an error of the store itself is passed on.
  split
  · exact composes.throw _
  · exact composes.pure _

theorem ComposesReading.events
    (applies : ∀ now event,
      Q (onStore (CheckIn.applyEvent now applicationId group instanceId event)))
    (events : List ProgressEvent) :
    Q (events.mapM (Engine.acknowledge applicationId group instanceId)) :=
  composes.mapM (fun event => composes.acknowledge fun now => applies now event) events

theorem ComposesReading.updateOutcome {mode : DeliveryMode}
    (decides : ∀ config now,
      Q (onStore (CheckIn.decide config now applicationId group instanceId mode))) :
    Q (Engine.updateOutcome applicationId group instanceId mode) := by
  refine composes.tryCatch (composes.reads (fun _ _ _ => rfl) fun _ =>
    composes.bind (decides _ _) fun _ => composes.pure _) fun error => ?_
  split
  · exact composes.pure _
  · exact composes.throw _

theorem ComposesReading.conclude {request : CheckInRequest}
    (decides : ∀ config now current, Q (onStore
      (CheckIn.decide config now applicationId current request.instanceId (modeOf request))))
    (acks : List EventAck) : Q (Engine.conclude request applicationId group acks) := by
  unfold Engine.conclude
  split
  · exact composes.bind (composes.requireGroup _) fun current =>
      composes.bind (composes.updateOutcome fun config now => decides config now current) fun _ =>
        composes.bind composes.readStore fun _ => composes.bind (composes.require _ _) fun _ =>
          composes.pure _
  · exact composes.bind (composes.pure _) fun _ => composes.bind composes.readStore fun _ =>
      composes.bind (composes.require _ _) fun _ => composes.pure _

end Composes

variable (parts : HoldsOfParts Q)
include parts

theorem HoldsOfParts.registerInstance (request : Registration) :
    Q (Engine.registerInstance request) :=
  parts.bind (parts.resolveGroup _ _) fun _ => parts.reads (fun _ _ _ => rfl) fun _ =>
    parts.register _ _ _ _

theorem HoldsOfParts.updatePlan (request : Registration) (mode : DeliveryMode) :
    Q (Engine.updatePlan request mode) :=
  parts.bind (parts.resolveGroup _ _) fun _ => parts.reads (fun _ _ _ => rfl) fun _ =>
    parts.bind (parts.register _ _ _ _) fun _ => parts.decide _ _ _ _ _ _

theorem HoldsOfParts.updatePackage (request : Registration) :
    Q (Engine.updatePackage? request) :=
  parts.bind (parts.updatePlan request .single) fun _ => parts.require _ _

theorem HoldsOfParts.registerEvent (report : EventReport) : Q (Engine.registerEvent report) :=
  parts.bind (parts.check _ _) fun _ => parts.bind (parts.resolveGroup _ _) fun _ =>
    parts.reads (fun _ _ _ => rfl) fun _ => parts.applyEvent _ _ _ _ _

theorem HoldsOfParts.checkIn (request : CheckInRequest) : Q (Engine.checkIn request) := by
  rw [checkIn_eq]
  have enters : Q (admission request) :=
    parts.bind (parts.locate request) fun _ => parts.reads (fun _ _ _ => rfl) fun _ =>
      parts.bind (parts.register _ _ _ _) fun _ => parts.pure _
  exact parts.bind enters fun _ =>
    parts.bind (parts.events (fun now event => parts.applyEvent now _ _ _ event) _) fun acks =>
      parts.conclude (fun config now current => parts.decide config now _ current _ _) acks

end Requests

structure KeptByStages (R : Store → Store → Prop) : Prop where
  register (now : Nat) (request : Registration) (applicationId groupId : String) :
    Keeps R (CheckIn.register now request applicationId groupId)
  applyEvent (now : Nat) (applicationId : String) (group : Group) (instanceId : String)
    (event : ProgressEvent) : Keeps R (CheckIn.applyEvent now applicationId group instanceId event)
  decide (config : EngineConfig) (now : Nat) (applicationId : String) (group : Group)
    (instanceId : String) (mode : DeliveryMode) :
    Keeps R (CheckIn.decide config now applicationId group instanceId mode)

theorem sameCatalog_keptByStages : KeptByStages SameCatalog :=
  ⟨CheckIn.keeps_register, CheckIn.keeps_applyEvent, CheckIn.keeps_decide⟩

abbrev KeptByParts (E : Engine → Engine → Prop) : Prop :=
  HoldsOfParts fun action : Action Engine _ => Keeps E action

theorem over_of_sameData {R : Store → Store → Prop} [IsPreorder Store R] {α : Type}
    {action : Action Engine α} (keeps : Keeps SameData action) : Keeps (Over R) action := by
  refine keeps.imp fun engine after same => ?_
  obtain ⟨directory, rfl⟩ := same
  exact ⟨refl_of R engine.store, rfl, rfl, rfl⟩

theorem KeptByStages.parts {R : Store → Store → Prop} [IsPreorder Store R]
    (kept : KeptByStages R) : KeptByParts (Over R) where
  toComposesReading := keeps_reading
  application external := over_of_sameData (sameData_keptByLookups.application external)
  group applicationId track architecture :=
    over_of_sameData (sameData_keptByLookups.group applicationId track architecture)
  register now request applicationId groupId :=
    keeps_onStore (kept.register now request applicationId groupId)
  applyEvent now applicationId group instanceId event :=
    keeps_onStore (kept.applyEvent now applicationId group instanceId event)
  decide config now applicationId group instanceId mode :=
    keeps_onStore (kept.decide config now applicationId group instanceId mode)

end Engine

/-- A request that may be answered with an update. -/
inductive UpdateRequest where
  | plan (request : Registration) (mode : DeliveryMode)
  | checkIn (request : CheckInRequest)

namespace UpdateRequest

def instanceId : UpdateRequest → String
  | .plan request _ => request.instanceId
  | .checkIn request => request.instanceId

def version : UpdateRequest → String
  | .plan request _ => request.version
  | .checkIn request => request.version

def mode : UpdateRequest → DeliveryMode
  | .plan _ mode => mode
  | .checkIn request => Engine.modeOf request

-- Answers the packages that are handed out, if an update is.
def answer : UpdateRequest → Action Engine (Option (List Delivery))
  | .plan request mode => do
      let plan ← Engine.updatePlan request mode
      pure (some (plan.deliverable mode))
  | .checkIn request => do
      match (← Engine.checkIn request).update with
      | .update deliveries _ => pure (some deliveries)
      | _ => pure none

-- The same request without an update decision.
def arrival : UpdateRequest → Action Engine Unit
  | .plan request _ => do
      let _ ← Engine.registerInstance request
  | .checkIn request => do
      let _ ← Engine.checkIn { request with updateCheck := false }

/--
The state in which a request has its update decided: the group it asked for, and the installation
whose check-in is recorded there and whose events are applied.
-/
structure Arrived (request : UpdateRequest) (engine : Engine) (applicationId : String)
    (group : Group) (row : Installation) (decided : Engine) : Prop where
  arrival : request.arrival.perform engine = (.ok (), decided)
  catalog : Engine.Over SameCatalog engine decided
  named : ∃ groupId asked, engine.store.groups.get? groupId = some asked ∧
    asked.applicationId = applicationId ∧ row.groupId = asked.id ∧
    (group = asked ∧ decided.store.groups.get? groupId = some group ∨
      decided.store.groups.get? asked.id = some group)
  found : decided.store.installation? request.instanceId applicationId = some row
  atLeast : Version.AtLeast row.version request.version

def decision (request : UpdateRequest) (applicationId : String) (group : Group) (decided : Engine) :
    Except EngineError UpdatePlan × Store :=
  (CheckIn.decide decided.config decided.now applicationId group request.instanceId
    request.mode).perform decided.store

-- A request is answered without a decision, or by the decision in the state it arrived in.
def Settled (request : UpdateRequest) (engine : Engine) : Prop :=
  ((request.answer.perform engine).2 = (request.arrival.perform engine).2 ∧
    ∀ deliveries, (request.answer.perform engine).1 ≠ .ok (some deliveries)) ∨
  ∃ applicationId group row decided, request.Arrived engine applicationId group row decided ∧
    (request.answer.perform engine).2 =
      { decided with store := (request.decision applicationId group decided).2 } ∧
    ∀ deliveries, (request.answer.perform engine).1 = .ok (some deliveries) →
      ∃ plan, (request.decision applicationId group decided).1 = .ok plan ∧
        deliveries = plan.deliverable request.mode

theorem settled_plan (request : Registration) (mode : DeliveryMode) (engine : Engine) :
    (plan request mode).Settled engine := by
  unfold Settled answer arrival
  rcases Engine.enter_cases (Engine.sameData_keptByLookups.resolveGroup _ _)
      Engine.resolveGroup_ok (fun _ _ => request) engine with
    ⟨error, after, refused, -⟩ | ⟨applicationId, group, after, letIn, admitted⟩
  · obtain ⟨unrecorded, unplanned⟩ := Engine.registration_error request mode refused
    rw [perform_bind_error unrecorded, perform_bind_error unplanned]
    exact .inl ⟨rfl, by simp⟩
  · obtain ⟨⟨record, recorded⟩, planned⟩ := Engine.registration_ok request mode letIn
    rw [Engine.perform_onStore] at planned
    obtain ⟨row, found, member, atLeast⟩ := admitted.present
    obtain ⟨groupId, stored⟩ := admitted.located.stored
    refine .inr ⟨applicationId, group, row, after, ?_, ?_⟩
    · exact
        { arrival := by rw [arrival, perform_bind_ok recorded, perform_pure]
          catalog := admitted.catalog
          named := ⟨groupId, group, stored, admitted.located.application, member,
            .inl ⟨rfl, by rw [admitted.groups, stored]⟩⟩
          found
          atLeast }
    · rw [perform_bind, planned]
      simp only [decision, instanceId, UpdateRequest.mode]
      rcases (CheckIn.decide after.config after.now applicationId group request.instanceId
        mode).perform after.store with ⟨error | updatePlan, store⟩
      · exact ⟨rfl, by simp⟩
      · refine ⟨rfl, ?_⟩
        intro deliveries answered
        simp only [perform_pure, Except.ok.injEq, Option.some.injEq] at answered
        exact ⟨updatePlan, rfl, answered.symm⟩

theorem answer_checkIn (request : CheckInRequest) (engine : Engine) :
    ((checkIn request).answer.perform engine).2 = ((Engine.checkIn request).perform engine).2 ∧
      ∀ deliveries, ((checkIn request).answer.perform engine).1 = .ok (some deliveries) →
        ∃ response hasMore, ((Engine.checkIn request).perform engine).1 = .ok response ∧
          response.update = .update deliveries hasMore := by
  rw [answer, perform_bind]
  rcases (Engine.checkIn request).perform engine with ⟨error | response, after⟩
  · simp
  · cases updated : response.update <;> simp [updated]

theorem arrived_checkIn {request : CheckInRequest} {engine entered decided : Engine}
    {applicationId : String} {group : Group} {acks : List EventAck}
    (admitted : Engine.Admitted engine (Engine.registrationOf request applicationId group)
      applicationId group entered)
    (letIn : (Engine.admission request).perform engine = (.ok (applicationId, group), entered))
    (applied : (request.events.mapM (Engine.acknowledge applicationId group
      request.instanceId)).perform entered = (.ok acks, decided)) :
    (∃ row, decided.store.installation? request.instanceId applicationId = some row) ∧
      (checkIn request).arrival.perform engine = (.ok (), decided) ∧
      ∀ current, decided.store.groups.get? group.id = some current →
        ∃ row, (checkIn request).Arrived engine applicationId current row decided := by
  -- The events leave the catalog alone, and the installation in its place.
  have catalog := Engine.keeps_reading.events (fun now event => Engine.keeps_onStore
    (CheckIn.keeps_applyEvent now applicationId group request.instanceId event))
    request.events entered
  have present := (Engine.keeps_reading.events (fun now event => Engine.keeps_onStore
    (CheckIn.keeps_applyEvent_present now applicationId group.id request.version
      group request.instanceId event)) request.events entered).store admitted.present
  rw [applied] at catalog present
  obtain ⟨row, found, member, atLeast⟩ := present
  have arrives : (checkIn request).arrival.perform engine = (.ok (), decided) := by
    obtain ⟨response, -, answered⟩ :=
      Engine.conclude_unasked { request with updateCheck := false } rfl group acks found
    have quiet : (Engine.checkIn { request with updateCheck := false }).perform engine =
        (.ok response, decided) := by
      rw [← answered]
      exact Engine.checkIn_applied letIn applied
    rw [arrival, perform_bind_ok quiet, perform_pure]
  refine ⟨⟨row, found⟩, arrives, fun current stored => ⟨row, ?_⟩⟩
  obtain ⟨groupId, asked⟩ := admitted.located.stored
  exact
    { arrival := arrives
      catalog := trans_of (Engine.Over SameCatalog) admitted.catalog catalog
      named := ⟨groupId, group, asked, admitted.located.application, member, .inr stored⟩
      found
      atLeast }

theorem settled_checkIn (request : CheckInRequest) (engine : Engine) :
    (checkIn request).Settled engine := by
  rcases Engine.admission_cases request engine with
    ⟨error, after, refused, -⟩ | ⟨applicationId, group, entered, letIn, admitted⟩
  · have quiet : (Engine.checkIn { request with updateCheck := false }).perform engine =
        (.error error, after) := Engine.checkIn_refused refused
    -- Refused at the door, with a decision or without one.
    refine .inl ?_
    rw [arrival, answer, perform_bind_error quiet,
      perform_bind_error (Engine.checkIn_refused refused)]
    exact ⟨rfl, by simp⟩
  · rcases applied : (request.events.mapM (Engine.acknowledge applicationId group
        request.instanceId)).perform entered with ⟨error | acks, decided⟩
    · have quiet : (Engine.checkIn { request with updateCheck := false }).perform engine =
          (.error error, decided) := Engine.checkIn_failed letIn applied
      -- Stopped at an event that could not be applied.
      refine .inl ?_
      rw [arrival, answer, perform_bind_error quiet,
        perform_bind_error (Engine.checkIn_failed letIn applied)]
      exact ⟨rfl, by simp⟩
    · obtain ⟨⟨_, found⟩, arrives, arrived⟩ := arrived_checkIn admitted letIn applied
      obtain ⟨same, updates⟩ := answer_checkIn request engine
      rw [Engine.checkIn_applied letIn applied] at same updates
      cases asked : request.updateCheck with
      | false =>
        obtain ⟨response, unasked, concluded⟩ :=
          Engine.conclude_unasked request asked group acks found
        rw [concluded] at same updates
        refine .inl ⟨by rw [same, arrives], fun deliveries answered => ?_⟩
        obtain ⟨_, _, returned, updated⟩ := updates deliveries answered
        cases returned
        simp [unasked] at updated
      | true =>
        rcases Engine.conclude_asked asked applicationId group acks decided with
          ⟨error, refused⟩ | ⟨current, stored, state, planned⟩
        · rw [refused] at same updates
          refine .inl ⟨by rw [same, arrives], fun deliveries answered => ?_⟩
          obtain ⟨_, _, returned, -⟩ := updates deliveries answered
          simp at returned
        · obtain ⟨row, arrived⟩ := arrived current stored
          refine .inr ⟨applicationId, current, row, decided, arrived, same.trans state, ?_⟩
          intro deliveries answered
          obtain ⟨response, hasMore, returned, updated⟩ := updates deliveries answered
          obtain ⟨plan, decides, delivers, -⟩ :=
            planned response deliveries hasMore returned updated
          exact ⟨plan, decides, delivers⟩

theorem settled (request : UpdateRequest) (engine : Engine) : request.Settled engine := by
  cases request with
  | plan request mode => exact settled_plan request mode engine
  | checkIn request => exact settled_checkIn request engine

theorem keeps_arrival {R : Store → Store → Prop} [IsPreorder Store R]
    (kept : Engine.KeptByStages R) (request : UpdateRequest) :
    Keeps (Engine.Over R) request.arrival := by
  cases request with
  | plan request mode =>
    exact keeps_bind (kept.parts.registerInstance request) fun _ => keeps_pure _
  | checkIn request => exact keeps_bind (kept.parts.checkIn _) fun _ => keeps_pure _

end UpdateRequest

end FleetRollout

import FleetRollout.Proofs.Arrival
import FleetRollout.Proofs.Floors

set_option autoImplicit false

/-!
Errors that only the last step of a decision gives. No plan is empty: what a plan is asked for, its
first package or the last one of an answer, is always there. And only the policy denies an update
because of those that timed out.
-/

namespace FleetRollout

open Store FleetRollout.Action

-- No reading, no writing and no other check fails with it, but the verdict on an update.
def EngineError.isVerdict : EngineError → Bool
  | .emptyPlan | .denied .timeoutLimitReached => true
  | _ => false

namespace CheckIn

theorem spares_recordOnce {spared : EngineError} (window : Nat) (entry : ActivityEntry) :
    Spares spared (Journal.recordOnce window entry) := by
  refine spares_bind spares_get fun store => ?_
  split
  · exact spares_pure false
  · exact spares_bind (spares_modify _) fun _ => spares_pure true

theorem spares_packageNotFound {spared : EngineError} (window : Nat) (group : Group) (now : Nat) :
    Spares spared (Journal.packageNotFound window group now) :=
  spares_bind (spares_recordOnce window _) fun _ => spares_pure _

section Verdict

variable {spared : EngineError} (verdict : spared.isVerdict = true)
include verdict

theorem ne_of_isVerdict {other : EngineError} (plain : other.isVerdict = false) :
    other ≠ spared := by
  rintro rfl
  simp [verdict] at plain

theorem requiredFloors_error (store : Store) (channel : Channel) (version : String) (cap : Nat) :
    requiredFloors store channel version cap ≠ .error spared := by
  unfold requiredFloors
  dsimp only
  repeat' split
  all_goals
    rintro ⟨⟩
    try simp [EngineError.isVerdict] at verdict

theorem zoneOf_error (timezone : Option String) : zoneOf timezone ≠ .error spared := by
  unfold zoneOf
  cases timezone with
  | none => simp
  | some name =>
    have unknown : EngineError.invalidTimezone name ≠ spared := ne_of_isVerdict verdict rfl
    cases named : Calendar.Zone.named? name <;> simp [named, unknown]

theorem isOpen_error (policy : Policy) (now : Nat) : policy.isOpen now ≠ .error spared := by
  have known := zoneOf_error verdict policy.timezone
  unfold Policy.isOpen
  split
  · simp
  · split
    · unfold withinOfficeHours
      cases found : zoneOf policy.timezone with
      | error error => simpa [found, bind, Except.bind] using known
      | ok zone => simp [bind, Except.bind, pure, Except.pure]
    · simp

theorem spares_write {α : Type} (change : Store → Except StoreError (α × Store)) :
    Spares spared (commit change) :=
  spares_commit (fun _ => ne_of_isVerdict verdict rfl) _

theorem spares_rolloutStarted (window : Nat) (group : Group) (version : String) (now : Nat) :
    Spares spared (Journal.rolloutStarted window group version now) := by
  refine spares_bind (spares_recordOnce _ _) fun _ => ?_
  split
  · exact spares_pure _
  · exact spares_write verdict _

theorem spares_settleRollout (group : Group) (version : String) (now : Nat) :
    Spares spared (Journal.settleRollout group version now) := by
  refine spares_bind spares_get fun store => ?_
  split
  · exact spares_bind (spares_write verdict _) fun _ =>
      spares_bind (spares_modify _) fun _ => spares_pure true
  · exact spares_pure false

theorem spares_settleGroup (groupId version : String) (now : Nat) :
    Spares spared (settleGroup groupId version now) :=
  spares_bind (spares_bind spares_get fun _ =>
    spares_require (ne_of_isVerdict verdict rfl) _) fun _ =>
      spares_bind (spares_settleRollout verdict _ _ _) fun _ => spares_pure ()

theorem spares_holdIfDenied (row : Installation) (group : Group) (version : String) (now : Nat)
    (error : EngineError) : Spares spared (holdIfDenied row group version now error) := by
  unfold holdIfDenied
  split
  · exact spares_pure ()
  · refine spares_bind (spares_write verdict _) fun _ => ?_
    split
    · exact spares_modify _
    · exact spares_pure ()

theorem spares_planFor (config : EngineConfig) (channel : Channel) (target : Package)
    (version : String) : Spares spared (planFor config channel target version) :=
  spares_bind spares_get fun _ =>
    spares_bind (spares_ofExcept (requiredFloors_error verdict _ _ _ _)) fun _ => spares_pure _

theorem spares_closeGrant (row : Installation) (group : Group) (version : String) (now : Nat) :
    Spares spared (closeGrant row group version now) :=
  spares_bind (spares_write verdict _) fun _ => spares_settleGroup verdict _ _ _

theorem spares_afterEvent (now : Nat) (group : Group) (instanceId : String) (row : Installation)
    (next : Status) : Spares spared (afterEvent now group instanceId row next) := by
  cases next
  case complete =>
    refine spares_bind spares_get fun store => ?_
    split
    · exact spares_pure ()
    · exact spares_settleGroup verdict _ _ _
  case error => exact spares_modify _
  all_goals exact spares_pure ()

theorem spares_applyEvent (now : Nat) (applicationId : String) (group : Group)
    (instanceId : String) (event : ProgressEvent) :
    Spares spared (applyEvent now applicationId group instanceId event) := by
  have differs {other : EngineError} (plain : other.isVerdict = false) : other ≠ spared :=
    ne_of_isVerdict verdict plain
  refine spares_bind (spares_ofExcept ?_) fun next => spares_bind spares_get fun store =>
    spares_bind (spares_require (differs rfl) _) fun row =>
      spares_bind (spares_check _ (differs rfl)) fun _ =>
        spares_bind (spares_check _ (differs rfl)) fun _ => ?_
  · have unknown : EngineError.invalidEvent event.kind event.result ≠ spared := differs rfl
    unfold ProgressEvent.status
    simp only
    split <;> simp [unknown]
  · split
    · exact spares_pure none
    · split
      · exact spares_pure none
      · exact spares_bind (spares_write verdict _) fun _ =>
          spares_bind (spares_afterEvent verdict _ _ _ _ _) fun _ => spares_pure _

theorem spares_register (now : Nat) (request : Registration) (applicationId groupId : String) :
    Spares spared (register now request applicationId groupId) := by
  intro store
  rcases register_cases now request applicationId groupId store with
    ⟨error, named, refused⟩ | ⟨_, _, -, -, accepted⟩
  · rw [refused]
    rintro same
    cases same
    simp at named
    rcases named with rfl | rfl | rfl <;> simp [EngineError.isVerdict] at verdict
  · simp [accepted]

end Verdict

theorem spares_enforcePolicy (group : Group) (version : String) (now : Nat) :
    Spares .emptyPlan (enforcePolicy group version now) := by
  refine spares_bind (spares_ofExcept (isOpen_error rfl _ _)) fun isOpen => ?_
  split
  · split
    · refine spares_bind spares_get fun store => ?_
      split
      · exact spares_pure ()
      · exact spares_bind (spares_write rfl _) fun _ => spares_throw (by simp)
      · exact spares_throw (by simp)
    · exact spares_pure ()
  · exact spares_throw (by simp)

theorem spares_grantUpdate (config : EngineConfig) (now : Nat) (row : Installation)
    (group : Group) (channel : Channel) (target : Package) (mode : DeliveryMode) :
    Spares .emptyPlan (grantUpdate config now row group channel target mode) := by
  refine spares_bind (spares_tryCatch (spares_enforcePolicy _ _ _) fun error differs => ?_)
    fun _ store => bind_ne_error (spares_planFor rfl _ _ _ _ store) fun plan after planned => ?_
  · exact spares_bind (spares_holdIfDenied rfl _ _ _ _ _) fun _ => spares_throw differs
  · obtain ⟨required, resolved, rfl⟩ := planFor_ok planned
    obtain ⟨package, delivered⟩ := UpdatePlan.finalPackage_delivered resolved target mode
    rw [delivered]
    exact spares_bind (spares_pure _) (fun _ => spares_bind (spares_write rfl _) fun _ =>
      spares_bind (spares_rolloutStarted rfl _ _ _ _) fun _ => spares_pure _) after

theorem spares_decide (config : EngineConfig) (now : Nat) (applicationId : String)
    (group : Group) (instanceId : String) (mode : DeliveryMode) :
    Spares .emptyPlan (decide config now applicationId group instanceId mode) := by
  intro store
  cases found : store.installation? instanceId applicationId with
  | none =>
    rw [decide, perform_bind_ok (perform_get store), found]
    simp [require]
  | some row =>
    obtain ⟨branch, taken, same⟩ :=
      decide_branch config now applicationId group instanceId mode found
    rw [same]
    cases taken with
    | inFlight => simp
    | unfound =>
      exact spares_bind (spares_packageNotFound _ _ _) (fun _ => spares_throw (by simp)) store
    | upToDate => simp
    | closed version =>
      exact spares_bind (spares_closeGrant rfl _ _ _ _) (fun _ => spares_throw (by simp)) store
    | redelivered => exact spares_planFor rfl _ _ _ _ store
    | granted => exact spares_grantUpdate _ _ _ _ _ _ _ store

end CheckIn

namespace Engine

theorem spares_onStore {α : Type} {error : EngineError} {action : Action Store α}
    (spares : Spares error action) : Spares error (onStore action) :=
  fun engine => spares engine.store

theorem spares_readStore {error : EngineError} : Spares error readStore :=
  spares_bind spares_get fun _ => spares_pure _

theorem spares_requireGroupOf (applicationId groupId : String) :
    Spares .emptyPlan (requireGroupOf applicationId groupId) :=
  spares_bind spares_readStore fun _ => spares_bind (spares_require (by simp) _) fun _ =>
    spares_bind (spares_check _ (by simp)) fun _ => spares_pure _

theorem spares_resolveApplication (external : String) :
    Spares .emptyPlan (resolveApplication external .invalidApplicationOrGroup) := by
  refine spares_bind (fun engine => ?_) fun _ => spares_require (by simp) _
  simp [perform_findApplication]

theorem spares_resolveGroup (application group : String) :
    Spares .emptyPlan (resolveGroup application group) :=
  spares_bind (spares_resolveApplication _) fun _ =>
    spares_bind (spares_requireGroupOf _ _) fun _ => spares_pure _

theorem spares_locate (request : CheckInRequest) : Spares .emptyPlan (locate request) := by
  refine spares_bind (spares_require (by simp) _) fun _ =>
    spares_bind (spares_resolveApplication _) fun _ => spares_bind (fun engine => ?_) fun _ =>
      spares_bind (spares_require (by simp) _) fun _ =>
        spares_bind (spares_requireGroupOf _ _) fun _ => spares_pure _
  simp [perform_findGroup]

theorem spares_enter {locate : Action Engine (String × Group)} (spares : Spares .emptyPlan locate)
    (request : String → Group → Registration) : Spares .emptyPlan (enter locate request) :=
  spares_bind spares fun _ => spares_bind spares_get fun _ =>
    spares_bind (spares_onStore (CheckIn.spares_register rfl _ _ _ _)) fun _ => spares_pure _

theorem spares_acknowledge {spared : EngineError} (verdict : spared.isVerdict = true)
    (applicationId : String) (group : Group) (instanceId : String) (event : ProgressEvent) :
    Spares spared (acknowledge applicationId group instanceId event) := by
  refine spares_tryCatch ?_ fun failure differs => ?_
  · exact spares_bind spares_get fun _ =>
      spares_bind (spares_onStore (CheckIn.spares_applyEvent verdict _ _ _ _ _)) fun _ =>
        spares_pure _
  · split
    · exact spares_throw differs
    · exact spares_pure _

theorem spares_updatePlan (request : Registration) (mode : DeliveryMode) :
    Spares .emptyPlan (updatePlan request mode) :=
  spares_bind (spares_resolveGroup _ _) fun _ => spares_bind spares_get fun _ =>
    spares_bind (spares_onStore (CheckIn.spares_register rfl _ _ _ _)) fun _ =>
      spares_onStore (CheckIn.spares_decide _ _ _ _ _ _)

theorem updatePlan_entries {engine after : Engine} {request : Registration} {mode : DeliveryMode}
    {plan : UpdatePlan} (planned : (updatePlan request mode).perform engine = (.ok plan, after)) :
    plan.entries ≠ [] := by
  obtain ⟨_, _, _, planned⟩ := bind_ok.mp planned
  obtain ⟨_, _, _, planned⟩ := bind_ok.mp planned
  obtain ⟨_, _, _, planned⟩ := bind_ok.mp planned
  obtain ⟨_, decided, -⟩ := onStore_ok.mp planned
  obtain ⟨_, _, _, _, -, -, resolved, rfl⟩ := CheckIn.decide_ok decided
  exact UpdatePlan.entries_nonempty (requiredFloors_more resolved)

theorem spares_updatePackage (request : Registration) :
    Spares .emptyPlan (updatePackage? request) := by
  intro engine
  refine bind_ne_error (spares_updatePlan request .single engine) fun plan after planned => ?_
  obtain ⟨first, rest, entries⟩ := List.exists_cons_of_ne_nil (updatePlan_entries planned)
  rw [UpdatePlan.nextPackage?, entries]
  exact spares_pure _ after

theorem spares_updateOutcome (applicationId : String) (group : Group) (instanceId : String)
    (mode : DeliveryMode) :
    Spares .emptyPlan (updateOutcome applicationId group instanceId mode) := by
  refine spares_tryCatch ?_ fun failure differs => ?_
  · exact spares_bind spares_get fun _ =>
      spares_bind (spares_onStore (CheckIn.spares_decide _ _ _ _ _ _)) fun _ => spares_pure _
  · split
    · exact spares_pure _
    · exact spares_throw differs

theorem spares_conclude (request : CheckInRequest) (applicationId : String) (group : Group)
    (events : List EventAck) :
    Spares .emptyPlan (conclude request applicationId group events) := by
  have answers (update : UpdateOutcome) : Spares .emptyPlan (do
      let installation ← require (.invalidInstance request.instanceId)
        ((← readStore).installation? request.instanceId applicationId)
      pure ({ applicationId, groupId := group.id, events, update, installation } :
        CheckInResponse)) :=
    spares_bind spares_readStore fun _ => spares_bind (spares_require (by simp) _) fun _ =>
      spares_pure _
  unfold conclude
  split
  · exact spares_bind (spares_bind spares_readStore fun _ => spares_require (by simp) _) fun _ =>
      spares_bind (spares_updateOutcome _ _ _ _) answers
  · exact answers .notRequested

theorem spares_checkIn (request : CheckInRequest) : Spares .emptyPlan (checkIn request) := by
  rw [checkIn_eq]
  exact spares_bind (spares_enter (spares_locate request) _) fun _ =>
    spares_bind (spares_mapM (spares_acknowledge rfl _ _ _) _) fun _ => spares_conclude _ _ _ _

end Engine

end FleetRollout

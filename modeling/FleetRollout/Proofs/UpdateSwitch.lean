import FleetRollout.Proofs.Replies
import FleetRollout.Proofs.Service
import FleetRollout.Proofs.Spared

set_option autoImplicit false

/-!
What a request of a client may do to a group. It changes no group but the one it is made for, and
that one in its rollout flag and in its updates switch only. The switch goes off at one place: where
the policy, in safe mode, denies an update because too many have timed out. There, and nowhere
else, a failed rollout is logged.
-/

namespace FleetRollout

open Store FleetRollout.Action

namespace Store

def switch? (store : Store) (groupId : String) : Option Bool :=
  (store.groups.get? groupId).map (·.policy.updatesEnabled)

def failedIn (entries : List ActivityEntry) : List (Option String) :=
  (entries.filter (·.kind = .rolloutFailed)).map (·.groupId)

-- Of the groups only this one was written to. Its updates were switched off, or the switch is as it
-- was; and only in the first case a failed rollout was logged.
structure Turned (groupId : String) (off : Bool) (before after : Store) : Prop where
  keyed : after.groups.KeyedBy Group.id
  others : ∀ id ≠ groupId, after.groups.get? id = before.groups.get? id
  switch : after.switch? groupId = if off then some false else before.switch? groupId
  log : ∃ entries, after.activity = before.activity ++ entries ∧
    failedIn entries = if off then [some groupId] else []

-- The group's switch was left alone, and no failed rollout was logged.
def Steady (groupId : String) (before after : Store) : Prop :=
  before.groups.KeyedBy Group.id → Turned groupId false before after

variable {groupId : String} {before between after : Store}

theorem Turned.of_same (keyed : before.groups.KeyedBy Group.id)
    (groups : after.groups = before.groups) (activity : after.activity = before.activity) :
    Turned groupId false before after where
  keyed := groups ▸ keyed
  others id _ := by rw [groups]
  switch := by rw [switch?, groups]; rfl
  log := ⟨[], by rw [activity, List.append_nil], rfl⟩

theorem Turned.trans {first second : Bool} (head : Turned groupId first before between)
    (tail : Turned groupId second between after) (once : first = false ∨ second = false) :
    Turned groupId (first || second) before after where
  keyed := tail.keyed
  others id other := (tail.others id other).trans (head.others id other)
  switch := by
    rw [tail.switch, head.switch]
    cases second <;> simp
  log := by
    -- Only one of the two steps may have switched the group off, and logged it.
    obtain ⟨earlier, written, failed⟩ := head.log
    obtain ⟨later, writtenLater, failedLater⟩ := tail.log
    refine ⟨earlier ++ later, by rw [writtenLater, written, List.append_assoc], ?_⟩
    have joined : failedIn (earlier ++ later) = failedIn earlier ++ failedIn later := by
      simp [failedIn]
    rw [joined, failed, failedLater]
    rcases once with rfl | rfl <;> simp

instance : IsPreorder Store (Steady groupId) where
  refl _ keyed := .of_same keyed rfl rfl
  trans _ _ _ head tail keyed := (head keyed).trans (tail (head keyed).keyed) (.inl rfl)

theorem steady_of_same (groups : after.groups = before.groups)
    (activity : after.activity = before.activity) : Steady groupId before after :=
  fun keyed => .of_same keyed groups activity

theorem steady_recordActivity (store : Store) {entry : ActivityEntry}
    (other : entry.kind ≠ .rolloutFailed) : Steady groupId store (store.recordActivity entry) :=
  fun keyed => ⟨keyed, fun _ _ => rfl, rfl, [entry], rfl, by simp [failedIn, other]⟩

theorem steady_changeGroup {change : Group → Group}
    (kept : ∀ group, (change group).id = group.id ∧ (change group).policy = group.policy)
    (changed : before.changeGroup groupId change = .ok after) : Steady groupId before after := by
  intro keyed
  obtain ⟨group, found, rfl⟩ := changeGroup_ok changed
  refine ⟨keyed.insert ?_, fun id other => ?_, ?_, [], (List.append_nil _).symm, rfl⟩
  · rw [(kept group).1, keyed groupId group found]
  · rw [Table.get_insert, if_neg (Ne.symm other)]
  · simp [switch?, Table.get_insert, found, (kept group).2]

theorem steady_rewriteRow (store : Store) (key : String) (row changed : Installation) (time : Nat)
    (errorCode : Option String) :
    Steady groupId store (store.rewriteRow key row changed time errorCode) :=
  steady_of_same rfl rfl

end Store

variable {groupId : String}

namespace Journal

theorem steady_record {entry : ActivityEntry} (other : entry.kind ≠ .rolloutFailed) :
    Keeps (Steady groupId) (record entry) :=
  fun store => steady_recordActivity store other

theorem steady_recordOnce (window : Nat) {entry : ActivityEntry}
    (other : entry.kind ≠ .rolloutFailed) : Keeps (Steady groupId) (recordOnce window entry) := by
  refine keeps_bind keeps_get fun store => ?_
  split
  · exact keeps_pure false
  · exact keeps_bind (steady_record other) fun _ => keeps_pure true

theorem steady_packageNotFound (window : Nat) (group : Group) (now : Nat) :
    Keeps (Steady groupId) (packageNotFound window group now) :=
  keeps_bind (steady_recordOnce window (by simp [Group.milestone])) fun _ => keeps_pure _

theorem steady_setRollout (inProgress : Bool) :
    Keeps (Steady groupId) (commitOnly fun store => store.setRollout groupId inProgress) :=
  keeps_commitOnly fun _ _ => steady_changeGroup fun _ => ⟨rfl, rfl⟩

theorem steady_rolloutStarted (window : Nat) (group : Group) (version : String) (now : Nat) :
    Keeps (Steady group.id) (rolloutStarted window group version now) := by
  refine keeps_bind (steady_recordOnce window (by simp [Group.milestone])) fun _ => ?_
  split
  · exact keeps_pure _
  · exact steady_setRollout true

theorem steady_settleRollout (group : Group) (version : String) (now : Nat) :
    Keeps (Steady group.id) (settleRollout group version now) := by
  refine keeps_bind keeps_get fun store => ?_
  split
  · exact keeps_bind (steady_setRollout false) fun _ =>
      keeps_bind (steady_record (by simp [Group.milestone])) fun _ => keeps_pure true
  · exact keeps_pure false

end Journal

namespace CheckIn

theorem steady_changeInstallation (instanceId applicationId : String) (time : Nat)
    (errorCode : Option String) (change : Installation → Installation) :
    Keeps (Steady groupId) (commit fun store =>
      store.changeInstallation instanceId applicationId time errorCode change) := by
  refine keeps_commit fun store answer after changed => ?_
  obtain ⟨row, -, -, rfl⟩ := changeInstallation_ok changed
  exact steady_rewriteRow store _ row _ time errorCode

theorem steady_register (now : Nat) (request : Registration) (applicationId groupOf : String) :
    Keeps (Steady groupId) (register now request applicationId groupOf) := by
  intro store
  rcases register_cases now request applicationId groupOf store with
    ⟨_, -, refused⟩ | ⟨_, written, -, -, accepted⟩
  · rw [refused]
    exact refl_of (Steady groupId) store
  · rw [accepted]
    exact steady_of_same (recordCheckIn_groups store written _) (by cases written <;> rfl)

theorem steady_settleGroup (groupId version : String) (now : Nat) :
    Keeps (Steady groupId) (settleGroup groupId version now) := by
  intro store keyed
  cases found : store.groups.get? groupId with
  | none =>
    rw [settleGroup, perform_bind_error (perform_requireGroup_missing found)]
    exact refl_of (Steady groupId) store keyed
  | some group =>
    -- It is the group of the id that is settled, for its row lies under its own id.
    obtain rfl := keyed groupId group found
    rw [settleGroup, perform_bind_ok (perform_requireGroup found)]
    exact keeps_bind (Journal.steady_settleRollout group version now) (fun _ => keeps_pure ())
      store keyed

theorem steady_closeGrant (row : Installation) (group : Group) (version : String) (now : Nat) :
    Keeps (Steady group.id) (closeGrant row group version now) :=
  keeps_bind (steady_changeInstallation _ _ _ _ _) fun _ => steady_settleGroup _ _ _

theorem steady_planFor (config : EngineConfig) (channel : Channel) (target : Package)
    (version : String) : Keeps (Steady groupId) (planFor config channel target version) :=
  keeps_bind keeps_get fun _ => keeps_bind (keeps_ofExcept _) fun _ => keeps_pure _

theorem steady_afterEvent (now : Nat) (group : Group) (instanceId : String) (row : Installation)
    (next : Status) : Keeps (Steady group.id) (afterEvent now group instanceId row next) := by
  cases next
  case complete =>
    refine keeps_bind keeps_get fun store => ?_
    split
    · exact keeps_pure ()
    · exact steady_settleGroup _ _ _
  case error => exact Journal.steady_record (by simp [Group.milestone])
  all_goals exact keeps_pure ()

theorem steady_applyEvent (now : Nat) (applicationId : String) (group : Group)
    (instanceId : String) (event : ProgressEvent) :
    Keeps (Steady group.id) (applyEvent now applicationId group instanceId event) := by
  refine keeps_bind (keeps_ofExcept _) fun next => keeps_bind keeps_get fun store =>
    keeps_bind (keeps_require _ _) fun row => keeps_bind (keeps_composes.check _ _) fun _ =>
      keeps_bind (keeps_composes.check _ _) fun _ => ?_
  split
  · exact keeps_pure none
  · split
    · exact keeps_pure none
    · exact keeps_bind (steady_changeInstallation _ _ _ _ _) fun _ =>
        keeps_bind (steady_afterEvent _ _ _ _ _) fun _ => keeps_pure _

end CheckIn

theorem Policy.enabled_of_isOpen {policy : Policy} {now : Nat}
    (opened : policy.isOpen now = .ok true) : policy.updatesEnabled = true := by
  cases enabled : policy.updatesEnabled with
  | true => rfl
  | false => simp [isOpen, enabled] at opened

theorem Policy.safe_of_refusal {policy : Policy} {counters : UpdateCounters}
    (refused : policy.refusal? counters = some .timeoutLimitReached) : policy.safeMode = true := by
  cases safe : policy.safeMode with
  | true => rfl
  | false =>
    unfold refusal? at refused
    simp only [safe, Bool.false_and, Bool.false_eq_true, if_false] at refused
    split at refused
    · simp at refused
    · split at refused <;> simp at refused

def Store.switchOff (store : Store) (group : Group) : Store :=
  { store with
    groups := store.groups.insert group.id
      { group with policy := { group.policy with updatesEnabled := false } } }

theorem enforcePolicy_cases {group : Group} {store : Store}
    (stored : store.groups.get? group.id = some group) (version : String) (now : Nat) :
    (∃ result, (enforcePolicy group version now).perform store = (result, store) ∧
      result ≠ .error (.denied .timeoutLimitReached)) ∨
    (enforcePolicy group version now).perform store =
        (.error (.denied .timeoutLimitReached), store.switchOff group) ∧
      group.policy.safeMode = true ∧ group.policy.updatesEnabled = true := by
  have known : group.policy.isOpen now ≠ .error (.denied .timeoutLimitReached) :=
    CheckIn.isOpen_error rfl _ _
  cases opened : group.policy.isOpen now with
  | error error =>
    rw [opened] at known
    refine .inl ⟨.error error, ?_, by simpa using known⟩
    rw [enforcePolicy, opened]
    rfl
  | ok isOpen =>
    rw [enforcePolicy, opened, perform_bind_ok (perform_ofExcept _ _)]
    cases isOpen with
    | false => exact .inl ⟨_, rfl, by simp⟩
    | true =>
      cases counts : group.policy.needsCounters with
      | false => exact .inl ⟨.ok (), rfl, by simp⟩
      | true =>
        simp only [if_true]
        rw [perform_bind_ok (perform_get store)]
        cases refused : group.policy.refusal?
            (store.updateCounters (group.counterQuery version now)) with
        | none => exact .inl ⟨.ok (), rfl, by simp⟩
        | some denial =>
          -- Of all denials only this one writes before it is given.
          by_cases timedOut : denial = .timeoutLimitReached
          · subst timedOut
            refine .inr ⟨?_, Policy.safe_of_refusal refused, Policy.enabled_of_isOpen opened⟩
            exact perform_bind_ok (Journal.perform_changeGroup stored _) _
          · refine .inl ⟨.error (.denied denial), ?_, by simpa using timedOut⟩
            cases denial <;> first | rfl | exact absurd rfl timedOut

def denialOf {α : Type} : Except EngineError α → Option Denial
  | .ok _ => none
  | .error error => error.denial?

theorem denialOf_eq {α : Type} {result : Except EngineError α} {denial : Denial} :
    denialOf result = some denial ↔ result = .error (.denied denial) := by
  cases result with
  | ok value => simp [denialOf]
  | error error => cases error <;> simp [denialOf, EngineError.denial?]

/-- The group was switched off where an update was asked for and denied because of those that timed
out, in safe mode, and else it was not. -/
structure Switching (group : Group) (asks : Bool) (before : Store) (denied : Option Denial)
    (after : Store) : Prop where
  turned : Turned group.id (denied = some .timeoutLimitReached) before after
  justified : denied = some .timeoutLimitReached →
    asks = true ∧ group.policy.safeMode = true ∧ group.policy.updatesEnabled = true

namespace Switching

variable {group : Group} {asks : Bool} {store after : Store} {denied : Option Denial}

theorem of_steady (turned : Turned group.id false store after)
    (other : denied ≠ some .timeoutLimitReached) : Switching group asks store denied after := by
  refine ⟨?_, fun same => absurd same other⟩
  simpa [other] using turned

theorem of_action {α : Type} {action : Action Store α} (keyed : store.groups.KeyedBy Group.id)
    (steady : Keeps (Steady group.id) action)
    (spares : Spares (.denied .timeoutLimitReached) action) :
    Switching group asks store (denialOf (action.perform store).1) (action.perform store).2 :=
  .of_steady (steady store keyed) (mt denialOf_eq.mp (spares store))

theorem after_steady {between : Store} {current : Group}
    (stored : store.groups.get? group.id = some group)
    (head : Turned group.id false store between) (same : SameCatalog store between)
    (known : between.groups.get? group.id = some current)
    (tail : Switching current asks between denied after) :
    Switching group asks store denied after := by
  have own : current.id = group.id := head.keyed _ current known
  obtain ⟨later, found, setup⟩ := same.group_after stored
  obtain rfl : current = later := Option.some.inj (known.symm.trans found)
  have turned := tail.turned
  rw [own] at turned
  refine ⟨by simpa using head.trans turned (.inl rfl), fun timedOut => ?_⟩
  obtain ⟨asked, safe, enabled⟩ := tail.justified timedOut
  have switch := head.switch
  simp only [switch?, known, stored, Option.map_some, Bool.false_eq_true, if_false,
    Option.some.injEq] at switch
  have safeMode : current.policy.safeMode = group.policy.safeMode :=
    congrArg (·.policy.safeMode) setup
  exact ⟨asked, safeMode ▸ safe, switch ▸ enabled⟩

end Switching

variable {group : Group} {store : Store}

namespace CheckIn

variable {row : Installation}

theorem steady_holdIfDenied {error : EngineError} (other : error ≠ .denied .timeoutLimitReached)
    (version : String) (now : Nat) :
    Keeps (Steady group.id) (holdIfDenied row group version now error) := by
  unfold holdIfDenied
  cases error with
  | denied denial =>
    refine keeps_bind (steady_changeInstallation _ _ _ _ _) fun _ => ?_
    rw [if_neg (by simpa using other)]
    exact keeps_pure ()
  | _ => exact keeps_pure ()

theorem perform_holdIfDenied (group : Group)
    (found : store.installations.get? row.key = some row)
    (version : String) (now : Nat) :
    (holdIfDenied row group version now (.denied .timeoutLimitReached)).perform store =
      (.ok (), (store.rewriteRow row.key row (row.moved .onHold) now none).recordActivity
        (group.milestone .rolloutFailed .error version now)) := by
  simp only [holdIfDenied, EngineError.denial?]
  rw [perform_bind_ok (perform_transition found .onHold none now)]
  rfl

theorem turned_switchOff (keyed : store.groups.KeyedBy Group.id) (row : Installation) (now : Nat)
    (version : String) :
    Turned group.id true store
      (((store.switchOff group).rewriteRow row.key row (row.moved .onHold) now none).recordActivity
        (group.milestone .rolloutFailed .error version now)) where
  keyed := keyed.insert rfl
  others id other := by
    simp [recordActivity, rewriteRow, switchOff, Table.get_insert, Ne.symm other]
  switch := by
    simp [switch?, recordActivity, rewriteRow, switchOff, Table.get_insert]
  log := ⟨[_], rfl, by simp [failedIn, Group.milestone]⟩

def handOut (config : EngineConfig) (now : Nat) (row : Installation) (group : Group)
    (channel : Channel) (target : Package) (mode : DeliveryMode) : Action Store UpdatePlan := do
  let plan ← planFor config channel target row.version
  let delivered ← Action.require .emptyPlan (plan.finalPackage? mode)
  let _ ← Action.commit fun store =>
    store.grant (row.grantOf delivered.version target.version now)
  Journal.rolloutStarted config.dedupeSeconds group target.version now
  pure plan

theorem grantUpdate_eq (config : EngineConfig) (now : Nat) (row : Installation) (group : Group)
    (channel : Channel) (target : Package) (mode : DeliveryMode) :
    grantUpdate config now row group channel target mode = (do
      tryCatch (enforcePolicy group target.version now) fun error => do
        holdIfDenied row group target.version now error
        throw error
      handOut config now row group channel target mode) := rfl

theorem steady_handOut (config : EngineConfig) (now : Nat) (row : Installation) (group : Group)
    (channel : Channel) (target : Package) (mode : DeliveryMode) :
    Keeps (Steady group.id) (handOut config now row group channel target mode) :=
  keeps_bind (steady_planFor _ _ _ _) fun _ => keeps_bind (keeps_require _ _) fun _ =>
    keeps_bind (steady_changeInstallation _ _ _ _ _) fun _ =>
      keeps_bind (Journal.steady_rolloutStarted _ _ _ _) fun _ => keeps_pure _

theorem spares_handOut (config : EngineConfig) (now : Nat) (row : Installation) (group : Group)
    (channel : Channel) (target : Package) (mode : DeliveryMode) :
    Spares (.denied .timeoutLimitReached)
      (handOut config now row group channel target mode) :=
  spares_bind (spares_planFor rfl _ _ _ _) fun _ =>
    spares_bind (spares_require (by simp) _) fun _ =>
      spares_bind (spares_write rfl _) fun _ =>
        spares_bind (spares_rolloutStarted rfl _ _ _ _) fun _ => spares_pure _

theorem grantUpdate_switching (config : EngineConfig) (now : Nat) (channel : Channel)
    (target : Package) (mode : DeliveryMode) (keyed : store.groups.KeyedBy Group.id)
    (stored : store.groups.get? group.id = some group)
    (found : store.installations.get? row.key = some row) :
    Switching group true store
      (denialOf ((grantUpdate config now row group channel target mode).perform store).1)
      ((grantUpdate config now row group channel target mode).perform store).2 := by
  rw [grantUpdate_eq]
  have handsOut := steady_handOut config now row group channel target mode
  have sparing := spares_handOut config now row group channel target mode
  rcases enforcePolicy_cases stored target.version now with
    ⟨error | _, enforced, other⟩ | ⟨enforced, safe, enabled⟩
  · -- Another denial, or an error: the installation may be put on hold, and that is all.
    have other : error ≠ .denied .timeoutLimitReached := by simpa using other
    have handled := perform_tryCatch (enforcePolicy group target.version now) (fun error => do
      holdIfDenied row group target.version now error
      throw error) store
    rw [enforced] at handled
    rw [perform_bind, handled, ← perform_bind]
    refine .of_action keyed ?_ ?_
    · exact keeps_bind (keeps_bind (steady_holdIfDenied other _ _) fun _ => keeps_throw _) fun _ =>
        handsOut
    · exact spares_bind (spares_bind (spares_holdIfDenied rfl _ _ _ _ _) fun _ =>
        spares_throw other) fun _ => sparing
  · have handled : perform (tryCatch (enforcePolicy group target.version now) fun error => do
        holdIfDenied row group target.version now error
        throw error) store = (.ok (), store) := by
      rw [perform_tryCatch, enforced]
    rw [perform_bind_ok handled]
    exact .of_action keyed handsOut sparing
  · -- The switch is off by now; the hold leaves the groups alone, the failure is logged last.
    have handled := perform_tryCatch (enforcePolicy group target.version now) (fun error => do
      holdIfDenied row group target.version now error
      throw error) store
    rw [enforced] at handled
    dsimp only at handled
    have still : (store.switchOff group).installations.get? row.key = some row := found
    have held := perform_holdIfDenied group still target.version now
    rw [perform_bind_ok held, perform_throw] at handled
    rw [perform_bind_error handled]
    refine ⟨?_, fun _ => ⟨rfl, safe, enabled⟩⟩
    simpa [denialOf, EngineError.denial?] using turned_switchOff keyed row now target.version

theorem decide_switching (config : EngineConfig) (now : Nat) (applicationId instanceId : String)
    (mode : DeliveryMode) (keyed : store.Keyed)
    (stored : store.groups.get? group.id = some group) :
    let decision := (decide config now applicationId group instanceId mode).perform store
    Switching group true store (denialOf decision.1) decision.2 := by
  intro decision
  cases found : store.installation? instanceId applicationId with
  | none =>
    have unknown : decision = (.error (.invalidInstance instanceId), store) := by
      simp only [decision]
      rw [decide, perform_bind_ok (perform_get store), found]
      rfl
    rw [unknown]
    exact .of_steady (.of_same keyed.groups rfl rfl) (by simp [denialOf, EngineError.denial?])
  | some row =>
    obtain ⟨branch, taken, same⟩ :=
      decide_branch config now applicationId group instanceId mode found
    simp only [decision, same]
    cases taken with
    | inFlight | upToDate =>
      exact .of_action keyed.groups (keeps_throw _) (spares_throw (by simp))
    | unfound =>
      exact .of_action keyed.groups
        (keeps_bind (Journal.steady_packageNotFound _ _ _) fun _ => keeps_throw _)
        (spares_bind (spares_packageNotFound _ _ _) fun _ => spares_throw (by simp))
    | closed version =>
      exact .of_action keyed.groups
        (keeps_bind (steady_closeGrant _ _ _ _) fun _ => keeps_throw _)
        (spares_bind (spares_closeGrant rfl _ _ _ _) fun _ => spares_throw (by simp))
    | redelivered =>
      exact .of_action keyed.groups (steady_planFor _ _ _ _) (spares_planFor rfl _ _ _ _)
    | granted channel target =>
      have own : store.installations.get? row.key = some row := by
        rwa [keyed.installations _ row found]
      exact grantUpdate_switching config now channel target mode keyed.groups stored own

end CheckIn

def UpdateOutcome.denial? : UpdateOutcome → Option Denial
  | .noUpdate reason => some reason
  | _ => none

-- To a check-in a denial is part of the answer.
def CheckInResponse.denialIn : Except EngineError CheckInResponse → Option Denial
  | .ok response => response.update.denial?
  | .error error => error.denial?

namespace Operation

def denial? : (operation : Operation) → Except EngineError operation.Answer → Option Denial
  | .checkIn _, answer => CheckInResponse.denialIn answer
  | _, answer => denialOf answer

def asksForUpdate : Operation → Bool
  | .updatePlan _ _ | .nextPackage _ => true
  | .checkIn request => request.updateCheck
  | _ => false

end Operation

namespace Engine

variable {engine after : Engine}

theorem onStore_switching {α : Type} {asks : Bool} {action : Action Store α}
    {answer : Except EngineError α} (keyed : engine.store.groups.KeyedBy Group.id)
    (steady : Keeps (Steady group.id) action)
    (spares : Spares (.denied .timeoutLimitReached) action)
    (performed : (onStore action).perform engine = (answer, after)) :
    Switching group asks engine.store (denialOf answer) after.store := by
  rw [perform_onStore, Prod.mk.injEq] at performed
  obtain ⟨rfl, rfl⟩ := performed
  exact .of_action keyed steady spares

theorem enrol_switching {request : Registration} {applicationId : String}
    {answer : Except EngineError InstanceRecord} (keyed : engine.store.Keyed)
    (enrolled : (enrol request (applicationId, group)).perform engine = (answer, after)) :
    Switching group false engine.store (denialOf answer) after.store := by
  rw [enrol, perform_bind_ok (perform_get engine)] at enrolled
  exact onStore_switching keyed.groups (CheckIn.steady_register _ _ _ _)
    (CheckIn.spares_register rfl _ _ _ _) enrolled

theorem progress_switching {report : EventReport} {applicationId : String}
    {answer : Except EngineError (Option Status)} (keyed : engine.store.Keyed)
    (progressed : (progress report (applicationId, group)).perform engine = (answer, after)) :
    Switching group false engine.store (denialOf answer) after.store := by
  rw [progress, perform_bind_ok (perform_get engine)] at progressed
  exact onStore_switching keyed.groups (CheckIn.steady_applyEvent _ _ _ _ _)
    (CheckIn.spares_applyEvent rfl _ _ _ _ _) progressed

theorem register_switching {α : Type} {asks : Bool} {now : Nat} {request : Registration}
    {applicationId : String} {next : InstanceRecord → Action Engine α}
    {answer : Except EngineError α} (keyed : engine.store.Keyed)
    (stored : engine.store.groups.get? group.id = some group)
    (performed : perform
      (onStore (CheckIn.register now request applicationId group.id) >>= next) engine =
        (answer, after)) {denied : Option Denial}
    (refused : ∀ error, answer = .error error → denied = error.denial?)
    (served : ∀ record entered, entered.store.Keyed →
      entered.store.groups.get? group.id = some group →
      (next record).perform entered = (answer, after) →
        Switching group asks entered.store denied after.store) :
    Switching group asks engine.store denied after.store := by
  have keyedNext := CheckIn.keyed_register now request applicationId group.id engine.store keyed
  rcases CheckIn.register_cases now request applicationId group.id engine.store with
    ⟨error, named, failed⟩ | ⟨machine, written, -, -, accepted⟩
  · -- Not recorded; none of the three errors is a denial.
    have undenied : error.denial? = none := by
      simp only [List.mem_cons, List.not_mem_nil, or_false] at named
      rcases named with rfl | rfl | rfl <;> rfl
    rw [perform_bind_error (by rw [perform_onStore, failed]), Prod.mk.injEq] at performed
    obtain ⟨answered, rfl⟩ := performed
    rw [refused error answered.symm, undenied]
    exact .of_steady (.of_same keyed.groups rfl rfl) nofun
  · rw [accepted] at keyedNext
    have groups := recordCheckIn_groups engine.store written
      (request.sighting applicationId group.id now)
    have known := groups ▸ stored
    rw [perform_bind_ok (by rw [perform_onStore, accepted])] at performed
    refine .after_steady stored (.of_same keyed.groups groups ?_)
      (recordCheckIn_sameCatalog _ _ _) known (served _ _ keyedNext known performed)
    cases written <;> rfl

theorem plan_switching {request : Registration} {mode : DeliveryMode} {applicationId : String}
    {answer : Except EngineError UpdatePlan} (keyed : engine.store.Keyed)
    (stored : engine.store.groups.get? group.id = some group)
    (planned : (plan request mode (applicationId, group)).perform engine = (answer, after)) :
    Switching group true engine.store (denialOf answer) after.store := by
  rw [plan, perform_bind_ok (perform_get engine)] at planned
  refine register_switching keyed stored planned (fun error failed => by rw [failed]; rfl)
    fun _ entered keyed stored decided => ?_
  rw [perform_onStore, Prod.mk.injEq] at decided
  obtain ⟨rfl, rfl⟩ := decided
  exact CheckIn.decide_switching _ _ _ _ _ keyed stored

theorem nextOf_switching {request : Registration} {applicationId : String}
    {answer : Except EngineError Package} (keyed : engine.store.Keyed)
    (stored : engine.store.groups.get? group.id = some group)
    (named : (nextOf request (applicationId, group)).perform engine = (answer, after)) :
    Switching group true engine.store (denialOf answer) after.store := by
  unfold nextOf at named
  rcases planned : (plan request .single (applicationId, group)).perform engine with
    ⟨error | updatePlan, between⟩
  · rw [perform_bind_error planned] at named
    cases named
    exact plan_switching keyed stored planned
  · -- Whether the plan names a package or not, it is not denied any more.
    rw [perform_bind_ok planned] at named
    cases first : updatePlan.nextPackage? <;> rw [first] at named <;> cases named
    all_goals exact plan_switching keyed stored planned

theorem decide_remains {config : EngineConfig} {now : Nat} {applicationId instanceId : String}
    {mode : DeliveryMode} {store after : Store} {denial : Denial} (keyed : store.Keyed)
    (denied : (CheckIn.decide config now applicationId group instanceId mode).perform store =
      (.error (.denied denial), after)) :
    ∃ row, after.installation? instanceId applicationId = some row := by
  cases found : store.installation? instanceId applicationId with
  | none =>
    rw [CheckIn.decide, perform_bind_ok (perform_get store), found] at denied
    cases denied
  | some row =>
    have decision := CheckIn.decide_cases config now applicationId group instanceId mode found
      (keyed.installations _ row found)
    rw [denied] at decision
    exact Option.isSome_iff_exists.mp (decision.remains (Option.isSome_of_eq_some found))

theorem conclude_denial {request : CheckInRequest} (asked : request.updateCheck = true)
    {applicationId : String} {current : Group} {acks : List EventAck}
    {answer : Except EngineError CheckInResponse} (keyed : engine.store.Keyed)
    (stored : engine.store.groups.get? group.id = some current)
    (concluded : (conclude request applicationId group acks).perform engine = (answer, after)) :
    let decided := (CheckIn.decide engine.config engine.now applicationId current
      request.instanceId (modeOf request)).perform engine.store
    after.store = decided.2 ∧ CheckInResponse.denialIn answer = denialOf decided.1 := by
  intro decided
  simp only [conclude, asked, if_true] at concluded
  rw [perform_bind_ok (perform_requireGroup stored)] at concluded
  rcases result : decided with ⟨error | updatePlan, store⟩
  · cases denied : error.denial? with
    | none =>
      rw [perform_bind_error (updateOutcome_failed result denied)] at concluded
      cases concluded
      exact ⟨rfl, rfl⟩
    | some denial =>
      have verdict : denialOf (.error error : Except EngineError UpdatePlan) = some denial := denied
      obtain rfl := Except.error.inj (denialOf_eq.mp verdict)
      -- A denial is answered, not thrown, once the installation is found again.
      obtain ⟨row, found⟩ := decide_remains keyed result
      rw [perform_bind_ok (updateOutcome_denied result), perform_bind_ok (perform_readStore _),
        perform_bind_ok (require_ok.mpr ⟨found, rfl⟩)] at concluded
      cases concluded
      exact ⟨rfl, rfl⟩
  · rw [perform_bind_ok (updateOutcome_planned result),
      perform_bind_ok (perform_readStore _)] at concluded
    cases found : store.installation? request.instanceId applicationId <;>
      simp only [found, require] at concluded <;> cases concluded
    all_goals exact ⟨rfl, rfl⟩

theorem conclude_switching {request : CheckInRequest} {applicationId : String} {current : Group}
    {acks : List EventAck} {answer : Except EngineError CheckInResponse}
    (keyed : engine.store.Keyed)
    (stored : engine.store.groups.get? group.id = some current)
    (concluded : (conclude request applicationId group acks).perform engine = (answer, after)) :
    Switching current request.updateCheck engine.store (CheckInResponse.denialIn answer)
      after.store := by
  cases asked : request.updateCheck with
  | false =>
    simp only [conclude, asked, Bool.false_eq_true, if_false, pure_bind] at concluded
    rw [perform_bind_ok (perform_readStore engine)] at concluded
    cases found : engine.store.installation? request.instanceId applicationId <;>
      rw [found] at concluded <;> cases concluded
    all_goals
      refine .of_steady (.of_same keyed.groups rfl rfl) ?_
      simp [CheckInResponse.denialIn, UpdateOutcome.denial?, EngineError.denial?]
  | true =>
    obtain ⟨state, denied⟩ := conclude_denial asked keyed stored concluded
    have own : engine.store.groups.get? current.id = some current := by
      rwa [keyed.groups _ current stored]
    rw [state, denied]
    exact CheckIn.decide_switching _ _ _ _ _ keyed own

theorem attend_switching {request : CheckInRequest} {applicationId : String}
    {answer : Except EngineError CheckInResponse} (keyed : engine.store.Keyed)
    (stored : engine.store.groups.get? group.id = some group)
    (attended : (attend request applicationId group).perform engine = (answer, after)) :
    Switching group request.updateCheck engine.store (CheckInResponse.denialIn answer)
      after.store := by
  rw [attend, perform_bind_ok (perform_get engine)] at attended
  refine register_switching keyed stored attended (fun error failed => by rw [failed]; rfl)
    fun _ entered keyed stored attended => ?_
  -- Then come the events, which may lower the group's rollout flag, and nothing else of it.
  have turned := (keeps_reading.events (fun now event => keeps_onStore
    (CheckIn.steady_applyEvent now applicationId group request.instanceId event)) request.events
      entered).store keyed.groups
  have keyedNext := (keeps_reading.events (fun now event => keeps_onStore
    (CheckIn.keyed_applyEvent now applicationId group request.instanceId event)) request.events
      entered).store keyed
  have same := (keeps_reading.events (fun now event => keeps_onStore
    (CheckIn.keeps_applyEvent now applicationId group request.instanceId event)) request.events
      entered).store
  have spares : Spares (.denied .timeoutLimitReached)
      (request.events.mapM (acknowledge applicationId group request.instanceId)) :=
    spares_mapM (spares_acknowledge rfl _ _ _) _
  have spares := spares entered
  rcases applied : (request.events.mapM (acknowledge applicationId group
    request.instanceId)).perform entered with ⟨error | acks, between⟩
  all_goals rw [applied] at turned keyedNext same spares
  · rw [perform_bind_error applied] at attended
    cases attended
    refine .of_steady turned fun denied => spares ?_
    exact denialOf_eq.mp denied
  · obtain ⟨current, known, -⟩ := same.group_after stored
    rw [perform_bind_ok applied] at attended
    exact .after_steady stored turned same known (conclude_switching keyedNext known attended)

end Engine

namespace Operation

variable {engine after : Engine} {operation : Operation}

theorem serve_switching (serves : operation.isRequest = true) {applicationId : String}
    {answer : Except EngineError operation.Answer} (keyed : engine.store.Keyed)
    (stored : engine.store.groups.get? group.id = some group)
    (served : (operation.serve (applicationId, group)).perform engine = (answer, after)) :
    Switching group operation.asksForUpdate engine.store (operation.denial? answer)
      after.store := by
  cases operation with
  | registerInstance request => exact Engine.enrol_switching keyed served
  | updatePlan request mode => exact Engine.plan_switching keyed stored served
  | nextPackage request => exact Engine.nextOf_switching keyed stored served
  | registerEvent report => exact Engine.progress_switching keyed served
  | checkIn request => exact Engine.attend_switching keyed stored served
  | _ => simp [isRequest] at serves

theorem request_switching (serves : operation.isRequest = true) (keyed : engine.store.Keyed)
    {applicationId : String}
    (located : (operation.locator.perform engine).1 = .ok (applicationId, group)) :
    Switching group operation.asksForUpdate engine.store
      (operation.denial? (operation.action.perform engine).1) (operation.run engine).store := by
  rcases request_cases serves engine with ⟨error, refused, undenied, directory, same⟩ |
    ⟨found, directory, place, served⟩
  · -- Refused before it is served, with nothing written.
    have unanswered : operation.denial? (.error error) = none := by
      cases operation <;> exact undenied
    rw [refused, same, unanswered]
    exact .of_steady (.of_same keyed.groups rfl rfl) (by simp)
  · have stored := located_stored keyed located
    rw [place] at located
    obtain rfl := Except.ok.inj located
    rw [run, served]
    generalize begun : ({ engine with directory } : Engine) = start
    have same : start.store = engine.store := by rw [← begun]
    rw [← same] at keyed stored ⊢
    exact serve_switching serves keyed stored rfl

end Operation

/--
Requests of clients leave the catalog alone, but for the group that a request is made for: its
rollout flag may change, and its updates may be switched off. They are where the request is denied
an update, in safe mode, because too many timed out, and nowhere else; there one failed rollout is
logged.
-/
theorem request_frame {engine : Engine} (keyed : engine.store.Keyed) {operation : Operation}
    (serves : operation.isRequest = true) :
    let before := engine.store
    let after := (operation.run engine).store
    let timedOut : Prop := operation.denial? (operation.action.perform engine).1 =
      some .timeoutLimitReached
    SameCatalog before after ∧ (timedOut → operation.asksForUpdate = true) ∧
    ∃ entries, after.activity = before.activity ++ entries ∧
      ((∀ found, (operation.locator.perform engine).1 ≠ .ok found) →
        after.groups = before.groups ∧ entries = []) ∧
      ∀ applicationId group, (operation.locator.perform engine).1 = .ok (applicationId, group) →
        before.groups.get? group.id = some group ∧
        (∀ id ≠ group.id, after.groups.get? id = before.groups.get? id) ∧
        (∃ rolloutInProgress updatesEnabled,
          after.groups.get? group.id =
            some { group with
              rolloutInProgress
              policy := { group.policy with updatesEnabled } } ∧
          (updatesEnabled = true → group.policy.updatesEnabled = true) ∧
          (updatesEnabled ≠ group.policy.updatesEnabled ↔
            timedOut ∧ group.policy.safeMode = true)) ∧
        failedIn entries =
          if timedOut ∧ group.policy.safeMode = true then [some group.id] else [] := by
  intro before after timedOut
  have same := (Operation.run_serves Engine.sameCatalog_keptByStages.parts serves engine).store
  refine ⟨same, ?_⟩
  rcases located : (operation.locator.perform engine).1 with error | ⟨applicationId, group⟩
  · rcases Operation.request_cases serves engine with
      ⟨_, refused, undenied, _, state⟩ | ⟨_, _, place, -⟩
    · have plain : ¬ timedOut := by
        simp only [timedOut, refused]
        cases operation <;> simp [Operation.denial?, denialOf, CheckInResponse.denialIn, undenied]
      have untouched : after = before := (congrArg Engine.store state).trans rfl
      rw [untouched]
      exact ⟨fun denied => absurd denied plain, [], (List.append_nil _).symm,
        fun _ => ⟨rfl, rfl⟩, nofun⟩
    · rw [place] at located
      cases located
  · have stored := Operation.located_stored keyed located
    obtain ⟨turned, justified⟩ := Operation.request_switching serves keyed located
    obtain ⟨entries, written, failed⟩ := turned.log
    refine ⟨fun denied => (justified denied).1, entries, written,
      fun missing => absurd rfl (missing _), ?_⟩
    rintro _ _ ⟨⟩
    obtain ⟨later, found, setup⟩ := same.group_after stored
    have switch := turned.switch
    rw [switch?, switch?, found, stored] at switch
    refine ⟨stored, turned.others, ⟨later.rolloutInProgress, later.policy.updatesEnabled,
      by rw [← Group.eq_of_setup setup, found], ?_⟩, ?_⟩
    all_goals
      by_cases denied : timedOut
      · obtain ⟨-, safe, enabled⟩ := justified denied
        simp_all [timedOut]
      · simp_all [timedOut]

-- The first instance of a group is granted an update and never heard of again.
def Operation.oneTimesOut : List Operation :=
  smallCatalog ++ [.updatePlan .firstContact .single, .advance 7200]

theorem request_frame_timedOut :
    let engine := Operation.runAll {} Operation.oneTimesOut
    let request : Operation := .checkIn
      { instanceId := "other", ip := "10.0.0.2", version := "1.0.0", applicationId := "agent"
        track := "fleet", architecture := "amd64" }
    engine.store.Keyed ∧ request.isRequest = true ∧
      engine.store.switch? "fleet" = some true ∧
      (request.run engine).store.switch? "fleet" = some false ∧
      ∃ entries, (request.run engine).store.activity = engine.store.activity ++ entries ∧
        failedIn entries = [some "fleet"] := by
  intro engine request
  have keyed : engine.store.Keyed := Operation.runAll_keyed _ keyed_empty
  obtain ⟨group, located, own⟩ : ∃ group,
      (request.locator.perform engine).1 = .ok ("agent", group) ∧ group.id = "fleet" :=
    UpdateRequest.located_of_ids (by decide +kernel)
  have denied : request.denial? (request.action.perform engine).1 = some .timeoutLimitReached := by
    decide +kernel
  obtain ⟨-, -, entries, written, -, frame⟩ :=
    request_frame keyed (show request.isRequest = true from rfl)
  obtain ⟨stored, -, ⟨_, updatesEnabled, found, once, switched⟩, failed⟩ :=
    frame "agent" group located
  have settings : (engine.store.groups.get? "fleet").map (fun group =>
      (group.policy.safeMode, group.policy.updatesEnabled)) = some (true, true) := by
    decide +kernel
  rw [← own, stored, Option.map_some, Option.some.injEq, Prod.mk.injEq] at settings
  obtain ⟨safe, enabled⟩ := settings
  have changed := switched.mpr ⟨denied, safe⟩
  refine ⟨keyed, rfl, ?_, ?_, entries, written, ?_⟩
  · rw [switch?, ← own, stored, Option.map_some, enabled]
  · rw [switch?, ← own, found, Option.map_some]
    simpa [enabled] using changed
  · rw [failed, if_pos ⟨denied, safe⟩, own]

end FleetRollout

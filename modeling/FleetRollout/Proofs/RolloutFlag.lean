import FleetRollout.Proofs.Canary
import FleetRollout.Proofs.Lifecycle

set_option autoImplicit false

/-!
The rollout flag of a group. Only a fresh grant raises it, and only the end of the rollout lowers
it, with one entry in the log. As long as the target stays the same, the flag is up while anybody
of the fleet is on the way to the target: a grant towards it raises the flag, and the rollout is
not closed before everybody who was granted the target has ended.
-/

namespace FleetRollout

open Store FleetRollout.Action

def ActivityEntry.finishes (groupId : String) (entry : ActivityEntry) : Bool :=
  entry.kind = .rolloutFinished && entry.groupId = some groupId

-- Who of the group, synthetic or not, is granted an update in the step.
def Step.freshGrants (step : Step) (groupId : String) : List Installation :=
  (step.after.store.installationsOf groupId).filter fun row =>
    row.status = .updateGranted &&
      (step.before.store.installations.get? row.key).all (·.status ≠ .updateGranted)

-- The log has grown, by that many ends of the group's rollout among others.
def Store.Finishes (groupId : String) (count : Nat) (before after : Store) : Prop :=
  ∃ entries, after.activity = before.activity ++ entries ∧
    entries.countP (ActivityEntry.finishes groupId) = count

/-- The operation deletes the record of the group, or writes a new one over it. -/
def Operation.remakesGroup (groupId : String) (engine : Engine) (operation : Operation) : Bool :=
  operation.makesGroups && engine.store.groups.contains groupId &&
    (operation.run engine).store.groups.get? groupId != engine.store.groups.get? groupId

namespace Store

variable {before after : Store} {groupId : String}

theorem flagOf_congr (same : (after.groups.get? groupId).map (·.rolloutInProgress) =
    (before.groups.get? groupId).map (·.rolloutInProgress)) :
    after.flagOf groupId = before.flagOf groupId := by
  unfold flagOf
  cases stored : after.groups.get? groupId <;> cases known : before.groups.get? groupId <;>
    simp_all

theorem Unfinished.finishes (log : Unfinished before after) (groupId : String) :
    Finishes groupId 0 before after := by
  obtain ⟨entries, grown, others⟩ := log
  refine ⟨entries, grown, List.countP_eq_zero.mpr fun entry member finished => ?_⟩
  exact others entry member (of_decide_eq_true ((Bool.and_eq_true _ _).mp finished).1)

end Store

namespace Change

variable {scope : Scope} {store after : Store}

theorem unfinished (change : Change scope store after) : Unfinished store after := by
  cases change with
  | channelUpdated _ _ _ _ _ _ calm => exact calm.rollouts.log
  | channelGone id channel =>
    rw [withoutChannel_eq]
    exact refl_of Unfinished store
  | packageGone id package =>
    rw [withoutPackage_eq]
    exact refl_of Unfinished store
  | _ => exact refl_of Unfinished store

theorem flagOf (change : Change scope store after) (keyed : store.Keyed) (groupId : String) :
    after.flagOf groupId = store.flagOf groupId ∨
      scope.makesGroups ∧ after.flagOf groupId = false := by
  cases change with
  | channelUpdated _ _ _ _ _ _ calm => exact .inl (calm.rollouts.flags groupId)
  | channelGone id channel =>
    exact .inl (flagOf_congr
      (map_withoutChannel _ (fun _ => rfl) keyed.groups channel id groupId))
  | packageGone id package =>
    rw [withoutPackage_eq]
    exact .inl rfl
  -- A group that is created over another one or deleted loses its flag; no change sets one.
  | groupCreated made group unstarted =>
    rw [Store.flagOf, putGroup, Table.get_insert]
    split
    next => exact .inr ⟨made, unstarted⟩
    next => exact .inl rfl
  | groupUpdated _ group existing found flag =>
    rw [Store.flagOf, putGroup, Table.get_insert]
    split
    next same =>
      subst same
      exact .inl (by rw [Store.flagOf, found]; exact flag)
    next => exact .inl rfl
  | groupGone made id =>
    rw [Store.flagOf, deleteGroup, Table.get_erase]
    split
    next => exact .inr ⟨made, rfl⟩
    next => exact .inl rfl
  | _ => exact .inl rfl

end Change

theorem Operation.run_flagOf {operation : Operation} (serves : operation.isRequest = false)
    {engine : Engine} (keyed : engine.store.Keyed) {groupId : String}
    (spared : operation.remakesGroup groupId engine = false) :
    (operation.run engine).store.flagOf groupId = engine.store.flagOf groupId := by
  rcases (run_changes serves engine).flagOf keyed groupId with same | ⟨made, lowered⟩
  · exact same
  · have makes : operation.makesGroups = true := made
    cases stored : engine.store.groups.get? groupId with
    | none => rw [lowered, flagOf, stored, Option.any_none]
    | some group =>
      -- The group was stored, so it is spared only if its record is the same.
      have same : (operation.run engine).store.groups.get? groupId =
          engine.store.groups.get? groupId := by
        simpa [remakesGroup, makes, Table.contains, stored] using spared
      rw [flagOf, same, ← flagOf]

section Steps

variable {step : Step} {groupId : String} {row : Installation}

theorem mem_freshGrants (keyed : step.after.store.Keyed) :
    row ∈ step.freshGrants groupId ↔
      step.after.store.installations.get? row.key = some row ∧ row.groupId = groupId ∧
        row.status = .updateGranted ∧
        (step.before.store.installations.get? row.key).all (·.status ≠ .updateGranted) = true := by
  simp only [Step.freshGrants, installationsOf, Table.valuesWhere, List.mem_filter, beq_iff_eq,
    keyed.installations.mem_values, Bool.and_eq_true, decide_eq_true_eq, and_assoc]

theorem Effect.of_freshGrant (effect : Effect step.stage step.before step.after)
    (keyed : step.after.store.Keyed) (fresh : row ∈ step.freshGrants groupId) :
    Turn step.before step.stage row.key (step.before.store.installations.get? row.key) row ∧
      step.stage = .decision := by
  obtain ⟨found, -, granted, unknown⟩ := (mem_freshGrants keyed).mp fresh
  rcases effect.lookup row.key with same | ⟨changed, present, turn⟩
  · rw [← same, found] at unknown
    simp [granted] at unknown
  · obtain rfl := Option.some.inj (present.symm.trans found)
    obtain ⟨_, _, _, _, _, decided, -⟩ := turn.of_fresh granted unknown
    exact ⟨turn, decided⟩

theorem Turn.fresh_of_decided {before : Engine} {key : String} {old : Option Installation}
    {changed : Installation} (turn : Turn before .decision key old changed)
    (granted : changed.status = .updateGranted) :
    old.all (·.status ≠ .updateGranted) = true := by
  cases turn with
  | closed | held => cases granted
  | granted row version asks =>
    have idle := asks.idle
    cases status : row.status <;> simp_all [Status.isInFlight]

-- What becomes of the group's flag and of its rollout in the log.
inductive Step.Course (groupId : String) (step : Step) : Prop where
  | kept (ungranted : step.freshGrants groupId = [])
      (flag : step.after.store.flagOf groupId = step.before.store.flagOf groupId)
      (log : Finishes groupId 0 step.before.store step.after.store)
  | raised (granted : step.freshGrants groupId ≠ [])
      (flag : step.after.store.flagOf groupId = true)
      (log : Finishes groupId 0 step.before.store step.after.store)
  | settled (ungranted : step.freshGrants groupId = []) {group : Group} {version : String}
      (own : group.id = groupId)
      (settled : Settled group version step.time step.before.store step.after.store)

theorem Effect.course (effect : Effect step.stage step.before step.after)
    (keyed : step.after.store.Keyed)
    (upkeep : step.stage = .upkeep →
      step.after.store.flagOf groupId = step.before.store.flagOf groupId ∧
        Unfinished step.before.store step.after.store) : step.Course groupId := by
  have fresh {row : Installation} (member : row ∈ step.freshGrants groupId) :=
    (mem_freshGrants keyed).mp member
  have decides {row : Installation} (member : row ∈ step.freshGrants groupId) :=
    (effect.of_freshGrant keyed member).2
  cases effect with
  | quiet fleet rollouts =>
    have ungranted : step.freshGrants groupId = [] := by
      refine List.eq_nil_iff_forall_not_mem.mpr fun row member => ?_
      obtain ⟨found, -, granted, unknown⟩ := fresh member
      rw [← fleet.installations, found] at unknown
      simp [granted] at unknown
    rcases rollouts with idle | same
    · exact .kept ungranted (upkeep idle).1 ((upkeep idle).2.finishes groupId)
    · exact .kept ungranted (same.flags groupId) (same.log.finishes groupId)
  | turned key changed _ turn installations _ _ _ _ signal =>
    have found : step.after.store.installations.get? key = some changed := by
      rw [installations, Table.get_insert, if_pos rfl]
    obtain rfl := keyed.installations key changed found
    -- No other row has changed, so nobody else can be granted afresh.
    have only {row : Installation} (member : row ∈ step.freshGrants groupId) : row = changed := by
      obtain ⟨stored, -, granted, unknown⟩ := fresh member
      rw [installations, Table.get_insert] at stored
      split at stored
      next => exact (Option.some.inj stored).symm
      next =>
        rw [stored] at unknown
        simp [granted] at unknown
    cases signal with
    | settling ungranted settling =>
      have none : step.freshGrants groupId = [] := by
        refine List.eq_nil_iff_forall_not_mem.mpr fun row member => ?_
        exact ungranted (decides member) (only member ▸ (fresh member).2.2.1)
      cases settling with
      | same rollouts => exact .kept none (rollouts.flags groupId) (rollouts.log.finishes groupId)
      | @settled group version own settled =>
        by_cases here : group.id = groupId
        · exact .settled none here settled
        · -- The rollout of another group was closed.
          refine .kept none ?_ ⟨_, settled.activity, ?_⟩
          · rw [flagOf, settled.groups, Table.get_insert, if_neg here, ← flagOf]
          · simp [ActivityEntry.finishes, Group.milestone, here]
    | started decided granted flag others log =>
      by_cases here : changed.groupId = groupId
      · subst here
        have member : changed ∈ step.freshGrants changed.groupId := by
          rw [decided] at turn
          exact (mem_freshGrants keyed).mpr ⟨found, rfl, granted, turn.fresh_of_decided granted⟩
        exact .raised (List.ne_nil_of_mem member) flag (log.finishes _)
      · have none : step.freshGrants groupId = [] :=
          List.eq_nil_iff_forall_not_mem.mpr fun row member =>
            here (only member ▸ (fresh member).2.1)
        exact .kept none (others groupId (Ne.symm here)) (log.finishes groupId)

/-- How the step treats the flag. -/
structure Step.FlagSound (groupId : String) (step : Step) : Prop where
  rises : step.before.store.flagOf groupId = false → step.after.store.flagOf groupId = true →
    step.freshGrants groupId ≠ []
  raised : step.freshGrants groupId ≠ [] → step.after.store.flagOf groupId = true
  finishes : Finishes groupId
    (if step.before.store.flagOf groupId && !step.after.store.flagOf groupId then 1 else 0)
    step.before.store step.after.store

theorem Step.Course.flagSound (course : step.Course groupId) : step.FlagSound groupId := by
  cases course with
  | kept ungranted flag log =>
    refine ⟨fun down up => ?_, fun granted => absurd ungranted granted, ?_⟩
    · rw [flag, down] at up
      cases up
    · rw [flag, Bool.and_not_self, if_neg Bool.false_ne_true]
      exact log
  | raised granted flag log =>
    refine ⟨fun _ _ => granted, fun _ => flag, ?_⟩
    rw [flag, Bool.not_true, Bool.and_false, if_neg Bool.false_ne_true]
    exact log
  | @settled ungranted group version own settled =>
    subst own
    have up : step.before.store.flagOf group.id = true := by
      rw [flagOf, settled.found]
      exact settled.running
    have down : step.after.store.flagOf group.id = false := by
      rw [flagOf, settled.groups, Table.get_insert, if_pos rfl]
      rfl
    refine ⟨fun low => ?_, fun granted => absurd ungranted granted, _, settled.activity, ?_⟩
    · rw [up] at low
      cases low
    · simp [up, down, ActivityEntry.finishes, Group.milestone]

def Store.Flagged (groupId target : String) (store : Store) : Prop :=
  ∀ row ∈ store.fleet groupId, row.status.isInFlight = true →
    row.grantedTarget.any (Version.meets target) = true → store.flagOf groupId = true

theorem Installation.isTowards_of_grantedTarget {target : String}
    (granted : row.grantedTarget.any (Version.meets target) = true) :
    row.isTowards target = true := by
  rw [isTowards, countedTarget]
  cases known : row.grantedTarget with
  | none => simp [known] at granted
  | some version => simpa [known] using granted

theorem isTerminal_of_pending {store : Store} {query : CounterQuery}
    (none_pending : (store.updateCounters query).pending = 0)
    (member : row ∈ store.fleet query.groupId) (towards : query.countsTowards row = true) :
    row.status.isTerminal = true := by
  have pending : (store.fleet query.groupId).countP query.countsTowards -
      (store.fleet query.groupId).countP (fun row =>
        query.countsTowards row && row.status.isTerminal) = 0 := none_pending
  -- Whoever counts towards the version has ended or is pending.
  have balance := List.countP_eq_countP_filter_add (store.fleet query.groupId)
    query.countsTowards (·.status.isTerminal)
  rw [List.countP_filter, List.countP_filter] at balance
  have none_left : (store.fleet query.groupId).countP (fun row =>
      query.countsTowards row && !row.status.isTerminal) = 0 := by omega
  have ended := List.countP_eq_zero.mp none_left row member
  simpa [towards] using ended

theorem Store.Settled.ended {before after : Store} {group : Group} {version : String} {now : Nat}
    (settled : Settled group version now before after) (member : row ∈ after.fleet group.id)
    (towards : row.isTowards version = true) : row.status.isTerminal = true := by
  have none_pending : (after.updateCounters (group.counterQuery version now)).pending = 0 :=
    of_decide_eq_true ((Bool.and_eq_true _ _).mp settled.closes).1
  exact isTerminal_of_pending none_pending member towards

theorem Turn.inFlight_cases {before : Engine} {stage : Stage} {key : String}
    {old : Option Installation} {changed : Installation}
    (turn : Turn before stage key old changed)
    (agrees : ∀ row ∈ old, row.inProgress = row.status.isInFlight)
    (inFlight : changed.status.isInFlight = true) :
    (∃ row, old = some row ∧ row.status.isInFlight = true) ∨
      changed.status = .updateGranted ∧ stage = .decision := by
  cases turn with
  | first => cases inFlight
  | seen row sighting =>
    rcases row.seen_cases sighting with same | ⟨-, reset⟩
    · rw [same] at inFlight
      exact .inl ⟨row, rfl, inFlight⟩
    · rw [reset] at inFlight
      cases inFlight
  | reported row running => exact .inl ⟨row, rfl, (agrees row rfl).symm.trans running⟩
  | closed | held => cases inFlight
  | granted => exact .inr ⟨rfl, rfl⟩

theorem Step.Course.flagged (course : step.Course groupId) {target : String}
    (effect : Effect step.stage step.before step.after) (keyed : step.before.store.Keyed)
    (afterKeyed : step.after.store.Keyed) (agrees : step.before.Agrees)
    (aims : (step.before.store.targetOf groupId).all (Version.meets target) = true)
    (flagged : step.before.store.Flagged groupId target) :
    step.after.store.Flagged groupId target := by
  intro row member inFlight granted
  cases course with
  | raised _ flag => exact flag
  | @settled _ group version own settled =>
    subst own
    -- The rollout of the target is only closed once nobody is on the way to it.
    have met : Version.meets target version = true := by simpa [settled.aimed] using aims
    have towards := (row.isTowards_eq met).trans (Installation.isTowards_of_grantedTarget granted)
    have ended := settled.ended member towards
    cases status : row.status <;> simp_all [Status.isInFlight, Status.isTerminal]
  | kept ungranted flag =>
    rw [flag]
    obtain ⟨found, place⟩ := afterKeyed.mem_fleet.mp member
    rcases effect.lookup row.key with same | ⟨changed, present, turn⟩
    · exact flagged row (keyed.mem_fleet.mpr ⟨same.symm.trans found, place⟩) inFlight granted
    obtain rfl := Option.some.inj (present.symm.trans found)
    rcases turn.inFlight_cases (agrees changed.key) inFlight with
      ⟨earlier, known, before⟩ | ⟨status, decided⟩
    · -- The update goes on, with the grant it began with.
      rw [known] at turn
      have onward := turn.onward before inFlight
      refine flagged earlier (keyed.mem_fleet.mpr ⟨?_, ?_, ?_⟩) before ?_
      · rwa [keyed.installations _ earlier known]
      · exact onward.group.symm.trans place.1
      · rw [← turn.instanceId]
        exact place.2
      · rwa [← onward.grantedTarget]
    · -- Under way since this step: that takes a fresh grant, and the step has none.
      rw [decided] at turn
      have fresh : changed ∈ step.freshGrants groupId :=
        (mem_freshGrants afterKeyed).mpr ⟨found, place.1, status, turn.fresh_of_decided status⟩
      rw [ungranted] at fresh
      cases fresh

end Steps

namespace Operation

theorem stage_of_request {operation : Operation} (serves : operation.isRequest = true)
    (engine : Engine) : ∀ step ∈ operation.steps engine, step.stage ≠ .upkeep := by
  cases operation with
  | registerInstance | registerEvent | updatePlan | nextPackage => simp [steps]
  | checkIn request =>
    rw [steps, List.forall_mem_cons, List.forall_mem_append, List.forall_mem_singleton]
    refine ⟨by simp, fun step member => ?_, by simp⟩
    obtain ⟨_, _, rfl⟩ := mem_eventSteps member
    simp
  | _ => simp [isRequest] at serves

variable {groupId : String}

theorem course_steps {engine : Engine} (reached : Reachable engine) {operation : Operation}
    (spared : operation.remakesGroup groupId engine = false) :
    ∀ step ∈ operation.steps engine, step.Course groupId := by
  intro step member
  have effect := effect_steps reached.keyed operation step member
  have moments := forall_moments reached (reached.step operation trivial)
    (fun other _ => reached.step other trivial) step member
  refine effect.course moments.2.keyed fun upkeep => ?_
  cases serves : operation.isRequest with
  | true => exact absurd upkeep (stage_of_request serves engine step member)
  | false =>
    rw [steps_upkeep serves, List.mem_singleton] at member
    subst member
    exact ⟨run_flagOf serves reached.keyed spared, (run_changes serves engine).unfinished⟩

theorem course_trace {start : Engine} (reached : Reachable start) {operations : List Operation}
    (spared : AllowedRun (fun engine operation => operation.remakesGroup groupId engine = false)
      start operations) : ∀ step ∈ trace start operations, step.Course groupId := by
  intro step member
  obtain ⟨earlier, operation, reached, allowed, during⟩ := mem_trace reached spared member
  exact course_steps reached allowed step during

end Operation

/--
While nobody deletes the group or creates it anew, its flag is raised by every fresh grant and by
nothing else, and lowered with exactly one end of the rollout in the log. If nobody of the fleet is
under way at the start, then as long as the target stays the same, the flag is up in every state in
which somebody of the fleet is under way to it.
-/
theorem rollout_flag_sound {start : Engine} {operations : List Operation} {groupId : String}
    (reached : Reachable start)
    (spared : AllowedRun (fun engine operation => operation.remakesGroup groupId engine = false)
      start operations) :
    (∀ step ∈ Operation.trace start operations, step.FlagSound groupId) ∧
      ((∀ row ∈ start.store.fleet groupId, row.status.isInFlight = false) →
        ∀ target front moment, front ++ [moment] <+: Operation.path start operations →
          (∀ earlier ∈ front,
            (earlier.store.targetOf groupId).all (Version.meets target) = true) →
          ∀ row ∈ moment.store.fleet groupId, row.status.isInFlight = true →
            row.grantedTarget.any (Version.meets target) = true →
              moment.store.flagOf groupId = true) := by
  have courses := Operation.course_trace reached spared
  constructor
  · intro step member
    exact (courses step member).flagSound
  · intro idle target front moment upTo aims
    have begins : start.store.Flagged groupId target := by
      intro row member inFlight
      rw [idle row member] at inFlight
      cases inFlight
    have chain : (Operation.path start operations).IsChain fun before after =>
        (before.store.targetOf groupId).all (Version.meets target) = true →
          before.store.Flagged groupId target → after.store.Flagged groupId target := by
      rw [Operation.path_eq]
      refine (Operation.linked_trace start operations).isChain fun step member aims flagged => ?_
      obtain ⟨before, after⟩ := Operation.reachable_trace reached operations step member
      exact (courses step member).flagged (Operation.effect_trace reached operations step member)
        before.keyed after.keyed before.agrees aims flagged
    obtain ⟨rest, head⟩ := Operation.path_head start operations
    rw [head] at chain upTo
    exact holds_upTo chain begins upTo aims

def Operation.oneRollout : List Operation :=
  [ .updatePlan .firstContact .multi,
    .registerEvent
      { instanceId := "host", applicationId := "agent", groupId := "fleet"
        event := { kind := 13, result := 1 } },
    .registerEvent
      { instanceId := "host", applicationId := "agent", groupId := "fleet"
        event := { kind := 3, result := 2 } } ]

theorem rollout_flag_sound_oneRollout :
    let start := Operation.runAll {} Operation.smallCatalog
    let path := Operation.path start Operation.oneRollout
    (∀ step ∈ Operation.trace start Operation.oneRollout, step.FlagSound "fleet") ∧
      (∀ front moment, front ++ [moment] <+: path → ∀ row ∈ moment.store.fleet "fleet",
        row.status.isInFlight = true → row.grantedTarget.any (Version.meets "3.0.0") = true →
          moment.store.flagOf "fleet" = true) ∧
      path.map (fun moment => (moment.store.flagOf "fleet",
          moment.store.activity.countP (ActivityEntry.finishes "fleet"))) =
        [(false, 0), (false, 0), (true, 0), (true, 0), (false, 1)] := by
  intro start path
  have reached : Reachable start := (ReachableBy.start {} rfl).runAll (by decide +kernel)
  have spared : AllowedRun
      (fun engine operation => operation.remakesGroup "fleet" engine = false)
      start Operation.oneRollout := by decide +kernel
  have idle : ∀ row ∈ start.store.fleet "fleet", row.status.isInFlight = false := by
    decide +kernel
  have aims : ∀ moment ∈ path,
      (moment.store.targetOf "fleet").all (Version.meets "3.0.0") = true := by decide +kernel
  obtain ⟨sound, flagged⟩ := rollout_flag_sound reached spared
  refine ⟨sound, fun front moment upTo => ?_, by decide +kernel⟩
  exact flagged idle "3.0.0" front moment upTo fun earlier member =>
    aims earlier (upTo.subset (List.mem_append_left [moment] member))

end FleetRollout

import FleetRollout.Proofs.Canary
import FleetRollout.Proofs.Closing
import FleetRollout.Proofs.Limits

set_option autoImplicit false

/-!
How long the canary's limit is lifted. That an attempt at the target has ended is read off the
fleet as it is, so it is true for as long as an installation that ended one is left alone. A new
grant, a hold and a move to another group unsettle it; and once all that ended one are unsettled, a
group in safe mode is back at one update at a time.
-/

namespace FleetRollout

open Store FleetRollout.Action

/-- The installation is of the fleet, and its last attempt was at the target and has ended. -/
structure Installation.HasEnded (row : Installation) (groupId target : String) : Prop where
  member : row.groupId = groupId
  real : Identifier.isSynthetic row.instanceId = false
  towards : row.isTowards target = true
  ended : row.status.isTerminal = true

/-- The step grants the installation an update, puts it on hold, or takes it to another group. -/
def Step.unsettles (step : Step) (key : String) : Bool :=
  (step.before.store.installations.get? key).any fun row =>
    (step.after.store.installations.get? key).any fun later =>
      later.groupId ≠ row.groupId ||
        later.status ≠ row.status && (later.status = .updateGranted || later.status = .onHold)

variable {groupId target : String}

theorem Store.Keyed.isAttempted_iff {store : Store} (keyed : store.Keyed) :
    store.isAttempted groupId target = true ↔
      ∃ key row, store.installations.get? key = some row ∧ row.HasEnded groupId target := by
  simp only [isAttempted, List.any_eq_true, Bool.and_eq_true]
  constructor
  · rintro ⟨row, listed, towards, ended⟩
    obtain ⟨found, member, real⟩ := keyed.mem_fleet.mp listed
    exact ⟨row.key, row, found, member, real, towards, ended⟩
  · rintro ⟨key, row, found, attempt⟩
    rw [← keyed.installations key row found] at found
    exact ⟨row, keyed.mem_fleet.mpr ⟨found, attempt.member, attempt.real⟩, attempt.towards,
      attempt.ended⟩

theorem attempted_pos {store : Store} {group : Group} {version : String}
    (met : Version.meets target version = true)
    (attempted : store.isAttempted group.id target = true) (now : Nat) :
    0 < (store.updateCounters (group.counterQuery version now)).attempted := by
  obtain ⟨row, member, ended⟩ := List.any_eq_true.mp attempted
  refine List.countP_pos_iff.mpr ⟨row, member, ?_⟩
  rwa [CounterQuery.isAttempt, CounterQuery.countsTowards_eq, Group.counterQuery,
    row.isTowards_eq met]

theorem limit_eq {store : Store} {group : Group} {version : String}
    (met : Version.meets target version = true) (now : Nat) :
    group.policy.limit (store.updateCounters (group.counterQuery version now)) =
      if group.policy.safeMode && !store.isAttempted group.id target then 1
      else group.policy.maxUpdatesPerPeriod := by
  unfold Policy.limit
  cases attempted : store.isAttempted group.id target with
  | false => simp only [attempted_eq_zero met attempted, decide_true, Bool.not_false]
  | true => simp only [(attempted_pos met attempted now).ne', decide_false, Bool.not_true]

section Step

variable {before after : Engine} {stage : Stage} {key : String} {row changed : Installation}

theorem Turn.hasEnded (turn : Turn before stage key (some row) changed)
    (agrees : row.inProgress = row.status.isInFlight) (attempt : row.HasEnded groupId target) :
    changed.HasEnded groupId target ∨ changed.groupId ≠ row.groupId ∨
      changed.status ≠ row.status ∧
        (changed.status = .updateGranted ∨ changed.status = .onHold) := by
  cases turn with
  | seen _ sighting =>
    rcases row.seen_cases sighting with same | ⟨left, reset⟩
    · rw [same]
      exact .inl ⟨attempt.member, attempt.real, attempt.towards, attempt.ended⟩
    · rw [reset]
      exact .inr (.inl left)
  | reported _ running =>
    -- Events are for updates in flight, and this one is over.
    have ended := attempt.ended
    rw [agrees] at running
    cases status : row.status <;>
      simp [status, Status.isInFlight, Status.isTerminal] at running ended
  | closed => exact .inl ⟨attempt.member, attempt.real, attempt.towards, rfl⟩
  | held =>
    refine .inr (.inr ⟨fun same => ?_, .inr rfl⟩)
    have ended := attempt.ended
    rw [← same] at ended
    cases ended
  | granted =>
    refine .inr (.inr ⟨fun same => ?_, .inl rfl⟩)
    have ended := attempt.ended
    rw [← same] at ended
    cases ended

theorem Step.settled {step : Step} (effect : Effect step.stage step.before step.after)
    (agrees : row.inProgress = row.status.isInFlight)
    (found : step.before.store.installations.get? key = some row)
    (attempt : row.HasEnded groupId target) (settled : step.unsettles key = false) :
    ∃ later, step.after.store.installations.get? key = some later ∧
      later.HasEnded groupId target := by
  rcases effect.lookup key with same | ⟨later, present, turn⟩
  · exact ⟨row, same.trans found, attempt⟩
  · rw [found] at turn
    refine ⟨later, present, (turn.hasEnded agrees attempt).resolve_right fun unsettled => ?_⟩
    simp only [Step.unsettles, found, present, Option.any_some, Bool.or_eq_false_iff,
      Bool.and_eq_false_iff, decide_eq_false_iff_not, not_not] at settled
    rcases unsettled with left | ⟨other, restarted⟩
    · exact left settled.1
    · rcases settled.2 with same | calm
      · exact other same
      · exact restarted.elim calm.1 calm.2

end Step

theorem Linked.settled {start last : Engine} {steps : List Step} (linked : Linked start steps last)
    (effects : ∀ step ∈ steps, Effect step.stage step.before step.after)
    (reached : ∀ step ∈ steps, Reachable step.before) {key : String} {row : Installation}
    (found : start.store.installations.get? key = some row)
    (attempt : row.HasEnded groupId target)
    (settled : ∀ step ∈ steps, step.unsettles key = false) :
    ∃ later, last.store.installations.get? key = some later ∧ later.HasEnded groupId target := by
  refine linked.of_kept
    (P := fun _ moment => ∃ later, moment.store.installations.get? key = some later ∧
      later.HasEnded groupId target) [] ⟨row, found, attempt⟩ ?_
  rintro _ step member ⟨current, known, ended⟩
  exact Step.settled (effects step member) ((reached step member).agrees key current known) known
    ended (settled step member)

section Run

variable {start moment : Engine} {operations : List Operation} {done rest : List Step}

theorem reachable_between (reached : Reachable start)
    (split : Operation.trace start operations = done ++ rest) (linked : Linked start done moment) :
    Reachable moment := by
  refine linked.of_kept (P := fun _ moment => Reachable moment) [] reached ?_
  intro _ step member _
  exact (Operation.reachable_trace reached operations step
    (split ▸ List.mem_append_left rest member)).2

/--
At every moment of a run, also in the middle of a request, an attempt of the fleet at the target
counts as ended exactly if an installation that had ended one was not unsettled since. A group in
safe mode has its full limit then, and a limit of one otherwise.
-/
theorem canary_lifted_while_settled (reached : Reachable start)
    (split : Operation.trace start operations = done ++ rest) (linked : Linked start done moment)
    {group : Group} (stored : moment.store.groups.get? groupId = some group) {version : String}
    (met : Version.meets target version = true) (now : Nat) :
    group.policy.limit (moment.store.updateCounters (group.counterQuery version now)) =
        (if group.policy.safeMode && !moment.store.isAttempted groupId target then 1
          else group.policy.maxUpdatesPerPeriod) ∧
      (moment.store.isAttempted groupId target = true ↔
        ∃ front back ended key row, done = front ++ back ∧ Linked start front ended ∧
          Linked ended back moment ∧ ended.store.installations.get? key = some row ∧
          row.HasEnded groupId target ∧ ∀ step ∈ back, step.unsettles key = false) := by
  have keyed := (reachable_between reached split linked).keyed
  constructor
  · rw [← keyed.groups groupId group stored]
    exact limit_eq met now
  rw [keyed.isAttempted_iff]
  constructor
  · rintro ⟨key, row, found, attempt⟩
    exact ⟨done, [], moment, key, row, (List.append_nil done).symm, linked, rfl, found, attempt,
      by simp⟩
  · rintro ⟨front, back, ended, key, row, rfl, -, onward, found, attempt, settled⟩
    have taken : ∀ step ∈ back, step ∈ Operation.trace start operations := by
      intro step member
      rw [split]
      exact List.mem_append_left rest (List.mem_append_right front member)
    obtain ⟨later, known, still⟩ := onward.settled
      (fun step member => Operation.effect_trace reached operations step (taken step member))
      (fun step member => (Operation.reachable_trace reached operations step
        (taken step member)).1) found attempt settled
    exact ⟨key, later, known, still⟩

end Run

-- The host goes first and gets to a floor, and another one is let in after it.
def Operation.canaryDone : List Operation :=
  [ .updatePlan .firstContact .single,
    .registerEvent (.completed "host"),
    .updatePlan { Registration.firstContact with instanceId := "other" } .single ]

theorem canary_lifted_while_settled_canaryDone :
    let start := Operation.runAll {} Operation.smallCatalog
    let last := Operation.runAll start Operation.canaryDone
    Reachable start ∧ ∃ group, last.store.groups.get? "fleet" = some group ∧
      group.policy.limit (last.store.updateCounters (group.counterQuery "3.0.0" last.now)) = 2 ∧
      ∃ front back ended key row, Operation.trace start Operation.canaryDone = front ++ back ∧
        Linked start front ended ∧ Linked ended back last ∧
        ended.store.installations.get? key = some row ∧ row.HasEnded "fleet" "3.0.0" ∧
        ∀ step ∈ back, step.unsettles key = false := by
  intro start last
  have reached : Reachable start := (ReachableBy.start {} rfl).runAll (by decide +kernel)
  obtain ⟨group, stored⟩ := Option.isSome_iff_exists.mp
    (show (last.store.groups.get? "fleet").isSome = true by decide +kernel)
  have full : (last.store.groups.get? "fleet").map (·.policy.maxUpdatesPerPeriod) = some 2 := by
    decide +kernel
  rw [stored, Option.map_some, Option.some.injEq] at full
  have attempted : last.store.isAttempted "fleet" "3.0.0" = true := by decide +kernel
  have split : Operation.trace start Operation.canaryDone =
      Operation.trace start Operation.canaryDone ++ [] := (List.append_nil _).symm
  have linked : Linked start (Operation.trace start Operation.canaryDone) last :=
    Operation.linked_trace start Operation.canaryDone
  obtain ⟨limit, lifted⟩ := canary_lifted_while_settled reached split linked stored
    (Version.meets_self "3.0.0") last.now
  rw [attempted, Bool.not_true, Bool.and_false, if_neg Bool.false_ne_true, full] at limit
  exact ⟨reached, group, stored, limit, lifted.mp attempted⟩

-- The host goes first and fails, and is granted the update again.
def Operation.canaryRetried : List Operation :=
  [ .updatePlan .firstContact .single,
    .registerEvent
      { instanceId := "host", applicationId := "agent", groupId := "fleet"
        event := { kind := 3, result := 0 } },
    .updatePlan .firstContact .single ]

-- An attempt has ended, and yet nobody is let in beside the one that tries again.
theorem canary_restricted_again_canaryRetried :
    let start := Operation.runAll {} Operation.smallCatalog
    let last := Operation.runAll start Operation.canaryRetried
    let moments := Operation.path start Operation.canaryRetried
    Reachable start ∧
      (∀ moment ∈ moments, moment.store.isGuarded "fleet" "3.0.0" = true ∧
        moment.store.limitsOf "fleet" = start.store.limitsOf "fleet") ∧
      moments.IsChain (fun before after => keepsFleet "fleet" before.store after.store = true) ∧
      (∃ moment ∈ moments, moment.store.isAttempted "fleet" "3.0.0" = true) ∧
      (last.store.groups.get? "fleet").map (fun group =>
        (group.policy.maxUpdatesPerPeriod,
          group.policy.limit (last.store.updateCounters
            (group.counterQuery "3.0.0" last.now)))) = some (2, 1) ∧
      ((Engine.updatePlan { Registration.firstContact with instanceId := "other" }
        .single).perform last).1 = .error (.denied .periodLimitReached) := by
  intro start last moments
  exact ⟨(ReachableBy.start {} rfl).runAll (by decide +kernel), by decide +kernel,
    by decide +kernel, by decide +kernel, by decide +kernel, by decide +kernel⟩

end FleetRollout

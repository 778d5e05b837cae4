import FleetRollout.Proofs.Limits
import FleetRollout.Proofs.Path

set_option autoImplicit false

/-!
The limit on updates at a time. Only a grant adds to the updates of a fleet that run on time, and
the policy admits one only below the limit; everything else that is written, and the clock, can
but lower their number.
-/

namespace FleetRollout

open Store FleetRollout.Action

/-- The installation is of the fleet, and its update runs on time. -/
def Installation.runsIn (row : Installation) (groupId : String) (timeoutSeconds now : Nat) : Bool :=
  row.isRunning timeoutSeconds now &&
    (!Identifier.isSynthetic row.instanceId && row.groupId == groupId)

theorem Store.running_eq (store : Store) (groupId : String) (timeoutSeconds now : Nat) :
    store.running groupId timeoutSeconds now =
      store.installations.values.countP fun row => row.runsIn groupId timeoutSeconds now :=
  store.countP_fleet groupId fun row => row.isRunning timeoutSeconds now

theorem Installation.runsIn_iff {row : Installation} {groupId : String} {timeoutSeconds now : Nat} :
    row.runsIn groupId timeoutSeconds now = true ↔
      (row.inProgress = true ∧ ∃ time, row.grantedAt = some time ∧ now - time ≤ timeoutSeconds) ∧
        Identifier.isSynthetic row.instanceId = false ∧ row.groupId = groupId := by
  simp only [runsIn, isRunning, Bool.and_eq_true, Option.any_eq_true, Bool.not_eq_true',
    beq_iff_eq, decide_eq_true_eq]

theorem Installation.seen_inProgress {row : Installation} {sighting : Sighting}
    (inProgress : (row.seen sighting).inProgress = true) :
    row.inProgress = true ∧ (row.seen sighting).groupId = row.groupId := by
  unfold Installation.seen at inProgress ⊢
  dsimp only at inProgress ⊢
  split at inProgress
  next stays =>
    rw [if_pos stays]
    exact ⟨inProgress, rfl⟩
  next => cases inProgress

theorem Store.running_anti (store : Store) (groupId : String) (timeoutSeconds : Nat)
    {now later : Nat} (clock : now ≤ later) :
    store.running groupId timeoutSeconds later ≤ store.running groupId timeoutSeconds now := by
  rw [running_eq, running_eq]
  refine List.countP_mono_left fun row _ running => ?_
  obtain ⟨⟨inProgress, time, granted, recent⟩, place⟩ := Installation.runsIn_iff.mp running
  exact Installation.runsIn_iff.mpr ⟨⟨inProgress, time, granted, by omega⟩, place⟩

section Step

variable {before after : Engine} {stage : Stage} {groupId : String} {timeoutSeconds now : Nat}

theorem Turn.runsIn_cases {key : String} {old : Option Installation} {changed : Installation}
    (turn : Turn before stage key old changed)
    (running : changed.runsIn groupId timeoutSeconds now = true) :
    (∃ row, old = some row ∧ row.runsIn groupId timeoutSeconds now = true) ∨
      before.Admits groupId := by
  obtain ⟨⟨inProgress, recent⟩, real, place⟩ := Installation.runsIn_iff.mp running
  cases turn with
  | first => simp [Installation.firstSeen] at inProgress
  -- A move to another group ends the update, so whoever runs has stayed.
  | seen row sighting =>
    obtain ⟨under, sameGroup⟩ := Installation.seen_inProgress inProgress
    rw [row.seen_grantedAt] at recent
    rw [row.seen_instanceId] at real
    exact .inl ⟨row, rfl, Installation.runsIn_iff.mpr
      ⟨⟨under, recent⟩, real, sameGroup.symm.trans place⟩⟩
  | reported row under leads onward =>
    exact .inl ⟨row, rfl, Installation.runsIn_iff.mpr ⟨⟨under, recent⟩, real, place⟩⟩
  | closed | held => simp [Installation.moved, Status.isInFlight] at inProgress
  | granted row version asks admitted =>
    rw [← place]
    exact .inr (asks.admits admitted)

theorem Effect.running_le (effect : Effect stage before after) (groupId : String)
    (timeoutSeconds now : Nat) :
    after.store.running groupId timeoutSeconds now ≤
        before.store.running groupId timeoutSeconds now ∨
      after.store.running groupId timeoutSeconds now ≤
        before.store.running groupId timeoutSeconds now + 1 ∧ before.Admits groupId := by
  simp only [running_eq]
  cases effect with
  | quiet fleet =>
    rw [fleet.installations]
    exact .inl (Nat.le_refl _)
  | turned key changed errorCode turn installations =>
    -- One row takes another one's place: the count changes by what the two contribute.
    have balance := Table.countP_values_insert (fun row => row.runsIn groupId timeoutSeconds now)
      before.store.installations key changed
    rw [← installations] at balance
    cases running : changed.runsIn groupId timeoutSeconds now with
    | false =>
      simp [running] at balance
      exact .inl (by omega)
    | true =>
      simp [running] at balance
      rcases turn.runsIn_cases running with ⟨row, known, counted⟩ | admits
      · simp [known, counted] at balance
        exact .inl (by omega)
      · exact .inr ⟨by omega, admits⟩

end Step

theorem running_le_step {step : Step} {groupId : String} {limits : Policy}
    (keyed : step.before.store.Keyed) (effect : Effect step.stage step.before step.after)
    (same : step.before.store.limitsOf groupId = some limits) (counts : limits.Counts)
    (clock : step.before.now ≤ step.after.now)
    (few : step.before.store.running groupId limits.timeoutSeconds step.before.now ≤
      limits.maxUpdatesPerPeriod) :
    step.after.store.running groupId limits.timeoutSeconds step.after.now ≤
      limits.maxUpdatesPerPeriod := by
  refine (step.after.store.running_anti groupId limits.timeoutSeconds clock).trans ?_
  rcases effect.running_le groupId limits.timeoutSeconds step.before.now with
    fewer | ⟨oneMore, admits⟩
  · exact fewer.trans few
  · have room := (admits.below keyed same counts).2
    omega

/--
While nobody works on the group's record and the clock does not run back, never more of the fleet's
updates run on time than the policy allows per period, if that is so at the start.
-/
theorem concurrency_cap {start : Engine} {operations : List Operation} {groupId : String}
    {group : Group} (reached : Reachable start)
    (stored : start.store.groups.get? groupId = some group) (counts : group.policy.Counts)
    (spared : AllowedRun (fun engine operation => operation.rewritesGroup groupId engine = false)
      start operations)
    (clock : ∀ step ∈ Operation.trace start operations, step.before.now ≤ step.after.now)
    (few : start.store.running groupId group.policy.timeoutSeconds start.now ≤
      group.policy.maxUpdatesPerPeriod) :
    ∀ moment ∈ Operation.path start operations,
      moment.store.running groupId group.policy.timeoutSeconds moment.now ≤
        group.policy.maxUpdatesPerPeriod := by
  have limited : start.store.limitsOf groupId = some group.limits := by
    rw [limitsOf, stored]
    rfl
  rw [Operation.path_eq, List.forall_mem_cons, List.forall_mem_map]
  refine ⟨few, (Operation.linked_trace start operations).forall_kept (P := fun moment =>
    moment.store.running groupId group.policy.timeoutSeconds moment.now ≤
      group.policy.maxUpdatesPerPeriod) few fun step member earlier => ?_⟩
  have same := (Operation.trace_sameLimits reached spared step member).1
  have keyed := (Operation.reachable_trace reached operations step member).1.keyed
  have effect := Operation.effect_trace reached operations step member
  have capped : group.limits.Counts := ⟨counts.needed, counts.bounds⟩
  have later := running_le_step keyed effect (same.trans limited) capped (clock step member)
  exact later earlier

-- One instance is granted an update and is slow; another one has to wait until it is late.
def Operation.oneIsSlow : List Operation :=
  [ .updatePlan .firstContact .single,
    .advance 3600,
    .updatePlan { Registration.firstContact with instanceId := "other" } .single,
    .advance 1,
    .updatePlan { Registration.firstContact with instanceId := "other" } .single ]

theorem concurrency_cap_oneIsSlow :
    let start := Operation.runAll {} Operation.limitedCatalog
    let path := Operation.path start Operation.oneIsSlow
    (∀ moment ∈ path, moment.store.running "fleet" 3600 moment.now ≤ 1) ∧
      path.map (fun moment => moment.store.running "fleet" 3600 moment.now) =
        [0, 0, 1, 1, 1, 1, 0, 0, 1] := by
  intro start path
  have reached : Reachable start := (ReachableBy.start {} rfl).runAll (by decide +kernel)
  have stored : start.store.groups.get? "fleet" = some .oneByOne := by decide +kernel
  have counts : Group.oneByOne.policy.Counts := ⟨rfl, .inr rfl⟩
  have spared : AllowedRun
      (fun engine operation => operation.rewritesGroup "fleet" engine = false)
      start Operation.oneIsSlow := by decide +kernel
  have clock : ∀ step ∈ Operation.trace start Operation.oneIsSlow,
      step.before.now ≤ step.after.now := by decide +kernel
  exact ⟨concurrency_cap reached stored counts spared clock (by decide +kernel),
    by decide +kernel⟩

end FleetRollout

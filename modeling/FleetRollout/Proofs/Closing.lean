import FleetRollout.Proofs.RolloutFlag

set_option autoImplicit false

/-!
When a rollout is closed. The step in which an update is completed closes the rollout of the group
exactly if everybody of the fleet whose last grant was towards the target has ended, and one of
them at the target. So a grant that was given up without an end, by a hold or a move, keeps the
rollout open; and who got to the target on a grant towards another one does not count.
-/

namespace FleetRollout

open Store FleetRollout.Action

/-- Everybody whose last grant was towards the version has ended, and somebody at the version. -/
structure Store.RolloutDone (store : Store) (groupId version : String) : Prop where
  ended : ∀ row ∈ store.fleet groupId, row.isTowards version = true →
    row.status.isTerminal = true
  reached : ∃ row ∈ store.fleet groupId, row.isTowards version = true ∧
    row.status = .complete ∧ row.grantedVersion.any (Version.meets version) = true

theorem Store.RolloutDone.congr {store other : Store} {groupId version : String}
    (done : store.RolloutDone groupId version)
    (same : other.installations = store.installations) : other.RolloutDone groupId version := by
  have fleet : other.fleet groupId = store.fleet groupId := by
    rw [Store.fleet, installationsOf, same, ← installationsOf, ← Store.fleet]
  obtain ⟨ended, reached⟩ := done
  rw [← fleet] at ended reached
  exact ⟨ended, reached⟩

theorem pending_eq_zero_iff {store : Store} {query : CounterQuery} :
    (store.updateCounters query).pending = 0 ↔
      ∀ row ∈ store.fleet query.groupId, query.countsTowards row = true →
        row.status.isTerminal = true := by
  constructor
  · intro none_pending row member towards
    exact isTerminal_of_pending none_pending member towards
  · intro ended
    have attempted : (store.fleet query.groupId).countP query.countsTowards =
        (store.fleet query.groupId).countP query.isAttempt := by
      refine List.countP_congr fun row member => ?_
      simp only [CounterQuery.isAttempt, Bool.and_eq_true, iff_self_and]
      exact ended row member
    change (store.fleet query.groupId).countP query.countsTowards -
      (store.fleet query.groupId).countP query.isAttempt = 0
    omega

theorem succeeded_ne_zero_iff {store : Store} {query : CounterQuery} :
    (store.updateCounters query).succeeded ≠ 0 ↔
      ∃ row ∈ store.fleet query.groupId, query.countsTowards row = true ∧
        row.status = .complete ∧ row.grantedVersion.any query.isTarget = true := by
  change (store.fleet query.groupId).countP query.isSuccess ≠ 0 ↔ _
  rw [← Nat.pos_iff_ne_zero, List.countP_pos_iff]
  simp only [CounterQuery.isSuccess, Bool.and_eq_true, decide_eq_true_eq, and_assoc]

theorem isSettled_iff {store : Store} {group : Group} {version : String} {now : Nat} :
    Journal.isSettled store group version now = true ↔ store.RolloutDone group.id version := by
  unfold Journal.isSettled
  simp only [Bool.and_eq_true, decide_eq_true_eq]
  rw [pending_eq_zero_iff, succeeded_ne_zero_iff]
  exact ⟨fun ⟨ended, reached⟩ => ⟨ended, reached⟩, fun ⟨ended, reached⟩ => ⟨ended, reached⟩⟩

/-- The installation's update is complete since this step. -/
structure Step.Completes (step : Step) (row : Installation) : Prop where
  stored : step.after.store.installations.get? row.key = some row
  complete : row.status = .complete
  fresh : (step.before.store.installations.get? row.key).all (·.status ≠ .complete) = true

theorem Step.Completes.installations_ne {step : Step} {row : Installation}
    (completes : step.Completes row) :
    step.after.store.installations ≠ step.before.store.installations := by
  intro same
  have stored := completes.stored
  have fresh := completes.fresh
  rw [same] at stored
  simp [stored, completes.complete] at fresh

theorem Operation.remakesGroup_of_request {operation : Operation}
    (serves : operation.isRequest = true) (groupId : String) (engine : Engine) :
    operation.remakesGroup groupId engine = false := by
  cases operation <;> first | rfl | cases serves

-- The flag of the group stays up unless the rollout is done.
def Store.Closes (groupId version : String) (before after : Store) : Prop :=
  after.flagOf groupId = true ↔ before.flagOf groupId = true ∧ ¬ after.RolloutDone groupId version

theorem settleGroup_closes {store : Store} (keyed : store.groups.KeyedBy Group.id)
    (groupId version : String) (now : Nat) :
    Closes groupId version store
      ((CheckIn.settleGroup groupId version now).perform store).2 := by
  have noted := CheckIn.keeps_settleGroup groupId version now store
  have done : ((CheckIn.settleGroup groupId version now).perform store).2.RolloutDone groupId
      version ↔ store.RolloutDone groupId version :=
    ⟨fun done => done.congr noted.fleet.installations.symm,
      fun done => done.congr noted.fleet.installations⟩
  rw [Closes, done]
  cases found : store.groups.get? groupId with
  | none =>
    have later : ((CheckIn.settleGroup groupId version now).perform store).2.groups.get? groupId =
        none := by
      have agreed := noted.catalog.groups groupId
      simpa [found] using agreed
    simp [flagOf, found, later]
  | some group =>
    obtain rfl := keyed groupId group found
    rw [CheckIn.settleGroup, perform_bind_ok (CheckIn.perform_requireGroup found),
      perform_bind_answer, Journal.settleRollout_state found]
    have flag : store.flagOf group.id = group.rolloutInProgress := by
      rw [flagOf, found]
      rfl
    split
    next closes =>
      obtain ⟨running, settled⟩ := (Bool.and_eq_true _ _).mp closes
      have lowered : ∀ activity, ({ store with
          groups := store.groups.insert group.id { group with rolloutInProgress := false }
          activity } : Store).flagOf group.id = false := by
        intro activity
        rw [flagOf, Table.get_insert, if_pos rfl]
        rfl
      simp [lowered, isSettled_iff.mp settled]
    next stays =>
      rw [flag]
      constructor
      · intro running
        refine ⟨running, fun done => stays ?_⟩
        rw [running, isSettled_iff.mpr done]
        rfl
      · exact And.left

theorem Closes.of_rewriteRow {store after : Store} {key groupId version : String}
    {row changed : Installation} {time : Nat} {errorCode : Option String}
    (closes : Closes groupId version (store.rewriteRow key row changed time errorCode) after) :
    Closes groupId version store after :=
  closes

section Completing

variable {stage : Stage} {before after : Engine} {row : Installation} {version : String}

theorem completed_of_rewritten {store last : Store} {key : String} {changed : Installation}
    (installations : last.installations = store.installations.insert key changed)
    (stored : last.installations.get? row.key = some row) (complete : row.status = .complete)
    (fresh : (store.installations.get? row.key).all (·.status ≠ .complete) = true) :
    row = changed := by
  rw [installations, Table.get_insert] at stored
  split at stored
  next => exact (Option.some.inj stored).symm
  next =>
    rw [stored] at fresh
    simp [complete] at fresh

theorem targetOf_congr {store later : Store} (same : SameCatalog store later) (groupId : String) :
    later.targetOf groupId = store.targetOf groupId := by
  unfold targetOf
  cases found : later.groups.get? groupId with
  | none =>
    have agreed := same.groups groupId
    rw [found, Option.map_none] at agreed
    rw [Option.map_eq_none_iff.mp agreed.symm]
    rfl
  | some group =>
    obtain ⟨earlier, stored, setup⟩ := same.group_before found
    rw [stored, Option.bind_some, Option.bind_some, CheckIn.groupTarget_congr same setup.symm]

theorem Turn.arrival_complete {key : String} {old : Option Installation}
    (turn : Turn before .arrival key old row) (complete : row.status = .complete) :
    ∃ earlier, old = some earlier ∧ earlier.status = .complete := by
  cases turn with
  | first => cases complete
  | seen earlier sighting =>
    refine ⟨earlier, rfl, ?_⟩
    rcases earlier.seen_cases sighting with same | ⟨-, reset⟩
    · rwa [same] at complete
    · rw [reset] at complete
      cases complete

-- The event of a completed update ends with the rollout being settled for the group's target.
theorem afterEvent_complete_closes {store : Store} {group : Group} {now : Nat}
    {instanceId : String} {moved : Installation} (keyed : store.groups.KeyedBy Group.id)
    (knows : store.Knows group) (aims : store.targetOf group.id = some version) :
    Closes group.id version store
      ((CheckIn.afterEvent now group instanceId moved .complete).perform store).2 := by
  unfold CheckIn.afterEvent
  rw [perform_bind_ok (perform_get store)]
  cases targeted : CheckIn.groupTarget? store group with
  | none =>
    obtain ⟨current, stored, setup⟩ := Option.map_eq_some_iff.mp knows
    rw [targetOf, stored, Option.bind_some,
      CheckIn.groupTarget_congr (SameCatalog.refl store) setup, targeted] at aims
    cases aims
  | some pair =>
    obtain rfl := Option.some.inj ((knows.targetOf targeted).symm.trans aims)
    exact settleGroup_closes keyed group.id pair.2.version now

theorem Step.Completes.not_arrival {step : Step} (completes : step.Completes row)
    (effect : Effect step.stage step.before step.after) : step.stage ≠ .arrival := by
  intro arrival
  rcases effect.lookup row.key with same | ⟨changed, present, turn⟩
  · have fresh := completes.fresh
    rw [← same, completes.stored] at fresh
    simp [completes.complete] at fresh
  · obtain rfl := Option.some.inj (present.symm.trans completes.stored)
    rw [arrival] at turn
    obtain ⟨earlier, known, done⟩ := turn.arrival_complete completes.complete
    have fresh := completes.fresh
    rw [known] at fresh
    simp [done] at fresh

-- A decision completes an update by closing the grant that its installation came back with.
theorem CheckIn.Decision.completes {config : EngineConfig} {now : Nat} {group : Group}
    {old : Installation} {mode : DeliveryMode} {store last : Store}
    {result : Except EngineError UpdatePlan}
    (decision : Decision config now group old mode store result last)
    (stored : last.installations.get? row.key = some row) (complete : row.status = .complete)
    (fresh : (store.installations.get? row.key).all (·.status ≠ .complete) = true) :
    ∃ channel target, groupTarget? store group = some (channel, target) ∧
      ¬ Offered store group old channel target ∧ old.grantedVersion.isSome = true ∧
      row = old.moved .complete ∧
      Noted (store.rewriteRow old.key old (old.moved .complete) now none) last ∧
      last = ((settleGroup group.id target.version now).perform
        (store.rewriteRow old.key old (old.moved .complete) now none)).2 := by
  have unwritten : last.installations ≠ store.installations := by
    intro same
    rw [← same, stored] at fresh
    simp [complete] at fresh
  cases decision with
  | refused calm => exact absurd calm.noted.fleet.installations unwritten
  | redelivered => exact absurd rfl unwritten
  | @closed channel target _ _ targeted needless unfinished noted closes =>
    exact ⟨channel, target, targeted, needless, unfinished.1,
      completed_of_rewritten noted.fleet.installations stored complete fresh, noted, closes⟩
  -- A hold and a grant write another status.
  | held _ _ _ calm =>
    obtain rfl := completed_of_rewritten calm.noted.fleet.installations stored complete fresh
    cases complete
  | granted _ _ _ _ _ noted =>
    obtain rfl := completed_of_rewritten noted.fleet.installations stored complete fresh
    cases complete

theorem Performed.closes (performed : Performed stage before after)
    (keyed : before.store.Keyed)
    (completes : (Step.mk before stage after).Completes row)
    (aims : after.store.targetOf row.groupId = some version) :
    Closes row.groupId version before.store after.store := by
  have changes : after.store.installations ≠ before.store.installations :=
    completes.installations_ne
  have stored := completes.stored
  have complete := completes.complete
  have fresh := completes.fresh
  dsimp only at stored fresh
  cases performed with
  | upkeep fleet => exact absurd fleet.installations changes
  | nothing same =>
    obtain ⟨directory, rfl⟩ := same
    exact absurd rfl changes
  | arrived admitted => exact absurd rfl (completes.not_arrival admitted.effect)
  | @reported _ _ applicationId instanceId group event _ knows written =>
    rcases CheckIn.applyEvent_cases before.now applicationId group instanceId event before.store
      with unchanged | ⟨old, next, errorCode, found, member, -, -, -, noted, followed⟩
    · exact absurd (congrArg Store.installations (written.trans unchanged)) changes
    · rw [← written] at noted followed
      obtain rfl := completed_of_rewritten noted.fleet.installations stored complete fresh
      obtain rfl : next = .complete := complete
      have same := (rewriteRow_sameCatalog before.store
        (Installation.keyOf instanceId applicationId) old (old.moved .complete) before.now
        errorCode).trans noted.catalog
      have own : (old.moved .complete).groupId = group.id := member
      rw [targetOf_congr same, own] at aims
      rw [own, followed]
      refine Closes.of_rewriteRow (afterEvent_complete_closes ?_ ?_ ?_)
      · exact keyed.groups
      · exact knows
      · exact aims
  | @decided _ _ applicationId instanceId group mode old _ found current written =>
    have own := keyed.installations _ old found
    have decision := CheckIn.decide_cases before.config before.now applicationId group instanceId
      mode found own
    rw [← written] at decision
    generalize ((CheckIn.decide before.config before.now applicationId group instanceId
      mode).perform before.store).1 = result at decision
    -- The installation came back at the version it was granted: the rollout is settled with it.
    obtain ⟨_, _, targeted, -, -, rfl, noted, closes⟩ := decision.completes stored complete fresh
    have named : group.id = old.groupId := keyed.groups _ group current
    have place : (old.moved .complete).groupId = group.id := named.symm
    have knows : before.store.Knows group := by
      rw [← named] at current
      exact .of_stored current
    have same := (rewriteRow_sameCatalog before.store old.key old (old.moved .complete)
      before.now none).trans noted.catalog
    rw [targetOf_congr same, place, knows.targetOf targeted, Option.some.injEq] at aims
    rw [place, closes, ← aims]
    refine Closes.of_rewriteRow (settleGroup_closes ?_ _ _ _)
    exact keyed.groups

end Completing

/--
In the step in which an update is completed, the group keeps its flag exactly if its rollout was
running and is not done: if not everybody of the fleet whose last grant was towards the target of
the group has ended, or nobody ended at the target. Where the flag falls, one end of the rollout is
logged, and none where it does not.
-/
theorem completion_closes_rollout {engine : Engine} (reached : Reachable engine)
    (operation : Operation) {step : Step} (member : step ∈ operation.steps engine)
    {row : Installation} (completes : step.Completes row) {target : String}
    (aims : step.after.store.targetOf row.groupId = some target) :
    (step.after.store.flagOf row.groupId = true ↔
        step.before.store.flagOf row.groupId = true ∧
          ¬ step.after.store.RolloutDone row.groupId target) ∧
      Finishes row.groupId
        (if step.before.store.flagOf row.groupId && !step.after.store.flagOf row.groupId then 1
          else 0)
        step.before.store step.after.store := by
  have moments := Operation.forall_moments reached (reached.step operation trivial)
    (fun other _ => reached.step other trivial) step member
  have performed := Operation.performed_steps reached.keyed operation step member
  refine ⟨performed.closes moments.1.keyed completes aims, ?_⟩
  have spared : operation.remakesGroup row.groupId engine = false := by
    cases serves : operation.isRequest with
    | true => exact Operation.remakesGroup_of_request serves row.groupId engine
    | false =>
      -- Upkeep touches no installation, so it completes no update.
      rw [Operation.steps_upkeep serves, List.mem_singleton] at member
      subst member
      exact absurd (Operation.run_changes serves engine).sameFleet.installations
        completes.installations_ne
  exact (Operation.course_steps reached spared step member).flagSound.finishes

def EventReport.completed (instanceId : String) : EventReport :=
  { instanceId, applicationId := "agent", groupId := "fleet", event := { kind := 3, result := 2 } }

def Operation.grantedTarget : List Operation :=
  smallCatalog ++ [.updatePlan { Registration.firstContact with version := "2.5.0" } .single]

-- An installation of the fleet that completed the version on its way to the target.
def Installation.done (instanceId version target : String) : Installation :=
  { instanceId, applicationId := "agent", groupId := "fleet", version, lastCheckAt := 0
    grantedAt := some 0, grantedVersion := some version, grantedTarget := some target
    status := .complete, inProgress := false, createdAt := 0 }

theorem completion_closes_rollout_grantedTarget :
    let engine := Operation.runAll {} Operation.grantedTarget
    let operation := Operation.registerEvent (.completed "host")
    let step : Step := ⟨engine, .event { kind := 3, result := 2 }, operation.run engine⟩
    let row := Installation.done "host" "3.0.0" "3.0.0"
    step.Completes row ∧
      ((step.after.store.flagOf row.groupId = true ↔
          step.before.store.flagOf row.groupId = true ∧
            ¬ step.after.store.RolloutDone row.groupId "3.0.0") ∧
        Finishes row.groupId
          (if step.before.store.flagOf row.groupId && !step.after.store.flagOf row.groupId then 1
            else 0)
          step.before.store step.after.store) ∧
      step.before.store.flagOf "fleet" = true ∧ step.after.store.flagOf "fleet" = false := by
  intro engine operation step row
  have reached : Reachable engine := (ReachableBy.start {} rfl).runAll (by decide +kernel)
  have completes : step.Completes row := ⟨by decide +kernel, rfl, by decide +kernel⟩
  have aims : step.after.store.targetOf row.groupId = some "3.0.0" := by decide +kernel
  have member : step ∈ operation.steps engine := List.mem_singleton.mpr rfl
  exact ⟨completes, completion_closes_rollout reached operation member completes aims,
    by decide +kernel, by decide +kernel⟩

/-- Nobody of the fleet is in flight to the target, and somebody is complete at it. -/
structure Store.RolloutOver (store : Store) (groupId target : String) : Prop where
  idle : ∀ row ∈ store.fleet groupId, row.status.isInFlight = true →
    row.grantedTarget ≠ some target
  reached : ∃ row ∈ store.fleet groupId, row.status = .complete ∧
    row.grantedVersion = some target

def Operation.heldAfterFailure : List Operation :=
  smallCatalog ++
    [ .updateGroup
        { id := "fleet", name := "Fleet", description := "", applicationId := "agent"
          channelId := some "stable", policy := { safeMode := false, maxUpdatesPerPeriod := 2 }
          rolloutInProgress := false, track := "fleet", createdAt := 0 },
      .updatePlan { Registration.firstContact with version := "2.5.0" } .single,
      .updatePlan { Registration.firstContact with instanceId := "other", version := "2.5.0" }
        .single,
      .registerEvent
        { instanceId := "host", applicationId := "agent", groupId := "fleet"
          event := { kind := 3, result := 0 } },
      .updatePlan { Registration.firstContact with version := "2.5.0" } .single ]

-- The host is on its way to a floor when that becomes the target.
def Operation.floorMadeTarget : List Operation :=
  smallCatalog ++
    [ .updatePlan .firstContact .single,
      .updateChannel
        { id := "stable", name := "Stable", color := "", applicationId := "agent"
          architecture := .amd64, packageId := some "bridge", createdAt := 0 } ]

-- Two rollouts that are over and stay open: one for a host on hold, whose grant is never ended, one
-- because its target was reached on the way to another one.
theorem rollout_over_left_open :
    (let engine := Operation.runAll {} Operation.heldAfterFailure
      let operation := Operation.registerEvent (.completed "other")
      let step : Step := ⟨engine, .event { kind := 3, result := 2 }, operation.run engine⟩
      Reachable engine ∧ step ∈ operation.steps engine ∧
        step.Completes (.done "other" "3.0.0" "3.0.0") ∧
        step.after.store.targetOf "fleet" = some "3.0.0" ∧
        step.after.store.RolloutOver "fleet" "3.0.0" ∧
        step.after.store.flagOf "fleet" = true) ∧
      (let engine := Operation.runAll {} Operation.floorMadeTarget
        let operation := Operation.registerEvent (.completed "host")
        let step : Step := ⟨engine, .event { kind := 3, result := 2 }, operation.run engine⟩
        Reachable engine ∧ step ∈ operation.steps engine ∧
          step.Completes (.done "host" "2.0.0" "3.0.0") ∧
          step.after.store.targetOf "fleet" = some "2.0.0" ∧
          step.after.store.RolloutOver "fleet" "2.0.0" ∧
          step.after.store.flagOf "fleet" = true) := by
  constructor
  · intro engine operation step
    exact ⟨(ReachableBy.start {} rfl).runAll (by decide +kernel), List.mem_singleton.mpr rfl,
      ⟨by decide +kernel, rfl, by decide +kernel⟩, by decide +kernel,
      ⟨by decide +kernel, by decide +kernel⟩, by decide +kernel⟩
  · intro engine operation step
    exact ⟨(ReachableBy.start {} rfl).runAll (by decide +kernel), List.mem_singleton.mpr rfl,
      ⟨by decide +kernel, rfl, by decide +kernel⟩, by decide +kernel,
      ⟨by decide +kernel, by decide +kernel⟩, by decide +kernel⟩

end FleetRollout

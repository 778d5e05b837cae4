import FleetRollout.Proofs.Lifecycle
import FleetRollout.Proofs.Limits

set_option autoImplicit false

/-!
Moves to another group. Whoever checks in elsewhere starts afresh there: none of its attempts is
under way, has ended or is late. The record of its last grant comes along, so the new group counts
it among those that were granted that target and, for the period of the grant, among those that
were granted an update.
-/

namespace FleetRollout

open Store FleetRollout.Action

instance : Add UpdateCounters where
  add left right :=
    { total := left.total + right.total
      granted := left.granted + right.granted
      attempted := left.attempted + right.attempted
      succeeded := left.succeeded + right.succeeded
      failed := left.failed + right.failed
      grantedInPeriod := left.grantedInPeriod + right.grantedInPeriod
      inProgress := left.inProgress + right.inProgress
      timedOut := left.timedOut + right.timedOut }

namespace CounterQuery

variable (query : CounterQuery) (row : Installation)

/-- What one installation adds to the figures that are asked for. -/
def share : UpdateCounters :=
  let counted (holds : Bool) := (holds && row.isOf query.groupId).toNat
  { total := counted true
    granted := counted (query.countsTowards row)
    attempted := counted (query.isAttempt row)
    succeeded := counted (query.isSuccess row)
    failed := counted (query.isFailure row)
    grantedInPeriod := counted (query.isInPeriod row)
    inProgress := counted (query.isRunning row)
    timedOut := counted (query.isTimedOut row) }

/-- What an installation adds that comes from another group. -/
def newcomer : UpdateCounters :=
  if Identifier.isSynthetic row.instanceId then {}
  else
    { total := 1
      granted := (query.countsTowards row).toNat
      grantedInPeriod := (query.isInPeriod row).toNat }

end CounterQuery

section Shares

variable {store after : Store} {key : String} {changed : Installation}

theorem countP_fleet_insert (written : after.installations = store.installations.insert key changed)
    (groupId : String) (keep : Installation → Bool) :
    (after.fleet groupId).countP keep +
        ((store.installations.get? key).elim 0 fun row =>
          (keep row && row.isOf groupId).toNat) =
      (store.fleet groupId).countP keep + (keep changed && changed.isOf groupId).toNat := by
  have balance := Table.countP_values_insert (fun row => keep row && row.isOf groupId)
    store.installations key changed
  rw [← written, ← countP_fleet, ← countP_fleet] at balance
  cases known : store.installations.get? key <;>
    simpa [known, List.countP_singleton, Bool.toNat, Bool.cond_eq_ite] using balance

theorem updateCounters_insert
    (written : after.installations = store.installations.insert key changed)
    (query : CounterQuery) :
    after.updateCounters query + ((store.installations.get? key).elim {} query.share) =
      store.updateCounters query + query.share changed := by
  have balance := countP_fleet_insert written query.groupId
  have total := balance fun _ => true
  simp only [List.countP_true] at total
  cases known : store.installations.get? key <;>
    simp only [known, Option.elim] at balance total ⊢ <;>
    exact UpdateCounters.mk.injEq .. ▸ ⟨total, balance _, balance _, balance _, balance _,
      balance _, balance _, balance _⟩

end Shares

theorem Installation.seen_elsewhere {row : Installation} {sighting : Sighting}
    (elsewhere : sighting.groupId ≠ row.groupId) :
    row.seen sighting =
      { row with
        version := sighting.version
        lastCheckAt := sighting.time
        groupId := sighting.groupId
        status := .undefined
        inProgress := false } :=
  if_neg elsewhere.symm

namespace CounterQuery

variable {query : CounterQuery} {row : Installation}

theorem share_elsewhere (other : row.groupId ≠ query.groupId) : query.share row = {} := by
  simp [share, Installation.isOf, other]

-- The reset leaves nothing to be counted but the last grant.
theorem share_seen {sighting : Sighting} (elsewhere : sighting.groupId ≠ row.groupId)
    (own : query.groupId = sighting.groupId) :
    query.share (row.seen sighting) = query.newcomer row := by
  rw [Installation.seen_elsewhere elsewhere]
  cases synthetic : Identifier.isSynthetic row.instanceId <;>
    simp [share, newcomer, Installation.isOf, synthetic, own, isAttempt, isSuccess, isFailure,
      isRunning, isTimedOut, isInPeriod, countsTowards, Installation.countedTarget,
      Status.isTerminal]

end CounterQuery

section Moves

variable {before after : Engine} {stage : Stage} {key : String} {row changed : Installation}

-- Only a check-in takes an installation to another group.
theorem Effect.elsewhere (effect : Effect stage before after)
    (known : before.store.installations.get? key = some row)
    (found : after.store.installations.get? key = some changed)
    (moves : changed.groupId ≠ row.groupId) :
    stage = .arrival ∧
      after.store.installations = before.store.installations.insert key changed ∧
      ∃ sighting : Sighting, sighting.groupId ≠ row.groupId ∧ changed = row.seen sighting := by
  cases effect with
  | quiet fleet =>
    rw [fleet.installations, known] at found
    exact absurd (congrArg Installation.groupId (Option.some.inj found)).symm moves
  | turned turnedKey turned errorCode turn installations =>
    have written := found
    rw [installations, Table.get_insert] at written
    split at written
    next same =>
      obtain rfl := Option.some.inj written
      rw [same, known] at turn
      rw [same] at installations
      cases turn with
      | seen _ sighting =>
        rcases row.seen_cases sighting with stays | ⟨left, -⟩
        · exact absurd (by rw [stays]) moves
        · exact ⟨rfl, installations, sighting, left, rfl⟩
      | _ => exact absurd rfl moves
    next =>
      rw [known] at written
      exact absurd (congrArg Installation.groupId (Option.some.inj written)).symm moves

end Moves

/--
When an instance moves to another group, the figures of that group differ by the newcomer, whatever
they are asked for: it is counted, and its last grant with it, but no attempt of it is.
-/
theorem move_adds_newcomer {engine : Engine} (reached : Reachable engine) (operation : Operation)
    {step : Step} (member : step ∈ operation.steps engine) {key : String}
    {row changed : Installation}
    (known : step.before.store.installations.get? key = some row)
    (found : step.after.store.installations.get? key = some changed)
    (moves : changed.groupId ≠ row.groupId) (query : CounterQuery)
    (own : query.groupId = changed.groupId) :
    step.after.store.updateCounters query =
      step.before.store.updateCounters query + query.newcomer row := by
  have effect := Operation.effect_steps reached.keyed operation step member
  obtain ⟨-, written, sighting, left, rfl⟩ := effect.elsewhere known found moves
  have balance := updateCounters_insert written query
  have place : query.groupId = sighting.groupId := by
    rw [own, Installation.seen_elsewhere left]
  rw [known, Option.elim, CounterQuery.share_elsewhere (by rwa [place, ne_comm]),
    CounterQuery.share_seen left place] at balance
  exact balance

def Operation.reserveBeside : List Operation :=
  smallCatalog ++
    [ .createGroup
        { id := some "reserve", name := "Reserve", applicationId := "agent"
          channelId := some "stable" },
      .updatePlan .firstContact .single ]

def CounterQuery.ofReserve : CounterQuery :=
  { groupId := "reserve", version := "3.0.0", periodSeconds := 900, timeoutSeconds := 3600
    now := 0 }

theorem move_adds_newcomer_reserve :
    let engine := Operation.runAll {} Operation.reserveBeside
    let move := Operation.registerInstance { Registration.firstContact with groupId := "reserve" }
    Reachable engine ∧ ∃ row changed,
      engine.store.installations.get? "agent:host" = some row ∧
      (move.run engine).store.installations.get? "agent:host" = some changed ∧
      row.groupId = "fleet" ∧ changed.groupId = "reserve" ∧
      (move.run engine).store.updateCounters .ofReserve =
        engine.store.updateCounters .ofReserve + CounterQuery.ofReserve.newcomer row := by
  intro engine move
  have reached : Reachable engine := (ReachableBy.start {} rfl).runAll (by decide +kernel)
  obtain ⟨row, known⟩ := Option.isSome_iff_exists.mp
    (show (engine.store.installations.get? "agent:host").isSome = true by decide +kernel)
  obtain ⟨changed, found⟩ := Option.isSome_iff_exists.mp
    (show ((move.run engine).store.installations.get? "agent:host").isSome = true by
      decide +kernel)
  have leaves : (engine.store.installations.get? "agent:host").map (·.groupId) = some "fleet" := by
    decide +kernel
  have enters : ((move.run engine).store.installations.get? "agent:host").map (·.groupId) =
      some "reserve" := by decide +kernel
  rw [known, Option.map_some, Option.some.injEq] at leaves
  rw [found, Option.map_some, Option.some.injEq] at enters
  have member : (⟨engine, .arrival, move.run engine⟩ : Step) ∈ move.steps engine :=
    List.mem_singleton.mpr rfl
  exact ⟨reached, row, changed, known, found, leaves, enters,
    move_adds_newcomer reached move member known found (by rw [leaves, enters]; decide) .ofReserve
      enters.symm⟩

-- The host comes with its grant, so the other group has granted an update and awaits its end.
theorem move_brings_grant_reserve :
    let engine := Operation.runAll {} Operation.reserveBeside
    let move := Operation.registerInstance { Registration.firstContact with groupId := "reserve" }
    Reachable engine ∧
      (engine.store.installations.get? "agent:host").map (·.groupId) = some "fleet" ∧
      ((move.run engine).store.installations.get? "agent:host").map (·.groupId) =
        some "reserve" ∧
      engine.store.updateCounters .ofReserve = {} ∧
      (move.run engine).store.updateCounters .ofReserve =
        { total := 1, granted := 1, grantedInPeriod := 1 } := by
  intro engine move
  exact ⟨(ReachableBy.start {} rfl).runAll (by decide +kernel), by decide +kernel,
    by decide +kernel, by decide +kernel, by decide +kernel⟩

end FleetRollout

import FleetRollout.Proofs.Canary
import FleetRollout.Proofs.Limits
import Mathlib.Data.Finset.Card

set_option autoImplicit false

/-!
The quota of a period. An installation only keeps the time of its last grant, so a later grant
overwrites an earlier one; but whoever was granted an update since a window opened still has a
grant on record that is no older, and the policy counts it until the window closes.
-/

namespace FleetRollout

open Store FleetRollout.Action

-- Who of the fleet is granted an update in the step.
def Step.granted (step : Step) (groupId : String) : List Installation :=
  (step.after.store.fleet groupId).filter fun row =>
    row.status = .updateGranted &&
      (step.before.store.installations.get? row.key).all (·.status ≠ .updateGranted)

/-- The installations of the fleet that are granted an update from the one time to the other. -/
def grantedWithin (groupId : String) (opening closing : Nat) (steps : List Step) : Finset String :=
  ((steps.filter fun step => opening ≤ step.time && step.time ≤ closing).flatMap fun step =>
    (step.granted groupId).map (·.key)).toFinset

theorem mem_grantedWithin {groupId : String} {opening closing : Nat} {steps : List Step}
    {key : String} :
    key ∈ grantedWithin groupId opening closing steps ↔ ∃ step ∈ steps,
      (opening ≤ step.time ∧ step.time ≤ closing) ∧
        ∃ row ∈ step.granted groupId, row.key = key := by
  simp [grantedWithin, and_assoc]

theorem grantedWithin_concat (groupId : String) (opening closing : Nat) (steps : List Step)
    (step : Step) :
    grantedWithin groupId opening closing (steps ++ [step]) =
      grantedWithin groupId opening closing steps ∪
        grantedWithin groupId opening closing [step] := by
  ext key
  simp only [mem_grantedWithin, Finset.mem_union, List.mem_append, or_and_right, exists_or]

section Turns

variable {before : Engine} {stage : Stage} {key : String} {row changed : Installation}

theorem Turn.grantedAt (turn : Turn before stage key (some row) changed) :
    changed.grantedAt = row.grantedAt ∨ changed.grantedAt = some before.now := by
  cases turn with
  | seen => exact .inl (row.seen_grantedAt _)
  | granted => exact .inr rfl
  | _ => exact .inl rfl

theorem Turn.of_granted {old : Option Installation} (turn : Turn before stage key old changed)
    (granted : changed.status = .updateGranted)
    (fresh : old.all (·.status ≠ .updateGranted) = true) :
    before.Admits changed.groupId ∧ changed.grantedAt = some before.now := by
  obtain ⟨row, group, channel, target, version, -, -, asks, admitted, rfl⟩ :=
    turn.of_fresh granted fresh
  exact ⟨asks.admits admitted, rfl⟩

end Turns

section Effects

variable {stage : Stage} {before after : Engine} {groupId : String}

theorem Effect.stays {row : Installation} (effect : Effect stage before after)
    (keyed : before.store.Keyed) (afterKeyed : after.store.Keyed)
    (kept : keepsFleet groupId before.store after.store = true)
    (member : row ∈ before.store.fleet groupId) :
    ∃ later ∈ after.store.fleet groupId, later.key = row.key ∧
      (later.grantedAt = row.grantedAt ∨ later.grantedAt = some before.now) := by
  obtain ⟨found, place⟩ := keyed.mem_fleet.mp member
  rcases effect.lookup row.key with same | ⟨changed, current, turn⟩
  · exact ⟨row, afterKeyed.mem_fleet.mpr ⟨same.trans found, place⟩, rfl, .inl rfl⟩
  · rw [found] at turn
    have sameKey : changed.key = row.key := afterKeyed.installations _ changed current
    -- Only a check-in in another group would take it out of the fleet.
    have remains : changed.groupId = groupId := by
      have inFleet := List.all_eq_true.mp kept row member
      simpa [current] using inFleet
    refine ⟨changed, afterKeyed.mem_fleet.mpr ⟨?_, remains, ?_⟩, sameKey, turn.grantedAt⟩
    · rwa [sameKey]
    · rw [turn.instanceId]
      exact place.2

-- A step grants an update to one installation at most, which the policy admitted.
theorem Effect.granted_cases (effect : Effect stage before after) (afterKeyed : after.store.Keyed)
    (groupId : String) :
    (Step.mk before stage after).granted groupId = [] ∨
    ∃ changed ∈ after.store.fleet groupId, changed.grantedAt = some before.now ∧
      (∀ row ∈ (Step.mk before stage after).granted groupId, row = changed) ∧
      before.Admits groupId := by
  by_cases idle : (Step.mk before stage after).granted groupId = []
  case pos => exact .inl idle
  obtain ⟨row, member⟩ := List.exists_mem_of_ne_nil _ idle
  have fresh {row : Installation} (member : row ∈ (Step.mk before stage after).granted groupId) :
      after.store.installations.get? row.key = some row ∧
        before.store.installations.get? row.key ≠ some row := by
    obtain ⟨inFleet, granted⟩ := List.mem_filter.mp member
    refine ⟨(afterKeyed.mem_fleet.mp inFleet).1, fun known => ?_⟩
    simp [known] at granted
  right
  cases effect with
  | quiet fleet =>
    obtain ⟨found, changed⟩ := fresh member
    rw [fleet.installations] at found
    exact absurd found changed
  | turned key changed errorCode turn installations =>
    have only {row : Installation}
        (member : row ∈ (Step.mk before stage after).granted groupId) :
        key = row.key ∧ row = changed := by
      obtain ⟨found, differs⟩ := fresh member
      rw [installations, Table.get_insert] at found
      split at found
      next own => exact ⟨own, (Option.some.inj found).symm⟩
      next => exact absurd found differs
    obtain ⟨own, rfl⟩ := only member
    obtain ⟨inFleet, granted⟩ := List.mem_filter.mp member
    simp only [Bool.and_eq_true, decide_eq_true_eq] at granted
    obtain ⟨admits, time⟩ := turn.of_granted granted.1 (by rw [own]; exact granted.2)
    rw [(afterKeyed.mem_fleet.mp inFleet).2.1] at admits
    exact ⟨row, inFleet, time, fun other listed => (only listed).2, admits⟩

end Effects

section Run

variable {groupId : String} {limits : Policy} {opening : Nat} {done : List Step}

-- Whoever was granted an update since the opening has a grant on record that is no older.
structure WithinQuota (groupId : String) (limits : Policy) (opening : Nat) (done : List Step)
    (moment : Engine) : Prop where
  few : (grantedWithin groupId opening (opening + limits.periodSeconds) done).card ≤
    limits.maxUpdatesPerPeriod
  onRecord : ∀ key ∈ grantedWithin groupId opening (opening + limits.periodSeconds) done,
    ∃ row ∈ moment.store.fleet groupId, row.key = key ∧
      ∃ time, row.grantedAt = some time ∧ opening ≤ time ∧ time ≤ moment.now

theorem WithinQuota.card_le_grantedSince {moment : Engine}
    (within : WithinQuota groupId limits opening done moment) {since : Nat}
    (early : since ≤ opening) :
    (grantedWithin groupId opening (opening + limits.periodSeconds) done).card ≤
      moment.store.grantedSince groupId since := by
  rw [grantedSince, List.countP_eq_length_filter, ← List.length_map (·.key)]
  refine (Finset.card_le_card fun key member => ?_).trans (List.toFinset_card_le _)
  obtain ⟨row, inFleet, own, time, granted, inside, -⟩ := within.onRecord key member
  refine List.mem_toFinset.mpr (List.mem_map.mpr ⟨row, List.mem_filter.mpr ⟨inFleet, ?_⟩, own⟩)
  rw [granted]
  exact decide_eq_true (early.trans inside)

theorem WithinQuota.card_lt {moment : Engine}
    (within : WithinQuota groupId limits opening done moment) (keyed : moment.store.Keyed)
    (same : moment.store.limitsOf groupId = some limits) (counts : limits.Counts)
    (closing : moment.now ≤ opening + limits.periodSeconds) (admits : moment.Admits groupId) :
    (grantedWithin groupId opening (opening + limits.periodSeconds) done).card <
      limits.maxUpdatesPerPeriod :=
  (within.card_le_grantedSince (Nat.sub_le_iff_le_add.mpr closing)).trans_lt
    (admits.below keyed same counts).1

theorem WithinQuota.step {step : Step}
    (within : WithinQuota groupId limits opening done step.before)
    (keyed : step.before.store.Keyed) (afterKeyed : step.after.store.Keyed)
    (effect : Effect step.stage step.before step.after)
    (same : step.before.store.limitsOf groupId = some limits) (counts : limits.Counts)
    (clock : step.before.now ≤ step.after.now)
    (stays : keepsFleet groupId step.before.store step.after.store = true) :
    WithinQuota groupId limits opening (done ++ [step]) step.after := by
  have granted := effect.granted_cases afterKeyed groupId
  have new {key : String}
      (member : key ∈ grantedWithin groupId opening (opening + limits.periodSeconds) [step]) :
      (opening ≤ step.time ∧ step.time ≤ opening + limits.periodSeconds) ∧
        ∃ row ∈ step.granted groupId, row.key = key := by
    simpa using mem_grantedWithin.mp member
  constructor
  case few =>
    -- Only a grant in the window adds to those counted, and then the policy has counted them all.
    rw [grantedWithin_concat]
    rcases Finset.eq_empty_or_nonempty
        (grantedWithin groupId opening (opening + limits.periodSeconds) [step]) with
      none | ⟨key, member⟩
    · rw [none, Finset.union_empty]
      exact within.few
    · obtain ⟨window, row, listed, -⟩ := new member
      rcases granted with idle | ⟨changed, -, -, only, admits⟩
      · exact absurd listed (by rw [show step.granted groupId = [] from idle]; simp)
      · have single : grantedWithin groupId opening (opening + limits.periodSeconds) [step] ⊆
            {changed.key} := by
          intro other present
          obtain ⟨-, row, listed, rfl⟩ := new present
          rw [only row listed]
          exact Finset.mem_singleton_self _
        have room := within.card_lt keyed same counts window.2 admits
        have one := Finset.card_le_card single
        rw [Finset.card_singleton] at one
        exact (Finset.card_union_le _ _).trans (by omega)
  case onRecord =>
    intro key member
    rw [grantedWithin_concat, Finset.mem_union] at member
    rcases member with earlier | present
    -- A new grant of the same installation only makes the time on record younger.
    · obtain ⟨row, inFleet, own, time, onRecord, inside, past⟩ := within.onRecord key earlier
      obtain ⟨later, remains, sameKey, kept | renewed⟩ :=
        effect.stays keyed afterKeyed stays inFleet
      · exact ⟨later, remains, sameKey.trans own, time, kept.trans onRecord, inside,
          past.trans clock⟩
      · exact ⟨later, remains, sameKey.trans own, step.before.now, renewed, inside.trans past,
          clock⟩
    · obtain ⟨window, row, listed, own⟩ := new present
      rcases granted with idle | ⟨changed, inFleet, time, only, -⟩
      · exact absurd listed (by rw [show step.granted groupId = [] from idle]; simp)
      · rw [only row listed] at own
        exact ⟨changed, inFleet, own, step.before.now, time, window.1, clock⟩

/--
While nobody works on the group's record, the clock does not run back and nobody leaves the fleet,
no window of a period, both ends included, sees more installations granted an update than the
policy allows per period.
-/
theorem period_quota {start : Engine} {operations : List Operation} {group : Group}
    (reached : Reachable start) (stored : start.store.groups.get? groupId = some group)
    (counts : group.policy.Counts)
    (spared : AllowedRun (fun engine operation => operation.rewritesGroup groupId engine = false)
      start operations)
    (clock : ∀ step ∈ Operation.trace start operations, step.before.now ≤ step.after.now)
    (stays : ∀ step ∈ Operation.trace start operations,
      keepsFleet groupId step.before.store step.after.store = true) (opening : Nat) :
    (grantedWithin groupId opening (opening + group.policy.periodSeconds)
      (Operation.trace start operations)).card ≤ group.policy.maxUpdatesPerPeriod := by
  have limited : start.store.limitsOf groupId = some group.limits := by
    rw [limitsOf, stored]
    rfl
  have begin : WithinQuota groupId group.limits opening [] start :=
    ⟨Nat.zero_le _, fun key member => absurd member (Finset.notMem_empty key)⟩
  have whole := (Operation.linked_trace start operations).of_kept [] begin
    fun done step member within => by
      obtain ⟨before, after⟩ := Operation.reachable_trace reached operations step member
      have same := (Operation.trace_sameLimits reached spared step member).1
      exact within.step before.keyed after.keyed
        (Operation.effect_trace reached operations step member) (same.trans limited)
        ⟨counts.needed, counts.bounds⟩ (clock step member) (stays step member)
  exact whole.few

end Run

-- One instance completes an update; another one has to ask again once the period is over.
def Operation.inTurns : List Operation :=
  [ .updatePlan .firstContact .single,
    .registerEvent
      { instanceId := "host", applicationId := "agent", groupId := "fleet"
        event := { kind := 3, result := 2 } },
    .advance 900,
    .updatePlan { Registration.firstContact with instanceId := "other" } .single,
    .advance 1,
    .updatePlan { Registration.firstContact with instanceId := "other" } .single ]

theorem period_quota_inTurns :
    let start := Operation.runAll {} Operation.limitedCatalog
    let steps := Operation.trace start Operation.inTurns
    (∀ opening, (grantedWithin "fleet" opening (opening + 900) steps).card ≤ 1) ∧
      grantedWithin "fleet" 0 900 steps = {"agent:host"} ∧
      grantedWithin "fleet" 0 901 steps = {"agent:host", "agent:other"} := by
  intro start steps
  have reached : Reachable start := (ReachableBy.start {} rfl).runAll (by decide +kernel)
  have stored : start.store.groups.get? "fleet" = some .oneByOne := by decide +kernel
  have counts : Group.oneByOne.policy.Counts := ⟨rfl, .inr rfl⟩
  have spared : AllowedRun
      (fun engine operation => operation.rewritesGroup "fleet" engine = false)
      start Operation.inTurns := by decide +kernel
  have clock : ∀ step ∈ steps, step.before.now ≤ step.after.now := by decide +kernel
  have stays : ∀ step ∈ steps,
      keepsFleet "fleet" step.before.store step.after.store = true := by decide +kernel
  have quota := period_quota reached stored counts spared clock stays
  have one : grantedWithin "fleet" 0 900 steps = {"agent:host"} := by decide +kernel
  have two : grantedWithin "fleet" 0 901 steps = {"agent:host", "agent:other"} := by
    decide +kernel
  exact ⟨quota, one, two⟩

end FleetRollout

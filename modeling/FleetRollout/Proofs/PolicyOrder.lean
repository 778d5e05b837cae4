import FleetRollout.Proofs.Operation

set_option autoImplicit false

/-!
How policies compare. Raising the limit of a policy or switching its safe mode off denies nothing
that was admitted before, with one exception: until an attempt has ended, safe mode lets a single
instance go first whatever the limit is, also under a limit of zero, which by itself admits nobody.
-/

namespace FleetRollout

open Store FleetRollout.Action

namespace Policy

/-- The other policy differs in nothing but a raised limit and safe mode that is switched off. -/
structure IsRelaxedBy (policy relaxed : Policy) : Prop where
  raised : policy.maxUpdatesPerPeriod ≤ relaxed.maxUpdatesPerPeriod
  unguarded : relaxed.safeMode = true → policy.safeMode = true
  others : relaxed =
    { policy with
      safeMode := relaxed.safeMode
      maxUpdatesPerPeriod := relaxed.maxUpdatesPerPeriod }

def admitsNobody (policy : Policy) : Bool :=
  !policy.safeMode && policy.maxUpdatesPerPeriod = 0

theorem refusal_eq_none {policy : Policy} {counters : UpdateCounters} :
    policy.refusal? counters = none ↔
      counters.grantedInPeriod < policy.limit counters ∧
        counters.inProgress < policy.limit counters ∧
        (policy.safeMode = true → counters.timedOut < policy.limit counters) := by
  simp only [refusal?]
  split_ifs with period running late <;> simp_all

theorem refusal_of_admitsNobody {policy : Policy} (nobody : policy.admitsNobody = true)
    (counters : UpdateCounters) : policy.refusal? counters = some .periodLimitReached := by
  obtain ⟨unguarded, none⟩ : policy.safeMode = false ∧ policy.maxUpdatesPerPeriod = 0 := by
    simpa [admitsNobody] using nobody
  simp [refusal?, limit, unguarded, none]

theorem needsCounters_of_admitsNobody {policy : Policy} (nobody : policy.admitsNobody = true) :
    policy.needsCounters = true := by
  have none : policy.maxUpdatesPerPeriod = 0 := by
    simp only [admitsNobody, Bool.and_eq_true, decide_eq_true_eq] at nobody
    exact nobody.2
  simp [needsCounters, none, unlimitedUpdates]

namespace IsRelaxedBy

variable {policy relaxed : Policy}

theorem isOpen (relaxes : policy.IsRelaxedBy relaxed) (now : Nat) :
    relaxed.isOpen now = policy.isOpen now := by
  rw [relaxes.others]
  rfl

theorem counterQuery (relaxes : policy.IsRelaxedBy relaxed) (group : Group) (version : String)
    (now : Nat) :
    { group with policy := relaxed }.counterQuery version now =
      { group with policy }.counterQuery version now := by
  rw [relaxes.others]
  rfl

theorem needsCounters (relaxes : policy.IsRelaxedBy relaxed)
    (needs : relaxed.needsCounters = true) : policy.needsCounters = true := by
  simp only [Policy.needsCounters, Bool.or_eq_true, decide_eq_true_eq] at needs ⊢
  exact needs.imp relaxes.unguarded (Nat.lt_of_le_of_lt relaxes.raised)

theorem limit_le (relaxes : policy.IsRelaxedBy relaxed) (admits : relaxed.admitsNobody = false)
    (counters : UpdateCounters) : policy.limit counters ≤ relaxed.limit counters := by
  unfold limit
  cases guarded : relaxed.safeMode with
  | true =>
    rw [relaxes.unguarded guarded]
    split
    · exact Nat.le_refl 1
    · exact relaxes.raised
  | false =>
    have positive : 1 ≤ relaxed.maxUpdatesPerPeriod := by
      simp only [admitsNobody, guarded, Bool.not_false, Bool.true_and,
        decide_eq_false_iff_not] at admits
      exact Nat.one_le_iff_ne_zero.mpr admits
    split
    · exact positive
    · exact relaxes.raised

theorem refusal (relaxes : policy.IsRelaxedBy relaxed) (admits : relaxed.admitsNobody = false)
    {counters : UpdateCounters} (admitted : policy.refusal? counters = none) :
    relaxed.refusal? counters = none := by
  obtain ⟨period, running, late⟩ := refusal_eq_none.mp admitted
  have most := relaxes.limit_le admits counters
  exact refusal_eq_none.mpr ⟨period.trans_le most, running.trans_le most,
    fun guarded => (late (relaxes.unguarded guarded)).trans_le most⟩

end IsRelaxedBy

end Policy

namespace Store

def Allows (store : Store) (group : Group) (version : String) (now : Nat) : Prop :=
  ((enforcePolicy group version now).perform store).1 = .ok ()

/-- The group is open, and its counters are below every limit, whether they are needed or not. -/
def AllowsInFull (store : Store) (group : Group) (version : String) (now : Nat) : Prop :=
  group.policy.isOpen now = .ok true ∧
    group.policy.refusal? (store.updateCounters (group.counterQuery version now)) = none

instance (store : Store) (group : Group) (version : String) (now : Nat) :
    Decidable (store.Allows group version now) :=
  inferInstanceAs (Decidable (_ = _))

variable {store : Store} {group : Group} {version : String} {now : Nat}

theorem allows_iff :
    store.Allows group version now ↔
      group.policy.isOpen now = .ok true ∧
        (group.policy.needsCounters = true →
          group.policy.refusal? (store.updateCounters (group.counterQuery version now)) =
            none) := by
  constructor
  · intro allowed
    exact (enforcePolicy_ok.mp (Prod.ext allowed rfl)).2
  · intro admitted
    exact congrArg Prod.fst (enforcePolicy_ok.mpr ⟨rfl, admitted⟩)

theorem AllowsInFull.allows (allowed : store.AllowsInFull group version now) :
    store.Allows group version now :=
  allows_iff.mpr ⟨allowed.1, fun _ => allowed.2⟩

theorem Allows.relaxed {policy relaxed : Policy}
    (allowed : store.Allows { group with policy } version now)
    (relaxes : policy.IsRelaxedBy relaxed) (admits : relaxed.admitsNobody = false) :
    store.Allows { group with policy := relaxed } version now := by
  obtain ⟨isOpen, admitted⟩ := allows_iff.mp allowed
  refine allows_iff.mpr ⟨(relaxes.isOpen now).trans isOpen, fun needs => ?_⟩
  rw [relaxes.counterQuery]
  exact relaxes.refusal admits (admitted (relaxes.needsCounters needs))

theorem not_allows_of_admitsNobody (nobody : group.policy.admitsNobody = true) :
    ¬ store.Allows group version now := by
  intro allowed
  have admitted := (allows_iff.mp allowed).2 (Policy.needsCounters_of_admitsNobody nobody)
  simp [Policy.refusal_of_admitsNobody nobody] at admitted

end Store

/--
Whoever is admitted under a policy is admitted under a relaxed one, unless the relaxed one admits
nobody: no safe mode, and a limit of zero. Where counters are left aside, nobody is denied whom they
would let pass.
-/
theorem policies_monotone {policy relaxed : Policy} (relaxes : policy.IsRelaxedBy relaxed)
    (store : Store) (group : Group) (version : String) (now : Nat) :
    (store.Allows { group with policy } version now →
      (store.Allows { group with policy := relaxed } version now ↔
        relaxed.admitsNobody = false)) ∧
    (store.AllowsInFull group version now → store.Allows group version now) := by
  refine ⟨fun allowed => ⟨fun relaxedToo => ?_, allowed.relaxed relaxes⟩, AllowsInFull.allows⟩
  rw [← Bool.not_eq_true]
  intro nobody
  exact not_allows_of_admitsNobody nobody relaxedToo

theorem policies_monotone_afterCanary :
    let engine := Operation.runAll {} (Operation.smallCatalog ++
      [ .updatePlan .firstContact .single,
        .registerEvent
          { instanceId := "host", applicationId := "agent", groupId := "fleet"
            event := { kind := 3, result := 2 } } ])
    let policy : Policy := {}
    let relaxed : Policy := { safeMode := false, maxUpdatesPerPeriod := 3 }
    let group : Group :=
      { id := "fleet", name := "Fleet", description := "", applicationId := "agent"
        channelId := some "stable", policy, rolloutInProgress := true, track := "fleet"
        createdAt := engine.now }
    let counters := engine.store.updateCounters (group.counterQuery "3.0.0" engine.now)
    policy.IsRelaxedBy relaxed ∧ engine.store.groups.get? "fleet" = some group ∧
      counters.attempted = 1 ∧ counters.grantedInPeriod = 1 ∧
      engine.store.AllowsInFull group "3.0.0" engine.now ∧
      engine.store.Allows group "3.0.0" engine.now ∧
      engine.store.Allows { group with policy := relaxed } "3.0.0" engine.now := by
  intro engine policy relaxed group counters
  have relaxes : policy.IsRelaxedBy relaxed := ⟨by decide, by decide, rfl⟩
  have stored : engine.store.groups.get? "fleet" = some group := by decide +kernel
  have attempted : counters.attempted = 1 := by decide +kernel
  have granted : counters.grantedInPeriod = 1 := by decide +kernel
  have inFull : engine.store.AllowsInFull group "3.0.0" engine.now :=
    ⟨by decide +kernel, by decide +kernel⟩
  -- From here on the run that led to the state does not matter.
  clear_value counters engine
  obtain ⟨monotone, skipping⟩ :=
    policies_monotone relaxes engine.store group "3.0.0" engine.now
  exact ⟨relaxes, stored, attempted, granted, inFull, skipping inFull,
    (monotone (skipping inFull)).mpr rfl⟩

-- In safe mode the first instance is let through, and by a limit of zero alone it is not.
theorem policies_not_monotone :
    ¬ ∀ (store : Store) (group : Group) (version : String) (now : Nat) (policy relaxed : Policy),
      policy.IsRelaxedBy relaxed → store.Allows { group with policy } version now →
        store.Allows { group with policy := relaxed } version now := by
  intro monotone
  let group : Group :=
    { id := "fleet", name := "Fleet", description := "", applicationId := "agent"
      channelId := none, policy := {}, rolloutInProgress := false, track := "fleet"
      createdAt := 0 }
  have relaxes : Policy.IsRelaxedBy { maxUpdatesPerPeriod := 0 }
      { safeMode := false, maxUpdatesPerPeriod := 0 } := ⟨Nat.le_refl 0, fun _ => rfl, rfl⟩
  have admitted : Store.empty.Allows { group with policy := { maxUpdatesPerPeriod := 0 } }
      "1.0.0" 0 := by decide +kernel
  exact absurd (monotone Store.empty group "1.0.0" 0 _ _ relaxes admitted) (by decide +kernel)

end FleetRollout

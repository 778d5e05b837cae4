import FleetRollout.Store.Timeline
import Mathlib.Algebra.BigOperators.Group.List.Basic
import Mathlib.Algebra.GroupWithZero.Nat
import Mathlib.Data.List.Induction

set_option autoImplicit false

/-!
Counting elements of several kinds: what is counted kind by kind is counted once altogether. A
tally that is kept element by element holds how often each of them occurs.
-/

namespace FleetRollout

variable {α : Type}

theorem countP_add {first second whole : α → Bool}
    (each : ∀ element, (first element).toNat + (second element).toNat = (whole element).toNat)
    (elements : List α) :
    elements.countP first + elements.countP second = elements.countP whole := by
  have one (counted : Bool) : counted.toNat = if counted then 1 else 0 := by
    cases counted <;> rfl
  induction elements with
  | nil => rfl
  | cons head rest ih =>
    have split := each head
    simp only [one] at split
    simp only [List.countP_cons]
    omega

section Kinds

variable [DecidableEq α]

theorem sum_count {kinds : List α} (distinct : kinds.Nodup) (elements : List α) :
    (kinds.map elements.count).sum = elements.countP (· ∈ kinds) := by
  induction kinds with
  | nil => simp
  | cons kind others ih =>
    obtain ⟨fresh, distinct⟩ := List.nodup_cons.mp distinct
    rw [List.map_cons, List.sum_cons, ih distinct]
    -- What is of this kind is of no other, so nothing is counted twice.
    refine countP_add (fun element => ?_) elements
    by_cases same : element = kind
    · subst same
      simp [fresh]
    · simp [same]

theorem nodup_eraseDups : ∀ elements : List α, elements.eraseDups.Nodup
  | [] => by simp
  | head :: rest => by
    rw [List.eraseDups_cons, List.nodup_cons]
    exact ⟨by simp, nodup_eraseDups (rest.filter fun element => !element == head)⟩
termination_by elements => elements.length
decreasing_by exact Nat.lt_succ_of_le (List.length_filter_le _ rest)

theorem sum_count_eraseDups (elements : List α) :
    (elements.eraseDups.map elements.count).sum = elements.length := by
  rw [sum_count (nodup_eraseDups elements), List.countP_eq_length]
  intro element member
  simpa using member

end Kinds

namespace Timeline

variable [BEq α]

def countIn (counts : List (α × Nat)) (element : α) : Nat :=
  (counts.lookup element).getD 0

def totalOf (counts : List (α × Nat)) : Nat :=
  (counts.map (·.2)).sum

theorem totalOf_countOne (element : α) (counts : List (α × Nat)) :
    totalOf (countOne element counts) = totalOf counts + 1 := by
  induction counts with
  | nil => rfl
  | cons head rest ih =>
    unfold totalOf at ih
    unfold countOne
    split <;> simp [totalOf] <;> omega

theorem tally_concat (elements : List α) (element : α) :
    tally (elements ++ [element]) = countOne element (tally elements) := by
  rw [tally, List.foldl_append]
  rfl

theorem totalOf_tally (elements : List α) : totalOf (tally elements) = elements.length := by
  induction elements using List.reverseRecOn with
  | nil => rfl
  | append_singleton earlier element ih =>
    rw [tally_concat, totalOf_countOne, ih, List.length_append, List.length_singleton]

variable [LawfulBEq α]

theorem countIn_cons (present other : α) (count : Nat) (rest : List (α × Nat)) :
    countIn ((present, count) :: rest) other =
      if present == other then count else countIn rest other := by
  rw [BEq.comm, countIn, countIn, List.lookup_cons]
  cases other == present <;> rfl

theorem countIn_countOne (element other : α) (counts : List (α × Nat)) :
    countIn (countOne element counts) other =
      countIn counts other + if element == other then 1 else 0 := by
  induction counts with
  | nil =>
    rw [countOne, countIn_cons]
    cases element == other <;> rfl
  | cons head rest ih =>
    obtain ⟨present, count⟩ := head
    unfold countOne
    by_cases found : present = element
    · subst found
      by_cases same : present = other <;> simp [countIn_cons, same]
    · by_cases same : present = other
      · simp [countIn_cons, ← same, found, Ne.symm found]
      · simp [countIn_cons, found, same, ih]

theorem countIn_tally (elements : List α) (element : α) :
    countIn (tally elements) element = elements.count element := by
  induction elements using List.reverseRecOn with
  | nil => rfl
  | append_singleton earlier last ih =>
    rw [tally_concat, countIn_countOne, ih, List.count_append, List.count_singleton]

end Timeline

end FleetRollout

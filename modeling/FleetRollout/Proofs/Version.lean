import FleetRollout.Version
import Mathlib.Data.Prod.Lex
import Mathlib.Order.Compare
import Mathlib.Order.WithBot

set_option autoImplicit false

/-!
The order of versions: by the numeric triple alone, so versions that differ in their suffix are
level. It is the order of their ranks, and `Version.isOlder` on texts is this order on what the
texts read as; in listings a text that cannot be read ranks below all others.
-/

namespace FleetRollout.Version

theorem isBefore_iff (left right : Version) :
    left.isBefore right = true ↔
      left.major < right.major ∨ left.major = right.major ∧
        (left.minor < right.minor ∨ left.minor = right.minor ∧ left.patch < right.patch) := by
  simp only [isBefore, comparison, beq_iff_eq, Ordering.then_eq_lt, Nat.compare_eq_lt,
    Nat.compare_eq_eq]

theorem sameTriple_iff (left right : Version) :
    left.sameTriple right = true ↔
      left.major = right.major ∧ left.minor = right.minor ∧ left.patch = right.patch := by
  simp only [sameTriple, comparison, beq_iff_eq, Ordering.then_eq_eq, Nat.compare_eq_eq]

theorem not_isBefore_iff (left right : Version) :
    left.isBefore right = false ↔
      right.major < left.major ∨ right.major = left.major ∧
        (right.minor < left.minor ∨ right.minor = left.minor ∧ right.patch ≤ left.patch) := by
  rw [← Bool.not_eq_true, isBefore_iff]
  omega

theorem comparison_ne_gt (left right : Version) :
    (left.comparison right != .gt) = !right.isBefore left := by
  rw [Bool.eq_iff_iff, Bool.not_eq_true', not_isBefore_iff, bne_iff_ne]
  simp only [comparison, ne_eq, Ordering.then_eq_gt, Nat.compare_eq_gt, Nat.compare_eq_eq]
  omega

abbrev Rank := ℕ ×ₗ ℕ ×ₗ ℕ

def rank (version : Version) : Rank :=
  toLex (version.major, toLex (version.minor, version.patch))

theorem isBefore_iff_rank (left right : Version) :
    left.isBefore right = true ↔ left.rank < right.rank := by
  rw [isBefore_iff, rank, rank, Prod.Lex.toLex_lt_toLex, Prod.Lex.toLex_lt_toLex]

theorem not_isBefore_iff_rank (left right : Version) :
    left.isBefore right = false ↔ right.rank ≤ left.rank := by
  rw [← Bool.not_eq_true, isBefore_iff_rank, not_lt]

theorem comparison_eq_compare (left right : Version) :
    left.comparison right = compare left.rank right.rank := by
  cases result : left.comparison right with
  | lt =>
    have before : left.isBefore right = true := by rw [isBefore, result]; rfl
    exact (compare_lt_iff_lt.mpr ((isBefore_iff_rank left right).mp before)).symm
  | eq =>
    have level : left.sameTriple right = true := by rw [sameTriple, result]; rfl
    obtain ⟨major, minor, patch⟩ := (sameTriple_iff left right).mp level
    exact (compare_eq_iff_eq.mpr (by rw [rank, rank, major, minor, patch])).symm
  | gt =>
    have after : (left.comparison right != .gt) = false := by rw [result]; rfl
    rw [comparison_ne_gt, Bool.not_eq_false', isBefore_iff_rank] at after
    exact (compare_gt_iff_gt.mpr after).symm

theorem comparison_ne_gt_iff (left right : Version) :
    (left.comparison right != .gt) = true ↔ left.rank ≤ right.rank := by
  rw [comparison_eq_compare, bne_iff_ne, compare_le_iff_le]

variable {first second third : Version}

theorem isBefore_trans (head : first.isBefore second = true) (tail : second.isBefore third = true) :
    first.isBefore third = true := by
  rw [isBefore_iff_rank] at *
  exact head.trans tail

theorem isBefore_of_isBefore_of_not (head : first.isBefore second = true)
    (tail : third.isBefore second = false) : first.isBefore third = true := by
  rw [not_isBefore_iff_rank] at tail
  rw [isBefore_iff_rank] at *
  exact head.trans_le tail

theorem isBefore_of_not_of_isBefore (head : second.isBefore first = false)
    (tail : second.isBefore third = true) : first.isBefore third = true := by
  rw [not_isBefore_iff_rank] at head
  rw [isBefore_iff_rank] at *
  exact head.trans_lt tail

theorem not_isBefore_trans (head : second.isBefore first = false)
    (tail : third.isBefore second = false) : third.isBefore first = false := by
  rw [not_isBefore_iff_rank] at *
  exact head.trans tail

theorem not_isBefore_of_isBefore (before : first.isBefore second = true) :
    second.isBefore first = false := by
  rw [isBefore_iff_rank] at before
  rw [not_isBefore_iff_rank]
  exact before.le

theorem not_isBefore_self (version : Version) : version.isBefore version = false :=
  (not_isBefore_iff_rank version version).mpr le_rfl

theorem triple_eq_of_not_isBefore {left right : Version} (below : left.isBefore right = false)
    (above : right.isBefore left = false) : left.triple = right.triple := by
  rw [not_isBefore_iff] at below above
  simp only [triple, Prod.mk.injEq]
  omega

theorem isBefore_congr {left right : Version} (level : left.triple = right.triple)
    (other : Version) :
    left.isBefore other = right.isBefore other ∧ other.isBefore left = other.isBefore right := by
  simp only [triple, Prod.mk.injEq] at level
  simp only [isBefore, comparison, level, and_self]

theorem sameTriple_comm (left right : Version) : left.sameTriple right = right.sameTriple left := by
  rw [Bool.eq_iff_iff, sameTriple_iff, sameTriple_iff]
  omega

theorem sameTriple_trans (head : first.sameTriple second = true)
    (tail : second.sameTriple third = true) : first.sameTriple third = true := by
  rw [sameTriple_iff] at *
  omega

variable {left right : String}

theorem isOlder_iff : isOlder left right = true ↔
    ∃ lower upper, parse? left = some lower ∧ parse? right = some upper ∧
      lower.isBefore upper = true := by
  unfold isOlder
  cases parse? left <;> cases parse? right <;> simp

theorem isOlder_of_parse {lower upper : Version} (leftReads : parse? left = some lower)
    (rightReads : parse? right = some upper) : isOlder left right = lower.isBefore upper := by
  simp [isOlder, leftReads, rightReads]

theorem isOlder_self (text : String) : isOlder text text = false := by
  cases reads : parse? text with
  | none => simp [isOlder, reads]
  | some version => rw [isOlder_of_parse reads reads, not_isBefore_self]

theorem isOlder_of_isOlder_of_not {first second third : String} {version : Version}
    (head : isOlder first second = true) (reads : parse? third = some version)
    (tail : isOlder third second = false) : isOlder first third = true := by
  obtain ⟨lower, upper, firstReads, secondReads, before⟩ := isOlder_iff.mp head
  rw [isOlder_of_parse reads secondReads] at tail
  rw [isOlder_of_parse firstReads reads]
  exact isBefore_of_isBefore_of_not before tail

-- Both texts can be read, and the first is not the older one.
def AtLeast (text bound : String) : Prop :=
  ∃ version lowest, parse? text = some version ∧ parse? bound = some lowest ∧
    version.isBefore lowest = false

theorem atLeast_self {text : String} (reads : (parse? text).isSome = true) : AtLeast text text := by
  obtain ⟨version, parsed⟩ := Option.isSome_iff_exists.mp reads
  exact ⟨version, version, parsed, parsed, not_isBefore_self version⟩

theorem AtLeast.of_isOlder {bound : String} (atLeast : AtLeast left bound)
    (older : isOlder left right = true) : AtLeast right bound := by
  obtain ⟨version, lowest, parsed, parsedBound, notBefore⟩ := atLeast
  obtain ⟨lower, upper, leftReads, rightReads, before⟩ := isOlder_iff.mp older
  obtain rfl : version = lower := Option.some.inj (parsed.symm.trans leftReads)
  exact ⟨upper, lowest, rightReads, parsedBound,
    not_isBefore_trans notBefore (not_isBefore_of_isBefore before)⟩

-- The rank of a text in listings; below every version stands what cannot be read.
def textRank (text : String) : WithBot Rank :=
  match parse? text with
  | none => ⊥
  | some version => version.rank

theorem textRank_of_parse {text : String} {version : Version} (reads : parse? text = some version) :
    textRank text = version.rank := by
  rw [textRank, reads]

theorem listingOrder_eq_compare (left right : String) :
    listingOrder left right = compare (textRank left) (textRank right) := by
  unfold listingOrder textRank
  cases parse? left with
  | none =>
    cases parse? right with
    | none => exact (compare_eq_iff_eq.mpr rfl).symm
    | some upper => exact (compare_lt_iff_lt.mpr (WithBot.bot_lt_coe upper.rank)).symm
  | some lower =>
    cases parse? right with
    | none => exact (compare_gt_iff_gt.mpr (WithBot.bot_lt_coe lower.rank)).symm
    | some upper =>
      change lower.comparison upper = compare (lower.rank : WithBot Rank) upper.rank
      rw [comparison_eq_compare]
      rcases lt_trichotomy lower.rank upper.rank with before | level | after
      · rw [compare_lt_iff_lt.mpr before, compare_lt_iff_lt.mpr (WithBot.coe_lt_coe.mpr before)]
      · rw [level, compare_eq_iff_eq.mpr rfl, compare_eq_iff_eq.mpr rfl]
      · rw [compare_gt_iff_gt.mpr after, compare_gt_iff_gt.mpr (WithBot.coe_lt_coe.mpr after)]

theorem listingOrder_ne_gt_iff (left right : String) :
    (listingOrder left right != .gt) = true ↔ textRank left ≤ textRank right := by
  rw [listingOrder_eq_compare, bne_iff_ne, compare_le_iff_le]

end FleetRollout.Version

import FleetRollout.Text.Blank
import FleetRollout.Text.Numeral
import Mathlib.Data.List.DropRight
import Mathlib.Order.Nat

set_option autoImplicit false

/-!
What the readers of texts accept, apart from how they read: a numeral is a run of digits, a text is
split into the pieces that the separator joins again, and a trimmed text has no blanks around it.
-/

namespace FleetRollout.Text

section Numeral

variable {limit value number : Nat} {digits : List Char}

-- A run of ASCII digits, at least one, for a number below a limit.
structure Spells (limit : Nat) (digits : List Char) (number : Nat) : Prop where
  nonempty : digits ≠ []
  isDigit : ∀ character ∈ digits, character.isDigit
  value : Nat.ofDigitChars 10 digits 0 = number
  below : number < limit

theorem digitValue?_eq (character : Char) :
    digitValue? character =
      if character.isDigit then some (character.toNat - '0'.toNat) else none := by
  simp [digitValue?, Char.isDigit, Char.le_def]

theorem le_ofDigitChars (digits : List Char) (value : Nat) :
    value ≤ Nat.ofDigitChars 10 digits value := by
  induction digits generalizing value with
  | nil => exact Nat.le_refl value
  | cons first rest ih =>
    rw [Nat.ofDigitChars_cons]
    exact le_trans (by omega) (ih _)

theorem readDigits_eq_ok (fits : value < limit) :
    readDigits limit value digits = .ok number ↔
      (∀ character ∈ digits, character.isDigit) ∧ Nat.ofDigitChars 10 digits value = number ∧
        number < limit := by
  induction digits generalizing value with
  | nil =>
    simp only [readDigits, Except.ok.injEq, List.not_mem_nil, false_implies, implies_true,
      Nat.ofDigitChars_nil, true_and]
    exact ⟨fun same => ⟨same, same ▸ fits⟩, And.left⟩
  | cons first rest ih =>
    unfold readDigits
    rw [digitValue?_eq, List.forall_mem_cons, Nat.ofDigitChars_cons]
    by_cases plain : first.isDigit
    · simp only [plain, if_true, true_and]
      split
      next small => exact ih small
      next large =>
        -- The number only grows with the digits to come, so it is too large already.
        constructor
        · simp
        · rintro ⟨-, rfl, below⟩
          exact absurd (lt_of_le_of_lt (le_ofDigitChars _ _) below) large
    · simp [plain]

theorem readUnsigned_eq_ok (positive : 0 < limit) :
    readUnsigned limit digits = .ok number ↔ Spells limit digits number := by
  unfold readUnsigned
  cases digits with
  | nil => simpa using fun spelled : Spells limit [] number => spelled.nonempty rfl
  | cons first rest =>
    rw [if_neg (by simp), readDigits_eq_ok positive]
    constructor
    · rintro ⟨isDigit, value, below⟩
      exact ⟨by simp, isDigit, value, below⟩
    · rintro ⟨-, isDigit, value, below⟩
      exact ⟨isDigit, value, below⟩

theorem readNumeral_of_unsigned (unsigned : '+' ∉ digits) :
    readNumeral limit digits = readUnsigned limit digits := by
  unfold readNumeral
  split
  next => simp at unsigned
  next => simp at unsigned
  next => rfl

end Numeral

section Pieces

variable {pieces : List (List Char)} {text front rest : List Char}

def dotted (pieces : List (List Char)) : List Char :=
  ['.'].intercalate pieces

theorem splitWhere_eq_splitOn (separator : Char) (text : List Char) :
    splitWhere (· == separator) text = text.splitOn separator := by
  induction text with
  | nil => rfl
  | cons first rest ih =>
    rw [splitWhere, ih, List.splitOn_cons_eq_if_modifyHead]
    cases pieces : rest.splitOn separator with
    | nil => exact absurd pieces (List.splitOn_ne_nil separator rest)
    | cons piece others => rfl

@[simp] theorem dotted_splitWhere (text : List Char) :
    dotted (splitWhere (· == '.') text) = text := by
  rw [splitWhere_eq_splitOn]
  exact List.intercalate_splitOn '.'

theorem splitWhere_ne_nil (text : List Char) : splitWhere (· == '.') text ≠ [] := by
  rw [splitWhere_eq_splitOn]
  exact List.splitOn_ne_nil '.' text

theorem splitWhere_dotted (apart : ∀ piece ∈ pieces, '.' ∉ piece) (nonempty : pieces ≠ []) :
    splitWhere (· == '.') (dotted pieces) = pieces := by
  rw [splitWhere_eq_splitOn]
  exact List.splitOn_intercalate '.' apart nonempty

theorem mem_dotted {piece : List Char} (present : piece ∈ pieces) {character : Char}
    (inside : character ∈ piece) : character ∈ dotted pieces := by
  induction pieces with
  | nil => cases present
  | cons first others ih =>
    unfold dotted at ih ⊢
    cases others with
    | nil =>
      obtain rfl := List.mem_singleton.mp present
      simpa using inside
    | cons second others =>
      rw [List.intercalate_cons_cons]
      rcases List.mem_cons.mp present with rfl | later
      · simp [inside]
      · simp [ih later]

theorem forall_mem_dotted {keep : Char → Prop} (dot : keep '.')
    (kept : ∀ piece ∈ pieces, ∀ character ∈ piece, keep character) :
    ∀ character ∈ dotted pieces, keep character := by
  induction pieces with
  | nil => simp [dotted]
  | cons first others ih =>
    rw [List.forall_mem_cons] at kept
    unfold dotted at ih ⊢
    cases others with
    | nil => simpa using kept.1
    | cons second others =>
      rw [List.intercalate_cons_cons]
      simpa [or_imp, forall_and, dot] using ⟨kept.1, ih kept.2⟩

-- Parts of one kind with dots between them, at least one part.
def DotJoined (fits : List Char → Prop) (text : List Char) : Prop :=
  ∃ pieces, pieces ≠ [] ∧ (∀ piece ∈ pieces, fits piece) ∧ dotted pieces = text

theorem dotJoined_iff {fits : List Char → Prop} (apart : ∀ piece, fits piece → '.' ∉ piece) :
    DotJoined fits text ↔ ∀ piece ∈ splitWhere (· == '.') text, fits piece := by
  constructor
  · rintro ⟨pieces, nonempty, all, rfl⟩
    rwa [splitWhere_dotted (fun piece member => apart piece (all piece member)) nonempty]
  · intro all
    exact ⟨_, splitWhere_ne_nil text, all, dotted_splitWhere text⟩

theorem span_append {keep : Char → Bool} (kept : ∀ character ∈ front, keep character)
    (stop : ∀ character ∈ rest.head?, keep character = false) :
    (front ++ rest).takeWhile keep = front ∧ (front ++ rest).dropWhile keep = rest := by
  rw [List.takeWhile_append_of_pos kept, List.dropWhile_append_of_pos kept]
  cases rest with
  | nil => simp
  | cons first others => simp [stop first rfl]

end Pieces

theorem head_stripWhere {drop : Char → Bool} {characters : List Char}
    (nonempty : stripWhere drop characters ≠ []) :
    drop ((stripWhere drop characters).head nonempty) = false := by
  -- Cutting off the end leaves the first character that was kept.
  have front : stripWhere drop characters <+: characters.dropWhile drop :=
    List.rdropWhile_prefix drop _
  rw [front.head nonempty]
  exact List.head_dropWhile_not drop _

theorem stripWhere_stripWhere (drop : Char → Bool) (characters : List Char) :
    stripWhere drop (stripWhere drop characters) = stripWhere drop characters := by
  have kept : (stripWhere drop characters).dropWhile drop = stripWhere drop characters := by
    refine List.dropWhile_eq_self_iff.mpr fun nonempty => ?_
    have first := head_stripWhere (List.ne_nil_of_length_pos nonempty)
    simpa [List.getElem_zero] using first
  rw [stripWhere, kept]
  exact List.rdropWhile_idempotent drop (characters.dropWhile drop)

end FleetRollout.Text

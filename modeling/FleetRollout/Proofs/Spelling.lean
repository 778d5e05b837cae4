import FleetRollout.Identifier.Uuid
import Mathlib.Tactic.IntervalCases

set_option autoImplicit false

/-!
Spellings of an identifier. Whatever spelling a UUID is read from, its canonical one is read as
itself: it has nothing to strip off, and its digits are digits already.
-/

namespace FleetRollout

namespace Text

theorem stripWhere_of_none {drop : Char → Bool} {characters : List Char}
    (kept : ∀ character ∈ characters, drop character = false) :
    stripWhere drop characters = characters := by
  have whole : ∀ {list : List Char}, (∀ character ∈ list, drop character = false) →
      list.dropWhile drop = list := by
    intro list kept
    cases list with
    | nil => rfl
    | cons head rest => rw [List.dropWhile_cons_of_neg (by simp [kept head List.mem_cons_self])]
  rw [stripWhere, whole kept, whole fun character member => kept character (by simpa using member),
    List.reverse_reverse]

end Text

namespace Identifier

open Text

def lowerDigits : List Char := "0123456789abcdef".toList

theorem mem_lowerDigits {character : Char}
    (digit : character.isDigit || ('a' ≤ character && character ≤ 'f')) :
    character ∈ lowerDigits := by
  have within : 48 ≤ character.toNat ∧ character.toNat ≤ 57 ∨
      97 ≤ character.toNat ∧ character.toNat ≤ 102 := by
    simpa [Char.isDigit, Char.le_def, UInt32.le_iff_toNat_le] using digit
  rw [← Char.ofNat_toNat character]
  generalize character.toNat = code at within
  rcases within with ⟨least, most⟩ | ⟨least, most⟩ <;> interval_cases code <;> decide

theorem hexDigit_lower {character digit : Char} (read : hexDigit? character = some digit) :
    digit ∈ lowerDigits := by
  unfold hexDigit? at read
  split at read
  next lower => exact Option.some.inj read ▸ mem_lowerDigits lower
  next =>
    split at read
    next upper =>
      have within : 65 ≤ character.toNat ∧ character.toNat ≤ 70 := by
        simpa [Char.le_def, UInt32.le_iff_toNat_le] using upper
      obtain rfl := Option.some.inj read
      rw [← Char.ofNat_toNat character]
      generalize character.toNat = code at within
      obtain ⟨least, most⟩ := within
      interval_cases code <;> decide
    next => simp at read

theorem hexDigit_of_lower : ∀ digit ∈ lowerDigits, hexDigit? digit = some digit := by
  have all : lowerDigits.all (fun digit => hexDigit? digit = some digit) = true := by decide
  intro digit member
  exact of_decide_eq_true (List.all_eq_true.mp all digit member)

theorem plain_of_lower : ∀ digit ∈ '-' :: lowerDigits,
    isBlank digit = false ∧ isDecoration digit = false := by
  have all : ('-' :: lowerDigits).all
      (fun digit => isBlank digit = false ∧ isDecoration digit = false) = true := by decide
  intro digit member
  exact of_decide_eq_true (List.all_eq_true.mp all digit member)

theorem mem_hyphenate {digits : List Char} {character : Char}
    (member : character ∈ hyphenate digits) : character = '-' ∨ character ∈ digits := by
  simp only [hyphenate, List.mem_append, List.mem_cons] at member
  grind [List.mem_of_mem_take, List.mem_of_mem_drop]

theorem length_hyphenate {digits : List Char} (length : digits.length = 32) :
    (hyphenate digits).length = 36 := by
  simp [hyphenate, length]

theorem filter_hyphenate {digits : List Char} (plain : ∀ digit ∈ digits, digit ≠ '-') :
    (hyphenate digits).filter (· != '-') = digits := by
  have whole (list : List Char) (part : ∀ digit ∈ list, digit ∈ digits) :
      list.filter (· != '-') = list :=
    List.filter_eq_self.mpr fun digit member => by simpa using plain digit (part digit member)
  have taken (count start : Nat) :
      ((digits.drop start).take count).filter (· != '-') = (digits.drop start).take count :=
    whole _ fun _ member => List.mem_of_mem_drop (List.mem_of_mem_take member)
  have rejoined (count start : Nat) :
      (digits.drop start).take count ++ digits.drop (start + count) = digits.drop start := by
    rw [← List.drop_drop, List.take_append_drop]
  calc (hyphenate digits).filter (· != '-')
      = (digits.drop 0).take 8 ++ ((digits.drop 8).take 4 ++ ((digits.drop 12).take 4 ++
          ((digits.drop 16).take 4 ++ digits.drop 20))) := by
        simp only [hyphenate, List.filter_append, List.append_assoc]
        simp [taken, whole (digits.take 8) fun _ => List.mem_of_mem_take,
          whole (digits.drop 20) fun _ => List.mem_of_mem_drop]
    _ = digits := by
        rw [rejoined 4 16, rejoined 4 12, rejoined 4 8, rejoined 8 0, List.drop_zero]

theorem mapM_hexDigit_lower {characters digits : List Char}
    (read : characters.mapM hexDigit? = some digits) : ∀ digit ∈ digits, digit ∈ lowerDigits := by
  induction characters generalizing digits with
  | nil =>
    obtain rfl : [] = digits := by simpa using read
    simp
  | cons head rest ih =>
    simp only [List.mapM_cons, Option.bind_eq_bind, Option.bind_eq_some_iff, Option.pure_def,
      Option.some.injEq] at read
    obtain ⟨first, readFirst, others, readOthers, rfl⟩ := read
    exact List.forall_mem_cons.mpr ⟨hexDigit_lower readFirst, ih readOthers⟩

theorem mapM_hexDigit_of_lower {digits : List Char}
    (lower : ∀ digit ∈ digits, digit ∈ lowerDigits) : digits.mapM hexDigit? = some digits := by
  induction digits with
  | nil => rfl
  | cons head rest ih =>
    obtain ⟨first, others⟩ := List.forall_mem_cons.mp lower
    simp [List.mapM_cons, hexDigit_of_lower head first, ih others]

theorem canonicalUuid_canonical {external id : String}
    (canonical : canonicalUuid external = some id) : canonicalUuid id = some id := by
  unfold canonicalUuid at canonical
  simp only [Option.bind_eq_bind, Option.bind_eq_some_iff, Option.ite_none_right_eq_some,
    Option.some.injEq] at canonical
  obtain ⟨_, -, digits, read, length, rfl⟩ := canonical
  have lower := mapM_hexDigit_lower read
  -- No hyphen and no digit is blank or a decoration, so nothing is stripped off.
  have plain : ∀ character ∈ hyphenate digits,
      isBlank character = false ∧ isDecoration character = false := by
    intro character member
    refine plain_of_lower character (List.mem_cons.mpr ?_)
    exact (mem_hyphenate member).imp_right (lower character)
  have stripped : bare (String.ofList (hyphenate digits)) = String.ofList (hyphenate digits) := by
    rw [bare, String.toList_ofList, trimmed, stripWhere_of_none fun _ member => (plain _ member).1,
      stripWhere_of_none fun _ member => (plain _ member).2]
  have unhyphenated : plainDigits? (hyphenate digits) = some digits := by
    have filtered := filter_hyphenate fun digit member same =>
      absurd (lower digit member) (same ▸ by decide)
    simp only [plainDigits?, unhyphenate?, length_hyphenate length, filtered]
    simp
  unfold canonicalUuid
  rw [stripped, String.toList_ofList, unhyphenated]
  simp [mapM_hexDigit_of_lower lower, length]

end Identifier

end FleetRollout

import FleetRollout.Proofs.Numeral
import FleetRollout.Version
import Mathlib.Data.List.Forall2

set_option autoImplicit false

/-!
Texts of versions. Semantic versions are read by a reader of their own, and what it refuses may be
read with fewer numbers. The second reader alone decides what is a version: where both read a text,
they read the same numbers.
-/

namespace FleetRollout.Version

open Text

variable {text piece : List Char} {number : Nat} {triple : Triple}

-- One to three numerals with dots between them.
def Numbered (text : List Char) (numbers : List Nat) : Prop :=
  1 ≤ numbers.length ∧ numbers.length ≤ 3 ∧
    ∃ pieces, List.Forall₂ (Spells wordSize) pieces numbers ∧ dotted pieces = text

def paddedWithZeros (numbers : List Nat) : Triple :=
  (numbers.getD 0 0, numbers.getD 1 0, numbers.getD 2 0)

structure SpellsPlainly (digits : List Char) (number : Nat) : Prop
    extends Spells wordSize digits number where
  plain : digits.head? = some '0' → digits = ['0']

def BuildPart (part : List Char) : Prop :=
  part ≠ [] ∧ ∀ character ∈ part, character.isAlphanum ∨ character = '-'

def PreReleasePart (part : List Char) : Prop :=
  BuildPart part ∧
    ((∀ character ∈ part, character.isDigit) → part.head? = some '0' → part = ['0'])

-- Nothing, or a mark and the parts that it announces.
def Marked (mark : Char) (fits : List Char → Prop) (text : List Char) : Prop :=
  text = [] ∨ ∃ rest, DotJoined fits rest ∧ text = mark :: rest

/-- Semantic Versioning 2.0.0, with numbers of one word. -/
def SemVer (text : List Char) (triple : Triple) : Prop :=
  ∃ pieces preRelease build,
    List.Forall₂ SpellsPlainly pieces [triple.1, triple.2.1, triple.2.2] ∧
    Marked '-' PreReleasePart preRelease ∧ Marked '+' BuildPart build ∧
    text = dotted pieces ++ (preRelease ++ build)

theorem toOption_eq_some {fault α : Type} {answer : Except fault α} {value : α} :
    answer.toOption = some value ↔ answer = .ok value := by
  cases answer <;> simp [Except.toOption]

theorem component?_eq_some : component? piece = some number ↔ Spells wordSize piece number := by
  rw [component?, toOption_eq_some, readUnsigned_eq_ok (by decide)]

theorem paddedComponent?_eq_some (unsigned : '+' ∉ piece) :
    paddedComponent? piece = some number ↔ Spells wordSize piece number := by
  rw [paddedComponent?, readNumeral_of_unsigned unsigned, ← component?_eq_some, component?]

theorem hasLeadingZero_eq_false :
    hasLeadingZero piece = false ↔ (piece.head? = some '0' → piece = ['0']) := by
  cases piece with
  | nil => simp [hasLeadingZero]
  | cons first rest => cases rest <;> simp [hasLeadingZero]

theorem strictComponent?_eq_some :
    strictComponent? piece = some number ↔ SpellsPlainly piece number := by
  unfold strictComponent?
  split
  next leading =>
    simp only [reduceCtorEq, false_iff]
    intro spelled
    rw [hasLeadingZero_eq_false.mpr spelled.plain] at leading
    contradiction
  next plain =>
    rw [component?_eq_some]
    exact ⟨fun spelled => ⟨spelled, hasLeadingZero_eq_false.mp (by simpa using plain)⟩,
      SpellsPlainly.toSpells⟩

theorem mapM_eq_some {read : List Char → Option Nat} {spells : List Char → Nat → Prop}
    {pieces : List (List Char)} {numbers : List Nat}
    (reads : ∀ piece ∈ pieces, ∀ number, read piece = some number ↔ spells piece number) :
    pieces.mapM read = some numbers ↔ List.Forall₂ spells pieces numbers := by
  induction pieces generalizing numbers with
  | nil => simp [eq_comm]
  | cons piece others ih =>
    rw [List.forall_mem_cons] at reads
    rw [List.mapM_cons, List.forall₂_cons_left_iff]
    simp only [Option.bind_eq_bind, Option.bind_eq_some_iff, reads.1, ih reads.2, Option.pure_def,
      Option.some.injEq, exists_and_left, @eq_comm _ _ numbers]

theorem paddedTriple?_eq (text : List Char) :
    paddedTriple? text =
      let pieces := splitWhere (· == '.') (core text)
      if pieces.length ≤ 3 then (pieces.mapM paddedComponent?).map paddedWithZeros else none := by
  -- A split has at least one piece, so the first case of the match is never met.
  have nonempty := splitWhere_ne_nil (core text)
  unfold paddedTriple?
  generalize splitWhere (· == '.') (core text) = pieces at nonempty
  match pieces with
  | [] => contradiction
  | [major] => cases major_read : paddedComponent? major <;> simp [major_read, paddedWithZeros]
  | [major, minor] =>
    cases major_read : paddedComponent? major <;> cases minor_read : paddedComponent? minor <;>
      simp [major_read, minor_read, paddedWithZeros]
  | [major, minor, patch] =>
    cases major_read : paddedComponent? major <;> cases minor_read : paddedComponent? minor <;>
      cases patch_read : paddedComponent? patch <;>
        simp [major_read, minor_read, patch_read, paddedWithZeros]
  | _ :: _ :: _ :: _ :: _ => simp

theorem strictTriple?_eq (text : List Char) :
    strictTriple? text =
      let pieces := splitWhere (· == '.') (core text)
      if pieces.length = 3 ∧ isStrictSuffix (suffix text) then
        (pieces.mapM strictComponent?).map paddedWithZeros
      else none := by
  unfold strictTriple?
  generalize splitWhere (· == '.') (core text) = pieces
  match pieces with
  | [] => simp
  | [_] => simp
  | [_, _] => simp
  | [major, minor, patch] =>
    cases major_read : strictComponent? major <;> cases minor_read : strictComponent? minor <;>
      cases patch_read : strictComponent? patch <;> cases isStrictSuffix (suffix text) <;>
        simp [major_read, minor_read, patch_read, paddedWithZeros]
  | _ :: _ :: _ :: _ :: _ => simp

-- The second reader would take a plus sign before a number, but the core ends before the first one.
theorem unsigned_of_mem_core (present : piece ∈ splitWhere (· == '.') (core text)) :
    '+' ∉ piece := by
  intro signed
  have inside : '+' ∈ core text := by
    rw [← dotted_splitWhere (core text)]
    exact mem_dotted present signed
  simpa using List.mem_takeWhile_imp inside

theorem apart_of_isDigit (isDigit : ∀ character ∈ piece, character.isDigit) : '.' ∉ piece :=
  fun dot => absurd (isDigit '.' dot) (by decide)

theorem isDigit_of_spelled {pieces : List (List Char)} {numbers : List Nat}
    (spelled : List.Forall₂ (Spells wordSize) pieces numbers) :
    ∀ piece ∈ pieces, ∀ character ∈ piece, character.isDigit :=
  ((List.forall₂_and_left _ _).mp
    (spelled.imp fun _ _ digits => ⟨digits.isDigit, digits⟩)).1

theorem splitWhere_of_spelled {pieces : List (List Char)} {numbers : List Nat}
    (spelled : List.Forall₂ (Spells wordSize) pieces numbers) (some_number : numbers ≠ []) :
    splitWhere (· == '.') (dotted pieces) = pieces := by
  refine splitWhere_dotted
    (fun piece member => apart_of_isDigit (isDigit_of_spelled spelled piece member)) ?_
  rintro rfl
  exact some_number (List.forall₂_nil_left_iff.mp spelled)

theorem paddedTriple?_eq_some :
    paddedTriple? text = some triple ↔
      ∃ numbers, Numbered (core text) numbers ∧ paddedWithZeros numbers = triple := by
  have nonempty := splitWhere_ne_nil (core text)
  have reads {numbers : List Nat} :
      (splitWhere (· == '.') (core text)).mapM paddedComponent? = some numbers ↔
        List.Forall₂ (Spells wordSize) (splitWhere (· == '.') (core text)) numbers :=
    mapM_eq_some fun piece present number => paddedComponent?_eq_some (unsigned_of_mem_core present)
  rw [paddedTriple?_eq]
  simp only [Option.ite_none_right_eq_some, Option.map_eq_some_iff, reads]
  constructor
  · rintro ⟨few, numbers, spelled, rfl⟩
    have same := spelled.length_eq
    refine ⟨numbers, ⟨?_, same ▸ few, _, spelled, dotted_splitWhere _⟩, rfl⟩
    exact same ▸ List.length_pos_iff.mpr nonempty
  · rintro ⟨numbers, ⟨some_number, few, pieces, spelled, joined⟩, rfl⟩
    rw [← joined, splitWhere_of_spelled spelled (List.ne_nil_of_length_pos some_number)]
    exact ⟨spelled.length_eq ▸ few, numbers, spelled, rfl⟩

theorem isIdentifier_iff : isIdentifier piece = true ↔ BuildPart piece := by
  simp [isIdentifier, BuildPart]

theorem isBuild_iff : isBuild text = true ↔ DotJoined BuildPart text := by
  rw [isBuild, List.all_eq_true, dotJoined_iff]
  · simp only [isIdentifier_iff]
  · intro part fits dot
    simpa using fits.2 '.' dot

theorem isPreRelease_iff : isPreRelease text = true ↔ DotJoined PreReleasePart text := by
  rw [isPreRelease, List.all_eq_true, dotJoined_iff]
  · refine forall₂_congr fun part _ => ?_
    rw [Bool.and_eq_true, isIdentifier_iff]
    refine and_congr_right fun _ => ?_
    have numeric : isNumeric part = true ↔ ∀ character ∈ part, character.isDigit := by
      simp [isNumeric, digitValue?_eq]
    rw [← hasLeadingZero_eq_false, ← numeric]
    cases isNumeric part <;> simp
  · intro part fits dot
    simpa using fits.1.2 '.' dot

theorem head_marked {mark : Char} {fits : List Char → Prop} (marked : Marked mark fits text) :
    ∀ character ∈ text.head?, character = mark := by
  rcases marked with rfl | ⟨rest, -, rfl⟩ <;> simp [eq_comm]

theorem marked_build_iff :
    Marked '+' BuildPart text ↔
      (∀ character ∈ text.head?, character = '+') ∧
        (match text with
          | [] => true
          | _ :: build => isBuild build) = true := by
  cases text with
  | nil => simp [Marked]
  | cons first rest => simp [Marked, isBuild_iff, and_comm]

-- A pre-release has no `+` in it, so a build begins where the first one stands.
theorem unsigned_of_preRelease (joined : DotJoined PreReleasePart text) :
    ∀ character ∈ text, (character != '+') = true := by
  obtain ⟨pieces, -, fits, rfl⟩ := joined
  refine forall_mem_dotted (by decide) fun piece member character inside => ?_
  have allowed := (fits piece member).1.2 character inside
  simp only [bne_iff_ne]
  rintro rfl
  simp at allowed

theorem isStrictSuffix_iff :
    isStrictSuffix text = true ↔ ∃ preRelease build,
      Marked '-' PreReleasePart preRelease ∧ Marked '+' BuildPart build ∧
        preRelease ++ build = text := by
  constructor
  · intro strict
    unfold isStrictSuffix at strict
    split at strict
    next => exact ⟨[], [], .inl rfl, .inl rfl, rfl⟩
    next build => exact ⟨[], _, .inl rfl, .inr ⟨build, isBuild_iff.mp strict, rfl⟩, rfl⟩
    next rest =>
      obtain ⟨preRelease, build⟩ := Bool.and_eq_true_iff.mp strict
      refine ⟨_, _, .inr ⟨_, isPreRelease_iff.mp preRelease, rfl⟩,
        marked_build_iff.mpr ⟨?_, build⟩, by simp [List.takeWhile_append_dropWhile]⟩
      intro character first
      have stopped := List.head?_dropWhile_not (· != '+') rest
      rw [Option.mem_def.mp first] at stopped
      simpa using stopped
    next => cases strict
  · rintro ⟨preRelease, build, announced, marked, rfl⟩
    rcases announced with rfl | ⟨rest, joined, rfl⟩
    · rcases marked with rfl | ⟨parts, joined, rfl⟩
      · rfl
      · exact isBuild_iff.mpr joined
    · have stop : ∀ character ∈ build.head?, (character != '+') = false := fun character first =>
        by simp [head_marked marked character first]
      obtain ⟨front, back⟩ := span_append (unsigned_of_preRelease joined) stop
      rw [List.cons_append, isStrictSuffix, front, back, isPreRelease_iff.mpr joined]
      exact (marked_build_iff.mp marked).2

theorem core_of_numbers {pieces : List (List Char)} {numbers : List Nat} {rest : List Char}
    (spelled : List.Forall₂ (Spells wordSize) pieces numbers)
    (marked : ∀ character ∈ rest.head?, character = '-' ∨ character = '+') :
    core (dotted pieces ++ rest) = dotted pieces ∧ suffix (dotted pieces ++ rest) = rest := by
  refine span_append (forall_mem_dotted (by decide) fun piece member character inside => ?_)
    fun character first => ?_
  · have isDigit := isDigit_of_spelled spelled piece member character inside
    rw [Bool.and_eq_true, bne_iff_ne, bne_iff_ne]
    constructor <;> rintro rfl <;> exact absurd isDigit (by decide)
  · rcases marked character first with rfl | rfl <;> rfl

theorem SemVer.core_suffix (semantic : SemVer text triple) :
    ∃ pieces, List.Forall₂ SpellsPlainly pieces [triple.1, triple.2.1, triple.2.2] ∧
      core text = dotted pieces ∧ isStrictSuffix (suffix text) = true := by
  obtain ⟨pieces, preRelease, build, spelled, announced, marked, rfl⟩ := semantic
  have starts : ∀ character ∈ (preRelease ++ build).head?, character = '-' ∨ character = '+' := by
    intro character first
    rcases announced with rfl | ⟨rest, -, rfl⟩
    · exact .inr (head_marked marked character first)
    · exact .inl (by simpa [eq_comm] using first)
  obtain ⟨front, back⟩ := core_of_numbers (spelled.imp fun _ _ => SpellsPlainly.toSpells) starts
  refine ⟨pieces, spelled, front, ?_⟩
  rw [back]
  exact isStrictSuffix_iff.mpr ⟨_, _, announced, marked, rfl⟩

theorem strictTriple?_eq_some : strictTriple? text = some triple ↔ SemVer text triple := by
  rw [strictTriple?_eq]
  simp only [Option.ite_none_right_eq_some, Option.map_eq_some_iff,
    mapM_eq_some fun _ _ _ => strictComponent?_eq_some]
  constructor
  · rintro ⟨⟨three, strict⟩, numbers, spelled, rfl⟩
    obtain ⟨major, minor, patch, rfl⟩ := List.length_eq_three.mp (spelled.length_eq ▸ three)
    obtain ⟨preRelease, build, announced, marked, parts⟩ := isStrictSuffix_iff.mp strict
    refine ⟨_, preRelease, build, spelled, announced, marked, ?_⟩
    rw [dotted_splitWhere, parts, core_append_suffix]
  · intro semantic
    obtain ⟨pieces, spelled, numbers, strict⟩ := semantic.core_suffix
    rw [numbers, splitWhere_of_spelled (spelled.imp fun _ _ => SpellsPlainly.toSpells) (by simp)]
    exact ⟨⟨spelled.length_eq, strict⟩, _, spelled, rfl⟩

theorem SemVer.paddedTriple? (semantic : SemVer text triple) :
    paddedTriple? text = some triple := by
  obtain ⟨pieces, spelled, numbers, -⟩ := semantic.core_suffix
  exact paddedTriple?_eq_some.mpr ⟨_, ⟨by simp, by simp, pieces,
    spelled.imp fun _ _ => SpellsPlainly.toSpells, numbers.symm⟩, rfl⟩

theorem parseBy_eq_some {strict? : List Char → Option Triple}
    (agrees : ∀ text triple, strict? text = some triple → paddedTriple? text = some triple)
    {input : String} {version : Version} :
    parseBy strict? input = some version ↔
      paddedTriple? (trimmed input.toList) = some version.triple ∧
        version.text = String.ofList (trimmed input.toList) := by
  unfold parseBy
  generalize trimmed input.toList = kept
  -- What the first reader answers, the second one would have answered too.
  have either : (strict? kept <|> paddedTriple? kept) = paddedTriple? kept := by
    cases read : strict? kept with
    | none => rfl
    | some triple => exact (agrees kept triple read).symm
  dsimp only
  split
  next empty =>
    rw [List.isEmpty_iff.mp empty]
    exact iff_of_false (by simp) fun read => by cases read.1
  next =>
    rw [either]
    cases paddedTriple? kept with
    | none => simp
    | some triple =>
      obtain ⟨major, minor, patch, text⟩ := version
      simp [Version.triple, Prod.ext_iff, and_assoc, eq_comm]

/--
A text is a version if, without the blanks around it, it has one to three numbers before its first
`-` or `+`. These are the version, with zeros for the missing ones; a reader of the semantic form
that goes first finds no others. What is kept of the text is read as the same version again.
-/
theorem parse_exact {strict? : List Char → Option Triple}
    (reads : ∀ text triple, strict? text = some triple ↔ SemVer text triple) (input : String) :
    let kept := trimmed input.toList
    parse? input = parseBy strict? input ∧
    (∀ version, parse? input = some version ↔
      ∃ numbers, Numbered (core kept) numbers ∧ paddedWithZeros numbers = version.triple ∧
        version.text = String.ofList kept) ∧
    (∀ triple, strict? kept = some triple → paddedTriple? kept = some triple) ∧
    ∀ version, parse? input = some version → parse? version.text = some version := by
  intro kept
  have agrees (text : List Char) (triple : Triple) (read : strict? text = some triple) :
      paddedTriple? text = some triple := ((reads text triple).mp read).paddedTriple?
  have same : strict? = strictTriple? := by
    funext text
    refine Option.ext fun triple => ?_
    rw [reads, strictTriple?_eq_some]
  have read {input : String} {version : Version} :
      parse? input = some version ↔
        paddedTriple? (trimmed input.toList) = some version.triple ∧
          version.text = String.ofList (trimmed input.toList) :=
    parseBy_eq_some (same ▸ agrees)
  refine ⟨by rw [same, parse?], fun version => ?_, agrees kept, fun version parsed => ?_⟩
  · rw [read, paddedTriple?_eq_some]
    simp only [← exists_and_right, and_assoc, kept]
  · obtain ⟨numbers, text⟩ := read.mp parsed
    have again : trimmed version.text.toList = kept := by
      rw [text, String.toList_ofList]
      exact stripWhere_stripWhere isBlank input.toList
    exact read.mpr ⟨again ▸ numbers, again ▸ text⟩

theorem parse_exact_candidate :
    let candidate : Version := ⟨3033, 0, 0, "3033.0.0-rc.1+dev"⟩
    let dated : Version := ⟨2024, 5, 0, "2024.05-"⟩
    (∀ text triple, strictTriple? text = some triple ↔ SemVer text triple) ∧
      parse? "\t3033.0.0-rc.1+dev " = some candidate ∧ parse? candidate.text = some candidate ∧
      (∃ numbers, Numbered (core candidate.text.toList) numbers ∧
        paddedWithZeros numbers = (3033, 0, 0)) ∧
      strictTriple? dated.text.toList = none ∧ parse? dated.text = some dated ∧
      (∃ numbers, Numbered (core dated.text.toList) numbers ∧
        paddedWithZeros numbers = (2024, 5, 0)) := by
  intro candidate dated
  have exactly := @parse_exact strictTriple? fun _ _ => strictTriple?_eq_some
  have read : parse? "\t3033.0.0-rc.1+dev " = some candidate := by decide +kernel
  have again := (exactly _).2.2.2 candidate read
  have padded : parse? dated.text = some dated := by decide +kernel
  have trimmed_candidate : trimmed candidate.text.toList = candidate.text.toList := by
    decide +kernel
  have trimmed_dated : trimmed dated.text.toList = dated.text.toList := by decide +kernel
  obtain ⟨numbers, form, value, -⟩ := ((exactly candidate.text).2.1 candidate).mp again
  obtain ⟨short, short_form, short_value, -⟩ := ((exactly dated.text).2.1 dated).mp padded
  rw [trimmed_candidate] at form
  rw [trimmed_dated] at short_form
  exact ⟨fun _ _ => strictTriple?_eq_some, read, again, ⟨numbers, form, value⟩, by decide +kernel,
    padded, ⟨short, short_form, short_value⟩⟩

end FleetRollout.Version

set_option autoImplicit false

namespace FleetRollout.Text

/-- Number of values of a 64-bit word: sizes, times and counters are below it. -/
def wordSize : Nat := Nat.pow 2 64

inductive NumeralFault where
  | empty
  | strayCharacter
  | tooLarge
  deriving Repr, DecidableEq

def NumeralFault.message : NumeralFault → String
  | .empty => "cannot parse integer from empty string"
  | .strayCharacter => "invalid digit found in string"
  | .tooLarge => "number too large to fit in target type"

def digitValue? (character : Char) : Option Nat :=
  if '0' ≤ character ∧ character ≤ '9' then some (character.toNat - '0'.toNat) else none

-- Reads digits onto a value that is already known, below `limit`.
def readDigits (limit : Nat) : Nat → List Char → Except NumeralFault Nat
  | value, [] => .ok value
  | value, character :: rest =>
      match digitValue? character with
      | none => .error .strayCharacter
      | some digit =>
          let next := 10 * value + digit
          if next < limit then readDigits limit next rest else .error .tooLarge

def readUnsigned (limit : Nat) (characters : List Char) : Except NumeralFault Nat :=
  if characters.isEmpty then .error .empty else readDigits limit 0 characters

def readNumeral (limit : Nat) (characters : List Char) : Except NumeralFault Nat :=
  match characters with
  | ['+'] => .error .strayCharacter
  | '+' :: rest => readUnsigned limit rest
  | _ => readUnsigned limit characters

def padded (width value : Nat) : String :=
  let digits := toString value
  String.ofList (List.replicate (width - digits.length) '0') ++ digits

-- Splits at every character of a class: the pieces between them, at least one.
def splitWhere (separator : Char → Bool) : List Char → List (List Char)
  | [] => [[]]
  | character :: rest =>
      match splitWhere separator rest with
      | [] => [[character]]
      | piece :: pieces =>
          if separator character then [] :: piece :: pieces
          else (character :: piece) :: pieces

def splitFirst (separator : Char) : List Char → Option (List Char × List Char)
  | [] => none
  | character :: rest =>
      if character = separator then some ([], rest)
      else (splitFirst separator rest).map fun (before, after) => (character :: before, after)

end FleetRollout.Text

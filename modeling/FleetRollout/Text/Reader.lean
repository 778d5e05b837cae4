import FleetRollout.Text.Numeral

set_option autoImplicit false

namespace FleetRollout.Text

abbrev Reader (α : Type) := List Char → Option (α × List Char)

def valueIn (radix : Nat) (digits : List Nat) : Nat :=
  digits.foldl (fun value digit => radix * value + digit) 0

def hexValue? (character : Char) : Option Nat :=
  if 'a' ≤ character ∧ character ≤ 'f' then some (character.toNat - 'a'.toNat + 10)
  else if 'A' ≤ character ∧ character ≤ 'F' then some (character.toNat - 'A'.toNat + 10)
  else digitValue? character

def hexNumber? (digits : List Char) : Option Nat :=
  (digits.mapM hexValue?).map (valueIn 16)

def decimalNumber (digits : List Char) : Nat :=
  valueIn 10 (digits.filterMap digitValue?)

def readCharacter (expected : Char) : Reader Unit
  | character :: rest => if character = expected then some ((), rest) else none
  | [] => none

def digitsOf (characters : List Char) : List Char × List Char :=
  (characters.takeWhile Char.isDigit, characters.dropWhile Char.isDigit)

end FleetRollout.Text

import FleetRollout.Calendar.Date
import FleetRollout.Decimal.Shortest
import FleetRollout.Document.Basic
import FleetRollout.Text.Reader

set_option autoImplicit false

namespace FleetRollout.Toml

open Text

def readDigits (isDigit : Char → Bool) : Reader (List Char)
  | '_' :: _ => none
  | characters => readMore characters
where
  readMore : Reader (List Char)
    | '_' :: digit :: rest => do
        if isDigit digit then
          let (digits, rest) ← readMore rest
          some (digit :: digits, rest)
        else none
    | digit :: rest => do
        if isDigit digit then
          let (digits, rest) ← readMore rest
          some (digit :: digits, rest)
        else if digit = '_' then none
        else some ([], digit :: rest)
    | [] => some ([], [])

def readSign : List Char → Bool × List Char
  | '-' :: rest => (true, rest)
  | '+' :: rest => (false, rest)
  | characters => (false, characters)

def readPlaces : Reader (List Char) := fun characters => do
  let (digits, rest) ← readDigits Char.isDigit characters
  if digits.isEmpty then none else some (digits, rest)

def readWhole : Reader (List Char)
  | '0' :: rest => some (['0'], rest)
  | characters => readPlaces characters

def readFraction : Reader (Option (List Char))
  | '.' :: rest => do
      let (digits, rest) ← readPlaces rest
      some (some digits, rest)
  | characters => some (none, characters)

def readExponent : Reader (Option Int)
  | mark :: rest => do
      if mark = 'e' ∨ mark = 'E' then
        let (negative, rest) := readSign rest
        let (digits, rest) ← readPlaces rest
        let value : Int := decimalNumber digits
        some (some (if negative then -value else value), rest)
      else some (none, mark :: rest)
  | [] => some (none, [])

def wholeNumber? (value : Int) : Option Document :=
  if -Int.pow 2 63 ≤ value ∧ value < Int.pow 2 63 then some (.integer value) else none

-- A number in decimal digits; a real one may be infinite below, but not above.
def readDecimal (negative : Bool) : Reader Document := fun characters => do
  let (digits, rest) ← readWhole characters
  let (fraction, rest) ← readFraction rest
  let (exponent, rest) ← readExponent rest
  match fraction, exponent with
  | none, none =>
      let value : Int := decimalNumber digits
      some (← wholeNumber? (if negative then -value else value), rest)
  | _, _ =>
      let places := fraction.getD []
      let magnitude :=
        Decimal.nearest (decimalNumber (digits ++ places)) (exponent.getD 0 - places.length)
      if magnitude.isInf && !negative then none
      else some (.real (if negative then -magnitude else magnitude), rest)

def readInRadix (radix : Nat) : Reader Document := fun characters => do
  let isDigit character := (hexValue? character).any (· < radix)
  let (digits, rest) ← readDigits isDigit characters
  if digits.isEmpty then none
  else some (← wholeNumber? (valueIn radix (digits.filterMap hexValue?)), rest)

def readNumber : Reader Document
  | '0' :: 'x' :: rest => readInRadix 16 rest
  | '0' :: 'o' :: rest => readInRadix 8 rest
  | '0' :: 'b' :: rest => readInRadix 2 rest
  | characters =>
      match readSign characters with
      | (negative, 'i' :: 'n' :: 'f' :: rest) =>
          some (.real (if negative then -1.0 / 0.0 else 1.0 / 0.0), rest)
      | (_, 'n' :: 'a' :: 'n' :: rest) => some (.real (0.0 / 0.0), rest)
      | (negative, rest) => readDecimal negative rest

def readFixed (width least most : Nat) : Reader Nat := fun characters =>
  let digits := characters.take width
  let value := decimalNumber digits
  if digits.length = width ∧ digits.all Char.isDigit ∧ least ≤ value ∧ value ≤ most then
    some (value, characters.drop width)
  else none

def readDate : Reader Unit := fun characters => do
  let (year, rest) ← readFixed 4 0 9999 characters
  let (_, rest) ← readCharacter '-' rest
  let (month, rest) ← readFixed 2 1 12 rest
  let (_, rest) ← readCharacter '-' rest
  let (day, rest) ← readFixed 2 1 31 rest
  let date : Calendar.Date := { year, month, day }
  if Calendar.Date.ofDays date.toDays = date then some ((), rest) else none

def readSecondFraction (characters : List Char) : List Char :=
  match characters with
  | '.' :: rest =>
      let (digits, rest) := digitsOf rest
      if digits.isEmpty then characters else rest
  | _ => characters

def readTime : Reader Unit := fun characters => do
  let (_, rest) ← readFixed 2 0 23 characters
  let (_, rest) ← readCharacter ':' rest
  let (_, rest) ← readFixed 2 0 59 rest
  let (_, rest) ← readCharacter ':' rest
  let (_, rest) ← readFixed 2 0 60 rest
  some ((), readSecondFraction rest)

def readOffset : Reader Unit
  | mark :: rest =>
      if mark = 'Z' ∨ mark = 'z' then some ((), rest)
      else if mark = '+' ∨ mark = '-' then do
        let (_, rest) ← readFixed 2 0 23 rest
        let (_, rest) ← readCharacter ':' rest
        let (_, rest) ← readFixed 2 0 59 rest
        some ((), rest)
      else none
  | [] => none

-- What follows a date: nothing, or a time with or without an offset.
def skipTimeOfDay (characters : List Char) : List Char :=
  match characters with
  | [] => []
  | mark :: rest =>
      if mark = 'T' ∨ mark = 't' ∨ mark = ' ' then
        match readTime rest with
        | none => characters
        | some (_, rest) =>
            match readOffset rest with
            | none => rest
            | some (_, rest) => rest
      else characters

def readMoment : Reader Document := fun characters => do
  let rest ←
    match readDate characters with
    | some (_, rest) => some (skipTimeOfDay rest)
    | none => (readTime characters).map (·.2)
  some (.moment (String.ofList (characters.take (characters.length - rest.length))), rest)

end FleetRollout.Toml

import FleetRollout.Decimal.Shortest
import FleetRollout.Document.Basic
import FleetRollout.Text.Reader

set_option autoImplicit false

namespace FleetRollout.Json

open Text

def deepest : Nat := 127

def isSpace (character : Char) : Bool :=
  character == ' ' || character == '\t' || character == '\n' || character == '\r'

def skipSpace (characters : List Char) : List Char :=
  characters.dropWhile isSpace

def escaped? : Char → Option Char
  | '"' => some '"'
  | '\\' => some '\\'
  | '/' => some '/'
  | 'b' => some '\x08'
  | 'f' => some '\x0c'
  | 'n' => some '\n'
  | 'r' => some '\r'
  | 't' => some '\t'
  | _ => none

def readUnits : Reader (List Nat)
  | [] => none
  | '"' :: rest => some ([], rest)
  | '\\' :: 'u' :: first :: second :: third :: fourth :: rest => do
      let unit ← hexNumber? [first, second, third, fourth]
      let (units, rest) ← readUnits rest
      some (unit :: units, rest)
  | '\\' :: character :: rest => do
      let meant ← escaped? character
      let (units, rest) ← readUnits rest
      some (meant.toNat :: units, rest)
  | character :: rest => do
      if character.toNat < 0x20 then none
      else
        let (units, rest) ← readUnits rest
        some (character.toNat :: units, rest)

def isHighSurrogate (unit : Nat) : Bool := 0xD800 ≤ unit && unit < 0xDC00

def isLowSurrogate (unit : Nat) : Bool := 0xDC00 ≤ unit && unit < 0xE000

-- A surrogate counts only as half of a pair.
def charactersOf : List Nat → Option (List Char)
  | [] => some []
  | high :: low :: rest =>
      if isHighSurrogate high && isLowSurrogate low then do
        let character := Char.ofNat (0x10000 + 0x400 * (high - 0xD800) + (low - 0xDC00))
        some (character :: (← charactersOf rest))
      else if isHighSurrogate high || isLowSurrogate high then none
      else do some (Char.ofNat high :: (← charactersOf (low :: rest)))
  | [unit] =>
      if isHighSurrogate unit || isLowSurrogate unit then none else some [Char.ofNat unit]

def readText : Reader String := fun characters => do
  let (units, rest) ← readUnits characters
  some (String.ofList (← charactersOf units), rest)

def readFraction : Reader (Option (List Char))
  | '.' :: rest =>
      let (digits, rest) := digitsOf rest
      if digits.isEmpty then none else some (some digits, rest)
  | characters => some (none, characters)

def readExponentDigits (negative : Bool) : Reader (Option Int) := fun characters =>
  let (digits, rest) := digitsOf characters
  if digits.isEmpty then none
  else
    let value : Int := decimalNumber digits
    some (some (if negative then -value else value), rest)

def readExponent : Reader (Option Int)
  | mark :: rest =>
      if mark = 'e' ∨ mark = 'E' then
        match rest with
        | '-' :: rest => readExponentDigits true rest
        | '+' :: rest => readExponentDigits false rest
        | _ => readExponentDigits false rest
      else some (none, mark :: rest)
  | [] => some (none, [])

-- A real number; one beyond all finite ones is refused.
def realOf? (negative : Bool) (digits fraction : List Char) (exponent : Int) : Option Document :=
  let magnitude := Decimal.nearest (decimalNumber (digits ++ fraction)) (exponent - fraction.length)
  if magnitude.isInf then none else some (.real (if negative then -magnitude else magnitude))

def readUnsignedNumber (negative : Bool) : Reader Document := fun characters => do
  let (digits, rest) := digitsOf characters
  if digits.isEmpty || (digits.head? == some '0' && digits.length != 1) then none
  else
    let (fraction, rest) ← readFraction rest
    let (exponent, rest) ← readExponent rest
    let value : Int := decimalNumber digits
    match fraction, exponent with
    | none, none =>
        if negative && value == 0 then some (.real (-0.0), rest)
        else some (.integer (if negative then -value else value), rest)
    | _, _ =>
        let real ← realOf? negative digits (fraction.getD []) (exponent.getD 0)
        some (real, rest)

def readNumber : Reader Document
  | '-' :: rest => readUnsignedNumber true rest
  | characters => readUnsignedNumber false characters

def setField (fields : List (String × Document)) (field : String × Document) :
    List (String × Document) :=
  fields.filter (fun earlier => earlier.1 != field.1) ++ [field]

mutual

def readValue : Nat → Nat → Reader Document
  | 0, _, _ => none
  | fuel + 1, depth, characters =>
      match skipSpace characters with
      | 'n' :: 'u' :: 'l' :: 'l' :: rest => some (.null, rest)
      | 't' :: 'r' :: 'u' :: 'e' :: rest => some (.boolean true, rest)
      | 'f' :: 'a' :: 'l' :: 's' :: 'e' :: rest => some (.boolean false, rest)
      | '"' :: rest => do
          let (text, rest) ← readText rest
          some (.text text, rest)
      | '[' :: rest =>
          if depth = 0 then none
          else
            match skipSpace rest with
            | ']' :: rest => some (.list [], rest)
            | rest => do
                let (items, rest) ← readItems fuel (depth - 1) rest
                some (.list items, rest)
      | '\x7b' :: rest =>
          if depth = 0 then none
          else
            match skipSpace rest with
            | '\x7d' :: rest => some (.table [], rest)
            | rest => do
                let (fields, rest) ← readFields fuel (depth - 1) rest
                some (.table (fields.foldl setField []), rest)
      | rest => readNumber rest

def readItems : Nat → Nat → Reader (List Document)
  | 0, _, _ => none
  | fuel + 1, depth, characters => do
      let (item, rest) ← readValue fuel depth characters
      match skipSpace rest with
      | ',' :: rest => do
          let (items, rest) ← readItems fuel depth rest
          some (item :: items, rest)
      | ']' :: rest => some ([item], rest)
      | _ => none

def readFields : Nat → Nat → Reader (List (String × Document))
  | 0, _, _ => none
  | fuel + 1, depth, characters =>
      match skipSpace characters with
      | '"' :: rest => do
          let (name, rest) ← readText rest
          match skipSpace rest with
          | ':' :: rest => do
              let (value, rest) ← readValue fuel depth rest
              match skipSpace rest with
              | ',' :: rest => do
                  let (fields, rest) ← readFields fuel depth rest
                  some ((name, value) :: fields, rest)
              | '\x7d' :: rest => some ([(name, value)], rest)
              | _ => none
          | _ => none
      | _ => none

end

def parse? (text : String) : Option Document := do
  let characters := text.toList
  let (document, rest) ← readValue (characters.length + 1) deepest characters
  if (skipSpace rest).isEmpty then some document else none

end FleetRollout.Json

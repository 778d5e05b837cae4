import FleetRollout.Text.Blank
import FleetRollout.Text.Numeral

set_option autoImplicit false

/-!
Package versions. Only the numeric triple orders versions; what follows the first `-` or `+` is
kept in the text and ignored by every comparison. A version in strict semantic form is read
first; a shorter one, such as `1.2`, is padded with zeros.
-/

namespace FleetRollout

structure Version where
  major : Nat
  minor : Nat
  patch : Nat
  text : String
  deriving Repr, DecidableEq

namespace Version

open Text

abbrev Triple := Nat × Nat × Nat

def triple (version : Version) : Triple :=
  (version.major, version.minor, version.patch)

def comparison (left right : Version) : Ordering :=
  (compare left.major right.major).then
    ((compare left.minor right.minor).then (compare left.patch right.patch))

def isBefore (left right : Version) : Bool :=
  left.comparison right == .lt

def sameTriple (left right : Version) : Bool :=
  left.comparison right == .eq

def core (characters : List Char) : List Char :=
  characters.takeWhile fun character => character != '-' && character != '+'

def suffix (characters : List Char) : List Char :=
  characters.dropWhile fun character => character != '-' && character != '+'

theorem core_append_suffix (characters : List Char) :
    core characters ++ suffix characters = characters :=
  List.takeWhile_append_dropWhile

def component? (piece : List Char) : Option Nat :=
  (readUnsigned wordSize piece).toOption

def hasLeadingZero (piece : List Char) : Bool :=
  piece.head? == some '0' && piece.length != 1

def isNumeric (piece : List Char) : Bool :=
  piece.all fun character => (digitValue? character).isSome

def isIdentifier (piece : List Char) : Bool :=
  !piece.isEmpty && piece.all fun character => character.isAlphanum || character == '-'

def isBuild (characters : List Char) : Bool :=
  (splitWhere (· == '.') characters).all isIdentifier

def isPreRelease (characters : List Char) : Bool :=
  (splitWhere (· == '.') characters).all fun piece =>
    isIdentifier piece && !(isNumeric piece && hasLeadingZero piece)

def isStrictSuffix (characters : List Char) : Bool :=
  match characters with
  | [] => true
  | '+' :: build => isBuild build
  | '-' :: rest =>
      isPreRelease (rest.takeWhile (· != '+')) &&
        match rest.dropWhile (· != '+') with
        | [] => true
        | _ :: build => isBuild build
  | _ => false

def strictComponent? (piece : List Char) : Option Nat :=
  if hasLeadingZero piece then none else component? piece

def strictTriple? (characters : List Char) : Option Triple := do
  match splitWhere (· == '.') (core characters) with
  | [major, minor, patch] =>
      let triple := (← strictComponent? major, ← strictComponent? minor, ← strictComponent? patch)
      if isStrictSuffix (suffix characters) then some triple else none
  | _ => none

def paddedComponent? (piece : List Char) : Option Nat :=
  (readNumeral wordSize piece).toOption

-- One to three numbers, the missing ones zero; any suffix.
def paddedTriple? (characters : List Char) : Option Triple := do
  match splitWhere (· == '.') (core characters) with
  | [major] => some (← paddedComponent? major, 0, 0)
  | [major, minor] => some (← paddedComponent? major, ← paddedComponent? minor, 0)
  | [major, minor, patch] =>
      some (← paddedComponent? major, ← paddedComponent? minor, ← paddedComponent? patch)
  | _ => none

-- Reads a version, by a reader of the strict form before all else.
def parseBy (strict? : List Char → Option Triple) (input : String) : Option Version :=
  let kept := trimmed input.toList
  if kept.isEmpty then none
  else
    (strict? kept <|> paddedTriple? kept).map fun (major, minor, patch) =>
      { major, minor, patch, text := String.ofList kept }

def parse? (input : String) : Option Version :=
  parseBy strictTriple? input

def isOlder (left right : String) : Bool :=
  match parse? left, parse? right with
  | some left, some right => left.isBefore right
  | _, _ => false

/-- Order of version texts in listings: a text that cannot be read comes before every version. -/
def listingOrder (left right : String) : Ordering :=
  match parse? left, parse? right with
  | none, none => .eq
  | none, some _ => .lt
  | some _, none => .gt
  | some left, some right => left.comparison right

end Version

end FleetRollout

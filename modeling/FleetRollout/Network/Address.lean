import FleetRollout.Text.Reader

set_option autoImplicit false

/-!
Internet addresses of both families, read from text and written in canonical form: the longest
run of at least two zero groups is left out, the first of equally long ones, and an address that
embeds one of the other family in the reserved range shows it with dots.
-/

namespace FleetRollout.Network

inductive Address where
  | four (octets : List Nat)
  | six (groups : List Nat)
  deriving Repr, DecidableEq

namespace Address

open Text

def readDigitRun (digit? : Char → Option Nat) (most : Nat) : Reader (List Nat) := fun characters =>
  let run := characters.takeWhile fun character => (digit? character).isSome
  if 0 < run.length ∧ run.length ≤ most then
    some (run.filterMap digit?, characters.drop run.length)
  else none

def readOctet : Reader Nat := fun characters => do
  let (digits, rest) ← readDigitRun digitValue? 3 characters
  let value := valueIn 10 digits
  if (digits.head? = some 0 ∧ digits.length > 1) ∨ 255 < value then none else some (value, rest)

def readGroup : Reader Nat := fun characters => do
  let (digits, rest) ← readDigitRun hexValue? 4 characters
  some (valueIn 16 digits, rest)

def readFour : Reader (List Nat) := fun characters => do
  let (first, rest) ← readOctet characters
  let (_, rest) ← readCharacter '.' rest
  let (second, rest) ← readOctet rest
  let (_, rest) ← readCharacter '.' rest
  let (third, rest) ← readOctet rest
  let (_, rest) ← readCharacter '.' rest
  let (fourth, rest) ← readOctet rest
  some ([first, second, third, fourth], rest)

def afterSeparator {α : Type} (first : Bool) (reader : Reader α) : Reader α := fun characters =>
  if first then reader characters
  else do
    let (_, rest) ← readCharacter ':' characters
    reader rest

-- At most `room` groups, and whether they end in a dotted address, which takes the room of two.
def readGroups : Nat → Bool → List Char → List Nat × Bool × List Char
  | 0, _, characters => ([], false, characters)
  | room + 1, first, characters =>
      let dotted := if 0 < room then afterSeparator first readFour characters else none
      match dotted with
      | some ([high, upper, lower, low], rest) =>
          ([256 * high + upper, 256 * lower + low], true, rest)
      | _ =>
          match afterSeparator first readGroup characters with
          | some (group, rest) =>
              let (groups, isDotted, rest) := readGroups room false rest
              (group :: groups, isDotted, rest)
          | none => ([], false, characters)

def readSix : Reader (List Nat) := fun characters =>
  let (front, isDotted, rest) := readGroups 8 true characters
  if front.length = 8 then some (front, rest)
  else if isDotted then none
  else do
    let (_, rest) ← readCharacter ':' rest
    let (_, rest) ← readCharacter ':' rest
    let (back, _, rest) := readGroups (7 - front.length) true rest
    some (front ++ List.replicate (8 - front.length - back.length) 0 ++ back, rest)

def parse? (text : String) : Option Address :=
  match readFour text.toList with
  | some (octets, []) => some (.four octets)
  | _ =>
      match readSix text.toList with
      | some (groups, []) => some (.six groups)
      | _ => none

def dotted (octets : List Nat) : String :=
  ".".intercalate (octets.map toString)

def colons (groups : List Nat) : String :=
  ":".intercalate (groups.map fun group => String.ofList (Nat.toDigits 16 group))

def zerosFrom (groups : List Nat) (start : Nat) : Nat :=
  ((groups.drop start).takeWhile (· == 0)).length

def longestZeros (groups : List Nat) : Nat × Nat :=
  (List.range groups.length).foldl
    (fun best start =>
      let length := zerosFrom groups start
      if best.2 < length then (start, length) else best)
    (0, 0)

def render : Address → String
  | .four octets => dotted octets
  | .six [0, 0, 0, 0, 0, 0xffff, high, low] =>
      "::ffff:" ++ dotted [high / 256, high % 256, low / 256, low % 256]
  | .six groups =>
      let (start, length) := longestZeros groups
      if 1 < length then
        colons (groups.take start) ++ "::" ++ colons (groups.drop (start + length))
      else colons groups

end Address

end FleetRollout.Network

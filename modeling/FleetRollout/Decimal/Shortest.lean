set_option autoImplicit false

/-!
The shortest decimal that reads back as a given real number, the text of a share in percent, and
the number nearest to a decimal. A binary number stands for the interval of reals that round to it;
the decimal with the fewest digits inside is taken, the nearer of two.
-/

namespace FleetRollout.Decimal

-- The value `significand * 2 ^ exponent`, with the gap below it half the gap above or equal.
structure Binary where
  significand : Nat
  exponent : Int
  narrowBelow : Bool
  deriving Repr, DecidableEq

def Binary.ofBits (bits : UInt64) : Binary :=
  let exponent := ((bits >>> 52) &&& 0x7FF).toNat
  let fraction := (bits &&& 0xFFFFFFFFFFFFF).toNat
  if exponent = 0 then { significand := fraction, exponent := -1074, narrowBelow := false }
  else
    { significand := Nat.pow 2 52 + fraction
      exponent := (exponent : Int) - 1075
      narrowBelow := fraction = 0 && exponent > 1 }

-- `digits * 10 ^ scale`
structure Scaled where
  digits : Nat
  scale : Int
  deriving Repr, DecidableEq

def compareWith (decimal : Scaled) (quarters : Nat) (exponent : Int) : Ordering :=
  compare (decimal.digits * Nat.pow 10 decimal.scale.toNat * Nat.pow 2 (-exponent).toNat)
    (quarters * Nat.pow 2 exponent.toNat * Nat.pow 10 (-decimal.scale).toNat)

-- The decimal rounds to the value, to the even neighbour from the middle.
def readsBack (value : Binary) (decimal : Scaled) : Bool :=
  let low := if value.narrowBelow then 4 * value.significand - 1 else 4 * value.significand - 2
  let high := 4 * value.significand + 2
  let inclusive := value.significand % 2 = 0
  let fromLow := compareWith decimal low (value.exponent - 2)
  let toHigh := compareWith decimal high (value.exponent - 2)
  (fromLow == .gt || (inclusive && fromLow == .eq)) &&
    (toHigh == .lt || (inclusive && toHigh == .eq))

def floorAt (value : Binary) (scale : Int) : Nat :=
  value.significand * Nat.pow 2 value.exponent.toNat * Nat.pow 10 (-scale).toNat /
    (Nat.pow 2 (-value.exponent).toNat * Nat.pow 10 scale.toNat)

-- The nearest multiple of `10 ^ scale` that reads back; from the middle, the upper one.
def candidateAt? (value : Binary) (scale : Int) : Option Scaled :=
  let below : Scaled := { digits := floorAt value scale, scale }
  let above : Scaled := { digits := below.digits + 1, scale }
  let middle : Scaled := { digits := 10 * below.digits + 5, scale := scale - 1 }
  let isNearAbove := compareWith middle (4 * value.significand) (value.exponent - 2) != .gt
  match readsBack value below, readsBack value above with
  | true, true => some (if isNearAbove then above else below)
  | true, false => some below
  | false, true => some above
  | false, false => none

-- Scales are tried from the coarsest down.
def shortest (value : Binary) : Scaled :=
  let scales := (List.range 660).map fun (index : Nat) => (310 : Int) - index
  let found := scales.findSome? fun scale =>
    (candidateAt? value scale).bind fun decimal =>
      if decimal.digits = 0 then none else some decimal
  found.getD { digits := value.significand, scale := 0 }

def plain (decimal : Scaled) : String :=
  let digits := toString decimal.digits
  if 0 ≤ decimal.scale then
    digits ++ String.ofList (List.replicate decimal.scale.toNat '0') ++ ".0"
  else
    let places := (-decimal.scale).toNat
    let padded := List.replicate (places + 1 - digits.length) '0' ++ digits.toList
    let (whole, fraction) := padded.splitAt (padded.length - places)
    String.ofList (whole ++ '.' :: fraction)

def render (value : Float) : String :=
  let bits := value.toBits
  let magnitude := Binary.ofBits (bits &&& 0x7FFFFFFFFFFFFFFF)
  let sign := if bits >>> 63 = 0 then "" else "-"
  if magnitude.significand = 0 then sign ++ "0.0" else sign ++ plain (shortest magnitude)

-- The value of `digits * 10 ^ scale`. Beyond a few hundred places it is infinite or zero, whatever
-- the digits.
def nearest (digits : Nat) (scale : Int) : Float :=
  let places := scale + (Nat.toDigits 10 digits).length
  if digits = 0 ∨ places < -400 then 0.0
  else if 400 < places then 1.0 / 0.0
  else Float.ofScientific digits (scale < 0) scale.natAbs

end FleetRollout.Decimal

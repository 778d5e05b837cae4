import FleetRollout.Text.Numeral

set_option autoImplicit false

/-!
Civil dates of the Gregorian calendar from seconds since 1970, and their text. Years count from
March, so that the leap day is the last of its year.
-/

namespace FleetRollout.Calendar

structure Date where
  year : Int
  month : Nat
  day : Nat
  deriving Repr, DecidableEq

def secondsPerDay : Nat := 86400

def epochOffset : Int := 719468

def Date.ofDays (days : Int) : Date :=
  let shifted := days + epochOffset
  let era := shifted.fdiv 146097
  let dayOfEra := (shifted.fmod 146097).toNat
  let yearOfEra :=
    (dayOfEra - dayOfEra / 1460 + dayOfEra / 36524 - dayOfEra / 146096) / 365
  let dayOfYear := dayOfEra - (365 * yearOfEra + yearOfEra / 4 - yearOfEra / 100)
  let shiftedMonth := (5 * dayOfYear + 2) / 153
  let day := dayOfYear - (153 * shiftedMonth + 2) / 5 + 1
  let month := if shiftedMonth < 10 then shiftedMonth + 3 else shiftedMonth - 9
  { year := yearOfEra + 400 * era + (if month ≤ 2 then 1 else 0), month, day }

def Date.toDays (date : Date) : Int :=
  let year := if date.month ≤ 2 then date.year - 1 else date.year
  let shiftedMonth := if 2 < date.month then date.month - 3 else date.month + 9
  let dayOfYear : Int := (153 * shiftedMonth + 2) / 5 + date.day - 1
  365 * year + year.fdiv 4 - year.fdiv 100 + year.fdiv 400 + dayOfYear - epochOffset

def weekday (days : Int) : Nat :=
  ((days + 4).fmod 7).toNat

def lastLabelled : Nat := 8210266876799

def yearText (year : Int) : String :=
  if year ≤ 9999 then Text.padded 4 year.toNat else "+" ++ toString year

-- Date and time of day in universal time, to the second; a time out of range is its number.
def label (time : Nat) : String :=
  if time ≤ lastLabelled then
    let date := Date.ofDays (time / secondsPerDay : Nat)
    let second := time % secondsPerDay
    yearText date.year ++ "-" ++ Text.padded 2 date.month ++ "-" ++ Text.padded 2 date.day ++ "T" ++
      Text.padded 2 (second / 3600) ++ ":" ++ Text.padded 2 (second / 60 % 60) ++ ":" ++
      Text.padded 2 (second % 60) ++ "Z"
  else toString time

end FleetRollout.Calendar

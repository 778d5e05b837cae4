import FleetRollout.Calendar.Date

set_option autoImplicit false

/-!
Time zones. A zone has kept one clock after another. A clock stands at its standard offset from
universal time, and ahead of that by what the last changeover has set. Changeovers are listed from
1970 on and foreseen until 2099.
-/

namespace FleetRollout.Calendar

inductive MonthDay where
  | date (day : Nat)
  | last (weekday : Nat)
  | onOrAfter (day : Nat) (weekday : Nat)
  | onOrBefore (day : Nat) (weekday : Nat)
  deriving Repr, DecidableEq

inductive Reckoning where
  | standard
  | universal
  deriving Repr, DecidableEq

-- A setting of the clocks in every year from the first to the last.
structure Changeover where
  first : Nat
  last : Nat
  month : Nat
  day : MonthDay
  reckoning : Reckoning
  second : Int
  ahead : Int
  deriving Repr, DecidableEq

structure Clock where
  standard : Int
  changeovers : List Changeover := []
  deriving Repr, DecidableEq

-- The clocks of the past, each with the time at which it was given up, and the one kept now.
structure Zone where
  past : List (Int × Clock) := []
  present : Clock
  deriving Repr, DecidableEq

def followingMonth (year : Int) (month : Nat) : Int :=
  if month = 12 then Date.toDays { year := year + 1, month := 1, day := 1 }
  else Date.toDays { year, month := month + 1, day := 1 }

def MonthDay.inMonth (day : MonthDay) (year : Int) (month : Nat) : Int :=
  match day with
  | .date day => Date.toDays { year, month, day }
  | .last wanted =>
      let final := followingMonth year month - 1
      final - ((weekday final + 7 - wanted) % 7 : Nat)
  | .onOrAfter day wanted =>
      let start := Date.toDays { year, month, day }
      start + ((wanted + 7 - weekday start) % 7 : Nat)
  | .onOrBefore day wanted =>
      let final := Date.toDays { year, month, day }
      final - ((weekday final + 7 - wanted) % 7 : Nat)

namespace Changeover

def timeIn (changeover : Changeover) (standard : Int) (year : Int) : Int :=
  let second := 86400 * changeover.day.inMonth year changeover.month + changeover.second
  match changeover.reckoning with
  | .standard => second - standard
  | .universal => second

-- The last time of a changeover up to some time. Changeovers lie within a day of their year, so
-- that year and its neighbours are enough, or the last year of all.
def latest? (changeover : Changeover) (standard time : Int) : Option Int :=
  let year := (Date.ofDays (time.fdiv 86400)).year
  [year + 1, year, year - 1].findSome? fun (year : Int) =>
    let year := min year (changeover.last : Int)
    let latest := changeover.timeIn standard year
    if changeover.first ≤ year ∧ latest ≤ time then some latest else none

end Changeover

namespace Clock

def later (left right : Int × Int) : Int × Int :=
  if left.1 < right.1 then right else left

def ahead (clock : Clock) (time : Int) : Int :=
  let settings := clock.changeovers.filterMap fun changeover =>
    (changeover.latest? clock.standard time).map (·, changeover.ahead)
  match settings with
  | [] => 0
  | first :: rest => (rest.foldl later first).2

def offset (clock : Clock) (time : Int) : Int :=
  clock.standard + clock.ahead time

end Clock

namespace Zone

def universal : Zone := { present := { standard := 0 } }

def clock (zone : Zone) (time : Int) : Clock :=
  match zone.past.find? fun former => time < former.1 with
  | some former => former.2
  | none => zone.present

def offset (zone : Zone) (time : Int) : Int :=
  (zone.clock time).offset time

def localTime (zone : Zone) (time : Int) : Int :=
  time + zone.offset time

end Zone

structure Place where
  names : List String
  zone : Zone
  deriving Repr, DecidableEq

end FleetRollout.Calendar

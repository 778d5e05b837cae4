set_option autoImplicit false

namespace FleetRollout

inductive Status where
  | undefined
  | updateGranted
  | error
  | complete
  | installed
  | downloaded
  | downloading
  | onHold
  deriving Repr, DecidableEq

namespace Status

def every : List Status :=
  [.undefined, .updateGranted, .error, .complete, .installed, .downloaded, .downloading, .onHold]

def name : Status → String
  | .undefined => "undefined"
  | .updateGranted => "update_granted"
  | .error => "error"
  | .complete => "complete"
  | .installed => "installed"
  | .downloaded => "downloaded"
  | .downloading => "downloading"
  | .onHold => "on_hold"

def named? (text : String) : Option Status :=
  every.find? fun status => status.name == text

-- Position in `every`, the number clients of the store know a status by.
def code (status : Status) : Nat :=
  every.idxOf status

def ofCode? (code : Nat) : Option Status :=
  every[code]?

def isInFlight : Status → Bool
  | .updateGranted | .downloading | .downloaded | .installed => true
  | _ => false

def isTerminal : Status → Bool
  | .complete | .error => true
  | _ => false

-- Position on the path of an update that goes well.
def rank : Status → Option Nat
  | .updateGranted => some 1
  | .downloading => some 2
  | .downloaded => some 3
  | .installed => some 4
  | .complete => some 5
  | _ => none

/-- Both lie on the path and the second before the first. A failure is never a step back. -/
def isRegression (current next : Status) : Bool :=
  match current.rank, next.rank with
  | some reached, some reported => reported < reached
  | _, _ => false

end Status

end FleetRollout

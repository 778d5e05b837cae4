import FleetRollout.Fleet.Status

set_option autoImplicit false

/-!
What a check-in leads to, decided from the status of the installation and the state of its
group's target alone.

| status                             | target      | behind | next step      |
|------------------------------------|-------------|--------|----------------|
| downloading, downloaded, installed | any         | any    | reject         |
| granted                            | available   | yes    | redeliver      |
| any                                | missing     | any    | no package     |
| any                                | blacklisted | any    | blacklisted    |
| any                                | available   | no     | up to date     |
| any other                          | available   | yes    | ask the policy |
-/

namespace FleetRollout

inductive TargetState where
  -- The group has no channel, or its channel no stored target.
  | missing
  | blacklisted
  | available
  deriving Repr, DecidableEq

namespace TargetState

def name : TargetState → String
  | .missing => "missing"
  | .blacklisted => "blacklisted"
  | .available => "available"

def named? (text : String) : Option TargetState :=
  [missing, blacklisted, available].find? fun state => state.name == text

end TargetState

structure CheckInFacts where
  status : Status
  hadGrant : Bool
  target : TargetState
  isBehind : Bool
  deriving Repr, DecidableEq

inductive NextStep where
  | rejectInFlight
  | redeliver
  | noPackage
  | blacklisted (complete : Bool)
  | upToDate (complete : Bool)
  | evaluatePolicy
  deriving Repr, DecidableEq

namespace CheckInFacts

def hasOpenGrant (facts : CheckInFacts) : Bool :=
  facts.hadGrant && facts.status ≠ .complete

def nextStep (facts : CheckInFacts) : NextStep :=
  match facts.status, facts.target, facts.isBehind with
  | .downloading, _, _ | .downloaded, _, _ | .installed, _, _ => .rejectInFlight
  | .updateGranted, .available, true => .redeliver
  | _, .missing, _ => .noPackage
  | _, .blacklisted, _ => .blacklisted facts.hasOpenGrant
  | _, .available, false => .upToDate facts.hasOpenGrant
  | _, .available, true => .evaluatePolicy

end CheckInFacts

def NextStep.text : NextStep → String
  | .rejectInFlight => "RejectInFlight"
  | .redeliver => "Redeliver"
  | .noPackage => "NoPackage"
  | .blacklisted complete => "Blacklisted \x7b complete: " ++ toString complete ++ " \x7d"
  | .upToDate complete => "UpToDate \x7b complete: " ++ toString complete ++ " \x7d"
  | .evaluatePolicy => "EvaluatePolicy"

end FleetRollout

import FleetRollout.Fleet.Status
import FleetRollout.Version

set_option autoImplicit false

namespace FleetRollout

structure Instance where
  id : String
  ip : String
  nickname : Option String
  createdAt : Nat
  deriving Repr, DecidableEq

/-- One application on one instance. -/
structure Installation where
  instanceId : String
  applicationId : String
  groupId : String
  version : String
  lastCheckAt : Nat
  grantedAt : Option Nat
  /-- Version handed out by the last grant, a floor or the target. -/
  grantedVersion : Option String
  /-- Channel target the last grant was made towards. -/
  grantedTarget : Option String
  status : Status
  inProgress : Bool
  createdAt : Nat
  deriving Repr, DecidableEq

structure HistoryEntry where
  instanceId : String
  applicationId : String
  groupId : String
  status : Status
  version : String
  createdAt : Nat
  errorCode : Option String
  deriving Repr, DecidableEq

/-- A check-in as the store records it: only version, time and group of an installation change. -/
structure Sighting where
  instanceId : String
  applicationId : String
  groupId : String
  version : String
  time : Nat
  deriving Repr, DecidableEq

structure Transition where
  instanceId : String
  applicationId : String
  status : Status
  errorCode : Option String
  time : Nat
  deriving Repr, DecidableEq

structure Grant where
  instanceId : String
  applicationId : String
  version : String
  target : String
  time : Nat
  deriving Repr, DecidableEq

namespace Installation

def keyOf (instanceId applicationId : String) : String :=
  applicationId ++ ":" ++ instanceId

def key (row : Installation) : String :=
  keyOf row.instanceId row.applicationId

/-- The target the last grant counts towards; a grant without one counts for what it delivered. -/
def countedTarget (row : Installation) : Option String :=
  row.grantedTarget <|> row.grantedVersion

def firstSeen (sighting : Sighting) : Installation :=
  { instanceId := sighting.instanceId
    applicationId := sighting.applicationId
    groupId := sighting.groupId
    version := sighting.version
    lastCheckAt := sighting.time
    grantedAt := none
    grantedVersion := none
    grantedTarget := none
    status := .undefined
    inProgress := false
    createdAt := sighting.time }

/-- A move to another group ends whatever was under way, but the last grant stays on record. -/
def seen (row : Installation) (sighting : Sighting) : Installation :=
  let current := { row with version := sighting.version, lastCheckAt := sighting.time }
  if row.groupId = sighting.groupId then current
  else { current with groupId := sighting.groupId, status := .undefined, inProgress := false }

/-- Completing an update moves the version forward to the one last granted, never back. -/
def versionAfter (row : Installation) (status : Status) : String :=
  match status, row.grantedVersion with
  | .complete, some granted => if Version.isOlder row.version granted then granted else row.version
  | _, _ => row.version

def moved (row : Installation) (status : Status) : Installation :=
  { row with status, inProgress := status.isInFlight, version := row.versionAfter status }

def granted (row : Installation) (grant : Grant) : Installation :=
  { row with
    grantedAt := some grant.time
    grantedVersion := some grant.version
    grantedTarget := some grant.target
    status := .updateGranted
    inProgress := true }

def historyEntry (row : Installation) (time : Nat) (errorCode : Option String) : HistoryEntry :=
  { instanceId := row.instanceId
    applicationId := row.applicationId
    groupId := row.groupId
    status := row.status
    version := row.version
    createdAt := time
    errorCode }

end Installation

end FleetRollout

import FleetRollout.Rollout.Policy

set_option autoImplicit false

namespace FleetRollout

def Group.milestone (group : Group) (kind : ActivityClass) (severity : Severity) (version : String)
    (now : Nat) : ActivityEntry :=
  { applicationId := group.applicationId
    groupId := some group.id
    channelId := none
    instanceId := none
    kind
    severity
    version
    createdAt := now }

namespace Journal

def record (entry : ActivityEntry) : Action Store Unit :=
  modify fun store => store.recordActivity entry

/-- Logs an entry unless its milestone was logged within the window; tells whether it did. -/
def recordOnce (window : Nat) (entry : ActivityEntry) : Action Store Bool := do
  if (← get).hasMilestoneSince entry (entry.createdAt - window) then pure false
  else
    record entry
    pure true

def packageNotFound (window : Nat) (group : Group) (now : Nat) : Action Store Unit := do
  let entry := group.milestone .packageNotFound .warning "" now
  let _ ← recordOnce window { entry with channelId := group.channelId }

/-- A grant of a version starts the rollout, unless the group's record says it is running. -/
def rolloutStarted (window : Nat) (group : Group) (version : String) (now : Nat) :
    Action Store Unit := do
  let _ ← recordOnce window (group.milestone .rolloutStarted .info version now)
  if group.rolloutInProgress then pure ()
  else Action.commitOnly fun store => store.setRollout group.id true

def rolloutFailed (group : Group) (version : String) (now : Nat) : Action Store Unit :=
  record (group.milestone .rolloutFailed .error version now)

def instanceUpdateFailed (group : Group) (instanceId version : String) (now : Nat) :
    Action Store Unit :=
  record
    { group.milestone .instanceUpdateFailed .error version now with instanceId := some instanceId }

def isSettled (store : Store) (group : Group) (version : String) (now : Nat) : Bool :=
  let counters := store.updateCounters (group.counterQuery version now)
  counters.pending = 0 && counters.succeeded ≠ 0

/-- Closes a running rollout that is settled; tells whether it did. -/
def settleRollout (group : Group) (version : String) (now : Nat) : Action Store Bool := do
  if group.rolloutInProgress && isSettled (← get) group version now then
    Action.commitOnly fun store => store.setRollout group.id false
    record (group.milestone .rolloutFinished .success version now)
    pure true
  else pure false

def channelPackageUpdated (channel : Channel) (version : String) (now : Nat) : Action Store Unit :=
  record
    { applicationId := channel.applicationId
      groupId := none
      channelId := some channel.id
      instanceId := none
      kind := .channelPackageUpdated
      severity := .info
      version
      createdAt := now }

end Journal

end FleetRollout

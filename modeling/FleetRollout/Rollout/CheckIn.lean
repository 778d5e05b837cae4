import FleetRollout.Network.Address
import FleetRollout.Rollout.Decision
import FleetRollout.Rollout.Event
import FleetRollout.Rollout.Journal
import FleetRollout.Rollout.Plan

set_option autoImplicit false

namespace FleetRollout

structure EngineConfig where
  maxFloorsPerResponse : Nat := 5
  dedupeSeconds : Nat := 86400
  requestTimeoutSeconds : Nat := 10
  deriving Repr, DecidableEq

structure Registration where
  instanceId : String
  nickname : Option String := none
  ip : String
  version : String
  applicationId : String
  groupId : String
  deriving Repr, DecidableEq

structure InstanceRecord where
  machine : Instance
  installation : Installation
  deriving Repr, DecidableEq

namespace CheckIn

def longestInstanceId : Nat := 256

/-- Neither empty nor padded, short enough in bytes, and free of control characters. -/
def isInstanceId (id : String) : Bool :=
  Text.trim id == id && id != "" && id.utf8ByteSize ≤ longestInstanceId &&
    !id.toList.any Text.isControl

def requireGroup (id : String) : Action Store Group := do
  Action.require (.invalidGroup id) ((← get).groups.get? id)

def reported (stored : Option Instance) (request : Registration) (ip : String) (now : Nat) :
    Instance × Bool :=
  match stored with
  | none => ({ id := request.instanceId, ip, nickname := request.nickname, createdAt := now }, true)
  | some machine =>
      let named := request.nickname.isSome && machine.nickname ≠ request.nickname
      let nickname := if named then request.nickname else machine.nickname
      let current := { machine with ip, nickname }
      (current, machine.ip ≠ ip || named)

/-- Records a check-in; nothing is written unless id, address and version are valid. -/
def register (now : Nat) (request : Registration) (applicationId groupId : String) :
    Action Store InstanceRecord := do
  Action.check (isInstanceId request.instanceId) (.invalidInstanceId request.instanceId)
  let address ← Action.require (.invalidAddress request.ip)
    (Network.Address.parse? (Text.trim request.ip))
  Action.check (Version.parse? request.version).isSome (.invalidVersion request.version)
  let stored := (← get).instances.get? request.instanceId
  let (machine, isNews) := reported stored request address.render now
  let installation ← Action.commit fun store =>
    .ok (store.recordCheckIn (if isNews then some machine else none)
      { instanceId := request.instanceId
        applicationId
        groupId
        version := request.version
        time := now })
  pure { machine, installation }

def groupTarget? (store : Store) (group : Group) : Option (Channel × Package) := do
  let channel ← store.channels.get? (← group.channelId)
  let package ← store.packages.get? (← channel.packageId)
  some (channel, package)

def targetState : Option (Channel × Package) → TargetState
  | none => .missing
  | some (channel, package) =>
      if package.isBlacklistedFor channel.id then .blacklisted else .available

def factsOf (row : Installation) (target : Option (Channel × Package)) : CheckInFacts :=
  { status := row.status
    hadGrant := row.grantedVersion.isSome
    target := targetState target
    isBehind := target.any fun (_, package) => Version.isOlder row.version package.version }

def transition (row : Installation) (status : Status) (errorCode : Option String) (now : Nat) :
    Action Store Installation :=
  Action.commit fun store => store.transition
    { instanceId := row.instanceId
      applicationId := row.applicationId
      status
      errorCode
      time := now }

def planFor (config : EngineConfig) (channel : Channel) (target : Package) (version : String) :
    Action Store UpdatePlan := do
  let required ← Action.ofExcept
    (requiredFloors (← get) channel version config.maxFloorsPerResponse)
  pure (UpdatePlan.make target required)

def closeGrant (row : Installation) (group : Group) (version : String) (now : Nat) :
    Action Store Unit := do
  let _ ← transition row .complete none now
  let group ← requireGroup group.id
  let _ ← Journal.settleRollout group version now

/-- A denied installation is put on hold; too many timeouts mark the rollout as failed. -/
def holdIfDenied (row : Installation) (group : Group) (version : String) (now : Nat)
    (error : EngineError) : Action Store Unit :=
  match error.denial? with
  | none => pure ()
  | some denial => do
      let _ ← transition row .onHold none now
      if denial = .timeoutLimitReached then Journal.rolloutFailed group version now else pure ()

def grantUpdate (config : EngineConfig) (now : Nat) (row : Installation) (group : Group)
    (channel : Channel) (target : Package) (mode : DeliveryMode) : Action Store UpdatePlan := do
  tryCatch (enforcePolicy group target.version now) fun error => do
    holdIfDenied row group target.version now error
    throw error
  let plan ← planFor config channel target row.version
  let delivered ← Action.require .emptyPlan (plan.finalPackage? mode)
  let _ ← Action.commit fun store => store.grant
    { instanceId := row.instanceId
      applicationId := row.applicationId
      version := delivered.version
      target := target.version
      time := now }
  Journal.rolloutStarted config.dedupeSeconds group target.version now
  pure plan

def decide (config : EngineConfig) (now : Nat) (applicationId : String) (group : Group)
    (instanceId : String) (mode : DeliveryMode) : Action Store UpdatePlan := do
  let store ← get
  let row ← Action.require (.invalidInstance instanceId)
    (store.installation? instanceId applicationId)
  let target := groupTarget? store group
  match (factsOf row target).nextStep, target with
  | .rejectInFlight, _ => throw (.denied .updateInProgress)
  | .noPackage, _ | _, none => do
      Journal.packageNotFound config.dedupeSeconds group now
      throw (.denied .noPackageFound)
  | .blacklisted complete, some (_, package) | .upToDate complete, some (_, package) => do
      if complete then closeGrant row group package.version now else pure ()
      throw (.denied .noUpdateAvailable)
  | .redeliver, some (channel, package) => planFor config channel package row.version
  | .evaluatePolicy, some (channel, package) =>
      grantUpdate config now row group channel package mode

def afterEvent (now : Nat) (group : Group) (instanceId : String) (row : Installation) :
    Status → Action Store Unit
  | .complete => do
      match groupTarget? (← get) group with
      | none => pure ()
      | some (_, target) => do
          let group ← requireGroup group.id
          let _ ← Journal.settleRollout group target.version now
  | .error =>
      Journal.instanceUpdateFailed group instanceId (row.grantedVersion.getD row.version) now
  | _ => pure ()

/--
Applies a progress event. The answer is the status the installation moved to, or nothing when the
event was acknowledged without a move.
-/
def applyEvent (now : Nat) (applicationId : String) (group : Group) (instanceId : String)
    (event : ProgressEvent) : Action Store (Option Status) := do
  let next ← Action.ofExcept event.status
  let row ← Action.require (.invalidInstance instanceId)
    ((← get).installation? instanceId applicationId)
  Action.check (row.groupId = group.id) .invalidApplicationOrGroup
  Action.check row.inProgress (.denied .noUpdateInProgress)
  match next with
  | none => pure none
  | some next =>
      if row.status.isRegression next then pure none
      else
        let errorCode := if next = .error then event.errorCode else none
        let moved ← Action.commit fun store =>
          store.transition { instanceId, applicationId, status := next, errorCode, time := now }
        afterEvent now group instanceId moved next
        pure (some moved.status)

end CheckIn

end FleetRollout

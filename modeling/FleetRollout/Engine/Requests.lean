import FleetRollout.Engine.Basic

set_option autoImplicit false

namespace FleetRollout

structure EventReport where
  instanceId : String
  applicationId : String
  groupId : String
  event : ProgressEvent
  deriving Repr, DecidableEq

structure CheckInRequest where
  instanceId : String
  nickname : Option String := none
  ip : String
  version : String
  applicationId : String
  track : String
  architecture : String := ""
  events : List ProgressEvent := []
  updateCheck : Bool := true
  multiManifest : Bool := false
  deriving Repr, DecidableEq

/-- What became of one event: a status it led to, or the reason it was not applied. -/
structure EventAck where
  kind : Nat
  result : Nat
  status : Option Status := none
  rejected : Option String := none
  deriving Repr, DecidableEq

inductive UpdateOutcome where
  | notRequested
  | noUpdate (reason : Denial)
  | update (deliveries : List Delivery) (hasMoreFloors : Bool)
  deriving Repr, DecidableEq

structure CheckInResponse where
  applicationId : String
  groupId : String
  events : List EventAck
  update : UpdateOutcome
  installation : Installation
  deriving Repr, DecidableEq

namespace Engine

def requireGroupOf (applicationId groupId : String) : Action Engine Group := do
  let group ← Action.require .invalidApplicationOrGroup ((← readStore).groups.get? groupId)
  Action.check (group.applicationId = applicationId) .invalidApplicationOrGroup
  pure group

def resolveApplication (external : String) (error : EngineError) : Action Engine String := do
  Action.require error (← findApplication external)

def groupIdOf (external : String) : String :=
  (Identifier.canonicalUuid external).getD (Text.trim external)

def resolveGroup (application group : String) : Action Engine (String × Group) := do
  let applicationId ← resolveApplication application .invalidApplicationOrGroup
  let group ← requireGroupOf applicationId (groupIdOf group)
  pure (applicationId, group)

def registerInstance (request : Registration) : Action Engine InstanceRecord := do
  let (applicationId, group) ← resolveGroup request.applicationId request.groupId
  onStore (CheckIn.register (← get).now request applicationId group.id)

def findInstance (instanceId application : String) : Action Engine (Option InstanceRecord) := do
  let applicationId ← resolveApplication application (.invalidApplication application)
  let store ← readStore
  pure do
    let machine ← store.instances.get? instanceId
    let installation ← store.installation? instanceId applicationId
    some { machine, installation }

def updatePlan (request : Registration) (mode : DeliveryMode) : Action Engine UpdatePlan := do
  let (applicationId, group) ← resolveGroup request.applicationId request.groupId
  let engine ← get
  let _ ← onStore (CheckIn.register engine.now request applicationId group.id)
  onStore (CheckIn.decide engine.config engine.now applicationId group request.instanceId mode)

def updatePackage? (request : Registration) : Action Engine Package := do
  let plan ← updatePlan request .single
  Action.require .emptyPlan plan.nextPackage?

def registerEvent (report : EventReport) : Action Engine (Option Status) := do
  Action.check (CheckIn.isInstanceId report.instanceId) (.invalidInstanceId report.instanceId)
  let (applicationId, group) ← resolveGroup report.applicationId report.groupId
  onStore (CheckIn.applyEvent (← get).now applicationId group report.instanceId report.event)

-- An event of a check-in; it is acknowledged also when it is not applied.
def acknowledge (applicationId : String) (group : Group) (instanceId : String)
    (event : ProgressEvent) : Action Engine EventAck := do
  let ack : EventAck := { kind := event.kind, result := event.result }
  tryCatch
    (do
      let status ← onStore (CheckIn.applyEvent (← get).now applicationId group instanceId event)
      pure { ack with status })
    fun error =>
      match error with
      | .store _ => throw error
      | _ => pure { ack with rejected := some error.message }

def updateOutcome (applicationId : String) (group : Group) (instanceId : String)
    (mode : DeliveryMode) : Action Engine UpdateOutcome := do
  tryCatch
    (do
      let engine ← get
      let plan ← onStore
        (CheckIn.decide engine.config engine.now applicationId group instanceId mode)
      pure (.update (plan.deliverable mode) plan.hasMoreFloors))
    fun error =>
      match error.denial? with
      | some reason => pure (.noUpdate reason)
      | none => throw error

/--
A whole check-in. Events come before the update decision, so an instance that reports completion
is judged on its new status. Rejected events and denied updates are part of the answer.
-/
def checkIn (request : CheckInRequest) : Action Engine CheckInResponse := do
  let architecture ← Action.require (.invalidArchitecture request.architecture)
    (Architecture.reported? request.architecture)
  let applicationId ← resolveApplication request.applicationId .invalidApplicationOrGroup
  let groupId ← Action.require .invalidApplicationOrGroup
    (← findGroup applicationId request.track architecture)
  let group ← requireGroupOf applicationId groupId
  let registration : Registration :=
    { instanceId := request.instanceId
      nickname := request.nickname
      ip := request.ip
      version := request.version
      applicationId
      groupId := group.id }
  let _ ← onStore (CheckIn.register (← get).now registration applicationId group.id)
  let events ← request.events.mapM (acknowledge applicationId group request.instanceId)
  let update ←
    if request.updateCheck then do
      -- Events may have moved the rollout flag.
      let current ← requireGroup group.id
      updateOutcome applicationId current request.instanceId
        (if request.multiManifest then .multi else .single)
    else pure .notRequested
  let installation ← Action.require (.invalidInstance request.instanceId)
    ((← readStore).installation? request.instanceId applicationId)
  pure { applicationId, groupId := group.id, events, update, installation }

end Engine

end FleetRollout

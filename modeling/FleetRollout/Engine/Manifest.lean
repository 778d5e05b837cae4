import FleetRollout.Engine.Catalog

set_option autoImplicit false

/-!
Fleet manifests: the catalog an operator wants to exist. Applying one creates what is missing and
updates what exists, matched by id, through the same operations and checks as any other change of
the catalog. The first change that is refused ends the run.
-/

namespace FleetRollout

structure TeamSpec where
  id : String
  name : String
  deriving Repr, DecidableEq

structure FloorSpec where
  channelId : String
  packageId : String
  reason : String := ""
  deriving Repr, DecidableEq

structure Manifest where
  teams : List TeamSpec := []
  applications : List NewApplication := []
  channels : List NewChannel := []
  packages : List NewPackage := []
  groups : List NewGroup := []
  floors : List FloorSpec := []
  deriving Repr, DecidableEq

structure ApplySummary where
  created : Nat := 0
  updated : Nat := 0
  deriving Repr, DecidableEq

structure ApplyError where
  entry : String
  error : EngineError
  deriving Repr, DecidableEq

def ApplyError.message (failure : ApplyError) : String :=
  failure.entry ++ ": " ++ failure.error.message

namespace ApplySummary

def record (summary : ApplySummary) (existed : Bool) : ApplySummary :=
  if existed then { summary with updated := summary.updated + 1 }
  else { summary with created := summary.created + 1 }

end ApplySummary

namespace Manifest

abbrev Applying (α : Type) : Type := ExceptT ApplyError (StateM Engine) α

def on {α : Type} (entry : String) (action : Action Engine α) : Applying α :=
  ExceptT.mk fun engine =>
    let (answer, changed) := action.perform engine
    (answer.mapError (ApplyError.mk entry), changed)

def currentStore : Applying Store := do
  pure (← get).store

def applyTeam (spec : TeamSpec) : Applying Bool := do
  match (← currentStore).teams.get? spec.id with
  | some existing => do
      if existing.name = spec.name then pure ()
      else
        let _ ← on ("team " ++ spec.id) (Engine.updateTeam { existing with name := spec.name })
      pure true
  | none => do
      let _ ← on ("team " ++ spec.id) (Engine.createTeam (some spec.id) spec.name)
      pure false

def existing? {α : Type} (table : Table α) (id : Option String) : Option α :=
  id.bind table.get?

def applyApplication (spec : NewApplication) : Applying Bool := do
  let entry := "application " ++ spec.name
  match existing? (← currentStore).applications spec.id with
  | some existing => do
      let _ ← on entry (Engine.updateApplication
        { existing with
          productId := spec.productId
          name := spec.name
          description := spec.description
          teamId := spec.teamId })
      pure true
  | none => do
      let _ ← on entry (Engine.createApplication spec)
      pure false

-- A channel is written without its target first; answers its id as well.
def applyChannel (spec : NewChannel) : Applying (Option String × Bool) := do
  let entry := "channel " ++ spec.name
  match existing? (← currentStore).channels spec.id with
  | some existing => do
      let _ ← on entry (Engine.updateChannel
        { existing with
          name := spec.name
          color := spec.color
          applicationId := spec.applicationId
          architecture := spec.architecture })
      pure (spec.id, true)
  | none => do
      let created ← on entry (Engine.createChannel { spec with packageId := none })
      pure (some created.id, false)

def packageFrom (spec : NewPackage) (existing : Package) : Package :=
  { existing with
    applicationId := spec.applicationId
    version := spec.version
    architecture := spec.architecture
    kind := spec.kind
    url := spec.url
    filename := spec.filename
    description := spec.description
    size := spec.size
    hash := spec.hash
    action := spec.action
    extraFiles := spec.extraFiles
    channelsBlacklist := spec.channelsBlacklist }

def applyPackage (spec : NewPackage) : Applying Bool := do
  let entry := "package " ++ spec.id.getD spec.version
  match existing? (← currentStore).packages spec.id with
  | some existing => do
      let _ ← on entry (Engine.updatePackage (packageFrom spec existing))
      pure true
  | none => do
      let _ ← on entry (Engine.createPackage spec)
      pure false

def applyTarget (spec : NewChannel) (id : Option String) : Applying Unit := do
  match id, spec.packageId with
  | some id, some target =>
      match (← currentStore).channels.get? id with
      | none => pure ()
      | some channel =>
          if channel.packageId = some target then pure ()
          else
            let _ ← on ("target of channel " ++ id)
              (Engine.updateChannel { channel with packageId := some target })
  | _, _ => pure ()

def applyFloor (spec : FloorSpec) : Applying Bool := do
  let existed := ((← currentStore).floor? spec.channelId spec.packageId).isSome
  let _ ← on ("floor " ++ spec.packageId ++ " on " ++ spec.channelId)
    (Engine.addFloor spec.channelId spec.packageId spec.reason)
  pure existed

def applyGroup (spec : NewGroup) : Applying Bool := do
  let entry := "group " ++ spec.name
  match existing? (← currentStore).groups spec.id with
  | some existing => do
      let _ ← on entry (Engine.updateGroup
        { existing with
          name := spec.name
          description := spec.description
          applicationId := spec.applicationId
          channelId := spec.channelId
          policy := spec.policy
          track := spec.track.getD "" })
      pure true
  | none => do
      let _ ← on entry (Engine.createGroup spec)
      pure false

/--
Brings the catalog in line with the manifest. Floors follow the targets, and groups come last, so
that their channels are in place.
-/
def apply (manifest : Manifest) : Applying ApplySummary := do
  let teams ← manifest.teams.mapM applyTeam
  let applications ← manifest.applications.mapM applyApplication
  let channels ← manifest.channels.mapM applyChannel
  let packages ← manifest.packages.mapM applyPackage
  (manifest.channels.zip (channels.map (·.1))).forM fun (spec, id) => applyTarget spec id
  let floors ← manifest.floors.mapM applyFloor
  let groups ← manifest.groups.mapM applyGroup
  let existed := teams ++ applications ++ channels.map (·.2) ++ packages ++ floors ++ groups
  pure (existed.foldl ApplySummary.record {})

end Manifest

end FleetRollout

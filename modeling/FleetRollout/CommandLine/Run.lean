import FleetRollout.CommandLine.Command
import FleetRollout.Document.Toml.Reader
import FleetRollout.Engine.Manifest
import FleetRollout.Record.Requests
import FleetRollout.Record.Settings

set_option autoImplicit false

namespace FleetRollout

inductive CommandError where
  | engine (error : EngineError)
  | entry (failure : ApplyError)
  | unknownInstance (id : String)
  | unreadableFile (path : String)
  | malformedFile (path : String)

def CommandError.message : CommandError → String
  | .engine error => error.message
  | .entry failure => failure.message
  | .unknownInstance id => "unknown instance " ++ id
  | .unreadableFile path => "read manifest " ++ path
  | .malformedFile path => "parse manifest " ++ path

namespace Command

abbrev Running (α : Type) : Type := ExceptT CommandError (StateM Engine) α

def on {α : Type} (action : Action Engine α) : Running α :=
  ExceptT.mk fun engine =>
    let (answer, changed) := action.perform engine
    (answer.mapError .engine, changed)

def applyManifest (manifest : Manifest) : Running ApplySummary :=
  ExceptT.mk fun engine =>
    let (answer, changed) := (ExceptT.run manifest.apply).run engine
    (answer.mapError .entry, changed)

def readManifest (files : String → Option String) (path : String) :
    Except CommandError Manifest := do
  let some text := files path | throw (.unreadableFile path)
  let some manifest := (Toml.parse? text).bind (Manifest.codec.decode .toml)
    | throw (.malformedFile path)
  pure manifest

def groupStats (groupId : String) (window : Window) : Action Engine Document := do
  let census ← Engine.census groupId window
  let shares ← Engine.versionShares groupId
  let counters ← Engine.updateCounters groupId
  pure <| .table
    [("group_id", .text groupId),
      ("window", .text window.name),
      ("instances", census.document),
      ("versions", .list (shares.map VersionShare.document)),
      ("rollout", .optional UpdateCounters.codec.encode counters)]

def instanceHistory (application instanceId : String) (limit : Nat) : Running Document := do
  match ← on (Engine.findInstance instanceId application) with
  | none => throw (.unknownInstance instanceId)
  | some record => do
      let store ← on Engine.readStore
      let entries := store.historyOf instanceId record.installation.applicationId limit
      pure <| .table
        [("instance", record.document), ("history", HistoryEntry.codec.list.encode entries)]

def run (files : String → Option String) : Command → Running Document
  | .apply path => do
      let manifest ← ExceptT.mk (pure (readManifest files path))
      pure (← applyManifest manifest).document
  | .checkIn request => do pure (← on (Engine.checkIn request)).document
  | .event report => do
      let status ← on (Engine.registerEvent report)
      pure (.table [("status", .optional Status.codec.encode status)])
  | .floors channelId none => do
      pure (FloorPackage.codec.list.encode (← on (Engine.listFloors channelId)))
  | .floors channelId (some version) => do
      pure (← on (Engine.floorsToPass channelId version)).document
  | .stats groupId window => on (groupStats groupId window)
  | .history application instanceId limit => instanceHistory application instanceId limit
  | .activity applicationId since => do
      let store ← on Engine.readStore
      pure (ActivityEntry.codec.list.encode (store.activitySince applicationId since))

end Command

end FleetRollout

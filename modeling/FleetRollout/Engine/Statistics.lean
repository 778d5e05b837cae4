import FleetRollout.Engine.Basic
import FleetRollout.Store.Timeline

set_option autoImplicit false

namespace FleetRollout

inductive Window where
  | hour
  | day
  | week
  | month
  deriving Repr, DecidableEq

namespace Window

def every : List Window := [.hour, .day, .week, .month]

def name : Window → String
  | .hour => "1h"
  | .day => "1d"
  | .week => "7d"
  | .month => "30d"

def named? (text : String) : Option Window :=
  every.find? fun window => window.name == text

def parse (text : String) : Except EngineError Window :=
  match named? (Text.trim text) with
  | some window => .ok window
  | none => .error (.invalidWindow text)

def span : Window → Nat
  | .hour => 3600
  | .day => 86400
  | .week => 7 * 86400
  | .month => 30 * 86400

def bucket : Window → Nat
  | .hour => 600
  | .day => 3600
  | .week | .month => 86400

def since (window : Window) (now : Nat) : Nat :=
  (now - window.span) / window.bucket * window.bucket

end Window

namespace Engine

def census (groupId : String) (window : Window) : Action Engine StatusCensus := do
  let _ ← requireGroup groupId
  let engine ← get
  pure (engine.store.census groupId (window.since engine.now))

-- Versions the group's instances run at present, whenever they were last seen.
def versionShares (groupId : String) : Action Engine (List VersionShare) := do
  let _ ← requireGroup groupId
  pure ((← readStore).versionShares groupId 0)

def updateCounters (groupId : String) : Action Engine (Option UpdateCounters) := do
  let group ← requireGroup groupId
  let engine ← get
  pure do
    let (_, target) ← CheckIn.groupTarget? engine.store group
    some (engine.store.updateCounters (group.counterQuery target.version engine.now))

def versionTimeline (groupId : String) (window : Window) :
    Action Engine (List (Bucket String)) := do
  let _ ← requireGroup groupId
  let engine ← get
  Action.require .overflow
    (engine.store.versionTimeline? groupId (window.since engine.now) engine.now window.bucket)

def statusTimeline (groupId : String) (window : Window) :
    Action Engine (List (Bucket (Status × String))) := do
  let _ ← requireGroup groupId
  let engine ← get
  pure (engine.store.statusTimeline groupId (window.since engine.now) engine.now window.bucket)

end Engine

end FleetRollout

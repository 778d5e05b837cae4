set_option autoImplicit false

namespace FleetRollout

inductive ActivityClass where
  | packageNotFound
  | rolloutStarted
  | rolloutFinished
  | rolloutFailed
  | instanceUpdateFailed
  | channelPackageUpdated
  deriving Repr, DecidableEq

namespace ActivityClass

def every : List ActivityClass :=
  [.packageNotFound, .rolloutStarted, .rolloutFinished, .rolloutFailed, .instanceUpdateFailed,
    .channelPackageUpdated]

def name : ActivityClass → String
  | .packageNotFound => "package_not_found"
  | .rolloutStarted => "rollout_started"
  | .rolloutFinished => "rollout_finished"
  | .rolloutFailed => "rollout_failed"
  | .instanceUpdateFailed => "instance_update_failed"
  | .channelPackageUpdated => "channel_package_updated"

def named? (text : String) : Option ActivityClass :=
  every.find? fun entry => entry.name == text

end ActivityClass

inductive Severity where
  | success
  | info
  | warning
  | error
  deriving Repr, DecidableEq

namespace Severity

def every : List Severity := [.success, .info, .warning, .error]

def name : Severity → String
  | .success => "success"
  | .info => "info"
  | .warning => "warning"
  | .error => "error"

def named? (text : String) : Option Severity :=
  every.find? fun severity => severity.name == text

end Severity

structure ActivityEntry where
  applicationId : String
  groupId : Option String
  channelId : Option String
  instanceId : Option String
  kind : ActivityClass
  severity : Severity
  version : String
  createdAt : Nat
  deriving Repr, DecidableEq

/-- Two entries tell of the same milestone, whatever channel, instance and time they name. -/
def ActivityEntry.sameMilestone (left right : ActivityEntry) : Bool :=
  left.kind = right.kind && left.severity = right.severity && left.version = right.version &&
    left.applicationId = right.applicationId && left.groupId = right.groupId

end FleetRollout

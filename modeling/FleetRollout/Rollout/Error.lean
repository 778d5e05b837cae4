import FleetRollout.Store.Basic
import FleetRollout.Text.Quoted

set_option autoImplicit false

/-!
Why a request is not carried out. A denial is an ordinary answer, "no update for you"; the other
errors tell of a faulty request, of a conflict in the catalog, or of a record that is gone.
-/

namespace FleetRollout

inductive Denial where
  | updatesDisabled
  | periodLimitReached
  | concurrencyLimitReached
  | timeoutLimitReached
  | updateInProgress
  | noUpdateAvailable
  | noPackageFound
  | noUpdateInProgress
  deriving Repr, DecidableEq

namespace Denial

def name : Denial → String
  | .updatesDisabled => "updates_disabled"
  | .periodLimitReached => "max_updates_per_period_limit_reached"
  | .concurrencyLimitReached => "max_concurrent_updates_limit_reached"
  | .timeoutLimitReached => "max_timed_out_updates_limit_reached"
  | .updateInProgress => "update_in_progress_on_instance"
  | .noUpdateAvailable => "no_update_package_available"
  | .noPackageFound => "no_package_found"
  | .noUpdateInProgress => "no_update_in_progress"

def message : Denial → String
  | .updatesDisabled => "updates are disabled for this group"
  | .periodLimitReached => "max updates per period limit reached"
  | .concurrencyLimitReached => "max concurrent updates limit reached"
  | .timeoutLimitReached => "max timed out updates limit reached"
  | .updateInProgress => "an update is already in progress on this instance"
  | .noUpdateAvailable => "no update package available"
  | .noPackageFound => "no package configured for the group's channel"
  | .noUpdateInProgress => "no update in progress on this instance"

end Denial

inductive EngineError where
  | invalidVersion (version : String)
  | invalidArchitecture (architecture : String)
  | architectureMismatch (channel package : Architecture)
  | invalidInstanceId (id : String)
  | invalidAddress (address : String)
  | invalidApplicationOrGroup
  | invalidApplication (id : String)
  | invalidChannel (id : String)
  | invalidPackage (id : String)
  | invalidGroup (id : String)
  | invalidTeam (id : String)
  | invalidInstance (id : String)
  | invalidTimezone (name : String)
  | invalidEvent (kind result : Nat)
  | invalidWindow (window : String)
  | denied (denial : Denial)
  | blacklistedPackage
  | blacklistingTargetChannel
  | packageIsFloor
  | applicationMismatch
  /-- An update plan without a package; no plan of the engine is empty. -/
  | emptyPlan
  /-- A sum that does not fit into a word. -/
  | overflow
  | store (error : StoreError)
  deriving Repr, DecidableEq

namespace EngineError

open Text

def message : EngineError → String
  | .invalidVersion version => "invalid version " ++ quoted version
  | .invalidArchitecture architecture => "invalid architecture " ++ quoted architecture
  | .architectureMismatch channel package =>
      "architecture mismatch: channel is " ++ channel.name ++ ", package is " ++ package.name
  | .invalidInstanceId id => "invalid instance id " ++ quoted id
  | .invalidAddress address => "invalid ip address " ++ quoted address
  | .invalidApplicationOrGroup => "invalid application or group"
  | .invalidApplication id => "invalid application " ++ quoted id
  | .invalidChannel id => "invalid channel " ++ quoted id
  | .invalidPackage id => "invalid package " ++ quoted id
  | .invalidGroup id => "invalid group " ++ quoted id
  | .invalidTeam id => "invalid team " ++ quoted id
  | .invalidInstance id => "invalid instance " ++ quoted id
  | .invalidTimezone name => "invalid timezone " ++ quoted name
  | .invalidEvent kind result => s!"invalid event type {kind} with result {result}"
  | .invalidWindow window => "unknown stats window " ++ quoted window
  | .denied denial => denial.message
  | .blacklistedPackage => "package is blacklisted for the channel"
  | .blacklistingTargetChannel => "cannot blacklist a channel that targets this package"
  | .packageIsFloor => "package is a floor for the channel and cannot be blacklisted"
  | .applicationMismatch => "package belongs to a different application than the channel"
  | .emptyPlan => "update plan holds no package"
  | .overflow => "attempt to add with overflow"
  | .store error => "state store error: " ++ error.message

def denial? : EngineError → Option Denial
  | .denied denial => some denial
  | _ => none

end EngineError

end FleetRollout

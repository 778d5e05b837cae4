import FleetRollout.Catalog.Architecture

set_option autoImplicit false

/-!
The catalog: teams own applications; an application has channels, packages and groups. Entries
refer to each other by id and never hold each other. Times are seconds since 1970.
-/

namespace FleetRollout

structure Team where
  id : String
  name : String
  createdAt : Nat
  deriving Repr, DecidableEq

structure Application where
  id : String
  productId : Option String
  name : String
  description : String
  teamId : String
  createdAt : Nat
  deriving Repr, DecidableEq

/-- A stream of updates that points at its target package. -/
structure Channel where
  id : String
  name : String
  color : String
  applicationId : String
  architecture : Architecture
  packageId : Option String
  createdAt : Nat
  deriving Repr, DecidableEq

inductive PackageKind where
  | platformUpdate
  | container
  | generic
  deriving Repr, DecidableEq

namespace PackageKind

def name : PackageKind → String
  | .platformUpdate => "platform_update"
  | .container => "container"
  | .generic => "generic"

def named? (text : String) : Option PackageKind :=
  [platformUpdate, container, generic].find? fun kind => kind.name == text

end PackageKind

structure InstallAction where
  event : String
  sha256 : String
  needsAdmin : Bool
  isDelta : Bool
  disablePayloadBackoff : Bool
  deadline : Option String
  deriving Repr, DecidableEq

structure PackageFile where
  name : String
  size : Nat
  hash : String
  hash256 : Option String
  deriving Repr, DecidableEq

structure Package where
  id : String
  applicationId : String
  version : String
  architecture : Architecture
  kind : PackageKind
  url : String
  filename : String
  description : String
  size : Nat
  hash : String
  action : Option InstallAction
  extraFiles : List PackageFile
  /-- Channels that must never receive this package. -/
  channelsBlacklist : List String
  createdAt : Nat
  deriving Repr, DecidableEq

def Package.isBlacklistedFor (package : Package) (channelId : String) : Bool :=
  package.channelsBlacklist.contains channelId

/-- A package every instance on the channel has to install before it may go past it. -/
structure Floor where
  channelId : String
  packageId : String
  reason : String
  createdAt : Nat
  deriving Repr, DecidableEq

def Floor.keyOf (channelId packageId : String) : String :=
  channelId ++ ":" ++ packageId

def Floor.key (floor : Floor) : String :=
  Floor.keyOf floor.channelId floor.packageId

structure FloorPackage where
  package : Package
  reason : String
  deriving Repr, DecidableEq

structure Policy where
  updatesEnabled : Bool := true
  safeMode : Bool := true
  officeHours : Bool := false
  timezone : Option String := none
  periodSeconds : Nat := 900
  maxUpdatesPerPeriod : Nat := 2
  timeoutSeconds : Nat := 3600
  deriving Repr, DecidableEq

structure Group where
  id : String
  name : String
  description : String
  applicationId : String
  channelId : Option String
  policy : Policy
  rolloutInProgress : Bool
  track : String
  createdAt : Nat
  deriving Repr, DecidableEq

structure NewApplication where
  id : Option String := none
  productId : Option String := none
  name : String
  description : String := ""
  teamId : String
  deriving Repr, DecidableEq

structure NewChannel where
  id : Option String := none
  name : String
  color : String := ""
  applicationId : String
  architecture : Architecture
  packageId : Option String := none
  deriving Repr, DecidableEq

structure NewPackage where
  id : Option String := none
  applicationId : String
  version : String
  architecture : Architecture
  kind : PackageKind
  url : String
  filename : String := ""
  description : String := ""
  size : Nat := 0
  hash : String := ""
  action : Option InstallAction := none
  extraFiles : List PackageFile := []
  channelsBlacklist : List String := []
  deriving Repr, DecidableEq

structure NewGroup where
  id : Option String := none
  name : String
  description : String := ""
  applicationId : String
  channelId : Option String := none
  policy : Policy := {}
  track : Option String := none
  deriving Repr, DecidableEq

end FleetRollout

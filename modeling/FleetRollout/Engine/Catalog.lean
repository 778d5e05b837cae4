import FleetRollout.Engine.Basic

set_option autoImplicit false

/-!
Administration of the catalog. Every operation checks all the references it touches before it
writes anything. Architecture and application of an entry are fixed once it is created, and an
update keeps the time of creation. Deleting an entry takes along what would refer to it.
-/

namespace FleetRollout.Engine

def createTeam (id : Option String) (name : String) : Action Engine Team := do
  let team : Team := { id := ← idOrNew id, name, createdAt := (← get).now }
  write fun store => store.putTeam team
  pure team

def updateTeam (team : Team) : Action Engine Team := do
  let existing ← requireTeam team.id
  let updated := { team with createdAt := existing.createdAt }
  write fun store => store.putTeam updated
  pure updated

def createApplication (new : NewApplication) : Action Engine Application := do
  let _ ← requireTeam new.teamId
  let application : Application :=
    { id := ← idOrNew new.id
      productId := new.productId
      name := new.name
      description := new.description
      teamId := new.teamId
      createdAt := (← get).now }
  write fun store => store.putApplication application
  forgetApplications
  pure application

def updateApplication (application : Application) : Action Engine Application := do
  let existing ← requireApplication application.id
  let _ ← requireTeam application.teamId
  let updated := { application with createdAt := existing.createdAt }
  write fun store => store.putApplication updated
  forgetApplications
  pure updated

-- Deletes the application alone; its channels, packages and groups stay.
def deleteApplication (id : String) : Action Engine Bool := do
  let existed := (← readStore).applications.contains id
  write fun store => store.deleteApplication id
  forgetApplications
  forgetTracks
  pure existed

def checkSameApplication (applicationId : String) (package : Package) : Action Engine Unit :=
  Action.check (package.applicationId == applicationId) .applicationMismatch

def checkArchitecture (architecture : Architecture) (package : Package) : Action Engine Unit :=
  Action.check (architecture = package.architecture)
    (.architectureMismatch architecture package.architecture)

def checkNotBlacklisted (channelId : String) (package : Package) : Action Engine Unit :=
  Action.check (!package.isBlacklistedFor channelId) .blacklistedPackage

def checkVersion (version : String) : Action Engine Unit :=
  Action.check (Version.parse? version).isSome (.invalidVersion version)

def checkTarget (channelId applicationId : String) (architecture : Architecture)
    (packageId : String) : Action Engine Package := do
  let package ← requirePackage packageId
  checkSameApplication applicationId package
  checkArchitecture architecture package
  checkNotBlacklisted channelId package
  pure package

def checkTarget? (channelId applicationId : String) (architecture : Architecture) :
    Option String → Action Engine (Option Package)
  | none => pure none
  | some packageId => do pure (some (← checkTarget channelId applicationId architecture packageId))

def createChannel (new : NewChannel) : Action Engine Channel := do
  let _ ← requireApplication new.applicationId
  let id ← idOrNew new.id
  let _ ← checkTarget? id new.applicationId new.architecture new.packageId
  let channel : Channel :=
    { id
      name := new.name
      color := new.color
      applicationId := new.applicationId
      architecture := new.architecture
      packageId := new.packageId
      createdAt := (← get).now }
  write fun store => store.putChannel channel
  pure channel

def updateChannel (channel : Channel) : Action Engine Channel := do
  let existing ← requireChannel channel.id
  Action.check (channel.applicationId = existing.applicationId) .applicationMismatch
  Action.check (channel.architecture = existing.architecture)
    (.invalidArchitecture channel.architecture.name)
  let target ← checkTarget? channel.id channel.applicationId channel.architecture channel.packageId
  let updated := { channel with createdAt := existing.createdAt }
  write fun store => store.putChannel updated
  match target with
  | none => pure ()
  | some package =>
      if existing.packageId = updated.packageId then pure ()
      else onStore (Journal.channelPackageUpdated updated package.version (← get).now)
  pure updated

def detachFrom (channelId : String) (store : Store) (group : Group) : Store :=
  if group.channelId = some channelId then store.putGroup { group with channelId := none }
  else store

-- A channel goes together with its floors, and its application's groups leave it.
def withoutChannel (store : Store) (channel : Channel) (id : String) : Store :=
  let unfloored := (store.channelFloors id).foldl
    (fun store floor => store.deleteFloor id floor.package.id) store
  let detached := (unfloored.groupsOf channel.applicationId).foldl (detachFrom id) unfloored
  detached.deleteChannel id

def deleteChannel (id : String) : Action Engine Bool := do
  match (← readStore).channels.get? id with
  | none => pure false
  | some channel => do
      write fun store => withoutChannel store channel id
      forgetTracks
      pure true

-- A blacklisted channel exists, shares the package's application, and does not rely on it.
def checkBlacklistEntry (package : Package) (channelId : String) : Action Engine Unit := do
  let channel ← requireChannel channelId
  Action.check (channel.applicationId = package.applicationId) (.invalidChannel channelId)
  Action.check (channel.packageId ≠ some package.id) .blacklistingTargetChannel
  Action.check ((← readStore).floor? channelId package.id).isNone .packageIsFloor

def checkBlacklist (package : Package) : Action Engine Unit :=
  package.channelsBlacklist.forM (checkBlacklistEntry package)

def checkTargeting (package : Package) (channel : Channel) : Action Engine Unit :=
  if channel.packageId = some package.id then checkArchitecture channel.architecture package
  else pure ()

def checkFloorUse (package : Package) (floor : Floor) : Action Engine Unit := do
  let channel ← requireChannel floor.channelId
  checkArchitecture channel.architecture package

-- Channels that target the package or have it as a floor share its architecture.
def checkReferences (package : Package) : Action Engine Unit := do
  ((← readStore).channelsOf package.applicationId).forM (checkTargeting package)
  ((← readStore).floorsForPackage package.id).forM (checkFloorUse package)

def createPackage (new : NewPackage) : Action Engine Package := do
  let _ ← requireApplication new.applicationId
  checkVersion new.version
  let package : Package :=
    { id := ← idOrNew new.id
      applicationId := new.applicationId
      version := new.version
      architecture := new.architecture
      kind := new.kind
      url := new.url
      filename := new.filename
      description := new.description
      size := new.size
      hash := new.hash
      action := new.action
      extraFiles := new.extraFiles
      channelsBlacklist := new.channelsBlacklist
      createdAt := (← get).now }
  checkBlacklist package
  write fun store => store.putPackage package
  pure package

def updatePackage (package : Package) : Action Engine Package := do
  let existing ← requirePackage package.id
  Action.check (package.applicationId = existing.applicationId) .applicationMismatch
  checkVersion package.version
  checkBlacklist package
  checkReferences package
  let updated := { package with createdAt := existing.createdAt }
  write fun store => store.putPackage updated
  pure updated

def clearTarget (packageId : String) (store : Store) (channel : Channel) : Store :=
  if channel.packageId = some packageId then store.putChannel { channel with packageId := none }
  else store

-- A package goes together with its floors, and its application's channels lose it as a target.
def withoutPackage (store : Store) (package : Package) (id : String) : Store :=
  let unfloored := (store.floorsForPackage id).foldl
    (fun store floor => store.deleteFloor floor.channelId id) store
  let cleared := (unfloored.channelsOf package.applicationId).foldl (clearTarget id) unfloored
  cleared.deletePackage id

def deletePackage (id : String) : Action Engine Bool := do
  match (← readStore).packages.get? id with
  | none => pure false
  | some package => do
      write fun store => withoutPackage store package id
      pure true

def checkGroupReferences (applicationId : String) (channelId : Option String) (policy : Policy) :
    Action Engine Unit := do
  match channelId with
  | none => pure ()
  | some channelId => do
      let channel ← requireChannel channelId
      Action.check (channel.applicationId = applicationId) (.invalidChannel channelId)
  let _ ← Action.ofExcept (zoneOf policy.timezone)

-- A group without a track of its own is known by its id.
def trackOr (id : String) (track : String) : String :=
  if Text.isBlankText track then id else track

def createGroup (new : NewGroup) : Action Engine Group := do
  let _ ← requireApplication new.applicationId
  checkGroupReferences new.applicationId new.channelId new.policy
  let id ← idOrNew new.id
  let group : Group :=
    { id
      name := new.name
      description := new.description
      applicationId := new.applicationId
      channelId := new.channelId
      policy := new.policy
      rolloutInProgress := false
      track := trackOr id (new.track.getD "")
      createdAt := (← get).now }
  write fun store => store.putGroup group
  forgetTracks
  pure group

-- Whether a rollout is running is kept from the stored group.
def updateGroup (group : Group) : Action Engine Group := do
  let existing ← requireGroup group.id
  Action.check (group.applicationId = existing.applicationId) .applicationMismatch
  checkGroupReferences group.applicationId group.channelId group.policy
  let updated :=
    { group with
      track := trackOr group.id group.track
      rolloutInProgress := existing.rolloutInProgress
      createdAt := existing.createdAt }
  write fun store => store.putGroup updated
  forgetTracks
  pure updated

def deleteGroup (id : String) : Action Engine Bool := do
  let existed := (← readStore).groups.contains id
  write fun store => store.deleteGroup id
  forgetTracks
  pure existed

def addFloor (channelId packageId reason : String) : Action Engine Floor := do
  let channel ← requireChannel channelId
  let package ← requirePackage packageId
  checkSameApplication channel.applicationId package
  checkArchitecture channel.architecture package
  checkNotBlacklisted channelId package
  checkVersion package.version
  let floor : Floor := { channelId, packageId, reason, createdAt := (← get).now }
  write fun store => store.putFloor floor
  pure floor

def removeFloor (channelId packageId : String) : Action Engine Bool := do
  let existed := ((← readStore).floor? channelId packageId).isSome
  write fun store => store.deleteFloor channelId packageId
  pure existed

def listFloors (channelId : String) : Action Engine (List FloorPackage) := do
  let _ ← requireChannel channelId
  pure ((← readStore).channelFloors channelId)

def floorsToPass (channelId version : String) : Action Engine RequiredFloors := do
  let channel ← requireChannel channelId
  let engine ← get
  Action.ofExcept
    (requiredFloors engine.store channel version engine.config.maxFloorsPerResponse)

end FleetRollout.Engine

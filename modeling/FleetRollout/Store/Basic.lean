import FleetRollout.Catalog.Entry
import FleetRollout.Fleet.Activity
import FleetRollout.Fleet.Installation
import FleetRollout.Store.Sorting
import FleetRollout.Store.Table

set_option autoImplicit false

/-!
The store: one table for each kind of entry and two logs, oldest entry first. Entries are written
under their own ids without any check; what may be written is decided elsewhere. A floor lies
under its channel and package joined by a colon, an installation under its application and
instance joined likewise, so the ids of a pair are told apart only by that joined text.
-/

namespace FleetRollout

inductive StoreError where
  | notFound (record : String)
  deriving Repr, DecidableEq

def StoreError.message : StoreError → String
  | .notFound record => "record not found: " ++ record

structure Store where
  teams : Table Team := .empty
  applications : Table Application := .empty
  channels : Table Channel := .empty
  packages : Table Package := .empty
  floors : Table Floor := .empty
  groups : Table Group := .empty
  instances : Table Instance := .empty
  installations : Table Installation := .empty
  history : List HistoryEntry := []
  activity : List ActivityEntry := []

namespace Store

def empty : Store := {}

def putTeam (store : Store) (team : Team) : Store :=
  { store with teams := store.teams.insert team.id team }

def putApplication (store : Store) (application : Application) : Store :=
  { store with applications := store.applications.insert application.id application }

def putChannel (store : Store) (channel : Channel) : Store :=
  { store with channels := store.channels.insert channel.id channel }

def putPackage (store : Store) (package : Package) : Store :=
  { store with packages := store.packages.insert package.id package }

def putFloor (store : Store) (floor : Floor) : Store :=
  { store with floors := store.floors.insert floor.key floor }

def putGroup (store : Store) (group : Group) : Store :=
  { store with groups := store.groups.insert group.id group }

def deleteApplication (store : Store) (id : String) : Store :=
  { store with applications := store.applications.erase id }

def deleteChannel (store : Store) (id : String) : Store :=
  { store with channels := store.channels.erase id }

def deletePackage (store : Store) (id : String) : Store :=
  { store with packages := store.packages.erase id }

def deleteFloor (store : Store) (channelId packageId : String) : Store :=
  { store with floors := store.floors.erase (Floor.keyOf channelId packageId) }

def deleteGroup (store : Store) (id : String) : Store :=
  { store with groups := store.groups.erase id }

def floor? (store : Store) (channelId packageId : String) : Option Floor :=
  store.floors.get? (Floor.keyOf channelId packageId)

def channelsOf (store : Store) (applicationId : String) : List Channel :=
  store.channels.valuesWhere fun channel => channel.applicationId == applicationId

def packagesOf (store : Store) (applicationId : String) : List Package :=
  Sorting.sortBy (fun left right => Version.listingOrder right.version left.version != .gt)
    (store.packages.valuesWhere fun package => package.applicationId == applicationId)

def groupsOf (store : Store) (applicationId : String) : List Group :=
  store.groups.valuesWhere fun group => group.applicationId == applicationId

def changeGroup (store : Store) (id : String) (change : Group → Group) : Except StoreError Store :=
  match store.groups.get? id with
  | some group => .ok { store with groups := store.groups.insert id (change group) }
  | none => .error (.notFound ("group " ++ id))

def setRollout (store : Store) (id : String) (inProgress : Bool) : Except StoreError Store :=
  store.changeGroup id fun group => { group with rolloutInProgress := inProgress }

def disableUpdates (store : Store) (id : String) : Except StoreError Store :=
  store.changeGroup id fun group =>
    { group with policy := { group.policy with updatesEnabled := false } }

def recordActivity (store : Store) (entry : ActivityEntry) : Store :=
  { store with activity := store.activity ++ [entry] }

def hasMilestoneSince (store : Store) (probe : ActivityEntry) (since : Nat) : Bool :=
  store.activity.any fun entry => since ≤ entry.createdAt && entry.sameMilestone probe

def activitySince (store : Store) (applicationId : String) (since : Nat) : List ActivityEntry :=
  (store.activity.filter fun entry =>
    entry.applicationId == applicationId && since ≤ entry.createdAt).reverse

end Store

end FleetRollout

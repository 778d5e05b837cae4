import FleetRollout.Identifier.Uuid
import FleetRollout.Store.Basic

set_option autoImplicit false

/-!
The directory finds internal ids for the names clients use: a product id for an application, a
track for a group. It answers from indexes that are taken from the store at the first lookup and
kept until they are dropped, so a lookup may be older than the store.
-/

namespace FleetRollout

-- Entries with the one written last in front; the entry written last wins.
abbrev Index (Key : Type) := List (Key × String)

namespace Index

def find? {Key : Type} [DecidableEq Key] (index : Index Key) (key : Key) : Option String :=
  (List.find? (fun entry => entry.1 = key) index).map (·.2)

end Index

structure TrackKey where
  applicationId : String
  track : String
  architecture : Architecture
  deriving Repr, DecidableEq

structure Directory where
  applications : Option (Index String) := none
  tracks : Option (Index TrackKey) := none
  deriving Repr, DecidableEq

namespace Directory

def applicationEntries (application : Application) : Index String :=
  (application.id, application.id) ::
    (application.productId.map fun productId => (productId, application.id)).toList

-- Applications are entered in key order, each by its product id and then by its own id.
def applicationIndex (store : Store) : Index String :=
  store.applications.values.foldl
    (fun index application => applicationEntries application ++ index) []

-- Older groups come first; of groups of the same age the one with the smaller id.
def isOlder (left right : Group) : Bool :=
  left.createdAt < right.createdAt || (left.createdAt = right.createdAt && left.id ≤ right.id)

def channelArchitecture? (store : Store) (channelId : String) : Option Architecture :=
  let groups := store.groups.values
  let channels := store.channels.valuesWhere fun channel =>
    groups.any fun group => group.applicationId == channel.applicationId
  (channels.find? fun channel => channel.id == channelId).map (·.architecture)

def trackOf? (store : Store) (group : Group) : Option (TrackKey × String) := do
  let architecture ← channelArchitecture? store (← group.channelId)
  some ({ applicationId := group.applicationId, track := group.track, architecture }, group.id)

def trackIndex (store : Store) : Index TrackKey :=
  ((Sorting.sortBy isOlder store.groups.values).filterMap (trackOf? store)).reverse

def applicationsFor (directory : Directory) (store : Store) : Index String :=
  directory.applications.getD (applicationIndex store)

def tracksFor (directory : Directory) (store : Store) : Index TrackKey :=
  directory.tracks.getD (trackIndex store)

-- A UUID is an application id as it is; any other name has to be in the index.
def findApplication (directory : Directory) (store : Store) (external : String) :
    Option String × Directory :=
  match Identifier.canonicalUuid external with
  | some id => (some id, directory)
  | none =>
      let index := directory.applicationsFor store
      (index.find? (Identifier.bare external), { directory with applications := some index })

-- A track that is not in the index may be a group's id, if it is a UUID.
def findGroup (directory : Directory) (store : Store) (applicationId track : String)
    (architecture : Architecture) : Option String × Directory :=
  let index := directory.tracksFor store
  let found := index.find? { applicationId, track := Identifier.bare track, architecture }
  (found <|> Identifier.canonicalUuid track, { directory with tracks := some index })

def forgetApplications (directory : Directory) : Directory :=
  { directory with applications := none }

def forgetTracks (directory : Directory) : Directory :=
  { directory with tracks := none }

end Directory

end FleetRollout

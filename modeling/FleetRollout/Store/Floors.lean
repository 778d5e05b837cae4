import FleetRollout.Store.Basic

set_option autoImplicit false

namespace FleetRollout

/-- Versions strictly above one and up to another, and how many of them are asked for. -/
structure FloorRange where
  above : Version
  upTo : Version
  limit : Nat
  deriving Repr, DecidableEq

def FloorRange.admits (range : FloorRange) (version : Version) : Bool :=
  range.above.isBefore version && !range.upTo.isBefore version

namespace Store

def floorsForPackage (store : Store) (packageId : String) : List Floor :=
  store.floors.valuesWhere fun floor => floor.packageId == packageId

-- A floor whose package is not stored is left out.
def resolveFloor (store : Store) (floor : Floor) : Option FloorPackage :=
  (store.packages.get? floor.packageId).map fun package => { package, reason := floor.reason }

def channelFloors (store : Store) (channelId : String) : List FloorPackage :=
  let floors := store.floors.valuesWhere fun floor => floor.channelId == channelId
  Sorting.sortBy
    (fun left right => Version.listingOrder left.package.version right.package.version != .gt)
    (floors.filterMap store.resolveFloor)

def servableVersion? (channelId : String) (floor : FloorPackage) : Option Version :=
  if floor.package.isBlacklistedFor channelId then none else Version.parse? floor.package.version

def channelFloorsIn (store : Store) (channelId : String) (range : FloorRange) : List FloorPackage :=
  let candidates := (store.channelFloors channelId).filterMap fun floor =>
    (servableVersion? channelId floor).map fun version => (version, floor)
  let admitted := candidates.filter fun candidate => range.admits candidate.1
  let ordered := Sorting.sortBy (fun left right => left.1.comparison right.1 != .gt) admitted
  (ordered.take range.limit).map (·.2)

end Store

end FleetRollout

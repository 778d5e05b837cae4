import FleetRollout.Rollout.Error
import FleetRollout.Store.Floors
import FleetRollout.Word

set_option autoImplicit false

namespace FleetRollout

structure RequiredFloors where
  floors : List FloorPackage
  /-- More floors exist beyond the ones returned. -/
  hasMore : Bool
  deriving Repr, DecidableEq

/-- At most `cap` floors, but at least one; one more is looked up to learn if there are more. -/
def requiredFloors (store : Store) (channel : Channel) (version : String) (cap : Nat) :
    Except EngineError RequiredFloors :=
  match channel.packageId with
  | none => .error (.denied .noPackageFound)
  | some targetId =>
      match Version.parse? version with
      | none => .error (.invalidVersion version)
      | some above =>
          match store.packages.get? targetId with
          | none => .error (.invalidPackage targetId)
          | some target =>
              match Version.parse? target.version with
              | none => .error (.invalidVersion target.version)
              | some upTo =>
                  let most := max cap 1
                  match Word.add? most 1 with
                  | none => .error .overflow
                  | some limit =>
                      let found := store.channelFloorsIn channel.id { above, upTo, limit }
                      .ok { floors := found.take most, hasMore := most < found.length }

structure Delivery where
  package : Package
  isFloor : Bool
  isTarget : Bool
  floorReason : Option String
  deriving Repr, DecidableEq

inductive DeliveryMode where
  | single
  | multi
  deriving Repr, DecidableEq

namespace DeliveryMode

def name : DeliveryMode → String
  | .single => "single"
  | .multi => "multi"

def named? (text : String) : Option DeliveryMode :=
  [single, multi].find? fun mode => mode.name == text

end DeliveryMode

structure UpdatePlan where
  entries : List Delivery
  hasMoreFloors : Bool
  deriving Repr, DecidableEq

namespace UpdatePlan

def floorDelivery (target : Package) (floor : FloorPackage) : Delivery :=
  { package := floor.package
    isFloor := true
    isTarget := floor.package.id = target.id
    floorReason := some floor.reason }

def targetDelivery (target : Package) : Delivery :=
  { package := target, isFloor := false, isTarget := true, floorReason := none }

def make (target : Package) (required : RequiredFloors) : UpdatePlan :=
  let floors := required.floors.map (floorDelivery target)
  let isListed := floors.getLast?.any (·.isTarget)
  { entries := if required.hasMore || isListed then floors else floors ++ [targetDelivery target]
    hasMoreFloors := required.hasMore }

def deliverable (plan : UpdatePlan) : DeliveryMode → List Delivery
  | .single => plan.entries.take 1
  | .multi => plan.entries

/-- The package the instance ends up on after this grant. -/
def finalPackage? (plan : UpdatePlan) (mode : DeliveryMode) : Option Package :=
  (plan.deliverable mode).getLast?.map (·.package)

def nextPackage? (plan : UpdatePlan) : Option Package :=
  plan.entries.head?.map (·.package)

end UpdatePlan

end FleetRollout

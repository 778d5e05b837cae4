import FleetRollout.Calendar.Places
import FleetRollout.Rollout.Action
import FleetRollout.Store.Counters

set_option autoImplicit false

/-!
Whether a group may hand out its target version now, from its policy and its counters. In safe
mode a single instance goes first: the limits stay at one until some attempt at the target ended.
-/

namespace FleetRollout

-- A limit from here on is no limit.
def unlimitedUpdates : Nat := 1000000

def officeOpens : Nat := 9

def officeCloses : Nat := 17

def zoneOf (timezone : Option String) : Except EngineError Calendar.Zone :=
  match timezone with
  | none => .ok Calendar.Zone.universal
  | some name =>
      match Calendar.Zone.named? name with
      | some zone => .ok zone
      | none => .error (.invalidTimezone name)

/-- Monday to Friday from nine to five by local time; never at a time the calendar cannot name. -/
def withinOfficeHours (timezone : Option String) (now : Nat) : Except EngineError Bool := do
  let zone ← zoneOf timezone
  let localTime := zone.localTime now
  let weekday := Calendar.weekday (localTime.fdiv 86400)
  let hour := (localTime.fmod 86400 / 3600).toNat
  pure (now ≤ Calendar.lastLabelled && weekday != 0 && weekday != 6 &&
    officeOpens ≤ hour && hour < officeCloses)

namespace Policy

def needsCounters (policy : Policy) : Bool :=
  policy.safeMode || policy.maxUpdatesPerPeriod < unlimitedUpdates

def limit (policy : Policy) (counters : UpdateCounters) : Nat :=
  if policy.safeMode && counters.attempted = 0 then 1 else policy.maxUpdatesPerPeriod

/-- The first limit that is reached: per period, at a time, and, in safe mode, timed out. -/
def refusal? (policy : Policy) (counters : UpdateCounters) : Option Denial :=
  let limit := policy.limit counters
  if limit ≤ counters.grantedInPeriod then some .periodLimitReached
  else if limit ≤ counters.inProgress then some .concurrencyLimitReached
  else if policy.safeMode && limit ≤ counters.timedOut then some .timeoutLimitReached
  else none

def isOpen (policy : Policy) (now : Nat) : Except EngineError Bool :=
  if !policy.updatesEnabled then .ok false
  else if policy.officeHours then withinOfficeHours policy.timezone now
  else .ok true

end Policy

def Group.counterQuery (group : Group) (version : String) (now : Nat) : CounterQuery :=
  { groupId := group.id
    version
    periodSeconds := group.policy.periodSeconds
    timeoutSeconds := group.policy.timeoutSeconds
    now }

/--
Admits a grant of a target version or denies it. Too many timed out updates also switch the
group's updates off; an operator has to switch them on again.
-/
def enforcePolicy (group : Group) (version : String) (now : Nat) : Action Store Unit := do
  if ← Action.ofExcept (group.policy.isOpen now) then
    if group.policy.needsCounters then
      let store ← get
      match group.policy.refusal? (store.updateCounters (group.counterQuery version now)) with
      | none => pure ()
      | some .timeoutLimitReached => do
          Action.commitOnly fun store => store.disableUpdates group.id
          throw (.denied .timeoutLimitReached)
      | some denial => throw (.denied denial)
    else pure ()
  else throw (.denied .updatesDisabled)

end FleetRollout

import FleetRollout.Identifier.Uuid
import FleetRollout.Store.Installations

set_option autoImplicit false

/-!
Figures of a group, counted over its fleet: the installations of the group on instances that are
not synthetic.
-/

namespace FleetRollout

structure UpdateCounters where
  total : Nat := 0
  granted : Nat := 0
  attempted : Nat := 0
  succeeded : Nat := 0
  failed : Nat := 0
  grantedInPeriod : Nat := 0
  inProgress : Nat := 0
  timedOut : Nat := 0
  deriving Repr, DecidableEq

def UpdateCounters.pending (counters : UpdateCounters) : Nat :=
  counters.granted - counters.attempted

structure CounterQuery where
  groupId : String
  version : String
  periodSeconds : Nat
  timeoutSeconds : Nat
  now : Nat
  deriving Repr, DecidableEq

namespace CounterQuery

/-- A target that can be read is met by every spelling of its triple, another by itself only. -/
def isTarget (query : CounterQuery) (version : String) : Bool :=
  match Version.parse? query.version with
  | none => version == query.version
  | some target =>
      match Version.parse? version with
      | some version => version.sameTriple target
      | none => false

def countsTowards (query : CounterQuery) (row : Installation) : Bool :=
  row.countedTarget.any query.isTarget

/-- A floor on the way to the target is an attempt; only the target itself is a success. -/
def isSuccess (query : CounterQuery) (row : Installation) : Bool :=
  query.countsTowards row && row.status = .complete && row.grantedVersion.any query.isTarget

def isFailure (query : CounterQuery) (row : Installation) : Bool :=
  query.countsTowards row && row.status = .error

def isAttempt (query : CounterQuery) (row : Installation) : Bool :=
  query.countsTowards row && row.status.isTerminal

def isInPeriod (query : CounterQuery) (row : Installation) : Bool :=
  row.grantedAt.any fun time => query.now - query.periodSeconds ≤ time

def isLate (query : CounterQuery) (time : Nat) : Bool :=
  query.timeoutSeconds < query.now - time

def isTimedOut (query : CounterQuery) (row : Installation) : Bool :=
  row.inProgress && row.grantedAt.any query.isLate

def isRunning (query : CounterQuery) (row : Installation) : Bool :=
  row.inProgress && row.grantedAt.any fun time => !query.isLate time

end CounterQuery

structure StatusCensus where
  total : Nat := 0
  undefined : Nat := 0
  updateGranted : Nat := 0
  error : Nat := 0
  complete : Nat := 0
  installed : Nat := 0
  downloaded : Nat := 0
  downloading : Nat := 0
  onHold : Nat := 0
  deriving Repr, DecidableEq

namespace StatusCensus

def count (census : StatusCensus) : Status → Nat
  | .undefined => census.undefined
  | .updateGranted => census.updateGranted
  | .error => census.error
  | .complete => census.complete
  | .installed => census.installed
  | .downloaded => census.downloaded
  | .downloading => census.downloading
  | .onHold => census.onHold

def record (census : StatusCensus) (status : Status) : StatusCensus :=
  let counted := { census with total := census.total + 1 }
  match status with
  | .undefined => { counted with undefined := census.undefined + 1 }
  | .updateGranted => { counted with updateGranted := census.updateGranted + 1 }
  | .error => { counted with error := census.error + 1 }
  | .complete => { counted with complete := census.complete + 1 }
  | .installed => { counted with installed := census.installed + 1 }
  | .downloaded => { counted with downloaded := census.downloaded + 1 }
  | .downloading => { counted with downloading := census.downloading + 1 }
  | .onHold => { counted with onHold := census.onHold + 1 }

def ofStatuses (statuses : List Status) : StatusCensus :=
  statuses.foldl record {}

theorem total_record (census : StatusCensus) (status : Status) :
    (census.record status).total = census.total + 1 := by
  cases status <;> rfl

theorem count_record (census : StatusCensus) (status kind : Status) :
    (census.record status).count kind =
      census.count kind + if status == kind then 1 else 0 := by
  cases status <;> cases kind <;> rfl

theorem foldl_record (census : StatusCensus) (statuses : List Status) :
    (statuses.foldl record census).total = census.total + statuses.length ∧
      ∀ kind, (statuses.foldl record census).count kind =
        census.count kind + statuses.count kind := by
  induction statuses generalizing census with
  | nil => exact ⟨rfl, fun _ => rfl⟩
  | cons status rest ih =>
    obtain ⟨total, counts⟩ := ih (census.record status)
    refine ⟨?_, fun kind => ?_⟩
    · rw [List.foldl_cons, total, total_record, List.length_cons]
      omega
    · rw [List.foldl_cons, counts, count_record, List.count_cons]
      omega

theorem total_ofStatuses (statuses : List Status) :
    (ofStatuses statuses).total = statuses.length :=
  (foldl_record {} statuses).1.trans (Nat.zero_add _)

theorem count_ofStatuses (statuses : List Status) (kind : Status) :
    (ofStatuses statuses).count kind = statuses.count kind := by
  have blank : count {} kind = 0 := by cases kind <;> rfl
  rw [ofStatuses, (foldl_record {} statuses).2 kind, blank, Nat.zero_add]

end StatusCensus

structure VersionShare where
  version : String
  instances : Nat
  percentage : Float
  deriving Repr

namespace VersionShare

def percent (part whole : Nat) : Float :=
  part.toFloat * 100.0 / whole.toFloat

-- Newest version first, equal versions by their text, unreadable ones last.
def mayPrecede (left right : VersionShare) : Bool :=
  match Version.listingOrder right.version left.version with
  | .lt => true
  | .gt => false
  | .eq => left.version ≤ right.version

end VersionShare

namespace Store

def fleet (store : Store) (groupId : String) : List Installation :=
  (store.installationsOf groupId).filter fun row => !Identifier.isSynthetic row.instanceId

def seenSince (store : Store) (groupId : String) (since : Nat) : List Installation :=
  (store.fleet groupId).filter fun row => since ≤ row.lastCheckAt

def updateCounters (store : Store) (query : CounterQuery) : UpdateCounters :=
  let fleet := store.fleet query.groupId
  { total := fleet.length
    granted := fleet.countP query.countsTowards
    attempted := fleet.countP query.isAttempt
    succeeded := fleet.countP query.isSuccess
    failed := fleet.countP query.isFailure
    grantedInPeriod := fleet.countP query.isInPeriod
    inProgress := fleet.countP query.isRunning
    timedOut := fleet.countP query.isTimedOut }

def census (store : Store) (groupId : String) (since : Nat) : StatusCensus :=
  .ofStatuses ((store.seenSince groupId since).map (·.status))

def versionShares (store : Store) (groupId : String) (since : Nat) : List VersionShare :=
  let versions := (store.seenSince groupId since).map (·.version)
  Sorting.sortBy VersionShare.mayPrecede (versions.eraseDups.map fun version =>
    { version
      instances := versions.count version
      percentage := VersionShare.percent (versions.count version) versions.length })

end Store

end FleetRollout

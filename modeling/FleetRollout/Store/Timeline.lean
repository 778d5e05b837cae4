import FleetRollout.Store.Counters
import FleetRollout.Word

set_option autoImplicit false

namespace FleetRollout

structure Bucket (α : Type) where
  start : Nat
  counts : List (α × Nat)
  deriving Repr

namespace Timeline

-- Bucket starts; the last bucket may reach past the end.
def starts (since upTo width : Nat) : List Nat :=
  if width = 0 then []
  else (List.range ((upTo - since + width - 1) / width)).map fun index => since + index * width

def bucketOf (since width time : Nat) : Nat :=
  since + (time - since) / width * width

section Counts

variable {α : Type} [BEq α]

def countOne (element : α) : List (α × Nat) → List (α × Nat)
  | [] => [(element, 1)]
  | (present, count) :: rest =>
      if present == element then (present, count + 1) :: rest
      else (present, count) :: countOne element rest

def tally (elements : List α) : List (α × Nat) :=
  elements.foldl (fun counts element => countOne element counts) []

-- Counts an element in the bucket at a start; where there is none yet, it is made.
def countAt (start : Nat) (element : α) : List (Bucket α) → List (Bucket α)
  | [] => [{ start, counts := countOne element [] }]
  | bucket :: rest =>
      if start < bucket.start then { start, counts := countOne element [] } :: bucket :: rest
      else if bucket.start < start then bucket :: countAt start element rest
      else { bucket with counts := countOne element bucket.counts } :: rest

end Counts

/--
The version of an installation at a time, by its history in the group: that of the last entry up
to then, or, before its first entry, the version it came with. An update completed by the first
entry tells nothing about the version before it.
-/
def versionAt (row : Installation) (entries : List HistoryEntry) (time : Nat) : Option String :=
  match entries.reverse.find? fun entry => entry.createdAt ≤ time with
  | some latest => some latest.version
  | none =>
      if time < row.createdAt then none
      else
        match entries.head? with
        | none => some row.version
        | some next => if next.status = .complete then none else some next.version

end Timeline

namespace Store

def groupHistory (store : Store) (groupId : String) : List HistoryEntry :=
  store.history.filter fun entry =>
    entry.groupId == groupId && !Identifier.isSynthetic entry.instanceId

/-- The versions at the end of each bucket. There is no timeline where such an end is no word. -/
def versionTimeline? (store : Store) (groupId : String) (since upTo width : Nat) :
    Option (List (Bucket String)) :=
  let history := store.groupHistory groupId
  (Timeline.starts since upTo width).mapM fun start => do
    let time ← Word.add? start width
    some
      { start
        counts := Timeline.tally ((store.fleet groupId).filterMap fun row =>
          Timeline.versionAt row
            (history.filter fun entry => entry.instanceId == row.instanceId) time) }

def statusTimeline (store : Store) (groupId : String) (since upTo width : Nat) :
    List (Bucket (Status × String)) :=
  let blank := (Timeline.starts since upTo width).map fun start => { start, counts := [] }
  if width = 0 then blank
  else
    (store.groupHistory groupId).foldl
      (fun timeline entry =>
        if entry.createdAt < since || upTo ≤ entry.createdAt then timeline
        else
          Timeline.countAt (Timeline.bucketOf since width entry.createdAt)
            (entry.status, entry.version) timeline)
      blank

end Store

end FleetRollout

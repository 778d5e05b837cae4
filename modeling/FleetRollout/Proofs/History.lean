import FleetRollout.Proofs.Lifecycle

set_option autoImplicit false

/-!
The status history as the trace of the statuses. What a step writes into it is read off the rows
before and after the step: a change of status, unless it is a reset by a move to another group.
-/

namespace FleetRollout

open Store FleetRollout.Action

structure StatusChange where
  instanceId : String
  applicationId : String
  groupId : String
  status : Status
  version : String
  time : Nat
  deriving Repr, DecidableEq

def HistoryEntry.change (entry : HistoryEntry) : StatusChange :=
  { instanceId := entry.instanceId
    applicationId := entry.applicationId
    groupId := entry.groupId
    status := entry.status
    version := entry.version
    time := entry.createdAt }

def HistoryEntry.isOf (row : Installation) (entry : HistoryEntry) : Bool :=
  entry.instanceId == row.instanceId && entry.applicationId == row.applicationId

namespace Step

-- The change of the row under a key to a status that is another one, and not undefined.
def changeAt (step : Step) (key : String) : Option StatusChange := do
  let row ← step.after.store.installations.get? key
  if row.status = .undefined ∨
      (step.before.store.installations.get? key).any (·.status = row.status) then none
  else
    some
      { instanceId := row.instanceId
        applicationId := row.applicationId
        groupId := row.groupId
        status := row.status
        version := row.version
        time := step.time }

def changes (step : Step) : List StatusChange :=
  step.after.store.installations.keys.filterMap step.changeAt

end Step

section Changes

variable {step : Step} {key : String} {row : Installation}

theorem Step.changeAt_unchanged (same : step.after.store.installations.get? key =
    step.before.store.installations.get? key) : step.changeAt key = none := by
  rw [changeAt, same]
  cases step.before.store.installations.get? key <;> simp

theorem Step.changeAt_entriesSince (errorCode : Option String)
    (found : step.after.store.installations.get? key = some row) :
    (row.entriesSince (step.before.store.installations.get? key) step.before.now errorCode).map
      HistoryEntry.change = (step.changeAt key).toList := by
  rw [changeAt, found, Installation.entriesSince]
  simp only [Option.bind_eq_bind, Option.bind_some]
  split <;> rfl

theorem Effect.appends (effect : Effect step.stage step.before step.after)
    (keyed : step.after.store.Keyed) :
    ∃ appended, step.after.store.history = step.before.store.history ++ appended ∧
      appended.map HistoryEntry.change = step.changes ∧
      ∀ key, (appended.filter fun entry =>
          Installation.keyOf entry.instanceId entry.applicationId = key).map HistoryEntry.change =
        (step.changeAt key).toList := by
  cases effect with
  | quiet fleet =>
    have unchanged (key : String) : step.changeAt key = none :=
      Step.changeAt_unchanged (by rw [fleet.installations])
    refine ⟨[], by rw [fleet.history, List.append_nil], ?_, fun key => ?_⟩
    · rw [Step.changes, List.filterMap_eq_nil_iff.mpr fun key _ => unchanged key]
      rfl
    · rw [unchanged key]
      rfl
  | turned key changed errorCode turn installations history =>
    have found : step.after.store.installations.get? key = some changed := by
      rw [installations, Table.get_insert, if_pos rfl]
    -- One row is written, so there is one change at most, and it is under this key.
    have others : ∀ other ≠ key, step.changeAt other = none := fun other differs =>
      Step.changeAt_unchanged (by rw [installations, Table.get_insert, if_neg (Ne.symm differs)])
    have entries := Step.changeAt_entriesSince errorCode found
    have own (entry : HistoryEntry) (member : entry ∈ changed.entriesSince
        (step.before.store.installations.get? key) step.before.now errorCode) :
        Installation.keyOf entry.instanceId entry.applicationId = key := by
      rw [Installation.mem_entriesSince member]
      exact keyed.installations key changed found
    refine ⟨_, history, ?_, fun other => ?_⟩
    · rw [entries, Step.changes, Table.filterMap_keys others (by simp [found])]
    · by_cases same : key = other
      · subst same
        rw [List.filter_eq_self.mpr fun entry member => decide_eq_true (own entry member), entries]
      · have nothing := List.filter_eq_nil_iff.mpr fun entry member =>
          mt of_decide_eq_true fun placed => same ((own entry member).symm.trans placed)
        rw [nothing, others other (Ne.symm same)]
        rfl

end Changes

/-- An installation whose status is defined has it, and its group, on record last. -/
def Installation.LastRecorded (history : List HistoryEntry) (row : Installation) : Prop :=
  row.status ≠ .undefined →
    ∃ entry, (history.filter (HistoryEntry.isOf row)).getLast? = some entry ∧
      entry.status = row.status ∧ entry.groupId = row.groupId

section Recorded

variable {before : Engine} {stage : Stage} {key : String} {row changed : Installation}

theorem Turn.groupId (turn : Turn before stage key (some row) changed)
    (defined : changed.status ≠ .undefined) : changed.groupId = row.groupId := by
  cases turn with
  | seen _ sighting =>
    rcases row.seen_cases sighting with same | ⟨-, reset⟩
    · rw [same]
    · rw [reset] at defined
      exact absurd rfl defined
  | _ => rfl

theorem HistoryEntry.key_of_isOf {entry : HistoryEntry} (isOf : entry.isOf row = true) :
    Installation.keyOf entry.instanceId entry.applicationId = row.key := by
  simp only [HistoryEntry.isOf, Bool.and_eq_true, beq_iff_eq] at isOf
  rw [isOf.1, isOf.2, Installation.key]

theorem Turn.lastRecorded {old : Option Installation} {history : List HistoryEntry} {time : Nat}
    {errorCode : Option String} (turn : Turn before stage key old changed)
    (recorded : ∀ row ∈ old, row.LastRecorded history) :
    changed.LastRecorded (history ++ changed.entriesSince old time errorCode) := by
  intro defined
  unfold Installation.entriesSince
  by_cases same : old.any (·.status = changed.status) = true
  case pos =>
    -- The status stays, and with it the group: the entry of before is still the last one.
    obtain ⟨row, rfl, status⟩ := (Option.any_eq_true _ _).mp same
    have status : row.status = changed.status := of_decide_eq_true status
    obtain ⟨entry, last, current, place⟩ := recorded row rfl (status ▸ defined)
    have isOf : HistoryEntry.isOf changed = HistoryEntry.isOf row := by
      funext entry
      rw [HistoryEntry.isOf, HistoryEntry.isOf, turn.instanceId, turn.applicationId]
    refine ⟨entry, ?_, current.trans status, place.trans (turn.groupId defined).symm⟩
    rw [if_pos (.inr same), List.append_nil, isOf, last]
  case neg =>
    have isOf : HistoryEntry.isOf changed (changed.historyEntry time errorCode) = true := by
      simp [HistoryEntry.isOf, Installation.historyEntry]
    refine ⟨changed.historyEntry time errorCode, ?_, rfl, rfl⟩
    rw [if_neg (not_or.mpr ⟨defined, same⟩), List.filter_append, List.filter_singleton]
    simp [isOf]

theorem Installation.LastRecorded.append {history : List HistoryEntry} {time : Nat}
    {old : Option Installation} {errorCode : Option String}
    (recorded : row.LastRecorded history) (differs : changed.key ≠ row.key) :
    row.LastRecorded (history ++ changed.entriesSince old time errorCode) := by
  have foreign : (changed.entriesSince old time errorCode).filter (HistoryEntry.isOf row) = [] := by
    refine List.filter_eq_nil_iff.mpr fun entry member isOf => differs ?_
    rw [← HistoryEntry.key_of_isOf isOf, Installation.mem_entriesSince member]
    rfl
  intro defined
  obtain ⟨entry, last, current⟩ := recorded defined
  refine ⟨entry, ?_, current⟩
  rw [List.filter_append, foreign, List.append_nil, last]

end Recorded

/-- Every entry tells of a row that is stored, and every row of a defined status is told of. -/
structure Engine.Chronicled (engine : Engine) : Prop where
  stored : ∀ entry ∈ engine.store.history, ∃ row,
    engine.store.installation? entry.instanceId entry.applicationId = some row ∧
      entry.isOf row = true
  latest : ∀ key row, engine.store.installations.get? key = some row →
    row.LastRecorded engine.store.history

theorem Effect.chronicled {before after : Engine} {stage : Stage}
    (effect : Effect stage before after) (keyed : after.store.Keyed)
    (chronicled : before.Chronicled) : after.Chronicled := by
  cases effect with
  | quiet fleet =>
    constructor
    case stored =>
      rw [fleet.history]
      simp only [installation?, fleet.installations]
      exact chronicled.stored
    case latest =>
      rw [fleet.history, fleet.installations]
      exact chronicled.latest
  | turned key changed errorCode turn installations history =>
    have found : after.store.installations.get? key = some changed := by
      rw [installations, Table.get_insert, if_pos rfl]
    have own : changed.key = key := keyed.installations key changed found
    constructor
    case stored =>
      rw [history]
      intro entry member
      rcases List.mem_append.mp member with earlier | new
      · obtain ⟨row, stored, isOf⟩ := chronicled.stored entry earlier
        rw [installation?] at stored ⊢
        rw [installations, Table.get_insert]
        split
        next same =>
          -- The row that is rewritten keeps the ids of the one the entry is of.
          rw [same, stored] at turn
          refine ⟨changed, rfl, ?_⟩
          rwa [HistoryEntry.isOf, turn.instanceId, turn.applicationId]
        next => exact ⟨row, stored, isOf⟩
      · rw [Installation.mem_entriesSince new]
        rw [← own] at found
        exact ⟨changed, found, by simp [HistoryEntry.isOf, Installation.historyEntry]⟩
    case latest =>
      rw [history]
      intro other row stored
      rw [installations, Table.get_insert] at stored
      split at stored
      next same =>
        obtain rfl := Option.some.inj stored
        exact turn.lastRecorded (chronicled.latest key)
      next differs =>
        -- Entries of another row are appended, which leave the last one of this row the last.
        refine (chronicled.latest other row stored).append ?_
        have placed : row.key = other := keyed.installations other row (by
          rw [installations, Table.get_insert, if_neg differs, stored])
        rwa [own, placed]

theorem Reachable.chronicled {engine : Engine} (reached : Reachable engine) :
    engine.Chronicled := by
  refine reached.of_kept (P := Engine.Chronicled) (fun engine empty => ?_)
    fun step effect _ after => effect.chronicled after.keyed
  constructor
  · simp [empty, Store.empty]
  · simp [empty, Store.empty]

theorem Engine.Chronicled.newest {engine : Engine} {key : String} {row : Installation}
    (chronicled : engine.Chronicled) (found : engine.store.installations.get? key = some row)
    (defined : row.status ≠ .undefined) :
    ∃ entry, engine.store.historyOf row.instanceId row.applicationId 1 = [entry] ∧
      entry.status = row.status ∧ entry.groupId = row.groupId := by
  obtain ⟨entry, last, current⟩ := chronicled.latest key row found defined
  refine ⟨entry, ?_, current⟩
  obtain ⟨earlier, listed⟩ := List.getLast?_eq_some_iff.mp last
  unfold HistoryEntry.isOf at listed
  rw [historyOf, listed, List.reverse_concat]
  rfl

-- What is appended from a start on, and the changes of the steps that appended it.
structure Chronicle (start : Engine) (done : List Step) (moment : Engine)
    (appended : List HistoryEntry) : Prop where
  history : moment.store.history = start.store.history ++ appended
  changes : appended.map HistoryEntry.change = done.flatMap Step.changes
  each : ∀ key, (appended.filter fun entry =>
      Installation.keyOf entry.instanceId entry.applicationId = key).map HistoryEntry.change =
    done.filterMap (Step.changeAt · key)

theorem Chronicle.step {start : Engine} {done : List Step} {step : Step}
    {appended : List HistoryEntry} (chronicle : Chronicle start done step.before appended)
    (effect : Effect step.stage step.before step.after) (keyed : step.after.store.Keyed) :
    ∃ more, Chronicle start (done ++ [step]) step.after more := by
  obtain ⟨new, history, changes, each⟩ := effect.appends keyed
  refine ⟨appended ++ new, ?_, ?_, fun key => ?_⟩
  · rw [history, chronicle.history, List.append_assoc]
  · rw [List.map_append, chronicle.changes, changes, List.flatMap_append, List.flatMap_singleton]
  · rw [List.filter_append, List.map_append, chronicle.each, each, List.filterMap_append]
    cases given : step.changeAt key <;> simp [given]

theorem chronicle_trace {start : Engine} (reached : Reachable start)
    (operations : List Operation) :
    ∃ appended, Chronicle start (Operation.trace start operations)
      (Operation.runAll start operations) appended := by
  have begin : Chronicle start [] start [] := ⟨by simp, rfl, fun _ => rfl⟩
  -- What each step keeps is that the steps done so far have their chronicle.
  refine (Operation.linked_trace start operations).of_kept
    (P := fun done moment => ∃ appended, Chronicle start done moment appended) [] ⟨[], begin⟩ ?_
  rintro done step member ⟨appended, chronicle⟩
  exact chronicle.step (Operation.effect_trace reached operations step member)
    (Operation.reachable_trace reached operations step member).2.keyed

/--
The entries a run appends are the changes of status it makes, one for one and in their order, and
those of an installation are the changes of its row. In every state of the run the newest entry of
an installation carries its status and group, unless the status is undefined.
-/
theorem history_is_trace {start : Engine} (reached : Reachable start)
    (operations : List Operation) :
    (∃ appended, (Operation.runAll start operations).store.history =
          start.store.history ++ appended ∧
        appended.map HistoryEntry.change =
          (Operation.trace start operations).flatMap Step.changes ∧
        ∀ key row, (Operation.runAll start operations).store.installations.get? key = some row →
          (appended.filter (HistoryEntry.isOf row)).map HistoryEntry.change =
            (Operation.trace start operations).filterMap (Step.changeAt · key)) ∧
      ∀ moment ∈ Operation.path start operations,
        ∀ key row, moment.store.installations.get? key = some row → row.status ≠ .undefined →
          ∃ entry, moment.store.historyOf row.instanceId row.applicationId 1 = [entry] ∧
            entry.status = row.status ∧ entry.groupId = row.groupId := by
  constructor
  · obtain ⟨appended, chronicle⟩ := chronicle_trace reached operations
    have last := Operation.reachable_runAll reached operations
    refine ⟨appended, chronicle.history, chronicle.changes, fun key row found => ?_⟩
    rw [← chronicle.each key]
    -- Under one key there is one row, so the entries of the key are the entries of the row.
    refine congrArg (List.map HistoryEntry.change) (List.filter_congr fun entry member => ?_)
    have own := last.keyed.installations key row found
    rw [Bool.eq_iff_iff, decide_eq_true_iff]
    constructor
    · intro isOf
      exact (HistoryEntry.key_of_isOf isOf).trans own
    · intro placed
      have listed : entry ∈ (Operation.runAll start operations).store.history := by
        rw [chronicle.history]
        exact List.mem_append_right _ member
      obtain ⟨stored, present, isOf⟩ := last.chronicled.stored entry listed
      rw [installation?, placed, found] at present
      rwa [Option.some.inj present]
  · intro moment member key row found
    exact (Operation.reachable_path reached member).chronicled.newest found

def Operation.troubledUpdate : List Operation :=
  [ .updatePlan .firstContact .single,
    .checkIn
      { instanceId := "host", ip := "10.0.0.1", version := "1.0.0", applicationId := "agent"
        track := "fleet", architecture := "amd64"
        events := [{ kind := 13, result := 1 }, { kind := 13, result := 1 },
          { kind := 14, result := 0 }] },
    .createGroup
      { id := some "reserve", name := "Reserve", applicationId := "agent"
        channelId := some "stable" },
    .updatePlan { Registration.firstContact with groupId := "reserve" } .single ]

theorem history_is_trace_troubledUpdate :
    let start := Operation.runAll {} Operation.smallCatalog
    let steps := Operation.trace start Operation.troubledUpdate
    let after := (Operation.runAll start Operation.troubledUpdate).store
    (∃ appended, after.history = start.store.history ++ appended ∧
        appended.map HistoryEntry.change = steps.flatMap Step.changes) ∧
      (steps.flatMap Step.changes).map (fun change => (change.groupId, change.status)) =
        [("fleet", .updateGranted), ("fleet", .downloading), ("fleet", .error),
          ("fleet", .updateGranted), ("reserve", .onHold)] ∧
      (after.historyOf "host" "agent" 1).map (fun entry => (entry.groupId, entry.status)) =
        [("reserve", .onHold)] := by
  intro start steps after
  have reached : Reachable start := (ReachableBy.start {} rfl).runAll (by decide +kernel)
  obtain ⟨⟨appended, history, changes, -⟩, -⟩ :=
    history_is_trace reached Operation.troubledUpdate
  exact ⟨⟨appended, history, changes⟩, by decide +kernel, by decide +kernel⟩

end FleetRollout

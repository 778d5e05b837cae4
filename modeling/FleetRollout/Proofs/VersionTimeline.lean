import FleetRollout.Engine.Statistics
import FleetRollout.Proofs.Timeline
import FleetRollout.Proofs.Trace

set_option autoImplicit false

/-!
Versions over time. Whose version is known at one time has a known version at all later times.
While the clock does not run back nothing on record lies in the future, so that at present, and
so in the last bucket, the version of everyone in the fleet is known.
-/

namespace FleetRollout

open Store FleetRollout.Action Timeline

/-- Nobody was first seen, and nothing was recorded, after the time. -/
structure Store.DatedBy (store : Store) (time : Nat) : Prop where
  rows : store.installations.Every fun row => row.createdAt ≤ time
  history : ∀ entry ∈ store.history, entry.createdAt ≤ time

namespace Store

theorem datedBy_empty (time : Nat) : Store.empty.DatedBy time :=
  ⟨Table.every_empty, by simp [Store.empty]⟩

variable {before after : Store} {time later : Nat}

theorem DatedBy.mono (dated : before.DatedBy time) (ordered : time ≤ later) :
    before.DatedBy later :=
  ⟨fun key row found => (dated.rows key row found).trans ordered,
    fun entry member => (dated.history entry member).trans ordered⟩

theorem SameFleet.datedBy (fleet : SameFleet before after) (dated : before.DatedBy time) :
    after.DatedBy time :=
  ⟨fleet.installations ▸ dated.rows, fleet.history ▸ dated.history⟩

end Store

section Steps

variable {before after : Engine} {stage : Stage} {key : String} {row changed : Installation}

theorem Turn.createdAt (turn : Turn before stage key (some row) changed) :
    changed.createdAt = row.createdAt := by
  cases turn with
  | seen => exact row.seen_createdAt _
  | _ => rfl

theorem Turn.known {old : Option Installation} (turn : Turn before stage key old changed)
    (ongoing : stage ≠ .arrival) : ∃ row, old = some row := by
  cases turn with
  | first => exact absurd rfl ongoing
  | _ => exact ⟨_, rfl⟩

theorem Effect.datedBy (effect : Effect stage before after) (ongoing : stage ≠ .arrival)
    (dated : before.store.DatedBy before.now) : after.store.DatedBy before.now := by
  cases effect with
  | quiet fleet => exact fleet.datedBy dated
  | turned key changed errorCode turn installations history =>
    constructor
    case rows =>
      obtain ⟨row, found⟩ := turn.known ongoing
      rw [found] at turn
      rw [installations]
      exact dated.rows.insert (turn.createdAt.trans_le (dated.rows key row found)) key
    case history =>
      rw [history]
      refine List.forall_mem_append.mpr ⟨dated.history, fun entry member => ?_⟩
      rw [Installation.mem_entriesSince member]
      exact Nat.le_refl before.now

theorem Engine.Admitted.datedBy {request : Registration} {applicationId : String} {group : Group}
    (admitted : Engine.Admitted before request applicationId group after)
    (dated : before.store.DatedBy before.now) : after.store.DatedBy before.now := by
  obtain ⟨directory, machine, rfl⟩ := admitted.recorded
  constructor
  case rows =>
    rw [recordCheckIn_installations]
    refine dated.rows.insert ?_ _
    -- Who is seen for the first time is seen now.
    unfold sighted
    split
    next found => exact (Installation.seen_createdAt _ _).trans_le (dated.rows _ _ found)
    next => exact Nat.le_refl before.now
  case history =>
    rw [recordCheckIn_history]
    exact dated.history

theorem Performed.datedBy (performed : Performed stage before after)
    (dated : before.store.DatedBy before.now) : after.store.DatedBy before.now := by
  by_cases arrives : stage = .arrival
  case neg => exact performed.effect.datedBy arrives dated
  case pos =>
    cases performed with
    | nothing same =>
      obtain ⟨directory, rfl⟩ := same
      exact dated
    | arrived admitted => exact admitted.datedBy dated
    | _ => cases arrives

end Steps

theorem Operation.steps_time (engine : Engine) (operation : Operation) :
    ∀ step ∈ operation.steps engine, step.time = engine.now := by
  cases serves : operation.isRequest with
  | false =>
    rw [steps_upkeep serves, List.forall_mem_singleton]
    rfl
  | true =>
    have unmoved (other : Operation) (serves : other.isRequest = true) :
        (other.run engine).now = engine.now :=
      (run_serves Engine.sameCatalog_keptByStages.parts serves engine).now
    intro step member
    exact (forall_moments (P := fun moment => moment.now = engine.now) rfl
      (unmoved operation serves) unmoved step member).1

-- The states that are reached while the clock does not run back.
abbrev ReachableForward : Engine → Prop :=
  ReachableBy fun engine operation => engine.now ≤ (operation.run engine).now

theorem ReachableForward.datedBy {engine : Engine} (reached : ReachableForward engine) :
    engine.store.DatedBy engine.now := by
  induction reached with
  | start engine empty =>
    rw [empty]
    exact datedBy_empty engine.now
  | @step engine operation reached forward ih =>
    refine DatedBy.mono ?_ forward
    refine (Operation.linked_steps engine operation).of_kept
      (P := fun _ moment => moment.store.DatedBy engine.now) [] ih ?_
    intro _ step member dated
    have performed := Operation.performed_steps reached.keyed operation step member
    rw [← Operation.steps_time engine operation step member] at dated ⊢
    exact performed.datedBy dated

namespace Timeline

variable {row : Installation} {entries : List HistoryEntry} {time later : Nat}

theorem isSome_versionAt :
    (versionAt row entries time).isSome = true ↔
      (∃ entry ∈ entries, entry.createdAt ≤ time) ∨
        row.createdAt ≤ time ∧ ∀ first ∈ entries.head?, first.status ≠ .complete := by
  unfold versionAt
  cases found : entries.reverse.find? fun entry => entry.createdAt ≤ time with
  | some entry =>
    have member := List.mem_reverse.mp (List.mem_of_find?_eq_some found)
    have past := List.find?_some found
    simp only [Option.isSome_some, true_iff]
    exact .inl ⟨entry, member, of_decide_eq_true past⟩
  | none =>
    have ahead : ¬ ∃ entry ∈ entries, entry.createdAt ≤ time := by
      rintro ⟨entry, member, past⟩
      simpa [past] using List.find?_eq_none.mp found entry (List.mem_reverse.mpr member)
    rw [or_iff_right ahead]
    by_cases unseen : time < row.createdAt
    · simp [unseen]
    · cases first : entries.head? with
      | none => simp [unseen, not_lt.mp unseen]
      | some next =>
        by_cases complete : next.status = .complete <;> simp [unseen, complete, not_lt.mp unseen]

theorem isSome_versionAt_mono (ordered : time ≤ later)
    (known : (versionAt row entries time).isSome = true) :
    (versionAt row entries later).isSome = true := by
  rw [isSome_versionAt] at known ⊢
  rcases known with ⟨entry, member, past⟩ | ⟨seen, brought⟩
  · exact .inl ⟨entry, member, past.trans ordered⟩
  · exact .inr ⟨seen.trans ordered, brought⟩

theorem isSome_versionAt_of_past (seen : row.createdAt ≤ time)
    (past : ∀ entry ∈ entries, entry.createdAt ≤ time) :
    (versionAt row entries time).isSome = true := by
  rw [isSome_versionAt]
  cases entries with
  | nil => exact .inr ⟨seen, by simp⟩
  | cons first rest => exact .inl ⟨first, List.mem_cons_self, past first List.mem_cons_self⟩

theorem getLast_starts {since upTo width start : Nat}
    (last : start ∈ (starts since upTo width).getLast?) : upTo ≤ start + width := by
  obtain ⟨front, split⟩ := List.getLast?_eq_some_iff.mp last
  have present : start ∈ starts since upTo width := List.mem_of_getLast? last
  obtain ⟨positive, -, index, placed⟩ := mem_starts.mp present
  -- A bucket that ended earlier would have a next one, behind the last.
  by_contra before
  have next : start + width ∈ starts since upTo width :=
    mem_starts.mpr ⟨positive, not_le.mp before, index + 1, by rw [placed, Nat.succ_mul]; omega⟩
  have ascend := starts_ascend since upTo width
  rw [split] at next ascend
  rcases List.mem_append.mp next with earlier | same
  · have := (List.pairwise_append.mp ascend).2.2 _ earlier start (List.mem_singleton_self _)
    omega
  · have := List.mem_singleton.mp same
    omega

end Timeline

section Passes

variable {α β : Type} {f : α → Option β}

theorem mapM_eq_some_map {g : α → β} {values : List α}
    (each : ∀ value ∈ values, f value = some (g value)) :
    values.mapM f = some (values.map g) := by
  induction values with
  | nil => rfl
  | cons first rest ih =>
    rw [List.forall_mem_cons] at each
    rw [List.mapM_cons, each.1, ih each.2]
    rfl

theorem mapM_eq_none {value : α} (failed : f value = none) {values : List α}
    (present : value ∈ values) : values.mapM f = none := by
  induction values with
  | nil => cases present
  | cons first rest ih =>
    rw [List.mapM_cons]
    rcases List.mem_cons.mp present with rfl | later
    · rw [failed]
      rfl
    · cases answered : f first with
      | none => rfl
      | some answer =>
        rw [ih later]
        rfl

end Passes

/-- The version that an installation of the group is taken to run at a time, if it is known. -/
def Store.versionOf (store : Store) (groupId : String) (time : Nat) (row : Installation) :
    Option String :=
  versionAt row
    ((store.groupHistory groupId).filter fun entry => entry.instanceId == row.instanceId) time

-- The versions at the ends of all buckets, whether these are words or not.
def Store.versionsAtEnds (store : Store) (groupId : String) (since upTo width : Nat) :
    List (Bucket String) :=
  (starts since upTo width).map fun start =>
    { start
      counts := tally
        ((store.fleet groupId).filterMap (store.versionOf groupId (start + width))) }

/--
Each bucket counts every row of the fleet at most once, for the version it ran when the bucket
ended. No bucket counts fewer rows than one before it, and the last one counts them all.
-/
structure TracksVersions (fleet : List Installation) (ran : Nat → Installation → Option String)
    (width : Nat) (timeline : List (Bucket String)) : Prop where
  once : ∀ bucket ∈ timeline, ∀ version,
    countIn bucket.counts version =
      fleet.countP fun row => ran (bucket.start + width) row = some version
  growing : timeline.Pairwise fun earlier later =>
    totalOf earlier.counts ≤ totalOf later.counts
  complete : ∀ last ∈ timeline.getLast?, totalOf last.counts = fleet.length

namespace Store

variable {store : Store} {groupId : String} {since upTo width : Nat}

theorem DatedBy.versionOf {time later : Nat} (dated : store.DatedBy time) (ordered : time ≤ later)
    {row : Installation} (member : row ∈ store.fleet groupId) :
    (store.versionOf groupId later row).isSome = true := by
  have stored : row ∈ store.installations.values :=
    List.mem_of_mem_filter (List.mem_of_mem_filter member)
  obtain ⟨key, found⟩ := Table.mem_values.mp stored
  refine isSome_versionAt_of_past ((dated.rows key row found).trans ordered) fun entry listed => ?_
  exact (dated.history entry
    (List.mem_of_mem_filter (List.mem_of_mem_filter listed))).trans ordered

theorem totalOf_versions (store : Store) (groupId : String) (time : Nat) :
    totalOf (tally ((store.fleet groupId).filterMap (store.versionOf groupId time))) =
      (store.fleet groupId).countP fun row => (store.versionOf groupId time row).isSome := by
  rw [totalOf_tally, List.length_filterMap_eq_countP]

theorem versionTimeline?_eq (store : Store) (groupId : String) (since upTo width : Nat) :
    store.versionTimeline? groupId since upTo width =
      if ∀ start ∈ starts since upTo width, start + width < Text.wordSize then
        some (store.versionsAtEnds groupId since upTo width)
      else none := by
  unfold versionTimeline?
  split
  next fit =>
    refine mapM_eq_some_map fun start member => ?_
    rw [Word.add?_eq_some (fit start member)]
    rfl
  next beyond =>
    push Not at beyond
    obtain ⟨start, member, past⟩ := beyond
    refine mapM_eq_none ?_ member
    rw [Word.add?_eq_none past]
    rfl

theorem versionTimeline?_eq_some (store : Store) (groupId : String) (since : Nat)
    (early : upTo + width ≤ Text.wordSize) :
    store.versionTimeline? groupId since upTo width =
      some (store.versionsAtEnds groupId since upTo width) := by
  rw [versionTimeline?_eq, if_pos]
  -- No bucket begins at the end of the timeline or later, so its own end is still a word.
  intro start member
  obtain ⟨-, before, -⟩ := mem_starts.mp member
  omega

theorem DatedBy.tracksVersions (dated : store.DatedBy upTo) :
    TracksVersions (store.fleet groupId) (store.versionOf groupId) width
      (store.versionsAtEnds groupId since upTo width) := by
  unfold versionsAtEnds
  constructor
  case once =>
    intro bucket member version
    obtain ⟨start, -, rfl⟩ := List.mem_map.mp member
    dsimp only
    rw [countIn_tally, List.count_filterMap]
    exact List.countP_congr fun row _ => by simp
  case growing =>
    refine List.pairwise_map.mpr ?_
    refine (starts_ascend since upTo width).imp fun {start next} before => ?_
    rw [totalOf_versions, totalOf_versions]
    exact List.countP_mono_left fun row _ =>
      isSome_versionAt_mono (Nat.add_le_add_right before.le width)
  case complete =>
    intro last member
    rw [List.getLast?_map] at member
    obtain ⟨start, lastStart, rfl⟩ := Option.map_eq_some_iff.mp member
    rw [totalOf_versions, List.countP_eq_length]
    exact fun row inFleet => dated.versionOf (getLast_starts lastStart) inFleet

end Store

namespace Window

theorem bucket_pos (window : Window) : 0 < window.bucket := by cases window <;> decide

theorem bucket_le (window : Window) : window.bucket ≤ 86400 := by cases window <;> decide

theorem span_pos (window : Window) : 0 < window.span := by cases window <;> decide

theorem since_lt_iff (window : Window) (now : Nat) : window.since now < now ↔ 0 < now := by
  have rounded : window.since now ≤ now - window.span := Nat.div_mul_le_self _ _
  have := window.span_pos
  omega

end Window

theorem Engine.perform_versionTimeline (engine : Engine) (groupId : String) (window : Window) :
    (Engine.versionTimeline groupId window).perform engine =
      (if engine.store.groups.contains groupId then
          match engine.store.versionTimeline? groupId (window.since engine.now) engine.now
            window.bucket with
          | some timeline => .ok timeline
          | none => .error .overflow
        else .error (.invalidGroup groupId), engine) := by
  unfold Engine.versionTimeline Table.contains
  cases stored : engine.store.groups.get? groupId with
  | some group =>
    rw [perform_bind_ok (perform_requireGroup stored), perform_bind_ok (perform_get engine)]
    cases engine.store.versionTimeline? groupId (window.since engine.now) engine.now
      window.bucket <;> rfl
  | none =>
    rw [perform_bind_error (perform_requireGroup_missing stored)]
    rfl

/--
In every state that is reached while the clock does not run back, the version timeline of a group
counts nobody twice, loses nobody from one bucket to the next, and in its last bucket counts the
whole fleet. It has a bucket as soon as the clock is off zero.
-/
theorem versionTimeline_consistent {engine : Engine} (reached : ReachableForward engine)
    (early : engine.now < Text.wordSize - 86400) (groupId : String) (window : Window) :
    let fleet := engine.store.fleet groupId
    ∃ timeline,
      engine.store.versionTimeline? groupId (window.since engine.now) engine.now window.bucket =
          some timeline ∧
        (Engine.versionTimeline groupId window).perform engine =
          (if engine.store.groups.contains groupId then .ok timeline
            else .error (.invalidGroup groupId), engine) ∧
        (fleet.map (·.key)).Nodup ∧
        TracksVersions fleet (engine.store.versionOf groupId) window.bucket timeline ∧
        (timeline = [] ↔ engine.now = 0) := by
  intro fleet
  have ends : engine.now + window.bucket ≤ Text.wordSize := by
    have := window.bucket_le
    omega
  have answered := engine.store.versionTimeline?_eq_some groupId (window.since engine.now) ends
  refine ⟨_, answered, ?_, ?_, reached.datedBy.tracksVersions, ?_⟩
  · rw [engine.perform_versionTimeline, answered]
  · refine List.pairwise_map.mpr (List.Pairwise.imp ?_
      ((reached.keyed.installations.pairwise_values.filter _).filter _))
    exact fun before same => String.lt_irrefl _ (same ▸ before)
  · rw [versionsAtEnds, List.map_eq_nil_iff, starts_eq_nil_iff window.bucket_pos, ← not_lt,
      window.since_lt_iff, Nat.pos_iff_ne_zero, not_not]

-- One comes from another group and is updated, one never is, and one has only just come.
def Operation.movingFleet : List Operation :=
  let joins (instanceId version groupId : String) : Operation :=
    .registerInstance { Registration.firstContact with instanceId, version, groupId }
  smallCatalog ++
    [ .createGroup { id := some "trial", name := "Trial", applicationId := "agent" },
      .setNow 100000, joins "host" "1.0.0" "trial",
      .advance 700, joins "host" "1.0.0" "fleet", joins "idle" "1.0.0" "fleet",
      .advance 600, .updatePlan .firstContact .single,
      .advance 600,
      .registerEvent
        { instanceId := "host", applicationId := "agent", groupId := "fleet"
          event := { kind := 3, result := 2 } },
      .advance 900, joins "late" "3.0.0" "fleet", .advance 1 ]

theorem versionTimeline_consistent_movingFleet :
    let engine := Operation.runAll {} Operation.movingFleet
    ReachableForward engine ∧ engine.now < Text.wordSize - 86400 ∧
      ∃ timeline, (Engine.versionTimeline "fleet" .hour).perform engine = (.ok timeline, engine) ∧
        TracksVersions (engine.store.fleet "fleet") (engine.store.versionOf "fleet") 600 timeline ∧
        timeline.map (fun bucket => (bucket.start, totalOf bucket.counts)) =
          [(99000, 0), (99600, 1), (100200, 2), (100800, 2), (101400, 2), (102000, 2),
            (102600, 3)] := by
  intro engine
  have reached : ReachableForward engine :=
    (ReachableBy.start {} rfl).runAll (by decide +kernel)
  have early : engine.now < Text.wordSize - 86400 := by decide +kernel
  have present : engine.store.groups.contains "fleet" = true := by decide +kernel
  have told : ((Engine.versionTimeline "fleet" .hour).perform engine).1.toOption.map
      (List.map fun bucket => (bucket.start, totalOf bucket.counts)) =
        some [(99000, 0), (99600, 1), (100200, 2), (100800, 2), (101400, 2), (102000, 2),
          (102600, 3)] := by decide +kernel
  obtain ⟨timeline, -, answered, -, tracks, -⟩ :=
    versionTimeline_consistent reached early "fleet" .hour
  rw [if_pos present] at answered
  rw [answered] at told
  exact ⟨reached, early, timeline, answered, tracks, Option.some.inj told⟩

end FleetRollout

import FleetRollout.Proofs.Counting
import Mathlib.Order.MinMax
import Mathlib.Order.Nat

set_option autoImplicit false

/-!
Status changes over time. The buckets of a timeline stand on a grid, and a change is counted in
the bucket whose start is found by dividing its time. That start is always on the grid, so no
change falls beside the buckets, and each is counted where it belongs.
-/

namespace FleetRollout

namespace Timeline

section Grid

variable {since upTo width start time : Nat}

theorem mem_starts :
    start ∈ starts since upTo width ↔
      0 < width ∧ start < upTo ∧ ∃ index, start = since + index * width := by
  unfold starts
  split
  next none => simp [none]
  next positive =>
    have positive : 0 < width := Nat.pos_of_ne_zero positive
    -- The count of the buckets is rounded up, so the last start may be any distance below the end.
    have below (index : Nat) :
        index < (upTo - since + width - 1) / width ↔ since + index * width < upTo := by
      rw [← Nat.succ_le_iff, Nat.le_div_iff_mul_le positive, Nat.succ_mul]
      omega
    simp only [List.mem_map, List.mem_range, below, positive, true_and]
    constructor
    · rintro ⟨index, before, rfl⟩
      exact ⟨before, index, rfl⟩
    · rintro ⟨before, index, rfl⟩
      exact ⟨index, before, rfl⟩

theorem starts_eq_nil_iff (positive : 0 < width) :
    starts since upTo width = [] ↔ upTo ≤ since := by
  rw [List.eq_nil_iff_forall_not_mem]
  constructor
  · intro empty
    by_contra before
    exact empty since (mem_starts.mpr ⟨positive, not_le.mp before, 0, by simp⟩)
  · rintro none_left start member
    obtain ⟨-, before, index, rfl⟩ := mem_starts.mp member
    omega

theorem starts_ascend (since upTo width : Nat) : (starts since upTo width).Pairwise (· < ·) := by
  unfold starts
  split
  next => exact List.Pairwise.nil
  next positive =>
    refine List.pairwise_map.mpr (List.pairwise_lt_range.imp fun {earlier later} before => ?_)
    have step := Nat.mul_lt_mul_of_pos_right before (Nat.pos_of_ne_zero positive)
    omega

theorem bucketOf_eq_iff (positive : 0 < width) (present : since ≤ time)
    (onGrid : ∃ index, start = since + index * width) :
    bucketOf since width time = start ↔ start ≤ time ∧ time < start + width := by
  obtain ⟨index, rfl⟩ := onGrid
  unfold bucketOf
  rw [Nat.add_left_cancel_iff, Nat.mul_left_inj positive.ne', Nat.div_eq_iff positive]
  omega

theorem bucketOf_mem_starts (positive : 0 < width) (present : since ≤ time) (past : time < upTo) :
    bucketOf since width time ∈ starts since upTo width := by
  have onGrid : ∃ index, bucketOf since width time = since + index * width := ⟨_, rfl⟩
  obtain ⟨begun, -⟩ := (bucketOf_eq_iff positive present onGrid).mp rfl
  exact mem_starts.mpr ⟨positive, begun.trans_lt past, onGrid⟩

end Grid

section Filling

variable {α β : Type} [BEq α]

theorem countAt_of_mem {starts : List Nat} (ascend : starts.Pairwise (· < ·)) {start : Nat}
    (present : start ∈ starts) (element : α) (counts : Nat → List (α × Nat)) :
    countAt start element (starts.map fun other => { start := other, counts := counts other }) =
      starts.map fun other =>
        { start := other
          counts := if other = start then countOne element (counts other) else counts other } := by
  induction starts with
  | nil => cases present
  | cons first rest ih =>
    obtain ⟨least, ascend⟩ := List.pairwise_cons.mp ascend
    rw [List.map_cons, countAt]
    rcases List.mem_cons.mp present with rfl | inside
    · rw [if_neg (Nat.lt_irrefl _), if_neg (Nat.lt_irrefl _), List.map_cons, if_pos rfl]
      congr 1
      refine List.map_congr_left fun other member => ?_
      rw [if_neg (least other member).ne']
    · have before := least start inside
      rw [if_neg before.not_gt, if_pos before, ih ascend inside, List.map_cons,
        if_neg before.ne]

theorem foldl_countAt {starts : List Nat} (ascend : starts.Pairwise (· < ·)) (startOf : β → Nat)
    (elementOf : β → α) {entries : List β} (present : ∀ entry ∈ entries, startOf entry ∈ starts) :
    entries.foldl (fun timeline entry => countAt (startOf entry) (elementOf entry) timeline)
        (starts.map fun start => { start, counts := [] }) =
      starts.map fun start =>
        { start
          counts := tally ((entries.filter (startOf · == start)).map elementOf) } := by
  induction entries using List.reverseRecOn with
  | nil => rfl
  | append_singleton earlier entry ih =>
    rw [List.forall_mem_append, List.forall_mem_singleton] at present
    rw [List.foldl_append, ih present.1, List.foldl_cons, List.foldl_nil,
      countAt_of_mem ascend present.2]
    refine List.map_congr_left fun start _ => ?_
    rw [List.filter_append, List.map_append]
    by_cases own : startOf entry = start
    · simp [own, tally_concat]
    · simp [own, Ne.symm own]

end Filling

end Timeline

namespace Store

open Timeline

/-- What was recorded of a group from one time on and before another. -/
def recordedIn (store : Store) (groupId : String) (opening closing : Nat) : List HistoryEntry :=
  store.history.filter fun entry =>
    entry.groupId == groupId && !Identifier.isSynthetic entry.instanceId &&
      (opening ≤ entry.createdAt && entry.createdAt < closing)

variable {since upTo width : Nat}

theorem statusTimeline_eq (store : Store) (groupId : String) (positive : 0 < width) :
    store.statusTimeline groupId since upTo width =
      (starts since upTo width).map fun start =>
        { start
          counts := tally (((store.recordedIn groupId since upTo).filter fun entry =>
            bucketOf since width entry.createdAt == start).map fun entry =>
              (entry.status, entry.version)) } := by
  have within : store.recordedIn groupId since upTo =
      (store.groupHistory groupId).filter fun entry =>
        since ≤ entry.createdAt && entry.createdAt < upTo := by
    simp [recordedIn, groupHistory, List.filter_filter, Bool.and_comm]
  have onGrid : ∀ entry ∈ store.recordedIn groupId since upTo,
      bucketOf since width entry.createdAt ∈ starts since upTo width := by
    intro entry member
    simp only [recordedIn, List.mem_filter, Bool.and_eq_true, decide_eq_true_eq] at member
    exact bucketOf_mem_starts positive member.2.2.1 member.2.2.2
  rw [← foldl_countAt (starts_ascend since upTo width) _ _ onGrid, within, List.foldl_filter,
    statusTimeline, if_neg positive.ne']
  congr 1
  funext timeline entry
  by_cases early : entry.createdAt < since <;> by_cases late : upTo ≤ entry.createdAt <;>
    simp [early, late]

theorem filter_bucketOf (store : Store) (groupId : String) (positive : 0 < width) {start : Nat}
    (present : start ∈ starts since upTo width) :
    ((store.recordedIn groupId since upTo).filter fun entry =>
        bucketOf since width entry.createdAt == start) =
      store.recordedIn groupId start (min (start + width) upTo) := by
  obtain ⟨-, -, onGrid⟩ := mem_starts.mp present
  have begun : since ≤ start := by
    obtain ⟨index, rfl⟩ := onGrid
    exact Nat.le_add_right _ _
  unfold recordedIn
  rw [List.filter_filter]
  refine List.filter_congr fun entry _ => ?_
  have place (inside : since ≤ entry.createdAt) := bucketOf_eq_iff positive inside onGrid
  rw [Bool.eq_iff_iff]
  simp only [Bool.and_eq_true, beq_iff_eq, decide_eq_true_eq, lt_min_iff]
  constructor
  · rintro ⟨placed, named, inside, past⟩
    obtain ⟨from_start, before⟩ := (place inside).mp placed
    exact ⟨named, from_start, before, past⟩
  · rintro ⟨named, from_start, before, past⟩
    have inside := begun.trans from_start
    exact ⟨(place inside).mpr ⟨from_start, before⟩, named, inside, past⟩

/--
The buckets of a status timeline start at the points of the grid below its end. Each counts, of
every status and version, what was recorded from its start on and before its end, or that of the
timeline; so all counts together tell of everything that was recorded within the timeline.
-/
theorem statusTimeline_exact (store : Store) (groupId : String) (since upTo : Nat)
    (positive : 0 < width) :
    let timeline := store.statusTimeline groupId since upTo width
    (timeline.map (·.start)).Pairwise (· < ·) ∧
    (∀ start, start ∈ timeline.map (·.start) ↔
      start < upTo ∧ ∃ index, start = since + index * width) ∧
    (∀ bucket ∈ timeline, ∀ status version,
      countIn bucket.counts (status, version) =
        (store.recordedIn groupId bucket.start (min (bucket.start + width) upTo)).countP
          fun entry => entry.status = status ∧ entry.version = version) ∧
    (timeline.map fun bucket => totalOf bucket.counts).sum =
      (store.recordedIn groupId since upTo).length := by
  intro timeline
  have filled : timeline = _ := store.statusTimeline_eq groupId positive
  have placed : timeline.map (·.start) = starts since upTo width := by
    rw [filled, List.map_map]
    exact List.map_id _
  refine ⟨?_, fun start => ?_, fun bucket member status version => ?_, ?_⟩
  · rw [placed]
    exact starts_ascend since upTo width
  · rw [placed, mem_starts]
    exact and_iff_right positive
  · rw [filled] at member
    obtain ⟨start, present, rfl⟩ := List.mem_map.mp member
    dsimp only
    rw [countIn_tally, store.filter_bucketOf groupId positive present, List.count,
      List.countP_map]
    refine List.countP_congr fun entry _ => ?_
    simp
  · calc (timeline.map fun bucket => totalOf bucket.counts).sum
        = ((starts since upTo width).map ((store.recordedIn groupId since upTo).map fun entry =>
            bucketOf since width entry.createdAt).count).sum := by
          rw [filled, List.map_map]
          refine congrArg List.sum (List.map_congr_left fun start _ => ?_)
          simp only [Function.comp_apply, totalOf_tally, List.length_map]
          rw [List.count, List.countP_map, List.countP_eq_length_filter]
          rfl
      _ = ((store.recordedIn groupId since upTo).map fun entry =>
            bucketOf since width entry.createdAt).length := by
          rw [sum_count ((starts_ascend since upTo width).imp Nat.ne_of_lt),
            List.countP_eq_length]
          simp only [List.forall_mem_map, decide_eq_true_eq]
          intro entry member
          simp only [recordedIn, List.mem_filter, Bool.and_eq_true, decide_eq_true_eq] at member
          exact bucketOf_mem_starts positive member.2.2.1 member.2.2.2
      _ = _ := List.length_map _

-- Changes around the edges of three buckets, the last of which is cut short.
def edgeChanges : Store :=
  let change (instanceId : String) (status : Status) (createdAt : Nat) : HistoryEntry :=
    { instanceId, applicationId := "agent", groupId := "fleet", status, version := "1.0.0"
      createdAt, errorCode := none }
  { history :=
      [change "host" .updateGranted 99, change "host" .downloading 100,
        change "\x7b8a0f3d7e-0000-4000-8000-000000000001\x7d" .updateGranted 104,
        change "host" .downloaded 109, change "other" .updateGranted 110,
        change "other" .downloading 119, change "third" .downloading 119,
        change "other" .downloaded 120, change "other" .installed 125] }

theorem statusTimeline_exact_edgeChanges :
    let timeline := edgeChanges.statusTimeline "fleet" 100 125 10
    timeline.map (·.start) = [100, 110, 120] ∧
      (∀ bucket ∈ timeline, ∀ status version,
        countIn bucket.counts (status, version) =
          (edgeChanges.recordedIn "fleet" bucket.start (min (bucket.start + 10) 125)).countP
            fun entry => entry.status = status ∧ entry.version = version) ∧
      timeline.map (fun bucket => (countIn bucket.counts (.downloading, "1.0.0"),
        totalOf bucket.counts)) = [(1, 2), (2, 3), (0, 1)] ∧
      (edgeChanges.recordedIn "fleet" 100 125).length = 6 := by
  intro timeline
  obtain ⟨-, -, counted, sum⟩ := edgeChanges.statusTimeline_exact "fleet" 100 125
    (show 0 < 10 by decide)
  have totals : (timeline.map fun bucket => totalOf bucket.counts).sum = 6 := by decide +kernel
  exact ⟨by decide +kernel, counted, by decide +kernel, sum.symm.trans totals⟩

end Store

end FleetRollout

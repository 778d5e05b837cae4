import FleetRollout.Proofs.VersionTimeline

set_option autoImplicit false

/-!
The arithmetic of the timelines in words. It is done once more with every result checked, and
comes to the same until shortly before the clock runs around: the bucket that starts at the last
boundary among the words has no end among them, and where there is such a bucket, there is no
timeline of the versions.
-/

namespace FleetRollout

open Timeline

namespace Timeline

variable {since upTo width time : Nat}

-- The number of buckets that cover a length of time; a remainder makes one more.
def countOfBuckets? (length width : Nat) : Option Nat := do
  let whole ← Word.div? length width
  if length % width = 0 then some whole else Word.add? whole 1

def starts? (since upTo width : Nat) : Option (List Nat) :=
  if width = 0 ∨ upTo ≤ since then some []
  else do
    let length ← Word.sub? upTo since
    let count ← countOfBuckets? length width
    (List.range count).mapM fun index => do
      let offset ← Word.mul? index width
      Word.add? since offset

def bucketOf? (since width time : Nat) : Option Nat := do
  let passed ← Word.sub? time since
  let index ← Word.div? passed width
  let offset ← Word.mul? index width
  Word.add? since offset

theorem div_rounded_up (positive : 0 < width) (length : Nat) :
    (length + width - 1) / width =
      if length % width = 0 then length / width else length / width + 1 := by
  have parts := Nat.div_add_mod length width
  have left_over := Nat.mod_lt length positive
  have apart : (length + width - 1) / width =
      length / width + (length % width + width - 1) / width := by
    rw [← Nat.mul_add_div positive]
    congr 1
    omega
  rw [apart]
  split
  next even =>
    rw [even, Nat.zero_add, Nat.div_eq_of_lt (Nat.sub_one_lt positive.ne'), Nat.add_zero]
  next uneven =>
    congr 1
    exact Nat.div_eq_of_lt_le (by omega) (by omega)

theorem countOfBuckets?_eq_some {length : Nat} (positive : 0 < width)
    (word : length < Text.wordSize) :
    countOfBuckets? length width = some ((length + width - 1) / width) := by
  rw [countOfBuckets?, Word.div?_eq_some positive word, Option.bind_eq_bind, Option.bind_some,
    div_rounded_up positive]
  split
  next => rfl
  next uneven =>
    -- Where something is left over, there are fewer whole buckets than seconds.
    have fewer : length / width < length := by
      have := Nat.div_add_mod length width
      have := Nat.le_mul_of_pos_left (length / width) positive
      omega
    exact Word.add?_eq_some (by omega)

theorem starts?_eq_some (word : upTo < Text.wordSize) :
    starts? since upTo width = some (starts since upTo width) := by
  unfold starts?
  split
  next empty =>
    rw [eq_comm, Option.some.injEq, List.eq_nil_iff_forall_not_mem]
    intro start member
    obtain ⟨positive, before, index, rfl⟩ := mem_starts.mp member
    omega
  next covers =>
    obtain ⟨positive, present⟩ : 0 < width ∧ since < upTo := by omega
    have inside : ∀ index ∈ List.range ((upTo - since + width - 1) / width),
        since + index * width < upTo := by
      intro index member
      have listed : since + index * width ∈ starts since upTo width := by
        rw [starts, if_neg positive.ne']
        exact List.mem_map_of_mem member
      exact (mem_starts.mp listed).2.1
    rw [Word.sub?_eq_some present.le word, Option.bind_eq_bind, Option.bind_some,
      countOfBuckets?_eq_some positive (by omega), Option.bind_some, starts, if_neg positive.ne']
    refine mapM_eq_some_map fun index member => ?_
    have before := inside index member
    rw [Word.mul?_eq_some (by omega), Option.bind_eq_bind, Option.bind_some,
      Word.add?_eq_some (by omega)]

theorem bucketOf?_eq_some (positive : 0 < width) (present : since ≤ time)
    (word : time < Text.wordSize) :
    bucketOf? since width time = some (bucketOf since width time) := by
  have rounded : (time - since) / width * width ≤ time - since := Nat.div_mul_le_self _ _
  rw [bucketOf?, Word.sub?_eq_some present word, Option.bind_eq_bind, Option.bind_some,
    Word.div?_eq_some positive (by omega), Option.bind_some, Word.mul?_eq_some (by omega),
    Option.bind_some, Word.add?_eq_some (by omega), bucketOf]

end Timeline

namespace Store

variable {since upTo width : Nat}

def statusTimeline? (store : Store) (groupId : String) (since upTo width : Nat) :
    Option (List (Bucket (Status × String))) := do
  let starts ← Timeline.starts? since upTo width
  let blank := starts.map fun start => { start, counts := [] }
  if width = 0 then some blank
  else
    (store.groupHistory groupId).foldlM
      (fun timeline entry =>
        if entry.createdAt < since || upTo ≤ entry.createdAt then some timeline
        else do
          let start ← Timeline.bucketOf? since width entry.createdAt
          some (Timeline.countAt start (entry.status, entry.version) timeline))
      blank

theorem statusTimeline?_eq_some (store : Store) (groupId : String) (positive : 0 < width)
    (word : upTo < Text.wordSize) :
    store.statusTimeline? groupId since upTo width =
      some (store.statusTimeline groupId since upTo width) := by
  rw [statusTimeline?, starts?_eq_some word, Option.bind_eq_bind, Option.bind_some,
    if_neg positive.ne', statusTimeline, if_neg positive.ne', ← Option.pure_def,
    ← List.foldlM_pure]
  congr 1
  funext timeline entry
  -- What lies outside of the timeline is passed over, so its time is never divided.
  split
  next => rfl
  next inside =>
    obtain ⟨present, past⟩ : since ≤ entry.createdAt ∧ entry.createdAt < upTo := by
      simpa using inside
    rw [bucketOf?_eq_some positive present (past.trans word)]
    rfl

end Store

namespace Window

variable {now : Nat}

-- Of the span, what would lie before time zero is left off.
def since? (window : Window) (now : Nat) : Option Nat := do
  let index ← Word.div? (now - window.span) window.bucket
  Word.mul? index window.bucket

/-- The last bucket boundary among the words. -/
def lastBoundary (window : Window) : Nat :=
  (Text.wordSize - 1) / window.bucket * window.bucket

theorem since_le (window : Window) (now : Nat) : window.since now ≤ now - window.span :=
  Nat.div_mul_le_self _ _

theorem since?_eq_some (window : Window) (word : now < Text.wordSize) :
    window.since? now = some (window.since now) := by
  have rounded := window.since_le now
  have fits : (now - window.span) / window.bucket * window.bucket < Text.wordSize :=
    rounded.trans_lt ((Nat.sub_le now window.span).trans_lt word)
  rw [since?, Word.div?_eq_some window.bucket_pos (by omega), Option.bind_eq_bind,
    Option.bind_some, Word.mul?_eq_some fits, since]

theorem lastBoundary_lt (window : Window) : window.lastBoundary < Text.wordSize := by
  have rounded : window.lastBoundary ≤ Text.wordSize - 1 := Nat.div_mul_le_self _ _
  have : 0 < Text.wordSize := by decide
  omega

theorem wordSize_le_lastBoundary_add (window : Window) :
    Text.wordSize ≤ window.lastBoundary + window.bucket := by
  have : Text.wordSize - 1 < window.lastBoundary + window.bucket :=
    Nat.lt_div_mul_add window.bucket_pos
  omega

theorem add_bucket_lt_iff (window : Window) {start : Nat}
    (onBoundary : ∃ index, start = index * window.bucket) (word : start < Text.wordSize) :
    start + window.bucket < Text.wordSize ↔ start ≠ window.lastBoundary := by
  constructor
  · rintro fits rfl
    exact fits.not_ge window.wordSize_le_lastBoundary_add
  · intro earlier
    obtain ⟨index, rfl⟩ := onBoundary
    have upTo : index ≤ (Text.wordSize - 1) / window.bucket :=
      (Nat.le_div_iff_mul_le window.bucket_pos).mpr (Nat.le_sub_one_of_lt word)
    have before : index < (Text.wordSize - 1) / window.bucket :=
      upTo.lt_of_ne fun same => earlier (congrArg (· * window.bucket) same)
    calc index * window.bucket + window.bucket
        = (index + 1) * window.bucket := (Nat.succ_mul _ _).symm
      _ ≤ window.lastBoundary := Nat.mul_le_mul_right _ before
      _ < Text.wordSize := window.lastBoundary_lt

theorem onBoundary_of_mem_starts (window : Window) {start : Nat}
    (member : start ∈ starts (window.since now) now window.bucket) :
    ∃ index, start = index * window.bucket := by
  obtain ⟨-, -, index, rfl⟩ := mem_starts.mp member
  exact ⟨(now - window.span) / window.bucket + index, (Nat.add_mul _ _ _).symm⟩

theorem lastBoundary_mem_starts_iff (window : Window) (word : now < Text.wordSize) :
    window.lastBoundary ∈ starts (window.since now) now window.bucket ↔
      window.lastBoundary < now := by
  rw [mem_starts, and_iff_right window.bucket_pos]
  refine and_iff_left_of_imp fun _ => ?_
  have ordered : (now - window.span) / window.bucket ≤ (Text.wordSize - 1) / window.bucket :=
    Nat.div_le_div_right (by omega)
  refine ⟨(Text.wordSize - 1) / window.bucket - (now - window.span) / window.bucket, ?_⟩
  rw [since, ← Nat.add_mul, Nat.add_sub_cancel' ordered, lastBoundary]

theorem start_add_bucket_lt (window : Window) (word : now < Text.wordSize) {start : Nat}
    (member : start ∈ starts (window.since now) now window.bucket)
    (earlier : start ≠ window.lastBoundary) : start + window.bucket < Text.wordSize := by
  have before : start < now := (mem_starts.mp member).2.1
  have onBoundary := window.onBoundary_of_mem_starts member
  exact (window.add_bucket_lt_iff onBoundary (before.trans word)).mpr earlier

theorem start_lt_end (window : Window) (word : now < Text.wordSize) {start : Nat}
    (member : start ∈ starts (window.since now) now window.bucket)
    (earlier : start ≠ window.lastBoundary) :
    ∃ ending, Word.add? start window.bucket = some ending ∧ start < ending :=
  ⟨_, Word.add?_eq_some (window.start_add_bucket_lt word member earlier),
    Nat.lt_add_of_pos_right window.bucket_pos⟩

theorem ends_lt_iff (window : Window) (word : now < Text.wordSize) :
    (∀ start ∈ starts (window.since now) now window.bucket,
        start + window.bucket < Text.wordSize) ↔
      now ≤ window.lastBoundary := by
  rw [← not_lt, ← window.lastBoundary_mem_starts_iff word]
  constructor
  · intro fits member
    exact (fits _ member).not_ge window.wordSize_le_lastBoundary_add
  · intro absent start member
    refine window.start_add_bucket_lt word member ?_
    rintro rfl
    exact absent member

end Window

/--
The window, the starts of its buckets and the bucket of each change are words, and no count
exceeds the number of what is on record.
-/
structure Store.BucketingFits (store : Store) (groupId : String) (window : Window) (now : Nat) :
    Prop where
  widths : window.span < Text.wordSize ∧ window.bucket < Text.wordSize
  range : window.since? now = some (window.since now)
  starts : starts? (window.since now) now window.bucket =
    some (Timeline.starts (window.since now) now window.bucket)
  statuses : store.statusTimeline? groupId (window.since now) now window.bucket =
    some (store.statusTimeline groupId (window.since now) now window.bucket)
  changes : ∀ bucket ∈ store.statusTimeline groupId (window.since now) now window.bucket,
    totalOf bucket.counts ≤ store.history.length
  rows : ∀ timeline,
    store.versionTimeline? groupId (window.since now) now window.bucket = some timeline →
      ∀ bucket ∈ timeline, totalOf bucket.counts ≤ (store.fleet groupId).length

/-- The ends of the buckets fit as well, and each lies after its start. -/
structure Store.TimelinesFit (store : Store) (groupId : String) (window : Window) (now : Nat) :
    Prop extends store.BucketingFits groupId window now where
  versions : (store.versionTimeline? groupId (window.since now) now window.bucket).isSome = true
  ends : ∀ start ∈ Timeline.starts (window.since now) now window.bucket,
    ∃ ending, Word.add? start window.bucket = some ending ∧ start < ending

namespace Store

variable {now : Nat}

theorem bucketingFits (store : Store) (groupId : String) (window : Window)
    (word : now < Text.wordSize) : store.BucketingFits groupId window now where
  widths := by cases window <;> decide
  range := window.since?_eq_some word
  starts := starts?_eq_some word
  statuses := store.statusTimeline?_eq_some groupId window.bucket_pos word
  changes := by
    intro bucket member
    rw [store.statusTimeline_eq groupId window.bucket_pos] at member
    obtain ⟨start, -, rfl⟩ := List.mem_map.mp member
    rw [totalOf_tally, List.length_map]
    exact (List.length_filter_le _ _).trans (List.length_filter_le _ _)
  rows := by
    intro timeline answered bucket member
    rw [versionTimeline?_eq, Option.ite_none_right_eq_some, Option.some.injEq] at answered
    obtain ⟨-, rfl⟩ := answered
    obtain ⟨start, -, rfl⟩ := List.mem_map.mp member
    rw [totalOf_tally]
    exact List.length_filterMap_le _ _

theorem isSome_versionTimeline?_iff (store : Store) (groupId : String) (window : Window)
    (word : now < Text.wordSize) :
    (store.versionTimeline? groupId (window.since now) now window.bucket).isSome = true ↔
      now ≤ window.lastBoundary := by
  rw [versionTimeline?_eq, ← window.ends_lt_iff word]
  split
  next fit => exact iff_of_true rfl fit
  next beyond => exact iff_of_false Bool.false_ne_true beyond

end Store

/--
As long as the clock is not beyond the last boundary of the window's buckets among the words, both
timelines stay within words, and every bucket ends after its start. Beyond it they do so but for
one end, that of the bucket that starts at this boundary, and the versions are not answered.
-/
theorem timelines_fit_iff (engine : Engine) (groupId : String) (window : Window)
    (word : engine.now < Text.wordSize) :
    let starts := starts (window.since engine.now) engine.now window.bucket
    engine.store.BucketingFits groupId window engine.now ∧
    (engine.store.TimelinesFit groupId window engine.now ↔ engine.now ≤ window.lastBoundary) ∧
    (∀ start ∈ starts, start ≠ window.lastBoundary →
      ∃ ending, Word.add? start window.bucket = some ending ∧ start < ending) ∧
    (window.lastBoundary ∈ starts ↔ window.lastBoundary < engine.now) ∧
    Word.add? window.lastBoundary window.bucket = none ∧
    (window.lastBoundary < engine.now → engine.store.groups.contains groupId = true →
      (Engine.versionTimeline groupId window).perform engine = (.error .overflow, engine)) := by
  intro starts
  have answers := engine.store.isSome_versionTimeline?_iff groupId window word
  have reached : window.lastBoundary ∈ starts ↔ window.lastBoundary < engine.now :=
    window.lastBoundary_mem_starts_iff word
  refine ⟨engine.store.bucketingFits groupId window word,
    ⟨fun fits => answers.mp fits.versions, fun early => ?_⟩,
    fun start member => window.start_lt_end word member, reached,
    Word.add?_eq_none window.wordSize_le_lastBoundary_add, fun late present => ?_⟩
  · refine { engine.store.bucketingFits groupId window word with
      versions := answers.mpr early, ends := fun start member => ?_ }
    refine window.start_lt_end word member ?_
    rintro rfl
    exact early.not_gt (reached.mp member)
  · have unanswered := Option.not_isSome_iff_eq_none.mp (answers.not.mpr late.not_ge)
    rw [engine.perform_versionTimeline, unanswered, if_pos present]

-- Somebody comes an hour before the last second of the clock.
def Operation.lastHour : List Operation :=
  smallCatalog ++
    [ .setNow (Text.wordSize - 3616), .registerInstance .firstContact,
      .setNow (Text.wordSize - 1) ]

theorem timelines_fit_iff_lastHour :
    let engine := Operation.runAll {} Operation.lastHour
    engine.now < Text.wordSize ∧ Window.hour.lastBoundary = Text.wordSize - 16 ∧
      engine.store.TimelinesFit "fleet" .hour (Text.wordSize - 16) ∧
      engine.store.BucketingFits "fleet" .hour engine.now ∧
      ¬ engine.store.TimelinesFit "fleet" .hour engine.now ∧
      Window.hour.lastBoundary ∈ starts (Window.hour.since engine.now) engine.now 600 ∧
      (Engine.versionTimeline "fleet" .hour).perform engine = (.error .overflow, engine) := by
  intro engine
  have boundary : Window.hour.lastBoundary = Text.wordSize - 16 := by decide +kernel
  have word : engine.now < Text.wordSize := by decide +kernel
  have past : Window.hour.lastBoundary < engine.now := by decide +kernel
  have present : engine.store.groups.contains "fleet" = true := by decide +kernel
  obtain ⟨-, early, -⟩ := timelines_fit_iff { engine with now := Text.wordSize - 16 } "fleet"
    .hour (show Text.wordSize - 16 < Text.wordSize by decide)
  obtain ⟨bucketing, late, -, reached, -, overflows⟩ :=
    timelines_fit_iff engine "fleet" .hour word
  exact ⟨word, boundary, early.mpr boundary.ge, bucketing, fun fits => past.not_ge (late.mp fits),
    reached.mpr past, overflows past present⟩

-- At the last second nobody is told what the installation ran in the last hour.
theorem versionTimeline_overflows_lastHour :
    let engine := Operation.runAll {} Operation.lastHour
    ReachableForward engine ∧ engine.now < Text.wordSize ∧
      ¬ engine.store.TimelinesFit "fleet" .hour engine.now ∧
      (Engine.versionTimeline "fleet" .hour).perform engine = (.error .overflow, engine) ∧
      (engine.store.fleet "fleet").length = 1 := by
  intro engine
  have reached : ReachableForward engine :=
    (ReachableBy.start {} rfl).runAll (by decide +kernel)
  have present : engine.store.groups.contains "fleet" = true := by decide +kernel
  have unanswered : engine.store.versionTimeline? "fleet" (Window.hour.since engine.now)
      engine.now Window.hour.bucket = none := by decide +kernel
  refine ⟨reached, by decide +kernel, fun fits => ?_, ?_, by decide +kernel⟩
  · have answered := fits.versions
    rw [unanswered] at answered
    cases answered
  · rw [engine.perform_versionTimeline, unanswered, if_pos present]

end FleetRollout

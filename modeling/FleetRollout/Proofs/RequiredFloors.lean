import FleetRollout.Proofs.Floors

set_option autoImplicit false

/-!
What is required of an instance, said without the two sorted scans that find it: the floors between
its version and the target, by version and where versions are level by key, as many of them as the
cap allows. A higher cap only adds to them, up to the largest one: its limit runs over, and then
nothing at all is required.
-/

namespace FleetRollout

/-- A floor with the key it lies under and its version. -/
structure FloorStop where
  key : String
  version : Version
  floor : FloorPackage
  deriving DecidableEq

def FloorStop.Before (earlier later : FloorStop) : Prop :=
  earlier.version.rank < later.version.rank ∨
    earlier.version.rank = later.version.rank ∧ earlier.key < later.key

namespace Store

/-- The stop is a floor of the channel that an instance between the two versions has to make. -/
structure IsStop (store : Store) (channelId : String) (above upTo : Version) (stop : FloorStop) :
    Prop where
  stored : ∃ floor, store.floors.get? stop.key = some floor ∧ floor.channelId = channelId ∧
    store.packages.get? floor.packageId = some stop.floor.package ∧
      floor.reason = stop.floor.reason
  permitted : channelId ∉ stop.floor.package.channelsBlacklist
  reads : Version.parse? stop.floor.package.version = some stop.version
  ahead : above.rank < stop.version.rank
  within : stop.version.rank ≤ upTo.rank

/-- These are all stops between the two versions, each once and in order. -/
structure ListsStops (store : Store) (channelId : String) (above upTo : Version)
    (stops : List FloorStop) : Prop where
  complete : ∀ stop, stop ∈ stops ↔ store.IsStop channelId above upTo stop
  ordered : stops.Pairwise FloorStop.Before

variable {store : Store} {channelId : String} {above upTo : Version}

instance : Std.Irrefl FloorStop.Before :=
  ⟨fun _ before => before.elim (lt_irrefl _) fun level => String.lt_irrefl _ level.2⟩

instance : Std.Antisymm FloorStop.Before :=
  ⟨fun _ _ before after => by
    rcases before with below | ⟨level, first⟩ <;> rcases after with above | ⟨same, second⟩
    · exact absurd (below.trans above) (lt_irrefl _)
    · exact absurd same below.ne'
    · exact absurd level above.ne'
    · exact absurd (String.lt_trans first second) (String.lt_irrefl _)⟩

theorem ListsStops.unique {stops others : List FloorStop}
    (lists : store.ListsStops channelId above upTo stops)
    (listsToo : store.ListsStops channelId above upTo others) : stops = others :=
  lists.ordered.eq_of_mem_iff listsToo.ordered fun stop =>
    (lists.complete stop).trans (listsToo.complete stop).symm

def keyedFloors (store : Store) (channelId : String) : List (String × FloorPackage) :=
  Sorting.sortBy (fun left right =>
      Version.listingOrder left.2.package.version right.2.package.version != .gt)
    ((store.floors.rows.filter fun row => row.2.channelId == channelId).filterMap fun row =>
      (store.resolveFloor row.2).map fun floor => (row.1, floor))

def stopOf? (channelId : String) (floor : String × FloorPackage) : Option FloorStop :=
  (servableVersion? channelId floor.2).map fun version =>
    { key := floor.1, version, floor := floor.2 }

def stopsAhead (store : Store) (channelId : String) (above upTo : Version) : List FloorStop :=
  Sorting.sortBy (fun left right => left.version.comparison right.version != .gt)
    (((store.keyedFloors channelId).filterMap (stopOf? channelId)).filter fun stop =>
      above.isBefore stop.version && !upTo.isBefore stop.version)

theorem keyedFloors_floors (store : Store) (channelId : String) :
    (store.keyedFloors channelId).map Prod.snd = store.channelFloors channelId := by
  unfold keyedFloors channelFloors
  -- The sort looks at the floors alone, so the keys may be dropped before it as well as after it.
  rw [Sorting.map_sortBy (fun left right : FloorPackage =>
    Version.listingOrder left.package.version right.package.version != .gt) Prod.snd]
  simp [Table.valuesWhere, Table.values, List.map_filterMap, List.filter_map, List.filterMap_map,
    Function.comp_def]

theorem stopsAhead_floors (store : Store) (channelId : String) (above upTo : Version) :
    (store.stopsAhead channelId above upTo).map (fun stop => (stop.version, stop.floor)) =
      store.floorsAhead channelId above upTo := by
  have candidates : ((store.keyedFloors channelId).filterMap (stopOf? channelId)).map
      (fun stop => (stop.version, stop.floor)) =
        (store.channelFloors channelId).filterMap fun floor =>
          (servableVersion? channelId floor).map fun version => (version, floor) := by
    rw [← keyedFloors_floors, List.filterMap_map, List.map_filterMap]
    simp only [stopOf?, Option.map_map, Function.comp_def]
  unfold stopsAhead floorsAhead
  dsimp only
  rw [Sorting.map_sortBy (fun left right : Version × FloorPackage =>
    left.1.comparison right.1 != .gt) fun stop : FloorStop => (stop.version, stop.floor),
    ← candidates, List.filter_map]
  rfl

theorem mem_keyedFloors {key : String} {resolved : FloorPackage} :
    (key, resolved) ∈ store.keyedFloors channelId ↔
      ∃ floor, store.floors.get? key = some floor ∧ floor.channelId = channelId ∧
        store.packages.get? floor.packageId = some resolved.package ∧
          floor.reason = resolved.reason := by
  simp only [keyedFloors, Sorting.mem_sortBy, List.mem_filterMap, List.mem_filter, Prod.exists,
    Option.map_eq_some_iff, Prod.mk.injEq, beq_iff_eq, ← Table.get_eq_some_iff, resolveFloor]
  constructor
  · rintro ⟨_, floor, ⟨stored, own⟩, _, ⟨package, found, rfl⟩, rfl, rfl⟩
    exact ⟨floor, stored, own, found, rfl⟩
  · rintro ⟨floor, stored, own, found, reason⟩
    exact ⟨key, floor, ⟨stored, own⟩, resolved, ⟨resolved.package, found, by rw [reason]⟩, rfl, rfl⟩

theorem mem_stopsAhead {stop : FloorStop} :
    stop ∈ store.stopsAhead channelId above upTo ↔ store.IsStop channelId above upTo stop := by
  obtain ⟨key, version, floor⟩ := stop
  simp only [stopsAhead, Sorting.mem_sortBy, List.mem_filter, List.mem_filterMap, Prod.exists,
    stopOf?, Option.map_eq_some_iff, FloorStop.mk.injEq, Bool.and_eq_true, Bool.not_eq_true',
    Version.isBefore_iff_rank, Version.not_isBefore_iff_rank]
  constructor
  · rintro ⟨⟨_, _, listed, _, servable, rfl, rfl, rfl⟩, above, within⟩
    obtain ⟨permitted, reads⟩ := servableVersion_eq_some_iff.mp servable
    refine ⟨mem_keyedFloors.mp listed, ?_, reads, above, within⟩
    simpa [Package.isBlacklistedFor] using permitted
  · rintro ⟨stored, permitted, reads, above, within⟩
    have servable : servableVersion? channelId floor = some version :=
      servableVersion_eq_some_iff.mpr ⟨by simpa [Package.isBlacklistedFor] using permitted, reads⟩
    have listed := mem_keyedFloors.mpr stored
    exact ⟨⟨key, floor, listed, version, servable, rfl, rfl, rfl⟩, above, within⟩

theorem keyedFloors_ascend (store : Store) (channelId : String) :
    (store.keyedFloors channelId).Pairwise
      (Sorting.Ascends (fun floor => Version.textRank floor.2.package.version)
        fun earlier later => earlier.1 < later.1) := by
  have rows : (store.floors.rows.filter fun row => row.2.channelId == channelId).Pairwise
      fun earlier later => earlier.1 < later.1 := store.floors.ordered.filter _
  unfold keyedFloors
  -- The rows come by key, and the sort leaves them so where versions are level.
  refine Sorting.sortBy_ascends (fun left right => Version.listingOrder_ne_gt_iff
    left.2.package.version right.2.package.version) (rows.filterMap _ ?_)
  intro earlier later before first firstGiven second secondGiven
  obtain ⟨_, -, rfl⟩ := Option.map_eq_some_iff.mp firstGiven
  obtain ⟨_, -, rfl⟩ := Option.map_eq_some_iff.mp secondGiven
  exact before

theorem stopsAhead_before (store : Store) (channelId : String) (above upTo : Version) :
    (store.stopsAhead channelId above upTo).Pairwise FloorStop.Before := by
  have scanned : ((store.keyedFloors channelId).filterMap (stopOf? channelId)).Pairwise
      FloorStop.Before := by
    refine (store.keyedFloors_ascend channelId).filterMap _ ?_
    intro earlier later ascends first firstGiven second secondGiven
    obtain ⟨lower, firstServed, rfl⟩ := Option.map_eq_some_iff.mp firstGiven
    obtain ⟨upper, secondServed, rfl⟩ := Option.map_eq_some_iff.mp secondGiven
    have firstReads := (servableVersion_eq_some_iff.mp firstServed).2
    have secondReads := (servableVersion_eq_some_iff.mp secondServed).2
    simpa [Sorting.Ascends, FloorStop.Before, Version.textRank_of_parse firstReads,
      Version.textRank_of_parse secondReads] using ascends
  have ranked (left right : FloorStop) :
      (left.version.comparison right.version != .gt) = true ↔
        left.version.rank ≤ right.version.rank :=
    Version.comparison_ne_gt_iff left.version right.version
  -- On a level the second sort keeps what the first one made of it.
  exact (Sorting.sortBy_ascends ranked (scanned.filter _)).imp fun ascends =>
    ascends.elim .inl fun level => level.2

theorem listsStops_stopsAhead (store : Store) (channelId : String) (above upTo : Version) :
    store.ListsStops channelId above upTo (store.stopsAhead channelId above upTo) :=
  ⟨fun _ => mem_stopsAhead, store.stopsAhead_before channelId above upTo⟩

end Store

variable {store : Store} {channel : Channel} {version targetId : String} {cap raised : Nat}
  {target : Package} {above upTo : Version} {required : RequiredFloors}

/-- The stops between version and target are what is required, as many as the cap allows. -/
theorem requiredFloors_exact (targeted : channel.packageId = some targetId)
    (found : store.packages.get? targetId = some target)
    (targetReads : Version.parse? target.version = some upTo)
    (reads : Version.parse? version = some above) (bounded : cap < Text.wordSize - 1) :
    (∃! stops, store.ListsStops channel.id above upTo stops) ∧
      ∀ stops, store.ListsStops channel.id above upTo stops →
        requiredFloors store channel version cap =
          .ok
            { floors := (stops.take (min (max cap 1) stops.length)).map FloorStop.floor
              hasMore := decide (max cap 1 < stops.length) } := by
  have listed := store.listsStops_stopsAhead channel.id above upTo
  refine ⟨⟨_, listed, fun others lists => lists.unique listed⟩, fun stops lists => ?_⟩
  obtain rfl := lists.unique listed
  rw [requiredFloors_eq targeted found reads targetReads, if_pos bounded, RequiredFloors.ofAhead,
    ← Store.stopsAhead_floors, ← List.map_take, List.map_map, List.length_map,
    ← List.take_eq_take_min]
  rfl

def Package.inVersion (id version : String) : Package :=
  { id, applicationId := "agent", version, architecture := .amd64, kind := .generic
    url := "https://packages/" ++ id, filename := "", description := "", size := 0, hash := ""
    action := none, extraFiles := [], channelsBlacklist := [], createdAt := 0 }

def Channel.stable : Channel :=
  { id := "stable", name := "Stable", color := "", applicationId := "agent", architecture := .amd64
    packageId := some "latest", createdAt := 0 }

-- Two floors are level, one is the target, and of the others each is out of the way.
def Store.crowded : Store :=
  let stored : List Package :=
    [ .inVersion "base" "1.0.0", .inVersion "beyond" "3.0.1", .inVersion "bridge" "2.0.0",
      .inVersion "latest" "3.0.0", .inVersion "patch" "2.0.0+fix", .inVersion "unread" "next",
      { Package.inVersion "barred" "2.5.0" with channelsBlacklist := ["stable"] } ]
  let floors : List Floor := ("gone" :: stored.map Package.id).map fun packageId =>
    { channelId := "stable", packageId, reason := packageId, createdAt := 0 }
  floors.foldl putFloor (stored.foldl putPackage .empty)

theorem requiredFloors_exact_crowded :
    ∃ stops, Store.crowded.ListsStops "stable" ⟨1, 0, 0, "1.0.0"⟩ ⟨3, 0, 0, "3.0.0"⟩ stops ∧
      stops.map FloorStop.key = ["stable:bridge", "stable:patch", "stable:latest"] ∧
      requiredFloors .crowded .stable "1.0.0" 2 =
        .ok { floors := (stops.take 2).map FloorStop.floor, hasMore := true } := by
  have targeted : Channel.stable.packageId = some "latest" := rfl
  have found : Store.crowded.packages.get? "latest" = some (.inVersion "latest" "3.0.0") := by
    decide +kernel
  have targetReads : Version.parse? (Package.inVersion "latest" "3.0.0").version =
      some ⟨3, 0, 0, "3.0.0"⟩ := by decide +kernel
  have reads : Version.parse? "1.0.0" = some ⟨1, 0, 0, "1.0.0"⟩ := by decide +kernel
  have bounded : 2 < Text.wordSize - 1 := by decide
  obtain ⟨⟨stops, lists, -⟩, resolved⟩ :=
    requiredFloors_exact targeted found targetReads reads bounded
  have keys : stops.map FloorStop.key = ["stable:bridge", "stable:patch", "stable:latest"] := by
    rw [lists.unique (Store.listsStops_stopsAhead ..)]
    decide +kernel
  have three : stops.length = 3 := by simpa using congrArg List.length keys
  refine ⟨stops, lists, keys, ?_⟩
  rw [resolved stops lists, three]
  rfl

/--
A higher cap takes nothing away, but for the largest one: one floor more than that is beyond the
words, and nothing is answered at all.
-/
theorem requiredFloors_raised (raises : cap ≤ raised) (word : raised < Text.wordSize)
    (resolved : requiredFloors store channel version cap = .ok required) :
    (raised ≠ Text.wordSize - 1 ∧
      ∃ more, requiredFloors store channel version raised = .ok more ∧
        required.floors <+: more.floors ∧ (more.hasMore = true → required.hasMore = true)) ∨
    (raised = Text.wordSize - 1 ∧
      requiredFloors store channel version raised = .error .overflow) := by
  obtain ⟨targetId, target, above, upTo, targeted, found, reads, targetReads, -, rfl⟩ :=
    requiredFloors_ok resolved
  have exact := requiredFloors_eq targeted found reads targetReads raised
  by_cases largest : raised = Text.wordSize - 1
  · exact .inr ⟨largest, exact.trans (if_neg (by omega))⟩
  · refine .inl ⟨largest, _, exact.trans (if_pos (by omega)), ?_⟩
    have most : max cap 1 ≤ max raised 1 := by omega
    constructor
    · exact (List.take_prefix_take_left most).map Prod.snd
    · simp only [RequiredFloors.ofAhead, decide_eq_true_eq]
      omega

theorem requiredFloors_raised_crowded :
    ∃ required more,
      requiredFloors .crowded .stable "1.0.0" 1 = .ok required ∧
        requiredFloors .crowded .stable "1.0.0" (Text.wordSize - 2) = .ok more ∧
        required.floors.map (·.reason) = ["bridge"] ∧ required.hasMore = true ∧
        more.floors.map (·.reason) = ["bridge", "patch", "latest"] ∧ more.hasMore = false ∧
        required.floors <+: more.floors := by
  obtain ⟨required, resolved⟩ :
      ∃ required, requiredFloors .crowded .stable "1.0.0" 1 = .ok required := ⟨_, rfl⟩
  obtain ⟨-, more, resolvedMore, front, -⟩ :=
    (requiredFloors_raised (show 1 ≤ Text.wordSize - 2 by decide) (by decide)
      resolved).resolve_right fun largest => absurd largest.1 (by decide)
  have told : (requiredFloors .crowded .stable "1.0.0" 1).toOption.map (fun required =>
      (required.floors.map (·.reason), required.hasMore)) = some (["bridge"], true) := by
    decide +kernel
  have toldMore : (requiredFloors .crowded .stable "1.0.0" (Text.wordSize - 2)).toOption.map
      (fun required => (required.floors.map (·.reason), required.hasMore)) =
        some (["bridge", "patch", "latest"], false) := by
    decide +kernel
  simp only [resolved, resolvedMore, Except.toOption, Option.map_some, Option.some.injEq,
    Prod.mk.injEq] at told toldMore
  exact ⟨required, more, resolved, resolvedMore, told.1, told.2, toldMore.1, toldMore.2, front⟩

-- Floors are required under a cap of five, and under the largest one nothing is answered.
theorem largest_cap_overflows :
    ¬ ∀ (store : Store) (channel : Channel) (version : String) (cap raised : Nat)
        (required : RequiredFloors), cap ≤ raised → raised < Text.wordSize →
      requiredFloors store channel version cap = .ok required →
        ∃ more, requiredFloors store channel version raised = .ok more ∧
          required.floors <+: more.floors ∧ (more.hasMore = true → required.hasMore = true) := by
  intro grows
  obtain ⟨required, resolved⟩ :
      ∃ required, requiredFloors .crowded .stable "1.0.0" 5 = .ok required := ⟨_, rfl⟩
  obtain ⟨more, resolvedMore, -⟩ :=
    grows .crowded .stable "1.0.0" 5 (Text.wordSize - 1) required (by decide) (by decide) resolved
  have overflows : requiredFloors .crowded .stable "1.0.0" (Text.wordSize - 1) =
      .error .overflow := by decide +kernel
  rw [overflows] at resolvedMore
  cases resolvedMore

end FleetRollout

import FleetRollout.Proofs.Sorting
import FleetRollout.Proofs.Table
import FleetRollout.Proofs.Version
import FleetRollout.Rollout.Plan

set_option autoImplicit false

/-!
Which floors an instance has to pass. `Store.floorsAhead` lists them all, oldest first; what is
required of the instance is a first piece of that list.
-/

namespace FleetRollout

namespace Store

/-- The servable floors of a channel in a range of versions, oldest first, however many. -/
def floorsAhead (store : Store) (channelId : String) (above upTo : Version) :
    List (Version × FloorPackage) :=
  let candidates := (store.channelFloors channelId).filterMap fun floor =>
    (servableVersion? channelId floor).map fun version => (version, floor)
  Sorting.sortBy (fun left right => left.1.comparison right.1 != .gt)
    (candidates.filter fun candidate => above.isBefore candidate.1 && !upTo.isBefore candidate.1)

variable {store : Store} {channelId : String}

theorem mem_channelFloors {resolved : FloorPackage} :
    resolved ∈ store.channelFloors channelId ↔
      ∃ floor ∈ store.floors.values, floor.channelId = channelId ∧
        store.packages.get? floor.packageId = some resolved.package ∧
        floor.reason = resolved.reason := by
  simp only [channelFloors, Sorting.mem_sortBy, List.mem_filterMap, Table.valuesWhere,
    List.mem_filter, beq_iff_eq, resolveFloor, Option.map_eq_some_iff]
  constructor
  · rintro ⟨floor, ⟨member, own⟩, package, found, rfl⟩
    exact ⟨floor, member, own, found, rfl⟩
  · rintro ⟨floor, member, own, found, reason⟩
    exact ⟨floor, ⟨member, own⟩, resolved.package, found, by rw [reason]⟩

theorem servableVersion_eq_some_iff {floor : FloorPackage} {version : Version} :
    servableVersion? channelId floor = some version ↔
      floor.package.isBlacklistedFor channelId = false ∧
        Version.parse? floor.package.version = some version := by
  unfold servableVersion?
  cases floor.package.isBlacklistedFor channelId <;> simp

theorem mem_floorsAhead {above upTo version : Version} {floor : FloorPackage} :
    (version, floor) ∈ store.floorsAhead channelId above upTo ↔
      floor ∈ store.channelFloors channelId ∧
        floor.package.isBlacklistedFor channelId = false ∧
        Version.parse? floor.package.version = some version ∧
        above.isBefore version = true ∧ upTo.isBefore version = false := by
  simp only [floorsAhead, Sorting.mem_sortBy, List.mem_filter, List.mem_filterMap,
    Option.map_eq_some_iff, Prod.mk.injEq, Bool.and_eq_true, Bool.not_eq_true']
  constructor
  · rintro ⟨⟨_, member, _, servable, rfl, rfl⟩, range⟩
    obtain ⟨permitted, reads⟩ := servableVersion_eq_some_iff.mp servable
    exact ⟨member, permitted, reads, range⟩
  · rintro ⟨member, permitted, reads, range⟩
    exact ⟨⟨floor, member, version, servableVersion_eq_some_iff.mpr ⟨permitted, reads⟩, rfl, rfl⟩,
      range⟩

theorem floorsAhead_ascending (store : Store) (channelId : String) (above upTo : Version) :
    (store.floorsAhead channelId above upTo).Pairwise fun earlier later =>
      later.1.isBefore earlier.1 = false := by
  have ranked (left right : Version × FloorPackage) :
      (left.1.comparison right.1 != .gt) = true ↔ left.1.rank ≤ right.1.rank :=
    Version.comparison_ne_gt_iff left.1 right.1
  unfold floorsAhead
  exact (Sorting.sortBy_ranked ranked _).imp (Version.not_isBefore_iff_rank _ _).mpr

end Store

variable {store : Store} {channel : Channel} {version : String} {cap : Nat}
  {required : RequiredFloors}

/-- What the cap leaves of the floors ahead. -/
def RequiredFloors.ofAhead (cap : Nat) (ahead : List (Version × FloorPackage)) : RequiredFloors :=
  { floors := (ahead.take (max cap 1)).map (·.2)
    hasMore := max cap 1 < ahead.length }

-- The scan sees one floor more than it returns.
theorem RequiredFloors.ofAhead_eq (cap : Nat) (ahead : List (Version × FloorPackage)) :
    (let most := max cap 1
     let found := (ahead.take (most + 1)).map (·.2)
     ({ floors := found.take most, hasMore := most < found.length } : RequiredFloors)) =
      .ofAhead cap ahead := by
  simp only [ofAhead, ← List.map_take, List.take_take, List.length_map, List.length_take,
    RequiredFloors.mk.injEq, decide_eq_decide]
  constructor
  · rw [Nat.min_eq_left (Nat.le_succ _)]
  · omega

theorem requiredFloors_eq {targetId : String} {target : Package} {above upTo : Version}
    (targeted : channel.packageId = some targetId)
    (found : store.packages.get? targetId = some target)
    (reads : Version.parse? version = some above)
    (targetReads : Version.parse? target.version = some upTo) (cap : Nat) :
    requiredFloors store channel version cap =
      if cap < Text.wordSize - 1 then
        .ok (.ofAhead cap (store.floorsAhead channel.id above upTo))
      else .error .overflow := by
  have wide : 2 < Text.wordSize := by decide
  simp only [requiredFloors, targeted, reads, found, targetReads]
  rcases lt_or_ge cap (Text.wordSize - 1) with bounded | beyond
  · rw [if_pos bounded, ← RequiredFloors.ofAhead_eq, Word.add?_eq_some (by omega)]
    rfl
  · rw [if_neg beyond.not_gt, Word.add?_eq_none (by omega)]

theorem requiredFloors_ok (resolved : requiredFloors store channel version cap = .ok required) :
    ∃ targetId target above upTo, channel.packageId = some targetId ∧
      store.packages.get? targetId = some target ∧ Version.parse? version = some above ∧
      Version.parse? target.version = some upTo ∧ cap < Text.wordSize - 1 ∧
      required = .ofAhead cap (store.floorsAhead channel.id above upTo) := by
  have given := resolved
  unfold requiredFloors at resolved
  cases targeted : channel.packageId with
  | none => simp [targeted] at resolved
  | some targetId =>
    cases reads : Version.parse? version with
    | none => simp [targeted, reads] at resolved
    | some above =>
      cases found : store.packages.get? targetId with
      | none => simp [targeted, reads, found] at resolved
      | some target =>
        cases readsTarget : Version.parse? target.version with
        | none => simp [targeted, reads, found, readsTarget] at resolved
        | some upTo =>
          rw [requiredFloors_eq targeted found reads readsTarget] at given
          split at given
          next bounded =>
            exact ⟨targetId, target, above, upTo, rfl, found, rfl, readsTarget, bounded,
              (Except.ok.inj given).symm⟩
          next => cases given

theorem requiredFloors_more (resolved : requiredFloors store channel version cap = .ok required)
    (more : required.hasMore = true) : required.floors ≠ [] := by
  obtain ⟨_, _, above, upTo, _, _, _, _, -, rfl⟩ := requiredFloors_ok resolved
  simp only [RequiredFloors.ofAhead, decide_eq_true_eq] at more
  simp only [RequiredFloors.ofAhead, ne_eq, List.map_eq_nil_iff, List.take_eq_nil_iff, not_or]
  constructor
  · omega
  · intro none
    simp [none] at more

theorem requiredFloors_ahead (resolved : requiredFloors store channel version cap = .ok required)
    {floor : FloorPackage} (listed : floor ∈ required.floors) :
    ∃ targetId target above upTo own, channel.packageId = some targetId ∧
      store.packages.get? targetId = some target ∧ Version.parse? version = some above ∧
      Version.parse? target.version = some upTo ∧
      (own, floor) ∈ store.floorsAhead channel.id above upTo := by
  obtain ⟨targetId, target, above, upTo, targeted, found, reads, readsTarget, -, rfl⟩ :=
    requiredFloors_ok resolved
  obtain ⟨⟨own, _⟩, ahead, rfl⟩ := List.mem_map.mp listed
  exact ⟨targetId, target, above, upTo, own, targeted, found, reads, readsTarget,
    List.mem_of_mem_take ahead⟩

theorem requiredFloors_reads (resolved : requiredFloors store channel version cap = .ok required) :
    ∀ floor ∈ required.floors, (Version.parse? floor.package.version).isSome = true := by
  intro floor listed
  obtain ⟨_, _, _, _, _, -, -, -, -, ahead⟩ := requiredFloors_ahead resolved listed
  obtain ⟨-, -, reads, -⟩ := Store.mem_floorsAhead.mp ahead
  exact Option.isSome_of_eq_some reads

namespace UpdatePlan

-- The target is left out where more floors follow, or where the last floor is the target.
theorem entries_cases (target : Package) (required : RequiredFloors) :
    (make target required).entries = required.floors.map (floorDelivery target) ∧
      (required.hasMore = true ∨ required.floors ≠ []) ∨
    (make target required).entries =
        required.floors.map (floorDelivery target) ++ [targetDelivery target] ∧
      required.hasMore = false := by
  unfold make
  simp only
  split
  next leftOut =>
    refine .inl ⟨rfl, ?_⟩
    rcases Bool.or_eq_true_iff.mp leftOut with more | listed
    · exact .inl more
    · refine .inr fun none => ?_
      simp [none] at listed
  next complete =>
    refine .inr ⟨rfl, ?_⟩
    rw [Bool.not_eq_true, Bool.or_eq_false_iff] at complete
    exact complete.1

theorem entries_nonempty {target : Package} {required : RequiredFloors}
    (more : required.hasMore = true → required.floors ≠ []) :
    (make target required).entries ≠ [] := by
  rcases entries_cases target required with ⟨entries, reason⟩ | ⟨entries, -⟩
  · rw [entries]
    simpa using reason.elim more id
  · simp [entries]

theorem entries_deliverable (plan : UpdatePlan) (mode : DeliveryMode) :
    ∃ rest, plan.entries = plan.deliverable mode ++ rest := by
  cases mode with
  | single => exact ⟨plan.entries.drop 1, (List.take_append_drop 1 plan.entries).symm⟩
  | multi => exact ⟨[], (List.append_nil _).symm⟩

theorem finalPackage_cases {target package : Package} {mode : DeliveryMode}
    (delivered : (make target required).finalPackage? mode = some package) :
    package = target ∨ ∃ floor ∈ required.floors, floor.package = package := by
  obtain ⟨delivery, last, rfl⟩ := Option.map_eq_some_iff.mp delivered
  obtain ⟨rest, front⟩ := entries_deliverable (make target required) mode
  have planned : delivery ∈ (make target required).entries := by
    rw [front]
    exact List.mem_append_left rest (List.mem_of_getLast? last)
  have onTheWay (listed : delivery ∈ required.floors.map (floorDelivery target)) :
      ∃ floor ∈ required.floors, floor.package = delivery.package := by
    obtain ⟨floor, member, rfl⟩ := List.mem_map.mp listed
    exact ⟨floor, member, rfl⟩
  rcases entries_cases target required with ⟨entries, -⟩ | ⟨entries, -⟩
  · exact .inr (onTheWay (entries ▸ planned))
  · rw [entries, List.mem_append, List.mem_singleton] at planned
    rcases planned with listed | rfl
    · exact .inr (onTheWay listed)
    · exact .inl rfl

theorem finalPackage_reads {target package : Package} {mode : DeliveryMode}
    (resolved : requiredFloors store channel version cap = .ok required)
    (targetReads : (Version.parse? target.version).isSome = true)
    (delivered : (make target required).finalPackage? mode = some package) :
    (Version.parse? package.version).isSome = true := by
  rcases finalPackage_cases delivered with rfl | ⟨floor, listed, rfl⟩
  · exact targetReads
  · exact requiredFloors_reads resolved floor listed

theorem finalPackage_within {target package : Package} {targetId : String} {mode : DeliveryMode}
    (resolved : requiredFloors store channel version cap = .ok required)
    (targeted : channel.packageId = some targetId)
    (found : store.packages.get? targetId = some target)
    (delivered : (make target required).finalPackage? mode = some package) :
    Version.isOlder target.version package.version = false := by
  rcases finalPackage_cases delivered with rfl | ⟨floor, listed, rfl⟩
  · exact Version.isOlder_self _
  · obtain ⟨_, _, _, upTo, own, targetedToo, foundToo, -, readsTarget, ahead⟩ :=
      requiredFloors_ahead resolved listed
    obtain rfl := Option.some.inj (targeted.symm.trans targetedToo)
    obtain rfl := Option.some.inj (found.symm.trans foundToo)
    obtain ⟨-, -, reads, -, reached⟩ := Store.mem_floorsAhead.mp ahead
    exact (Version.isOlder_of_parse readsTarget reads).trans reached

theorem deliverable_nonempty {plan : UpdatePlan} (nonempty : plan.entries ≠ [])
    (mode : DeliveryMode) : plan.deliverable mode ≠ [] := by
  cases mode with
  | single => simpa [deliverable] using nonempty
  | multi => exact nonempty

theorem finalPackage_delivered
    (resolved : requiredFloors store channel version cap = .ok required) (target : Package)
    (mode : DeliveryMode) :
    ∃ package, (make target required).finalPackage? mode = some package := by
  have nonempty : (make target required).deliverable mode ≠ [] :=
    deliverable_nonempty (entries_nonempty (requiredFloors_more resolved)) mode
  exact ⟨(((make target required).deliverable mode).getLast nonempty).package, by
    rw [finalPackage?, List.getLast?_eq_some_getLast nonempty, Option.map_some]⟩

end UpdatePlan

end FleetRollout

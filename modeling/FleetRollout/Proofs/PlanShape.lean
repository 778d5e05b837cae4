import FleetRollout.Proofs.Idempotence

set_option autoImplicit false

/-!
The shape of a plan. No floor is planned twice, and the flag tells the target from the rest. The
target closes the plan, or is left out where more floors follow, unless it is a floor itself and
another floor comes after it. Only a floor that is level with the target can: floors go by version,
and those of one version in the order in which the store lists them.
-/

namespace FleetRollout

open Store FleetRollout.Action

/-- Nothing is planned twice; the target comes last, or is left out where more floors follow. -/
structure UpdatePlan.WellShaped (plan : UpdatePlan) (targetId : String) : Prop where
  distinct : (plan.entries.map (·.package.id)).Nodup
  closed : plan.hasMoreFloors = false → ∃ front last, plan.entries = front ++ [last] ∧
    last.package.id = targetId ∧ last.isTarget = true ∧
    ∀ delivery ∈ front, delivery.package.id ≠ targetId ∧ delivery.isTarget = false
  leftOut : plan.hasMoreFloors = true → ∀ delivery ∈ plan.entries, delivery.package.id ≠ targetId

-- The target is one of the floors, and another one comes after it, here or in a later plan.
def RequiredFloors.Overtakes (required : RequiredFloors) (targetId : String) : Prop :=
  ∃ front floor rest, required.floors = front ++ floor :: rest ∧ floor.package.id = targetId ∧
    (rest ≠ [] ∨ required.hasMore = true)

namespace Store

variable {store : Store}

theorem floors_distinct (keyed : store.Keyed) (channelId : String) :
    (store.floors.valuesWhere fun floor => floor.channelId == channelId).Pairwise
      fun earlier later => earlier.packageId ≠ later.packageId := by
  refine (keyed.floors.pairwise_values.filter _).imp_of_mem ?_
  intro earlier later first second before same
  have own : earlier.channelId = later.channelId :=
    (eq_of_beq (List.mem_filter.mp first).2).trans (eq_of_beq (List.mem_filter.mp second).2).symm
  rw [Floor.key, Floor.key, own, same] at before
  exact String.lt_irrefl _ before

theorem resolveFloor_id (keyed : store.Keyed) {floor : Floor} {resolved : FloorPackage}
    (found : store.resolveFloor floor = some resolved) : resolved.package.id = floor.packageId := by
  obtain ⟨package, stored, rfl⟩ := Option.map_eq_some_iff.mp found
  exact keyed.packages _ package stored

theorem channelFloors_distinct (keyed : store.Keyed) (channelId : String) :
    (store.channelFloors channelId).Pairwise fun earlier later =>
      earlier.package.id ≠ later.package.id := by
  unfold channelFloors
  rw [(Sorting.sortBy_perm _ _).pairwise_iff Ne.symm, List.pairwise_filterMap]
  refine (floors_distinct keyed channelId).imp ?_
  intro earlier later different first found second foundToo
  rwa [resolveFloor_id keyed found, resolveFloor_id keyed foundToo]

theorem floorsAhead_distinct (keyed : store.Keyed) (channelId : String) (above upTo : Version) :
    (store.floorsAhead channelId above upTo).Pairwise fun earlier later =>
      earlier.2.package.id ≠ later.2.package.id := by
  unfold floorsAhead
  rw [(Sorting.sortBy_perm _ _).pairwise_iff Ne.symm]
  refine List.Pairwise.filter _ (List.pairwise_filterMap.mpr ?_)
  refine (channelFloors_distinct keyed channelId).imp ?_
  intro earlier later different first found second foundToo
  obtain ⟨_, -, rfl⟩ := Option.map_eq_some_iff.mp found
  obtain ⟨_, -, rfl⟩ := Option.map_eq_some_iff.mp foundToo
  exact different

theorem floor_eq_target (keyed : store.Keyed) {channelId targetId : String} {floor : FloorPackage}
    {target : Package} (listed : floor ∈ store.channelFloors channelId)
    (found : store.packages.get? targetId = some target) (same : floor.package.id = target.id) :
    floor.package = target := by
  obtain ⟨_, -, -, stored, -⟩ := mem_channelFloors.mp listed
  rw [← keyed.packages _ _ stored, same, keyed.packages _ _ found, found] at stored
  exact (Option.some.inj stored).symm

end Store

section Required

variable {store : Store} {channel : Channel} {version : String} {cap : Nat}
  {required : RequiredFloors} {targetId : String} {target : Package}

theorem requiredFloors_distinct (keyed : store.Keyed)
    (resolved : requiredFloors store channel version cap = .ok required) :
    (required.floors.map (·.package.id)).Nodup := by
  obtain ⟨_, _, above, upTo, -, -, -, -, -, rfl⟩ := requiredFloors_ok resolved
  refine List.pairwise_map.mpr (List.pairwise_map.mpr ?_)
  exact (floorsAhead_distinct keyed channel.id above upTo).sublist (List.take_sublist _ _)

theorem RequiredFloors.Overtakes.next_ahead
    (resolved : requiredFloors store channel version cap = .ok required)
    (targeted : channel.packageId = some targetId)
    (found : store.packages.get? targetId = some target)
    (overtakes : required.Overtakes target.id) :
    ∃ above upTo front floor next rest, Version.parse? target.version = some upTo ∧
      store.floorsAhead channel.id above upTo = front ++ floor :: next :: rest ∧
      floor.2.package.id = target.id := by
  obtain ⟨_, _, above, upTo, targetedToo, foundToo, -, readsTarget, -, rfl⟩ :=
    requiredFloors_ok resolved
  obtain rfl := Option.some.inj (targeted.symm.trans targetedToo)
  obtain rfl := Option.some.inj (found.symm.trans foundToo)
  obtain ⟨front, floor, rest, floors, same, more⟩ := overtakes
  rw [RequiredFloors.ofAhead] at floors more
  generalize listing : store.floorsAhead channel.id above upTo = ahead at floors more
  -- What is cut off goes on behind what is listed.
  have whole : ahead.map (·.2) =
      front ++ floor :: (rest ++ (ahead.map (·.2)).drop (max cap 1)) := by
    rw [← List.cons_append, ← List.append_assoc, ← floors, List.map_take, List.take_append_drop]
  have onward : rest ++ (ahead.map (·.2)).drop (max cap 1) ≠ [] := by
    rcases more with listed | cut
    · exact List.append_ne_nil_of_left_ne_nil listed _
    · refine List.append_ne_nil_of_right_ne_nil _ (List.ne_nil_of_length_pos ?_)
      rw [List.length_drop, List.length_map]
      exact Nat.sub_pos_of_lt (of_decide_eq_true cut)
  obtain ⟨next, others, beyond⟩ := List.exists_cons_of_ne_nil onward
  rw [beyond] at whole
  obtain ⟨first, tail, rfl, -, tailFloors⟩ := List.map_eq_append_iff.mp whole
  obtain ⟨own, _, rfl, rfl, nextFloors⟩ := List.map_eq_cons_iff.mp tailFloors
  obtain ⟨after, _, rfl, -, -⟩ := List.map_eq_cons_iff.mp nextFloors
  exact ⟨above, upTo, first, own, after, _, readsTarget, listing, same⟩

-- Only a floor of the target's own version overtakes it.
theorem RequiredFloors.Overtakes.level (keyed : store.Keyed)
    (resolved : requiredFloors store channel version cap = .ok required)
    (targeted : channel.packageId = some targetId)
    (found : store.packages.get? targetId = some target)
    (overtakes : required.Overtakes target.id) :
    ∃ next ∈ store.channelFloors channel.id, next.package.id ≠ target.id ∧
      ∃ own upTo, Version.parse? next.package.version = some own ∧
        Version.parse? target.version = some upTo ∧ own.triple = upTo.triple := by
  obtain ⟨above, upTo, front, floor, next, rest, readsTarget, ahead, same⟩ :=
    overtakes.next_ahead resolved targeted found
  have ascending := store.floorsAhead_ascending channel.id above upTo
  have distinct := floorsAhead_distinct keyed channel.id above upTo
  rw [ahead] at ascending distinct
  have notBefore := List.pairwise_cons.mp (List.pairwise_append.mp ascending).2.1
  have different := List.pairwise_cons.mp (List.pairwise_append.mp distinct).2.1
  have members : floor ∈ store.floorsAhead channel.id above upTo ∧
      next ∈ store.floorsAhead channel.id above upTo := by simp [ahead]
  obtain ⟨listed, -, reads, -⟩ := mem_floorsAhead.mp members.1
  obtain ⟨listedToo, -, readsNext, -, within⟩ := mem_floorsAhead.mp members.2
  rw [floor_eq_target keyed listed found same, readsTarget, Option.some.injEq] at reads
  subst reads
  refine ⟨next.2, listedToo, ?_, next.1, floor.1, readsNext, readsTarget, ?_⟩
  · rw [← same]
    exact (different.1 next List.mem_cons_self).symm
  · exact Version.triple_eq_of_not_isBefore (notBefore.1 next List.mem_cons_self) within

end Required

namespace UpdatePlan

variable {target : Package} {required : RequiredFloors}

theorem flagged_iff {delivery : Delivery} (member : delivery ∈ (make target required).entries) :
    delivery.isTarget = true ↔ delivery.package.id = target.id := by
  have listed (inside : delivery ∈ required.floors.map (floorDelivery target)) :
      delivery.isTarget = true ↔ delivery.package.id = target.id := by
    obtain ⟨floor, -, rfl⟩ := List.mem_map.mp inside
    exact decide_eq_true_iff
  rcases entries_cases target required with ⟨entries, -⟩ | ⟨entries, -⟩
  · exact listed (entries ▸ member)
  · rw [entries, List.mem_append, List.mem_singleton] at member
    rcases member with inside | rfl
    · exact listed inside
    · exact iff_of_true rfl rfl

-- A floor that is the target and has others behind it is planned before the last entry.
theorem not_overtakes_of_wellShaped (shaped : (make target required).WellShaped target.id) :
    ¬ required.Overtakes target.id := by
  rintro ⟨front, floor, rest, floors, same, more⟩
  have entries := entries_cases target required
  rw [floors, List.map_append, List.map_cons] at entries
  cases hasMore : required.hasMore with
  | true =>
    refine shaped.leftOut hasMore (floorDelivery target floor) ?_ same
    rcases entries with ⟨listed, -⟩ | ⟨listed, -⟩ <;> simp [listed]
  | false =>
    have others : rest ≠ [] := more.resolve_right (by simp [hasMore])
    obtain ⟨earlier, last, ends, -, -, elsewhere⟩ := shaped.closed hasMore
    have early : floorDelivery target floor ∈ (make target required).entries.dropLast := by
      rcases entries with ⟨listed, -⟩ | ⟨listed, -⟩
      · rw [listed, List.dropLast_append_of_ne_nil (List.cons_ne_nil _ _),
          List.dropLast_cons_of_ne_nil (by simpa using others)]
        simp
      · rw [listed, List.dropLast_concat]
        simp
    rw [ends, List.dropLast_concat] at early
    exact (elsewhere _ early).1 same

theorem entries_of_unlisted
    (unlisted : ∀ delivery ∈ required.floors.map (floorDelivery target),
      delivery.isTarget = false) :
    (make target required).entries =
      if required.hasMore then required.floors.map (floorDelivery target)
      else required.floors.map (floorDelivery target) ++ [targetDelivery target] := by
  have isListed : (required.floors.map (floorDelivery target)).getLast?.any (·.isTarget) =
      false := by
    cases last : (required.floors.map (floorDelivery target)).getLast? with
    | none => rfl
    | some delivery => exact unlisted delivery (List.mem_of_getLast? last)
  simp only [make, isListed, Bool.or_false]

theorem map_floorDelivery (target : Package) (floors : List FloorPackage) :
    (floors.map (floorDelivery target)).map (·.package.id) = floors.map (·.package.id) := by
  rw [List.map_map]
  rfl

theorem wellShaped_of_last (distinct : (required.floors.map (·.package.id)).Nodup)
    (noMore : required.hasMore = false) {front : List FloorPackage} {floor : FloorPackage}
    (floors : required.floors = front ++ [floor]) (same : floor.package.id = target.id) :
    (make target required).WellShaped target.id := by
  have entries : (make target required).entries = required.floors.map (floorDelivery target) := by
    simp [make, floors, floorDelivery, same]
  have apart : ∀ earlier ∈ front, earlier.package.id ≠ target.id := by
    intro earlier inFront
    rw [floors, List.map_append, List.nodup_append] at distinct
    rw [← same]
    exact distinct.2.2 _ (List.mem_map_of_mem inFront) _ List.mem_cons_self
  constructor
  case distinct => rwa [entries, map_floorDelivery]
  case closed =>
    intro _
    refine ⟨front.map (floorDelivery target), floorDelivery target floor, ?_, same,
      decide_eq_true same, ?_⟩
    · rw [entries, floors, List.map_append, List.map_singleton]
    · intro delivery member
      obtain ⟨earlier, inFront, rfl⟩ := List.mem_map.mp member
      exact ⟨apart earlier inFront, decide_eq_false (apart earlier inFront)⟩
  case leftOut =>
    intro more
    exact absurd more (by simp [make, noMore])

theorem wellShaped_of_unlisted (distinct : (required.floors.map (·.package.id)).Nodup)
    (unlisted : ∀ floor ∈ required.floors, floor.package.id ≠ target.id) :
    (make target required).WellShaped target.id := by
  have apart : ∀ delivery ∈ required.floors.map (floorDelivery target),
      delivery.package.id ≠ target.id ∧ delivery.isTarget = false := by
    intro delivery member
    obtain ⟨floor, inside, rfl⟩ := List.mem_map.mp member
    exact ⟨unlisted floor inside, decide_eq_false (unlisted floor inside)⟩
  have entries := entries_of_unlisted fun delivery member => (apart delivery member).2
  have more : (make target required).hasMoreFloors = required.hasMore := rfl
  cases hasMore : required.hasMore with
  | true =>
    rw [hasMore, if_pos rfl] at entries
    exact
      { distinct := by rwa [entries, map_floorDelivery]
        closed := fun noMore => by simp [more, hasMore] at noMore
        leftOut := fun _ delivery member => (apart delivery (entries ▸ member)).1 }
  | false =>
    rw [hasMore, if_neg Bool.false_ne_true] at entries
    constructor
    case distinct =>
      rw [entries, List.map_append, map_floorDelivery, List.map_singleton,
        ← List.concat_eq_append, List.nodup_concat]
      refine ⟨fun inside => ?_, distinct⟩
      obtain ⟨floor, member, same⟩ := List.mem_map.mp inside
      exact unlisted floor member same
    case closed => exact fun _ => ⟨_, targetDelivery target, entries, rfl, rfl, apart⟩
    case leftOut => exact fun leaves => by simp [more, hasMore] at leaves

theorem wellShaped_iff (distinct : (required.floors.map (·.package.id)).Nodup) :
    (make target required).WellShaped target.id ↔ ¬ required.Overtakes target.id := by
  refine ⟨not_overtakes_of_wellShaped, fun clear => ?_⟩
  by_cases listed : ∃ floor ∈ required.floors, floor.package.id = target.id
  case pos =>
    obtain ⟨floor, member, same⟩ := listed
    obtain ⟨front, rest, floors⟩ := List.append_of_mem member
    obtain ⟨rfl, noMore⟩ : rest = [] ∧ required.hasMore = false := by
      by_contra onward
      refine clear ⟨front, floor, rest, floors, same, ?_⟩
      rw [not_and_or] at onward
      exact onward.imp_right (by simp)
    exact wellShaped_of_last distinct noMore floors same
  case neg =>
    exact wellShaped_of_unlisted distinct fun floor member same => listed ⟨floor, member, same⟩

/-- What is true of a plan that is made for a channel's target from the floors that are required. -/
structure Shape (store : Store) (channelId : String) (target : Package)
    (required : RequiredFloors) (plan : UpdatePlan) : Prop where
  floors : (required.floors.map (·.package.id)).Nodup
  flags : ∀ delivery ∈ plan.entries, delivery.isTarget = true ↔ delivery.package = target
  whole : plan.WellShaped target.id ↔ ¬ required.Overtakes target.id
  level : required.Overtakes target.id →
    ∃ next ∈ store.channelFloors channelId, next.package.id ≠ target.id ∧
      ∃ own upTo, Version.parse? next.package.version = some own ∧
        Version.parse? target.version = some upTo ∧ own.triple = upTo.triple

theorem shape_make {store : Store} (keyed : store.Keyed) {channel : Channel} {version : String}
    {cap : Nat} {targetId : String}
    (resolved : requiredFloors store channel version cap = .ok required)
    (targeted : channel.packageId = some targetId)
    (found : store.packages.get? targetId = some target) :
    Shape store channel.id target required (make target required) where
  floors := requiredFloors_distinct keyed resolved
  flags delivery member := by
    rw [flagged_iff member]
    refine ⟨fun same => ?_, fun same => by rw [same]⟩
    have ofFloor (inside : delivery ∈ required.floors.map (floorDelivery target)) :
        delivery.package = target := by
      obtain ⟨floor, required, rfl⟩ := List.mem_map.mp inside
      obtain ⟨_, _, _, _, _, -, -, -, -, ahead⟩ := requiredFloors_ahead resolved required
      exact floor_eq_target keyed (mem_floorsAhead.mp ahead).1 found same
    rcases entries_cases target required with ⟨entries, -⟩ | ⟨entries, -⟩
    · exact ofFloor (entries ▸ member)
    · rw [entries, List.mem_append, List.mem_singleton] at member
      rcases member with inside | rfl
      · exact ofFloor inside
      · rfl
  whole := wellShaped_iff (requiredFloors_distinct keyed resolved)
  level := fun overtakes => overtakes.level keyed resolved targeted found

end UpdatePlan

namespace UpdateRequest

variable {engine after : Engine}

/--
A plan that is handed out repeats no floor, and flags its target and nothing else. It is well shaped
exactly if no floor comes after the target as a floor, and only a floor of the target's own version
can come after it.
-/
theorem answer_shape (reached : Reachable engine) (request : UpdateRequest)
    {deliveries : List Delivery}
    (answered : request.answer.perform engine = (.ok (some deliveries), after)) :
    ∃ applicationId group current row plan channel target required,
      (request.operation.locator.perform engine).1 = .ok (applicationId, group) ∧
      request.HandsOut engine plan after ∧
      after.store.installation? request.instanceId applicationId = some row ∧
      after.store.groups.get? group.id = some current ∧
      CheckIn.Offered after.store current row channel target ∧
      requiredFloors after.store channel row.version after.config.maxFloorsPerResponse =
        .ok required ∧
      plan = UpdatePlan.make target required ∧
      plan.Shape after.store channel.id target required := by
  obtain ⟨applicationId, group, plan, row, located, handed, leaves⟩ :=
    answer_leaves reached request answered
  obtain ⟨current, channel, target, required, stored, offered, planned, rfl⟩ := leaves.offers
  obtain ⟨_, targetId, -, -, targeted, found⟩ :=
    CheckIn.groupTarget_eq_some_iff.mp offered.targeted
  exact ⟨applicationId, group, current, row, _, channel, target, required, located, handed,
    leaves.outstanding.found, stored, offered, planned, rfl,
    UpdatePlan.shape_make leaves.outstanding.keyed planned targeted found⟩

theorem handsOut_of_any {registration : Registration} {mode : DeliveryMode} {P : UpdatePlan → Bool}
    (holds : ((Engine.updatePlan registration mode).perform engine).1.toOption.any P = true) :
    ∃ handed after, (plan registration mode).HandsOut engine handed after ∧ P handed = true := by
  rcases planned : (Engine.updatePlan registration mode).perform engine with ⟨error | handed, after⟩
  · rw [planned] at holds
    cases holds
  · rw [planned] at holds
    exact ⟨handed, after, planned, holds⟩

theorem answer_shape_firstContact :
    let engine := Operation.runAll {} Operation.smallCatalog
    let request := plan .firstContact .multi
    Reachable engine ∧ ∃ handed after store channelId target required,
      request.HandsOut engine handed after ∧
      UpdatePlan.Shape store channelId target required handed ∧
      handed.entries.map (·.package.id) = ["bridge", "latest"] := by
  intro engine request
  have reached : Reachable engine := (ReachableBy.start {} rfl).runAll (by decide +kernel)
  have answered : (request.answer.perform engine).1 =
      .ok (some ((request.answer.perform engine).1.toOption.join.getD [])) := by decide +kernel
  obtain ⟨_, _, _, _, handed, channel, target, required, -, handsOut, -, -, -, -, -, shape⟩ :=
    answer_shape reached request (perform_of_answer answered)
  have entries : ((Engine.updatePlan .firstContact .multi).perform engine).1.toOption.map
      (fun plan => plan.entries.map (·.package.id)) = some ["bridge", "latest"] := by
    decide +kernel
  have planned : (Engine.updatePlan .firstContact .multi).perform engine = (.ok handed, _) :=
    handsOut
  rw [planned] at entries
  exact ⟨reached, handed, _, _, _, target, required, handsOut, shape, Option.some.inj entries⟩

-- A floor of the target's own version is listed behind the target, which is a floor too.
def levelFloors : List Operation :=
  Operation.smallCatalog ++
    [ .createPackage
        { id := some "twin", applicationId := "agent", version := "3.0.0", architecture := .amd64
          kind := .generic, url := "https://packages/twin" },
      .addFloor "stable" "latest" "new key",
      .addFloor "stable" "twin" "new key" ]

-- The plan that the host is handed first, for the target of its group, is not well shaped.
def HandsMisshapen (engine : Engine) (ids : List String) (more : Bool) : Prop :=
  Reachable engine ∧ (engine.store.channels.get? "stable").bind (·.packageId) = some "latest" ∧
    ∃ handed after, (plan .firstContact .multi).HandsOut engine handed after ∧
      handed.entries.map (·.package.id) = ids ∧ handed.hasMoreFloors = more ∧
      ¬ handed.WellShaped "latest"

theorem handsMisshapen_of {ids : List String} {more : Bool} (reached : Reachable engine)
    (targeted : (engine.store.channels.get? "stable").bind (·.packageId) = some "latest")
    (told : ((Engine.updatePlan .firstContact .multi).perform engine).1.toOption.any (fun plan =>
      decide (plan.entries.map (·.package.id) = ids ∧ plan.hasMoreFloors = more)) = true)
    (misshapen : ¬ ids.Nodup ∨ more = true ∧ "latest" ∈ ids) :
    HandsMisshapen engine ids more := by
  obtain ⟨handed, after, handsOut, told⟩ := handsOut_of_any told
  obtain ⟨rfl, rfl⟩ := of_decide_eq_true told
  refine ⟨reached, targeted, handed, after, handsOut, rfl, rfl, fun shaped => ?_⟩
  rcases misshapen with twice | ⟨more, listed⟩
  · exact twice shaped.distinct
  · obtain ⟨delivery, member, same⟩ := List.mem_map.mp listed
    exact shaped.leftOut more delivery member same

-- Whole, the plan comes to the target twice; cut short, it has the target among its floors.
theorem plan_overtaken_levelFloors :
    HandsMisshapen (Operation.runAll {} levelFloors) ["bridge", "latest", "twin", "latest"] false ∧
      HandsMisshapen (Operation.runAll { config := { maxFloorsPerResponse := 2 } } levelFloors)
        ["bridge", "latest"] true := by
  constructor
  · exact handsMisshapen_of ((ReachableBy.start {} rfl).runAll (by decide +kernel))
      (by decide +kernel) (by decide +kernel) (by decide)
  · exact handsMisshapen_of ((ReachableBy.start _ rfl).runAll (by decide +kernel))
      (by decide +kernel) (by decide +kernel) (by decide)

end UpdateRequest

end FleetRollout

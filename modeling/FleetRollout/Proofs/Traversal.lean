import FleetRollout.Proofs.Handout

set_option autoImplicit false

/-!
The way to a target in legs. One leg is what one answer hands out; it may stop short of the target,
and the next one starts where it stopped. Laid end to end they pass all floors on the way, and
each leg that stops short leaves fewer floors ahead.
-/

namespace FleetRollout

open Store

/-- A floor that can be served has this version, after the one and at most the other. -/
def Store.IsFloorBetween (store : Store) (channelId : String) (above upTo version : Version) :
    Prop :=
  ∃ floor ∈ store.floors.values, floor.channelId = channelId ∧
    ∃ package, store.packages.get? floor.packageId = some package ∧
      package.isBlacklistedFor channelId = false ∧
      Version.parse? package.version = some version ∧
      above.isBefore version = true ∧ upTo.isBefore version = false

def Delivery.triple? (delivery : Delivery) : Option Version.Triple :=
  (Version.parse? delivery.package.version).map Version.triple

/-- All that is delivered on the way from one version to another, target included. -/
structure Traversal (store : Store) (channelId : String) (above upTo : Version)
    (deliveries : List Delivery) : Prop where
  within : ∀ delivery ∈ deliveries, ∃ version,
    Version.parse? delivery.package.version = some version ∧
      above.isBefore version = true ∧ upTo.isBefore version = false
  ascending : deliveries.Pairwise fun earlier later =>
    Version.isOlder later.package.version earlier.package.version = false
  triples : ∀ triple, (∃ delivery ∈ deliveries, delivery.triple? = some triple) ↔
    triple = upTo.triple ∨
      ∃ version, store.IsFloorBetween channelId above upTo version ∧ version.triple = triple

-- What one answer hands out, up to the version it ends with.
structure Leg (store : Store) (channelId : String) (above upTo : Version)
    (deliveries : List Delivery) (reached : Version) : Prop
    extends SafeHandout store channelId above upTo deliveries where
  ends : ∃ last ∈ deliveries.getLast?, Version.parse? last.package.version = some reached
  stops : ∀ delivery ∈ deliveries, ∀ version,
    Version.parse? delivery.package.version = some version →
      version = upTo ∨ store.IsFloorBetween channelId above upTo version

namespace Store

variable {store : Store} {channelId : String} {above upTo version : Version}

theorem isFloorBetween_iff :
    store.IsFloorBetween channelId above upTo version ↔
      ∃ floor, (version, floor) ∈ store.floorsAhead channelId above upTo := by
  simp only [mem_floorsAhead, mem_channelFloors]
  constructor
  · rintro ⟨floor, stored, own, package, found, range⟩
    exact ⟨⟨package, floor.reason⟩, ⟨floor, stored, own, found, rfl⟩, range⟩
  · rintro ⟨resolved, ⟨floor, stored, own, found, -⟩, range⟩
    exact ⟨floor, stored, own, resolved.package, found, range⟩

theorem IsFloorBetween.range (between : store.IsFloorBetween channelId above upTo version) :
    above.isBefore version = true ∧ upTo.isBefore version = false := by
  obtain ⟨_, _, _, _, _, _, _, range⟩ := between
  exact range

theorem IsFloorBetween.from_later (between : store.IsFloorBetween channelId above upTo version)
    {start : Version} (later : start.isBefore version = true) :
    store.IsFloorBetween channelId start upTo version := by
  obtain ⟨floor, stored, own, package, found, permitted, reads, -, reached⟩ := between
  exact ⟨floor, stored, own, package, found, permitted, reads, later, reached⟩

end Store

variable {store : Store} {channelId : String} {above upTo reached : Version}
  {deliveries others : List Delivery}

namespace Leg

theorem range (leg : Leg store channelId above upTo deliveries reached) :
    above.isBefore reached = true ∧ upTo.isBefore reached = false := by
  obtain ⟨last, isLast, reads⟩ := leg.ends
  obtain ⟨version, parsed, range⟩ := leg.within last (List.mem_of_mem_getLast? isLast)
  obtain rfl : version = reached := Option.some.inj (parsed.symm.trans reads)
  exact range

theorem not_beyond (leg : Leg store channelId above upTo deliveries reached) {delivery : Delivery}
    (member : delivery ∈ deliveries) {version : Version}
    (parsed : Version.parse? delivery.package.version = some version) :
    reached.isBefore version = false := by
  obtain ⟨last, isLast, reads⟩ := leg.ends
  obtain ⟨front, rfl⟩ := List.getLast?_eq_some_iff.mp isLast
  rcases List.mem_append.mp member with earlier | same
  · have notOlder := (List.pairwise_append.mp leg.ascending).2.2 delivery earlier last (by simp)
    rwa [Version.isOlder_of_parse reads parsed] at notOlder
  · obtain rfl := List.mem_singleton.mp same
    obtain rfl : version = reached := Option.some.inj (parsed.symm.trans reads)
    exact Version.not_isBefore_self version

-- No floor up to where the leg ends is passed by, but for one that is level with another.
theorem passes (leg : Leg store channelId above upTo deliveries reached) {version : Version}
    (between : store.IsFloorBetween channelId above upTo version)
    (notAfter : reached.isBefore version = false) :
    ∃ delivery ∈ deliveries, delivery.triple? = some version.triple := by
  obtain ⟨last, isLast, reads⟩ := leg.ends
  cases before : version.isBefore reached with
  | true =>
    obtain ⟨floor, stored, own, package, found, permitted, parsed, past, within⟩ := between
    have older : Version.isOlder package.version last.package.version = true := by
      rwa [Version.isOlder_of_parse parsed reads]
    obtain ⟨delivery, member, rfl, -⟩ := leg.passed last isLast floor stored own package version
      found permitted parsed past within older
    exact ⟨delivery, member, by rw [Delivery.triple?, parsed, Option.map_some]⟩
  | false =>
    -- The floor may be a second one level with the end, which itself is not delivered.
    refine ⟨last, List.mem_of_mem_getLast? isLast, ?_⟩
    rw [Delivery.triple?, reads, Option.map_some,
      Version.triple_eq_of_not_isBefore notAfter before]

theorem traversal (leg : Leg store channelId above upTo deliveries reached)
    (arrived : reached.isBefore upTo = false) :
    Traversal store channelId above upTo deliveries where
  within := leg.within
  ascending := leg.ascending
  triples triple := by
    have level : reached.triple = upTo.triple :=
      Version.triple_eq_of_not_isBefore arrived leg.range.2
    constructor
    · rintro ⟨delivery, member, same⟩
      obtain ⟨version, parsed, rfl⟩ := Option.map_eq_some_iff.mp same
      rcases leg.stops delivery member version parsed with rfl | between
      · exact .inl rfl
      · exact .inr ⟨version, between, rfl⟩
    · rintro (rfl | ⟨version, between, rfl⟩)
      · obtain ⟨last, isLast, reads⟩ := leg.ends
        refine ⟨last, List.mem_of_mem_getLast? isLast, ?_⟩
        rw [Delivery.triple?, reads, Option.map_some, level]
      · refine leg.passes between ?_
        rw [(Version.isBefore_congr level version).1]
        exact between.range.2

-- A leg that stops short of the target is followed by the way from where it stopped.
theorem append (leg : Leg store channelId above upTo deliveries reached)
    (short : reached.isBefore upTo = true)
    (rest : Traversal store channelId reached upTo others) :
    Traversal store channelId above upTo (deliveries ++ others) where
  within := by
    intro delivery member
    rcases List.mem_append.mp member with first | later
    · exact leg.within delivery first
    · obtain ⟨version, parsed, past, within⟩ := rest.within delivery later
      exact ⟨version, parsed, Version.isBefore_trans leg.range.1 past, within⟩
  ascending := by
    -- The leg delivers nothing beyond its end, and the rest nothing up to there.
    refine List.pairwise_append.mpr ⟨leg.ascending, rest.ascending, ?_⟩
    intro earlier first later second
    obtain ⟨version, parsed, -⟩ := leg.within earlier first
    obtain ⟨beyond, reads, past, -⟩ := rest.within later second
    rw [Version.isOlder_of_parse reads parsed]
    exact Version.not_isBefore_of_isBefore
      (Version.isBefore_of_not_of_isBefore (leg.not_beyond first parsed) past)
  triples triple := by
    constructor
    · rintro ⟨delivery, member, same⟩
      rcases List.mem_append.mp member with first | later
      · obtain ⟨version, parsed, rfl⟩ := Option.map_eq_some_iff.mp same
        rcases leg.stops delivery first version parsed with rfl | between
        · exact .inl rfl
        · exact .inr ⟨version, between, rfl⟩
      · rcases (rest.triples triple).mp ⟨delivery, later, same⟩ with
          target | ⟨version, between, same⟩
        · exact .inl target
        · have past := Version.isBefore_trans leg.range.1 between.range.1
          exact .inr ⟨version, between.from_later past, same⟩
    · -- A floor is passed on this leg or lies beyond it, and so does the target.
      intro listed
      have beyond (further : triple = upTo.triple ∨ ∃ version,
          store.IsFloorBetween channelId reached upTo version ∧ version.triple = triple) :
          ∃ delivery ∈ deliveries ++ others, delivery.triple? = some triple := by
        obtain ⟨delivery, later, same⟩ := (rest.triples triple).mpr further
        exact ⟨delivery, List.mem_append_right _ later, same⟩
      rcases listed with target | ⟨version, between, rfl⟩
      · exact beyond (.inl target)
      · cases later : reached.isBefore version with
        | true => exact beyond (.inr ⟨version, between.from_later later, rfl⟩)
        | false =>
          obtain ⟨delivery, first, same⟩ := leg.passes between later
          exact ⟨delivery, List.mem_append_left _ first, same⟩

end Leg

theorem leg_of_plan {group : Group} {row : Installation} {channel : Channel} {target : Package}
    {cap : Nat} {required : RequiredFloors}
    (offered : CheckIn.Offered store group row channel target)
    (resolved : requiredFloors store channel row.version cap = .ok required)
    (reads : Version.parse? row.version = some above)
    (targetReads : Version.parse? target.version = some upTo) {mode : DeliveryMode}
    {package : Package}
    (final : (UpdatePlan.make target required).finalPackage? mode = some package) :
    ∃ reached, Version.parse? package.version = some reached ∧
      Leg store channel.id above upTo ((UpdatePlan.make target required).deliverable mode)
        reached := by
  obtain ⟨_, _, -, -, targeted, found⟩ := CheckIn.groupTarget_eq_some_iff.mp offered.targeted
  obtain ⟨_, _, readsRow, readsTarget, safe⟩ := safe_entries offered resolved
  obtain rfl := Option.some.inj (reads.symm.trans readsRow)
  obtain rfl := Option.some.inj (targetReads.symm.trans readsTarget)
  obtain ⟨rest, entries⟩ := (UpdatePlan.make target required).entries_deliverable mode
  obtain ⟨last, isLast, rfl⟩ := Option.map_eq_some_iff.mp final
  rw [entries] at safe
  have delivered := safe.of_prefix (List.ne_nil_of_mem (List.mem_of_getLast? isLast))
  obtain ⟨reached, parsed, -⟩ := delivered.within last (List.mem_of_getLast? isLast)
  refine ⟨reached, parsed, { delivered with ends := ⟨last, isLast, parsed⟩, stops := ?_ }⟩
  -- What is delivered is an entry of the plan, so it is one of its floors or the target.
  intro delivery member version same
  have planned : delivery ∈ (UpdatePlan.make target required).entries := by
    rw [entries]
    exact List.mem_append_left rest member
  have floorBetween (listed : delivery ∈ required.floors.map (UpdatePlan.floorDelivery target)) :
      store.IsFloorBetween channel.id above upTo version := by
    obtain ⟨floor, ahead, rfl⟩ := List.mem_map.mp listed
    obtain ⟨_, _, _, _, own, targets, known, readsRow, readsTarget, ahead⟩ :=
      requiredFloors_ahead resolved ahead
    obtain rfl := Option.some.inj (reads.symm.trans readsRow)
    obtain rfl := Option.some.inj (targeted.symm.trans targets)
    obtain rfl := Option.some.inj (found.symm.trans known)
    obtain rfl := Option.some.inj (targetReads.symm.trans readsTarget)
    obtain ⟨-, -, parsedFloor, -⟩ := Store.mem_floorsAhead.mp ahead
    obtain rfl := Option.some.inj (same.symm.trans parsedFloor)
    exact Store.isFloorBetween_iff.mpr ⟨floor, ahead⟩
  rcases UpdatePlan.entries_cases target required with ⟨listed, -⟩ | ⟨listed, -⟩
  · rw [listed] at planned
    exact .inr (floorBetween planned)
  · rw [listed, List.mem_append, List.mem_singleton] at planned
    rcases planned with floor | rfl
    · exact .inr (floorBetween floor)
    · exact .inl (Option.some.inj (same.symm.trans targetReads))

namespace Store

variable {store : Store} {channelId : String} {above upTo start : Version}

theorem floorsAhead_congr {after : Store} (same : SameCatalog store after) :
    after.floorsAhead channelId above upTo = store.floorsAhead channelId above upTo := by
  rw [floorsAhead, CheckIn.channelFloors_congr same, floorsAhead]

theorem floorsAhead_perm (past : above.isBefore start = true) :
    (store.floorsAhead channelId start upTo).Perm
      ((store.floorsAhead channelId above upTo).filter fun candidate =>
        start.isBefore candidate.1) := by
  unfold floorsAhead
  refine (Sorting.sortBy_perm _ _).trans
    (.trans (.of_eq ?_) ((Sorting.sortBy_perm _ _).filter _).symm)
  rw [List.filter_filter]
  refine List.filter_congr fun candidate _ => ?_
  cases later : start.isBefore candidate.1 with
  | false => rfl
  | true => rw [Version.isBefore_trans past later, Bool.true_and, Bool.true_and]

theorem floorsAhead_length_lt (floor : store.IsFloorBetween channelId above upTo start) :
    (store.floorsAhead channelId start upTo).length <
      (store.floorsAhead channelId above upTo).length := by
  obtain ⟨resolved, listed⟩ := isFloorBetween_iff.mp floor
  rw [(floorsAhead_perm floor.range.1).length_eq, List.length_filter_lt_length_iff_exists]
  exact ⟨(start, resolved), listed, by simp [Version.not_isBefore_self]⟩

end Store

theorem Traversal.of_sameCatalog {after : Store} (same : SameCatalog store after)
    (traversal : Traversal after channelId above upTo deliveries) :
    Traversal store channelId above upTo deliveries where
  within := traversal.within
  ascending := traversal.ascending
  triples triple := by
    simpa only [Store.isFloorBetween_iff, Store.floorsAhead_congr same] using
      traversal.triples triple

theorem Leg.closer (leg : Leg store channelId above upTo deliveries reached)
    (short : reached.isBefore upTo = true) :
    (store.floorsAhead channelId reached upTo).length <
      (store.floorsAhead channelId above upTo).length := by
  obtain ⟨last, isLast, reads⟩ := leg.ends
  rcases leg.stops last (List.mem_of_mem_getLast? isLast) reached reads with rfl | floor
  · rw [Version.not_isBefore_self] at short
    cases short
  · exact store.floorsAhead_length_lt floor

end FleetRollout

import FleetRollout.Proofs.Operation
import FleetRollout.Proofs.Spared

set_option autoImplicit false

/-!
What is handed out is safe to install in that order: every package is one the instance is behind
and the channel permits, versions never fall, and no floor below the last package is left out.
-/

namespace FleetRollout

open Store FleetRollout.Action

/-- Packages for an instance at one version, on its way along a channel to another version. -/
structure SafeHandout (store : Store) (channelId : String) (above upTo : Version)
    (deliveries : List Delivery) : Prop where
  nonempty : deliveries ≠ []
  within : ∀ delivery ∈ deliveries, ∃ version,
    Version.parse? delivery.package.version = some version ∧
      above.isBefore version = true ∧ upTo.isBefore version = false
  ascending : deliveries.Pairwise fun earlier later =>
    Version.isOlder later.package.version earlier.package.version = false
  permitted : ∀ delivery ∈ deliveries, delivery.package.isBlacklistedFor channelId = false
  passed : ∀ last ∈ deliveries.getLast?, ∀ floor ∈ store.floors.values,
    floor.channelId = channelId → ∀ package version,
      store.packages.get? floor.packageId = some package →
      package.isBlacklistedFor channelId = false →
      Version.parse? package.version = some version →
      above.isBefore version = true → upTo.isBefore version = false →
      Version.isOlder package.version last.package.version = true →
      ∃ delivery ∈ deliveries, delivery.package = package ∧ delivery.isFloor = true ∧
        delivery.floorReason = some floor.reason

namespace SafeHandout

variable {store : Store} {channelId : String} {above upTo : Version}

theorem of_prefix {front rest : List Delivery}
    (safe : SafeHandout store channelId above upTo (front ++ rest)) (nonempty : front ≠ []) :
    SafeHandout store channelId above upTo front where
  nonempty := nonempty
  within delivery member := safe.within delivery (List.mem_append_left rest member)
  ascending := (List.pairwise_append.mp safe.ascending).1
  permitted delivery member := safe.permitted delivery (List.mem_append_left rest member)
  passed := by
    intro last isLast floor stored own package version found permitted reads behind reached older
    have across := (List.pairwise_append.mp safe.ascending).2.2
    have lastMember : last ∈ front := List.mem_of_mem_getLast? isLast
    -- The whole handout ends no earlier than its first packages do.
    obtain ⟨final, isFinal, beyond⟩ : ∃ final ∈ (front ++ rest).getLast?,
        Version.isOlder package.version final.package.version = true := by
      cases ends : rest.getLast? with
      | none => exact ⟨last, by simpa [List.getLast?_append, ends] using isLast, older⟩
      | some final =>
        have member : final ∈ rest := List.mem_of_getLast? ends
        obtain ⟨finalVersion, finalReads, -⟩ :=
          safe.within final (List.mem_append_right front member)
        exact ⟨final, by simp [List.getLast?_append, ends],
          Version.isOlder_of_isOlder_of_not older finalReads (across last lastMember final member)⟩
    obtain ⟨delivery, member, rfl, isFloor, reason⟩ := safe.passed final isFinal floor stored own
      package version found permitted reads behind reached beyond
    rcases List.mem_append.mp member with inside | outside
    · exact ⟨delivery, inside, rfl, isFloor, reason⟩
    · have notOlder := across last lastMember delivery outside
      rw [older] at notOlder
      contradiction

end SafeHandout

section Floors

variable {store : Store} {channelId : String} {above upTo : Version} {target : Package}

def listedFloors (store : Store) (channelId : String) (above upTo : Version) (target : Package)
    (most : Nat) : List Delivery :=
  ((store.floorsAhead channelId above upTo).take most).map fun floor =>
    UpdatePlan.floorDelivery target floor.2

theorem ahead_of_floor {floor : Floor} {package : Package} {version : Version}
    (stored : floor ∈ store.floors.values) (own : floor.channelId = channelId)
    (found : store.packages.get? floor.packageId = some package)
    (permitted : package.isBlacklistedFor channelId = false)
    (reads : Version.parse? package.version = some version)
    (past : above.isBefore version = true) (reached : upTo.isBefore version = false) :
    (version, { package, reason := floor.reason }) ∈ store.floorsAhead channelId above upTo :=
  mem_floorsAhead.mpr
    ⟨mem_channelFloors.mpr ⟨floor, stored, own, found, rfl⟩, permitted, reads, past, reached⟩

variable {most : Nat}

theorem mem_listedFloors {delivery : Delivery}
    (member : delivery ∈ listedFloors store channelId above upTo target most) :
    ∃ version, Version.parse? delivery.package.version = some version ∧
      above.isBefore version = true ∧ upTo.isBefore version = false ∧
      delivery.package.isBlacklistedFor channelId = false := by
  obtain ⟨⟨version, floor⟩, listed, rfl⟩ := List.mem_map.mp member
  obtain ⟨-, permitted, reads, range⟩ := mem_floorsAhead.mp (List.mem_of_mem_take listed)
  exact ⟨version, reads, range.1, range.2, permitted⟩

theorem listedFloors_ascending (store : Store) (channelId : String) (above upTo : Version)
    (target : Package) (most : Nat) :
    (listedFloors store channelId above upTo target most).Pairwise fun earlier later =>
      Version.isOlder later.package.version earlier.package.version = false := by
  refine List.pairwise_map.mpr ?_
  have sorted : ((store.floorsAhead channelId above upTo).take most).Pairwise fun earlier later =>
      later.1.isBefore earlier.1 = false :=
    (floorsAhead_ascending store channelId above upTo).sublist (List.take_sublist _ _)
  refine sorted.imp_of_mem fun {earlier later} first second notBefore => ?_
  obtain ⟨-, -, earlierReads, -⟩ := mem_floorsAhead.mp (List.mem_of_mem_take first)
  obtain ⟨-, -, laterReads, -⟩ := mem_floorsAhead.mp (List.mem_of_mem_take second)
  simpa only [UpdatePlan.floorDelivery, Version.isOlder_of_parse laterReads earlierReads]
    using notBefore

theorem listed_or_beyond {floor : Version × FloorPackage}
    (ahead : floor ∈ store.floorsAhead channelId above upTo) (target : Package) (most : Nat) :
    UpdatePlan.floorDelivery target floor.2 ∈
        listedFloors store channelId above upTo target most ∨
      most < (store.floorsAhead channelId above upTo).length ∧
      ∀ delivery ∈ listedFloors store channelId above upTo target most,
        Version.isOlder floor.2.package.version delivery.package.version = false := by
  obtain ⟨-, -, reads, -⟩ := mem_floorsAhead.mp ahead
  have sorted := floorsAhead_ascending store channelId above upTo
  rw [← List.take_append_drop most (store.floorsAhead channelId above upTo)] at ahead sorted
  rcases List.mem_append.mp ahead with first | rest
  · exact .inl (List.mem_map_of_mem first)
  · refine .inr ⟨?_, ?_⟩
    · have remains := List.length_pos_of_mem rest
      rw [List.length_drop] at remains
      omega
    · intro delivery member
      obtain ⟨earlier, listed, rfl⟩ := List.mem_map.mp member
      obtain ⟨-, -, earlierReads, -⟩ := mem_floorsAhead.mp (List.mem_of_mem_take listed)
      have notBefore := (List.pairwise_append.mp sorted).2.2 earlier listed floor rest
      simpa only [UpdatePlan.floorDelivery, Version.isOlder_of_parse reads earlierReads]
        using notBefore

theorem safe_listed (nonempty : listedFloors store channelId above upTo target most ≠ []) :
    SafeHandout store channelId above upTo
      (listedFloors store channelId above upTo target most) where
  nonempty := nonempty
  within delivery member := by
    obtain ⟨version, parsed, past, reached, -⟩ := mem_listedFloors member
    exact ⟨version, parsed, past, reached⟩
  ascending := listedFloors_ascending _ _ _ _ _ _
  permitted delivery member := by
    obtain ⟨_, _, _, _, permitted⟩ := mem_listedFloors member
    exact permitted
  passed := by
    intro last isLast floor member own package version known permitted parsed past reached older
    have ahead := ahead_of_floor member own known permitted parsed past reached
    -- A floor that is cut off is not older than the last one listed.
    rcases listed_or_beyond ahead target most with inside | ⟨-, beyond⟩
    · exact ⟨_, inside, rfl, rfl, rfl⟩
    · have notOlder := beyond last (List.mem_of_mem_getLast? isLast)
      rw [older] at notOlder
      contradiction

theorem safe_listed_target (reads : Version.parse? target.version = some upTo)
    (behind : above.isBefore upTo = true) (mayGo : target.isBlacklistedFor channelId = false)
    (noMore : ¬ most < (store.floorsAhead channelId above upTo).length) :
    SafeHandout store channelId above upTo
      (listedFloors store channelId above upTo target most ++
        [UpdatePlan.targetDelivery target]) where
  nonempty := by simp
  within delivery member := by
    rcases List.mem_append.mp member with inside | isTarget
    · obtain ⟨version, parsed, past, reached, -⟩ := mem_listedFloors inside
      exact ⟨version, parsed, past, reached⟩
    · obtain rfl := List.mem_singleton.mp isTarget
      exact ⟨upTo, reads, behind, Version.not_isBefore_self upTo⟩
  ascending := by
    refine List.pairwise_append.mpr ⟨listedFloors_ascending _ _ _ _ _ _,
      List.pairwise_singleton _ _, ?_⟩
    intro earlier inside later isTarget
    obtain rfl := List.mem_singleton.mp isTarget
    obtain ⟨version, parsed, -, reached, -⟩ := mem_listedFloors inside
    exact (Version.isOlder_of_parse reads parsed).trans reached
  permitted delivery member := by
    rcases List.mem_append.mp member with inside | isTarget
    · obtain ⟨_, _, _, _, permitted⟩ := mem_listedFloors inside
      exact permitted
    · obtain rfl := List.mem_singleton.mp isTarget
      exact mayGo
  passed := by
    intro last isLast floor member own package version known permitted parsed past reached older
    have ahead := ahead_of_floor member own known permitted parsed past reached
    rcases listed_or_beyond ahead target most with inside | ⟨more, -⟩
    · exact ⟨_, List.mem_append_left _ inside, rfl, rfl, rfl⟩
    · exact absurd more noMore

end Floors

theorem safe_entries {store : Store} {group : Group} {row : Installation} {channel : Channel}
    {target : Package} {cap : Nat} {required : RequiredFloors}
    (offered : CheckIn.Offered store group row channel target)
    (resolved : requiredFloors store channel row.version cap = .ok required) :
    ∃ above upTo, Version.parse? row.version = some above ∧
      Version.parse? target.version = some upTo ∧
      SafeHandout store channel.id above upTo (UpdatePlan.make target required).entries := by
  have more := requiredFloors_more resolved
  obtain ⟨targetId, stored, above, upTo, targeted, found, reads, readsTarget, -, rfl⟩ :=
    requiredFloors_ok resolved
  obtain ⟨_, _, -, -, own, known⟩ := CheckIn.groupTarget_eq_some_iff.mp offered.targeted
  obtain rfl : targetId = _ := Option.some.inj (targeted.symm.trans own)
  obtain rfl : stored = target := Option.some.inj (found.symm.trans known)
  have behind : above.isBefore upTo = true := by
    rw [← Version.isOlder_of_parse reads readsTarget]
    exact offered.behind
  have listed : (RequiredFloors.ofAhead cap (store.floorsAhead channel.id above upTo)).floors.map
      (UpdatePlan.floorDelivery stored) =
      listedFloors store channel.id above upTo stored (max cap 1) := List.map_map
  refine ⟨above, upTo, reads, readsTarget, ?_⟩
  have nonempty : (UpdatePlan.make stored
      (.ofAhead cap (store.floorsAhead channel.id above upTo))).entries ≠ [] :=
    UpdatePlan.entries_nonempty more
  rcases UpdatePlan.entries_cases stored _ with ⟨entries, -⟩ | ⟨entries, noMore⟩
  · rw [entries, listed] at nonempty ⊢
    exact safe_listed nonempty
  · rw [RequiredFloors.ofAhead, decide_eq_false_iff_not] at noMore
    rw [entries, listed]
    exact safe_listed_target readsTarget behind offered.permitted noMore

namespace UpdateRequest

variable {engine : Engine}

theorem spares_answer (request : UpdateRequest) : Spares .emptyPlan request.answer := by
  cases request with
  | plan request mode =>
    exact spares_bind (Engine.spares_updatePlan request mode) fun _ => spares_pure _
  | checkIn request =>
    refine spares_bind (Engine.spares_checkIn request) fun response => ?_
    cases response.update <;> exact spares_pure _

/--
Whoever is handed an update is handed at least one package, each of them newer than what it runs,
and no floor on the way is left out: neither by the cap, nor by the mode, nor on a repeated answer.
-/
theorem answer_safe (request : UpdateRequest) :
    (request.answer.perform engine).1 ≠ .error .emptyPlan ∧
    (∀ registration,
      ((Engine.updatePackage? registration).perform engine).1 ≠ .error .emptyPlan) ∧
    ∀ deliveries, (request.answer.perform engine).1 = .ok (some deliveries) →
      ∃ applicationId group row decided channel target above upTo,
        request.Arrived engine applicationId group row decided ∧
        CheckIn.Offered decided.store group row channel target ∧
        Version.parse? row.version = some above ∧ Version.parse? target.version = some upTo ∧
        SafeHandout decided.store channel.id above upTo deliveries ∧
        ∀ delivery ∈ deliveries,
          Version.isOlder request.version delivery.package.version = true := by
  refine ⟨spares_answer request engine, fun _ => Engine.spares_updatePackage _ engine,
    fun deliveries answered => ?_⟩
  rcases request.settled engine with
    ⟨-, unanswered⟩ | ⟨applicationId, group, row, decided, arrived, -, planned⟩
  · exact absurd answered (unanswered deliveries)
  · obtain ⟨plan, made, rfl⟩ := planned deliveries answered
    obtain ⟨stored, channel, target, required, found, offered, resolved, rfl⟩ :=
      CheckIn.decide_ok (Prod.ext made rfl)
    obtain rfl : row = stored := Option.some.inj (arrived.found.symm.trans found)
    obtain ⟨above, upTo, reads, readsTarget, safe⟩ := safe_entries offered resolved
    obtain ⟨rest, entries⟩ := (UpdatePlan.make target required).entries_deliverable request.mode
    have nonempty := UpdatePlan.deliverable_nonempty safe.nonempty request.mode
    rw [entries] at safe
    have delivered := safe.of_prefix nonempty
    refine ⟨applicationId, group, row, decided, channel, target, above, upTo, arrived, offered,
      reads, readsTarget, delivered, fun delivery member => ?_⟩
    obtain ⟨version, parsed, past, -⟩ := delivered.within delivery member
    obtain ⟨_, reported, readsRow, readsReported, notBefore⟩ := arrived.atLeast
    obtain rfl := Option.some.inj (reads.symm.trans readsRow)
    rw [Version.isOlder_of_parse readsReported parsed]
    exact Version.isBefore_of_not_of_isBefore notBefore past

theorem answer_safe_firstContact :
    let engine := Operation.runAll {} Operation.smallCatalog
    let request := plan .firstContact .multi
    let deliveries := ((request.answer.perform engine).1.toOption.join).getD []
    (request.answer.perform engine).1 = .ok (some deliveries) ∧
      deliveries.map (·.package.id) = ["bridge", "latest"] ∧
      ∃ store channelId above upTo, SafeHandout store channelId above upTo deliveries := by
  intro engine request deliveries
  have answered : (request.answer.perform engine).1 = .ok (some deliveries) := by decide +kernel
  obtain ⟨_, _, _, decided, channel, _, above, upTo, -, -, -, -, safe, -⟩ :=
    (answer_safe request).2.2 deliveries answered
  exact ⟨answered, by decide +kernel, decided.store, channel.id, above, upTo, safe⟩

end UpdateRequest

end FleetRollout

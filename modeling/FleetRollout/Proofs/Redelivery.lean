import FleetRollout.Proofs.Change
import FleetRollout.Proofs.Handout

set_option autoImplicit false

/-!
What is on record of a grant against what is handed out. A fresh grant records what it delivers. A
repeated answer is planned anew and leaves the record alone, so it delivers what was granted only
as long as the plan has not changed: a new target, new floors, another version reported or another
mode make the two differ.
-/

namespace FleetRollout

open Store FleetRollout.Action

-- The package an answer ends with.
def RequiredFloors.stop (required : RequiredFloors) (target : Package) : DeliveryMode → Package
  | .single => (required.floors.head?.map (·.package)).getD target
  | .multi =>
      if required.hasMore then (required.floors.getLast?.map (·.package)).getD target else target

namespace UpdatePlan

theorem finalPackage_eq_stop {target : Package} {required : RequiredFloors}
    (more : required.hasMore = true → required.floors ≠ [])
    (own : ∀ floor ∈ required.floors, floor.package.id = target.id → floor.package = target)
    (mode : DeliveryMode) :
    (make target required).finalPackage? mode = some (required.stop target mode) := by
  obtain ⟨floors, hasMore⟩ := required
  cases mode with
  | single =>
    cases floors with
    | nil =>
      have complete : hasMore = false := Bool.eq_false_iff.mpr fun isMore => more isMore rfl
      simp [complete, make, finalPackage?, deliverable, targetDelivery, RequiredFloors.stop]
    | cons first rest =>
      have entries : ∃ others, (make target ⟨first :: rest, hasMore⟩).entries =
          floorDelivery target first :: others := by
        rcases entries_cases target ⟨first :: rest, hasMore⟩ with ⟨same, -⟩ | ⟨same, -⟩
        · exact ⟨_, same⟩
        · exact ⟨_, same⟩
      obtain ⟨others, same⟩ := entries
      simp [finalPackage?, deliverable, same, floorDelivery, RequiredFloors.stop]
  | multi =>
    cases hasMore with
    | true =>
      obtain ⟨last, ends⟩ := Option.isSome_iff_exists.mp
        (List.getLast?_isSome.mpr (more rfl))
      simp [make, finalPackage?, deliverable, RequiredFloors.stop, floorDelivery, ends]
    | false =>
      cases ends : floors.getLast? with
      | none => simp [make, finalPackage?, deliverable, targetDelivery, RequiredFloors.stop, ends]
      | some last =>
        by_cases same : last.package.id = target.id
        · have isTarget := own last (List.mem_of_getLast? ends) same
          simp [make, finalPackage?, deliverable, floorDelivery, RequiredFloors.stop, ends,
            isTarget]
        · simp [make, finalPackage?, deliverable, floorDelivery, targetDelivery,
            RequiredFloors.stop, ends, same]

end UpdatePlan

theorem requiredFloors_own {store : Store} (keyed : store.Keyed) {channel : Channel}
    {target : Package} {targetId version : String} {cap : Nat} {required : RequiredFloors}
    (found : store.packages.get? targetId = some target)
    (resolved : requiredFloors store channel version cap = .ok required) :
    ∀ floor ∈ required.floors, floor.package.id = target.id → floor.package = target := by
  intro floor listed same
  obtain ⟨_, _, _, _, _, -, -, -, -, ahead⟩ := requiredFloors_ahead resolved listed
  obtain ⟨member, -⟩ := mem_floorsAhead.mp ahead
  obtain ⟨stored, -, -, known, -⟩ := mem_channelFloors.mp member
  rw [← keyed.packages _ _ known, same, keyed.packages _ _ found, found] at known
  exact (Option.some.inj known).symm

namespace UpdateRequest

variable {engine after : Engine}

/--
A repeated answer changes nothing, so the record matches the answer exactly if it is what a fresh
grant would put on record now; after a fresh grant it always matches.
-/
theorem answer_on_record_iff (reached : Reachable engine) (request : UpdateRequest)
    {deliveries : List Delivery}
    (answered : request.answer.perform engine = (.ok (some deliveries), after)) :
    ∃ applicationId group row decided channel target required last stored,
      request.Arrived engine applicationId group row decided ∧
      CheckIn.Offered decided.store group row channel target ∧
      requiredFloors decided.store channel row.version decided.config.maxFloorsPerResponse =
        .ok required ∧
      deliveries.getLast? = some last ∧ last.package = required.stop target request.mode ∧
      after.store.installation? request.instanceId applicationId = some stored ∧
      (row.status = .updateGranted → after = decided) ∧
      (stored.grantedVersion = some last.package.version ∧
          stored.grantedTarget = some target.version ↔
        (row.status = .updateGranted →
          row.grantedVersion = some (required.stop target request.mode).version ∧
            row.grantedTarget = some target.version)) := by
  rcases request.settled engine with
    ⟨-, unanswered⟩ | ⟨applicationId, group, row, decided, arrived, state, planned⟩
  · exact absurd (by rw [answered]) (unanswered deliveries)
  have keyed := arrived.keyed reached.keyed
  have own := keyed.installations _ row arrived.found
  obtain ⟨plan, made, rfl⟩ := planned deliveries (by rw [answered])
  have decision : CheckIn.Decision decided.config decided.now group row request.mode decided.store
      (request.decision applicationId group decided).1
      (request.decision applicationId group decided).2 :=
    CheckIn.decide_cases decided.config decided.now applicationId group request.instanceId
      request.mode arrived.found own
  rw [answered] at state
  rw [made] at decision
  generalize (request.decision applicationId group decided).2 = store at decision state
  cases decision with
  | @redelivered channel target required offered pending resolved =>
    -- Nothing is written, so the record is the one that was found.
    obtain ⟨_, _, -, -, -, found⟩ := CheckIn.groupTarget_eq_some_iff.mp offered.targeted
    have ends := UpdatePlan.finalPackage_eq_stop (requiredFloors_more resolved)
      (requiredFloors_own keyed found resolved) request.mode
    obtain ⟨last, isLast, package⟩ := Option.map_eq_some_iff.mp ends
    refine ⟨applicationId, group, row, decided, channel, target, required, last, row, arrived,
      offered, resolved, isLast, package, ?_, fun _ => state, ?_⟩
    · have unchanged : after = decided := state
      rw [unchanged]
      exact arrived.found
    · rw [package]
      exact ⟨fun recorded _ => recorded, fun recorded => recorded pending⟩
  | @granted channel target delivered required _ _ offered idle _ resolved final noted same =>
    obtain rfl := same plan rfl
    obtain ⟨_, _, -, -, -, found⟩ := CheckIn.groupTarget_eq_some_iff.mp offered.targeted
    have ends := UpdatePlan.finalPackage_eq_stop (requiredFloors_more resolved)
      (requiredFloors_own keyed found resolved) request.mode
    obtain rfl := Option.some.inj (final.symm.trans ends)
    obtain ⟨last, isLast, package⟩ := Option.map_eq_some_iff.mp ends
    have fresh : row.status ≠ .updateGranted := by
      rintro pending
      rw [pending] at idle
      simp [Status.isInFlight] at idle
    refine ⟨applicationId, group, row, decided, channel, target, required, last,
      row.granted (row.grantOf (required.stop target request.mode).version target.version
        decided.now), arrived, offered, resolved, isLast, package, ?_,
      fun pending => absurd pending fresh, ?_⟩
    · have stored : after.store = store := congrArg Engine.store state
      rw [stored, Store.installation?, noted.fleet.installations, Store.rewriteRow,
        Table.get_insert, if_pos own]
    · rw [package]
      exact ⟨fun _ pending => absurd pending fresh, fun _ => ⟨rfl, rfl⟩⟩

def retargeting : List Operation :=
  [ .updatePlan .firstContact .multi,
    .createPackage
      { id := some "newest", applicationId := "agent", version := "4.0.0", architecture := .amd64
        kind := .generic, url := "https://packages/newest" },
    .updateChannel
      { id := "stable", name := "Stable", color := "", applicationId := "agent"
        architecture := .amd64, packageId := some "newest", createdAt := 0 } ]

theorem answer_on_record_firstContact :
    let engine := Operation.runAll {} Operation.smallCatalog
    let request := plan .firstContact .multi
    let deliveries := ((request.answer.perform engine).1.toOption.join).getD []
    Reachable engine ∧ request.answer.perform engine =
        (.ok (some deliveries), (request.answer.perform engine).2) ∧
      ∃ applicationId last stored, deliveries.getLast? = some last ∧
        (request.answer.perform engine).2.store.installation? request.instanceId applicationId =
          some stored := by
  intro engine request deliveries
  have reached : Reachable engine := (ReachableBy.start {} rfl).runAll (by decide +kernel)
  have answered : request.answer.perform engine =
      (.ok (some deliveries), (request.answer.perform engine).2) :=
    Prod.ext (by decide +kernel) rfl
  obtain ⟨applicationId, _, _, _, _, _, _, last, stored, -, -, -, isLast, -, found, -⟩ :=
    answer_on_record_iff reached request answered
  exact ⟨reached, answered, applicationId, last, stored, isLast, found⟩

-- The repeated answer ends with the new target, which no grant ever recorded.
theorem redelivery_departs_from_record :
    let engine := Operation.runAll {} (Operation.smallCatalog ++ retargeting)
    let request := plan .firstContact .multi
    let deliveries := ((request.answer.perform engine).1.toOption.join).getD []
    let after := (request.answer.perform engine).2
    Reachable engine ∧ (request.answer.perform engine).1 = .ok (some deliveries) ∧
      deliveries.getLast?.map (·.package.version) = some "4.0.0" ∧
      (after.store.installation? "host" "agent").map (·.grantedVersion) = some (some "3.0.0") ∧
      (after.store.installation? "host" "agent").map (·.grantedTarget) = some (some "3.0.0") :=
  ⟨(ReachableBy.start {} rfl).runAll (by decide +kernel), by decide +kernel, by decide +kernel,
    by decide +kernel, by decide +kernel⟩

end UpdateRequest

end FleetRollout

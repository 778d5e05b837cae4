import FleetRollout.Proofs.Trace
import Mathlib.Data.List.Chain
import Mathlib.Data.List.Range

set_option autoImplicit false

/-!
The states a run passes through, also in the middle of a request: once the check-in is recorded,
and after each event. From one of them to the next a single installation changes, if any does.
-/

namespace FleetRollout

open Store FleetRollout.Action

namespace Store

inductive FleetStep (before after : Store) : Prop where
  | same (fleet : SameFleet before after)
  | sighted (sighting : Sighting)
      (installations : after.installations = before.installations.insert
        (Installation.keyOf sighting.instanceId sighting.applicationId) (before.sighted sighting))
      (history : after.history = before.history)
  | moved (row : Installation) (next : Status) (time : Nat) (errorCode : Option String)
      (found : before.installations.get? row.key = some row)
      (ungranted : next ≠ .updateGranted)
      (leads : next.isInFlight = true ∨ next.isTerminal = true ∨ row.status.isInFlight = false)
      (fleet : SameFleet (before.rewriteRow row.key row (row.moved next) time errorCode) after)
  | granted (row : Installation) (group : Group) (channel : Channel) (target : Package)
      (version : String) (now : Nat)
      (found : before.installations.get? row.key = some row)
      (stored : before.groups.get? row.groupId = some group)
      (targeted : CheckIn.groupTarget? before group = some (channel, target))
      (idle : row.status.isInFlight = false)
      (admitted : (enforcePolicy group target.version now).perform before = (.ok (), before))
      (fleet : SameFleet
        (before.rewriteRow row.key row (row.granted (row.grantOf version target.version now)) now
          none) after)

end Store

def Engine.Steps (before after : Engine) : Prop := FleetStep before.store after.store

theorem Effect.fleetStep {before after : Engine} {stage : Stage} (keyed : before.store.Keyed)
    (effect : Effect stage before after) : Engine.Steps before after := by
  cases effect with
  | quiet fleet => exact .same fleet
  | turned key changed errorCode turn installations history instances uncoded _ =>
    generalize known : before.store.installations.get? key = old at turn history
    have rewritten {row : Installation} (found : old = some row) (late : stage ≠ .arrival)
        (defined : changed.status ≠ .undefined) :
        SameFleet (before.store.rewriteRow row.key row changed before.now errorCode)
          after.store := by
      subst found
      rw [keyed.installations key row known]
      refine ⟨instances.resolve_left late, installations, ?_⟩
      rw [history, rewriteRow_history _ _ _ _ defined]
    have stored {row : Installation} (found : old = some row) :
        before.store.installations.get? row.key = some row := by
      subst found
      rwa [keyed.installations key row known]
    cases turn with
    | first sighting =>
      refine .sighted sighting ?_ ?_
      · rw [installations, sighted, installation?, known]
      · rw [history, Installation.entriesSince_firstSeen, List.append_nil]
    | seen row sighting =>
      refine .sighted sighting ?_ ?_
      · rw [installations, sighted, installation?, known]
      · rw [history, row.entriesSince_seen, List.append_nil]
    | @reported _ row event next running leads onward =>
      have reported := CheckIn.event_status_ok leads
      refine .moved row next before.now errorCode (stored rfl) ?_ ?_
        (rewritten rfl (by simp) (CheckIn.event_defined leads))
      · rintro rfl
        simp at reported
      · cases next <;> simp_all [Status.isInFlight, Status.isTerminal]
    | closed row granted unfinished =>
      exact .moved row .complete before.now errorCode (stored rfl) (by simp) (.inr (.inl rfl))
        (rewritten rfl (by simp) (by simp [Installation.moved]))
    | held row asks denied =>
      exact .moved row .onHold before.now errorCode (stored rfl) (by simp)
        (.inr (.inr asks.idle)) (rewritten rfl (by simp) (by simp [Installation.moved]))
    | granted row version asks admitted =>
      obtain rfl := uncoded rfl
      exact .granted row _ _ _ version before.now (stored rfl) asks.stored asks.offered.targeted
        asks.idle admitted (rewritten rfl (by simp) (by simp [Installation.granted]))

namespace Operation

def passing (engine : Engine) : Operation → List Engine
  | .updatePlan request _ | .nextPackage request => [(registerInstance request).run engine]
  | .checkIn request =>
      (List.range (request.events.length + 1)).map fun count =>
        (checkIn (request.upTo count)).run engine
  | _ => []

-- Every state of a run, the first one included.
def path (engine : Engine) : List Operation → List Engine
  | [] => [engine]
  | operation :: rest => engine :: (operation.passing engine ++ path (operation.run engine) rest)

theorem path_head (engine : Engine) (operations : List Operation) :
    ∃ rest, path engine operations = engine :: rest := by
  cases operations with
  | nil => exact ⟨[], rfl⟩
  | cons operation rest => exact ⟨_, rfl⟩

theorem path_dropLast (engine : Engine) (operations : List Operation) :
    (path engine operations).dropLast ++ [runAll engine operations] = path engine operations := by
  induction operations generalizing engine with
  | nil => rfl
  | cons operation rest ih =>
    have nonempty : path (operation.run engine) rest ≠ [] := by
      obtain ⟨others, head⟩ := path_head (operation.run engine) rest
      simp [head]
    rw [path, ← List.cons_append, List.dropLast_append_of_ne_nil nonempty, List.append_assoc,
      runAll, List.foldl_cons, ← runAll, ih]

theorem eventSteps_after (engine : Engine) (request : CheckInRequest) :
    (eventSteps engine request).map Step.after =
      (List.range request.events.length).map fun count => midway engine request (count + 1) := by
  have counts : request.events.zipIdx.map Prod.snd = List.range request.events.length := by
    rw [List.zipIdx_map_snd, List.range_eq_range']
  simp only [eventSteps, List.map_map, ← counts, Function.comp_def]

theorem passing_eq (engine : Engine) (operation : Operation) :
    operation.passing engine ++ [operation.run engine] =
      (operation.steps engine).map Step.after := by
  cases operation with
  | updatePlan request mode | nextPackage request =>
    simp only [passing, steps, List.map_cons, List.map_nil, List.singleton_append]
  | checkIn request =>
    simp only [passing, steps, List.map_cons, List.map_append, List.map_nil, eventSteps_after,
      List.range_succ_eq_map, List.map_map, List.cons_append, midway, Function.comp_def]
  | _ => simp only [passing, steps, List.map_cons, List.map_nil, List.nil_append]

theorem path_eq (engine : Engine) (operations : List Operation) :
    path engine operations = engine :: (trace engine operations).map Step.after := by
  induction operations generalizing engine with
  | nil => rfl
  | cons operation rest ih =>
    rw [path, ih, trace, List.map_append, ← passing_eq, List.append_assoc, List.singleton_append]

theorem reachable_path {engine moment : Engine} (reached : Reachable engine)
    {operations : List Operation} (member : moment ∈ path engine operations) :
    Reachable moment := by
  rw [path_eq, List.mem_cons, List.mem_map] at member
  rcases member with rfl | ⟨step, taken, rfl⟩
  · exact reached
  · exact (reachable_trace reached operations step taken).2

end Operation

theorem Linked.isChain {R : Engine → Engine → Prop} {start last : Engine} {steps : List Step}
    (linked : Linked start steps last) (each : ∀ step ∈ steps, R step.before step.after) :
    (start :: steps.map Step.after).IsChain R := by
  induction steps generalizing start with
  | nil => exact List.isChain_singleton start
  | cons step rest ih =>
    obtain ⟨rfl, others⟩ := linked
    exact List.isChain_cons_cons.mpr ⟨each step List.mem_cons_self,
      ih others fun other member => each other (List.mem_cons_of_mem step member)⟩

theorem Operation.isChain_path {engine : Engine} (reached : Reachable engine)
    (operations : List Operation) : (path engine operations).IsChain Engine.Steps := by
  rw [path_eq]
  exact (linked_trace engine operations).isChain fun step member =>
    (effect_trace reached operations step member).fleetStep
      (reachable_trace reached operations step member).1.keyed

end FleetRollout

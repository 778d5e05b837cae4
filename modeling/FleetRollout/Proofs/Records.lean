import FleetRollout.Proofs.Lifecycle

set_option autoImplicit false

/-!
What is on record of an installation agrees with itself. Its flag, its status and its last grant
are written by first sight, by moves to another group, by grants, by events and by denials; all of
them take the record as a whole from one consistent state to another.
-/

namespace FleetRollout

open Store FleetRollout.Action

structure Installation.Consistent (row : Installation) : Prop where
  inProgress : row.inProgress = true ↔
    row.status ∈ [Status.updateGranted, .downloading, .downloaded, .installed]
  -- The three parts of a grant are there together.
  whole : row.grantedVersion.isSome = row.grantedAt.isSome ∧
    row.grantedTarget.isSome = row.grantedAt.isSome
  granted : row.status ∈ [Status.updateGranted, .downloading, .downloaded, .installed,
    .complete, .error] → row.grantedAt.isSome = true
  reads : (Version.parse? row.version).isSome = true
  grantReads : ∀ version ∈ row.grantedVersion, (Version.parse? version).isSome = true
  targetReads : ∀ target ∈ row.grantedTarget, (Version.parse? target).isSome = true

theorem Status.isInFlight_iff {status : Status} :
    status.isInFlight = true ↔
      status ∈ [Status.updateGranted, .downloading, .downloaded, .installed] := by
  cases status <;> simp [isInFlight]

namespace Installation.Consistent

variable {row : Installation}

theorem firstSeen {sighting : Sighting} (reads : (Version.parse? sighting.version).isSome = true) :
    (firstSeen sighting).Consistent where
  inProgress := by simp [Installation.firstSeen]
  whole := ⟨rfl, rfl⟩
  granted := by simp [Installation.firstSeen]
  reads := reads
  grantReads := by simp [Installation.firstSeen]
  targetReads := by simp [Installation.firstSeen]

theorem seen (consistent : row.Consistent) {sighting : Sighting}
    (reads : (Version.parse? sighting.version).isSome = true) :
    (row.seen sighting).Consistent := by
  rcases row.seen_cases sighting with same | ⟨-, reset⟩
  · rw [same]
    exact { consistent with reads }
  · rw [reset]
    exact
      { consistent with
        reads
        inProgress := by simp
        granted := by simp }

theorem versionAfter_reads (consistent : row.Consistent) (status : Status) :
    (Version.parse? (row.versionAfter status)).isSome = true := by
  unfold Installation.versionAfter
  split
  next granted =>
    split
    next => exact consistent.grantReads _ granted
    next => exact consistent.reads
  next => exact consistent.reads

theorem moved (consistent : row.Consistent) {next : Status}
    (granted : next ∈ [Status.updateGranted, .downloading, .downloaded, .installed,
      .complete, .error] → row.grantedAt.isSome = true) : (row.moved next).Consistent :=
  { consistent with
    inProgress := Status.isInFlight_iff
    granted
    reads := consistent.versionAfter_reads next }

theorem grant (consistent : row.Consistent) {grant : Grant}
    (reads : (Version.parse? grant.version).isSome = true)
    (targetReads : (Version.parse? grant.target).isSome = true) : (row.granted grant).Consistent :=
  { consistent with
    inProgress := by simp [Installation.granted]
    whole := ⟨rfl, rfl⟩
    granted := fun _ => rfl
    grantReads := by simpa [Installation.granted] using reads
    targetReads := by simpa [Installation.granted] using targetReads }

end Installation.Consistent

theorem Turn.consistent {before : Engine} {stage : Stage} {key : String}
    {old : Option Installation} {changed : Installation}
    (turn : Turn before stage key old changed) (consistent : ∀ row ∈ old, row.Consistent) :
    changed.Consistent := by
  cases turn with
  | first _ reads => exact .firstSeen reads
  | seen row _ reads => exact (consistent row rfl).seen reads
  | reported row running =>
    -- An event is only taken while an update is in progress, and that has been granted.
    have before := consistent row rfl
    refine before.moved fun _ => before.granted ?_
    have inFlight := before.inProgress.mp running
    simp only [List.mem_cons] at inFlight ⊢
    tauto
  | closed row granted =>
    -- Only a grant that was made can be closed, so its time is on record too.
    have before := consistent row rfl
    exact before.moved fun _ => before.whole.1.symm.trans granted
  | held row => exact (consistent row rfl).moved (by simp)
  | granted row version asks _ reads =>
    obtain ⟨_, _, -, targetReads, -⟩ := Version.isOlder_iff.mp asks.offered.behind
    exact (consistent row rfl).grant reads (Option.isSome_iff_exists.mpr ⟨_, targetReads⟩)

/-- Every installation is consistent, and the instance it is on is known. -/
structure Engine.OnRecord (engine : Engine) : Prop where
  consistent : ∀ key row, engine.store.installations.get? key = some row → row.Consistent
  enrolled : ∀ key row, engine.store.installations.get? key = some row →
    engine.store.instances.contains row.instanceId = true

theorem Effect.onRecord {before after : Engine} {stage : Stage}
    (effect : Effect stage before after) (onRecord : before.OnRecord) : after.OnRecord := by
  constructor
  case consistent =>
    intro key row found
    rcases effect.lookup key with same | ⟨changed, present, turn⟩
    · exact onRecord.consistent key row (same.symm.trans found)
    · obtain rfl := Option.some.inj (present.symm.trans found)
      exact turn.consistent (onRecord.consistent key)
  case enrolled =>
    intro key row found
    cases effect with
    | quiet fleet =>
      rw [fleet.installations] at found
      rw [fleet.instances]
      exact onRecord.enrolled key row found
    | turned turnedKey changed errorCode turn installations _ _ _ enrolled =>
      rw [installations, Table.get_insert] at found
      split at found
      next same =>
        obtain rfl := Option.some.inj found
        -- Seen first, it is enrolled in the step; else it names the instance it named before.
        cases known : before.store.installations.get? turnedKey with
        | none => exact enrolled _ (.inr ⟨known, rfl⟩)
        | some old =>
          rw [known] at turn
          rw [turn.instanceId]
          exact enrolled _ (.inl (onRecord.enrolled turnedKey old known))
      next => exact enrolled _ (.inl (onRecord.enrolled key row found))

theorem Reachable.onRecord {engine : Engine} (reached : Reachable engine) : engine.OnRecord := by
  refine reached.of_kept (P := Engine.OnRecord) (fun engine empty => ?_)
    fun step effect _ _ => effect.onRecord
  constructor
  · simp [empty, Store.empty]
  · simp [empty, Store.empty]

/--
In every state that is reached, every installation is consistent, lies under the key of its own
instance and application, and names an instance that is stored.
-/
theorem installations_on_record {engine : Engine} (reached : Reachable engine) {key : String}
    {row : Installation} (found : engine.store.installations.get? key = some row) :
    row.Consistent ∧ key = Installation.keyOf row.instanceId row.applicationId ∧
      ∃ machine, engine.store.instances.get? row.instanceId = some machine ∧
        machine.id = row.instanceId := by
  obtain ⟨consistent, enrolled⟩ := reached.onRecord
  obtain ⟨machine, stored⟩ := Option.isSome_iff_exists.mp (enrolled key row found)
  exact ⟨consistent key row found, (reached.keyed.installations key row found).symm,
    machine, stored, reached.keyed.instances _ machine stored⟩

theorem installations_on_record_wholeUpdate :
    let store := (Operation.runAll {} (Operation.smallCatalog ++ Operation.wholeUpdate)).store
    ∃ row, store.installations.get? "agent:host" = some row ∧
      row.Consistent ∧ "agent:host" = Installation.keyOf row.instanceId row.applicationId ∧
      (∃ machine, store.instances.get? row.instanceId = some machine ∧
        machine.id = row.instanceId) ∧
      row.status = .updateGranted ∧ row.version = "2.0.0" ∧ row.grantedVersion = some "3.0.0" := by
  intro store
  have reached :
      Reachable (Operation.runAll {} (Operation.smallCatalog ++ Operation.wholeUpdate)) :=
    (ReachableBy.start {} rfl).runAll (by decide +kernel)
  obtain ⟨row, found⟩ := Option.isSome_iff_exists.mp
    (show (store.installations.get? "agent:host").isSome = true by decide +kernel)
  have facts : (store.installations.get? "agent:host").map
      (fun row => (row.status, row.version, row.grantedVersion)) =
        some (.updateGranted, "2.0.0", some "3.0.0") := by decide +kernel
  obtain ⟨consistent, own, stored⟩ := installations_on_record reached found
  rw [found, Option.map_some, Option.some.injEq, Prod.mk.injEq, Prod.mk.injEq] at facts
  exact ⟨row, found, consistent, own, stored, facts⟩

end FleetRollout

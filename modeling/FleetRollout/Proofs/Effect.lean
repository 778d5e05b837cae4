import FleetRollout.Proofs.Change
import FleetRollout.Proofs.Floors
import FleetRollout.Proofs.Rollout

set_option autoImplicit false

/-!
What a stage of a request may do to the fleet. It turns one installation at most, `Turn` tells into
what and what was checked before; `Effect` adds that every other installation stays as it is, that
history gets the change of status and nothing else, and what becomes of the rollout.
-/

namespace FleetRollout

open Store FleetRollout.Action

-- What a step of a run is for.
inductive Stage where
  | arrival
  | event (event : ProgressEvent)
  | decision
  -- The catalog, lookups and the clock.
  | upkeep

namespace CheckIn

-- The installation is at rest, and its group as stored offers it the target.
structure Asks (store : Store) (row : Installation) (group : Group) (channel : Channel)
    (target : Package) : Prop where
  stored : store.groups.get? row.groupId = some group
  offered : Offered store group row channel target
  idle : row.status.isInFlight = false

end CheckIn

/-- What a stage may make of the installation under a key, or of none that is known. -/
inductive Turn (before : Engine) :
    Stage → String → Option Installation → Installation → Prop where
  | first (sighting : Sighting) (reads : (Version.parse? sighting.version).isSome = true) :
      Turn before .arrival (Installation.keyOf sighting.instanceId sighting.applicationId) none
        (.firstSeen sighting)
  | seen (row : Installation) (sighting : Sighting)
      (reads : (Version.parse? sighting.version).isSome = true) :
      Turn before .arrival (Installation.keyOf sighting.instanceId sighting.applicationId)
        (some row) (row.seen sighting)
  | reported {key : String} (row : Installation) {event : ProgressEvent} {next : Status}
      (running : row.inProgress = true)
      (leads : event.status = .ok (some next))
      (onward : row.status.isRegression next = false) :
      Turn before (.event event) key (some row) (row.moved next)
  | closed {key : String} (row : Installation)
      (granted : row.grantedVersion.isSome = true)
      (unfinished : row.status ∈ [Status.undefined, .updateGranted, .error, .onHold]) :
      Turn before .decision key (some row) (row.moved .complete)
  | held {key : String} (row : Installation) {group : Group} {channel : Channel}
      {target : Package} {denial : Denial}
      (asks : CheckIn.Asks before.store row group channel target)
      (denied : ((enforcePolicy group target.version before.now).perform before.store).1 =
        .error (.denied denial)) :
      Turn before .decision key (some row) (row.moved .onHold)
  | granted {key : String} (row : Installation) {group : Group} {channel : Channel}
      {target : Package} (version : String)
      (asks : CheckIn.Asks before.store row group channel target)
      (admitted : (enforcePolicy group target.version before.now).perform before.store =
        (.ok (), before.store))
      (reads : (Version.parse? version).isSome = true) :
      Turn before .decision key (some row)
        (row.granted (row.grantOf version target.version before.now))

section Turns

variable {before : Engine} {stage : Stage} {key : String} {row changed : Installation}

theorem Turn.instanceId (turn : Turn before stage key (some row) changed) :
    changed.instanceId = row.instanceId := by
  cases turn with
  | seen => exact row.seen_instanceId _
  | _ => rfl

theorem Turn.applicationId (turn : Turn before stage key (some row) changed) :
    changed.applicationId = row.applicationId := by
  cases turn with
  | seen => exact row.seen_applicationId _
  | _ => rfl

end Turns

-- Whoever comes to have the status of a grant was granted an update just now.
theorem Turn.of_fresh {before : Engine} {stage : Stage} {key : String} {old : Option Installation}
    {changed : Installation} (turn : Turn before stage key old changed)
    (granted : changed.status = .updateGranted)
    (fresh : old.all (·.status ≠ .updateGranted) = true) :
    ∃ row group channel target version, stage = .decision ∧ old = some row ∧
      CheckIn.Asks before.store row group channel target ∧
      (enforcePolicy group target.version before.now).perform before.store =
        (.ok (), before.store) ∧
      changed = row.granted (row.grantOf version target.version before.now) := by
  cases turn with
  | first => simp [Installation.firstSeen] at granted
  -- A check-in keeps a grant that was there before; it makes none.
  | seen row sighting =>
    unfold Installation.seen at granted
    split at granted
    next => simp [show row.status = .updateGranted from granted] at fresh
    next => cases granted
  | @reported _ row event next running leads onward =>
    have reported := CheckIn.event_status_ok leads
    simp [show next = .updateGranted from granted] at reported
  | closed | held => simp [Installation.moved] at granted
  | @granted _ row group channel target version asks admitted =>
    exact ⟨row, group, channel, target, version, rfl, rfl, asks, admitted, rfl⟩

/-- The history entry of a change to another status; to be undefined is never put on record. -/
def Installation.entriesSince (changed : Installation) (old : Option Installation) (time : Nat)
    (errorCode : Option String) : List HistoryEntry :=
  if changed.status = .undefined ∨ old.any (·.status = changed.status) then []
  else [changed.historyEntry time errorCode]

namespace Installation

theorem seen_status (row : Installation) (sighting : Sighting) :
    (row.seen sighting).status = row.status ∨ (row.seen sighting).status = .undefined := by
  unfold Installation.seen
  simp only
  split
  · exact .inl rfl
  · exact .inr rfl

theorem seen_grantedAt (row : Installation) (sighting : Sighting) :
    (row.seen sighting).grantedAt = row.grantedAt := by
  unfold Installation.seen
  dsimp only
  split <;> rfl

theorem seen_createdAt (row : Installation) (sighting : Sighting) :
    (row.seen sighting).createdAt = row.createdAt := by
  unfold Installation.seen
  dsimp only
  split <;> rfl

theorem mem_entriesSince {changed : Installation} {old : Option Installation} {time : Nat}
    {errorCode : Option String} {entry : HistoryEntry}
    (member : entry ∈ changed.entriesSince old time errorCode) :
    entry = changed.historyEntry time errorCode := by
  unfold entriesSince at member
  split at member
  · cases member
  · exact List.mem_singleton.mp member

theorem entriesSince_firstSeen (sighting : Sighting) (old : Option Installation) (time : Nat)
    (errorCode : Option String) :
    (firstSeen sighting).entriesSince old time errorCode = [] := if_pos (.inl rfl)

theorem entriesSince_seen (row : Installation) (sighting : Sighting) (time : Nat)
    (errorCode : Option String) :
    (row.seen sighting).entriesSince (some row) time errorCode = [] := by
  refine if_pos ?_
  rcases row.seen_status sighting with same | reset
  · exact .inr (by simp [same])
  · exact .inl reset

end Installation

theorem Store.rewriteRow_history (store : Store) (key : String) {row changed : Installation}
    (time : Nat) (errorCode : Option String) (defined : changed.status ≠ .undefined) :
    (store.rewriteRow key row changed time errorCode).history =
      store.history ++ changed.entriesSince (some row) time errorCode := by
  rw [rewriteRow, Installation.entriesSince]
  by_cases same : row.status = changed.status
  · simp [same]
  · simp [same, defined]

-- What becomes of the rollout flags where an installation changes; only a grant sets one.
inductive Signal (stage : Stage) (now : Nat) (before after : Store) (changed : Installation) :
    Prop where
  | settling (ungranted : stage = .decision → changed.status ≠ .updateGranted)
      (settling : Settling changed.groupId now before after)
  | started (decided : stage = .decision) (granted : changed.status = .updateGranted)
      (flag : after.flagOf changed.groupId = true)
      (others : ∀ groupId ≠ changed.groupId, after.flagOf groupId = before.flagOf groupId)
      (log : Unfinished before after)

inductive Effect (stage : Stage) (before after : Engine) : Prop where
  | quiet (fleet : SameFleet before.store after.store)
      (rollouts : stage = .upkeep ∨ SameRollouts before.store after.store)
  | turned (key : String) (changed : Installation) (errorCode : Option String)
      (turn : Turn before stage key (before.store.installations.get? key) changed)
      (installations : after.store.installations = before.store.installations.insert key changed)
      (history : after.store.history = before.store.history ++
        changed.entriesSince (before.store.installations.get? key) before.now errorCode)
      (instances : stage = .arrival ∨ after.store.instances = before.store.instances)
      (uncoded : stage = .decision → errorCode = none)
      (enrolled : ∀ id, before.store.instances.contains id = true ∨
        before.store.installations.get? key = none ∧ id = changed.instanceId →
          after.store.instances.contains id = true)
      (signal : Signal stage before.now before.store after.store changed)

variable {before after : Engine} {stage : Stage}

theorem Effect.refl (stage : Stage) (engine : Engine) : Effect stage engine engine :=
  .quiet (refl_of SameFleet engine.store) (.inr (refl_of SameRollouts engine.store))

theorem Effect.of_sameData (same : Engine.SameData before after) : Effect stage before after := by
  obtain ⟨directory, rfl⟩ := same
  exact .quiet (refl_of SameFleet before.store) (.inr (refl_of SameRollouts before.store))

theorem Effect.of_store {other : Engine} (effect : Effect stage before after)
    (same : other.store = after.store) : Effect stage before other := by
  cases effect with
  | quiet fleet rollouts => exact .quiet (same ▸ fleet) (same ▸ rollouts)
  | turned key changed errorCode turn installations history instances uncoded enrolled signal =>
    exact .turned key changed errorCode turn (same ▸ installations) (same ▸ history)
      (same ▸ instances) uncoded (same ▸ enrolled) (same ▸ signal)

theorem Effect.lookup (effect : Effect stage before after) (key : String) :
    after.store.installations.get? key = before.store.installations.get? key ∨
      ∃ changed, after.store.installations.get? key = some changed ∧
        Turn before stage key (before.store.installations.get? key) changed := by
  cases effect with
  | quiet fleet => exact .inl (by rw [fleet.installations])
  | turned turnedKey changed errorCode turn installations =>
    rw [installations, Table.get_insert]
    split
    next same => exact .inr ⟨changed, rfl, same ▸ turn⟩
    next => exact .inl rfl

theorem Effect.of_rewriteRow {key : String} {row changed : Installation}
    {errorCode : Option String} (found : before.store.installations.get? key = some row)
    (turn : Turn before stage key (some row) changed) (defined : changed.status ≠ .undefined)
    (uncoded : stage = .decision → errorCode = none)
    (fleet : SameFleet
      (before.store.rewriteRow key row changed before.now errorCode) after.store)
    (signal : Signal stage before.now before.store after.store changed) :
    Effect stage before after := by
  refine .turned key changed errorCode (by rwa [found]) fleet.installations ?_
    (.inr fleet.instances) uncoded ?_ signal
  · rw [fleet.history, found, rewriteRow_history _ _ _ _ defined]
  · rw [fleet.instances]
    rintro id (known | ⟨unknown, -⟩)
    · exact known
    · rw [found] at unknown
      cases unknown

namespace Engine

theorem Admitted.effect {request : Registration} {applicationId : String} {group : Group}
    (admitted : Admitted before request applicationId group after) :
    Effect .arrival before after := by
  have reads : (Version.parse?
      (request.sighting applicationId group.id before.now).version).isSome = true :=
    admitted.reads
  have enrolled : Enrols (request.sighting applicationId group.id before.now).instanceId
      before.store after.store := admitted.enrolled
  obtain ⟨directory, machine, rfl⟩ := admitted.recorded
  have rollouts := recordCheckIn_sameRollouts before.store machine
    (request.sighting applicationId group.id before.now)
  have recorded := recordCheckIn_installations before.store machine
    (request.sighting applicationId group.id before.now)
  have unlisted := recordCheckIn_history before.store machine
    (request.sighting applicationId group.id before.now)
  -- Of the request only the sighting matters from here on.
  generalize request.sighting applicationId group.id before.now = sighting
    at reads enrolled rollouts recorded unlisted ⊢
  cases found : before.store.installations.get?
      (Installation.keyOf sighting.instanceId sighting.applicationId) with
  | none =>
    have first : before.store.sighted sighting = .firstSeen sighting := by
      rw [sighted, installation?, found]
    rw [first] at recorded
    refine .turned _ _ none (by rw [found]; exact .first sighting reads) recorded ?_ (.inl rfl)
      (fun _ => rfl) (fun id known => enrolled id (known.imp_right And.right))
      (.settling (by simp) (.same rollouts))
    rw [unlisted, Installation.entriesSince_firstSeen, List.append_nil]
  | some row =>
    have seen : before.store.sighted sighting = row.seen sighting := by
      rw [sighted, installation?, found]
    rw [seen] at recorded
    refine .turned _ _ none (by rw [found]; exact .seen row sighting reads) recorded ?_ (.inl rfl)
      (fun _ => rfl) ?_ (.settling (by simp) (.same rollouts))
    · rw [unlisted, found, row.entriesSince_seen, List.append_nil]
    · rintro id (known | ⟨unknown, -⟩)
      · exact enrolled id (.inl known)
      · rw [found] at unknown
        cases unknown

end Engine

namespace CheckIn

theorem event_defined {event : ProgressEvent} {next : Status}
    (leads : event.status = .ok (some next)) : next ≠ .undefined := by
  rintro rfl
  simpa using event_status_ok leads

theorem applyEvent_effect {engine : Engine} (keyed : engine.store.Keyed)
    (applicationId : String) {group : Group} (knows : engine.store.Knows group)
    (instanceId : String) (event : ProgressEvent) :
    Effect (.event event) engine
      { engine with
        store := ((applyEvent engine.now applicationId group instanceId event).perform
          engine.store).2 } := by
  rcases applyEvent_cases engine.now applicationId group instanceId event engine.store with
    unchanged | ⟨row, next, errorCode, found, member, running, leads, onward, noted, followed⟩
  · rw [unchanged]
    exact .refl _ engine
  · refine .of_rewriteRow found (.reported row running leads onward) (event_defined leads)
      (by simp) noted.fleet (.settling (by simp) ?_)
    have settling := afterEvent_settling
      (engine.store.rewriteRow (Installation.keyOf instanceId applicationId) row (row.moved next)
        engine.now errorCode) keyed.groups knows engine.now instanceId (row.moved next) next
    rw [← followed, ← member] at settling
    exact settling.of_rewriteRow

theorem rejectInFlight_iff {facts : CheckInFacts} :
    facts.nextStep = .rejectInFlight ↔
      facts.status ∈ [Status.downloading, .downloaded, .installed] := by
  obtain ⟨status, hadGrant, target, isBehind⟩ := facts
  cases status <;> cases target <;> cases isBehind <;> simp [CheckInFacts.nextStep]

theorem decide_rejects (config : EngineConfig) (now : Nat) (group : Group) (mode : DeliveryMode)
    {applicationId instanceId : String} {store : Store} {row : Installation}
    (found : store.installation? instanceId applicationId = some row)
    (applying : row.status ∈ [Status.downloading, .downloaded, .installed]) :
    (decide config now applicationId group instanceId mode).perform store =
      (.error (.denied .updateInProgress), store) := by
  have step : (factsOf row (groupTarget? store group)).nextStep = .rejectInFlight :=
    rejectInFlight_iff.mpr applying
  unfold decide
  rw [perform_bind_ok (perform_get store), perform_bind_ok (require_ok.mpr ⟨found, rfl⟩)]
  simp only [step]
  rfl

theorem decide_effect {engine : Engine} (keyed : engine.store.Keyed) {applicationId : String}
    {group : Group}
    {instanceId : String} (mode : DeliveryMode) {row : Installation}
    (found : engine.store.installation? instanceId applicationId = some row)
    (own : row.key = Installation.keyOf instanceId applicationId)
    (stored : engine.store.groups.get? row.groupId = some group) :
    Effect .decision engine
      { engine with
        store := ((decide engine.config engine.now applicationId group instanceId mode).perform
          engine.store).2 } := by
  by_cases applying : row.status ∈ [Status.downloading, .downloaded, .installed]
  case pos =>
    -- Whoever is applying an update is turned away, and nothing is written.
    rw [decide_rejects engine.config engine.now group mode found applying]
    exact .refl _ engine
  case neg =>
    have named := keyed.groups _ group stored
    have current : engine.store.groups.get? group.id = some group := named ▸ stored
    have decision := decide_cases engine.config engine.now applicationId group instanceId mode
      found own
    rw [installation?, ← own] at found
    generalize ((decide engine.config engine.now applicationId group instanceId mode).perform
      engine.store).1 = result at decision
    generalize ((decide engine.config engine.now applicationId group instanceId mode).perform
      engine.store).2 = store at decision ⊢
    cases decision with
    | refused calm => exact .quiet calm.noted.fleet (.inr calm.rollouts)
    | redelivered => exact .refl _ engine
    | closed targeted _ unfinished noted closes =>
      refine .of_rewriteRow found (.closed row unfinished.1 ?_) (by simp [Installation.moved])
        (fun _ => rfl) noted.fleet (.settling (by simp [Installation.moved]) ?_)
      · cases status : row.status <;> simp_all
      · have settling := settleGroup_settling
          (engine.store.rewriteRow row.key row (row.moved .complete) engine.now none) keyed.groups
          ((Knows.of_stored current).targetOf targeted) engine.now
        rw [← closes, named] at settling
        exact settling.of_rewriteRow
    | held offered idle denied calm =>
      exact .of_rewriteRow found (.held row ⟨stored, offered, idle⟩ denied)
        (by simp [Installation.moved]) (fun _ => rfl) calm.noted.fleet
        (.settling (by simp [Installation.moved])
          (.same ⟨calm.rollouts.flags, calm.rollouts.log⟩))
    | @granted channel target package required _ _ offered idle admitted planned delivered noted _
        starts =>
      obtain ⟨_, _, -, targetReads, -⟩ := Version.isOlder_iff.mp offered.behind
      have reads := UpdatePlan.finalPackage_reads planned
        (Option.isSome_iff_exists.mpr ⟨_, targetReads⟩) delivered
      refine .of_rewriteRow found (.granted row _ ⟨stored, offered, idle⟩ admitted reads)
        (by simp [Installation.granted]) (fun _ => rfl) noted.fleet ?_
      have recorded : (engine.store.rewriteRow row.key row
          (row.granted (row.grantOf package.version target.version engine.now)) engine.now
            none).groups.get? group.id = some group := current
      obtain ⟨flag, others, log⟩ := Journal.rolloutStarted_flags recorded
        engine.config.dedupeSeconds target.version engine.now
      rw [← starts] at flag others log
      rw [named] at flag others
      exact .started rfl rfl flag others log

end CheckIn

end FleetRollout

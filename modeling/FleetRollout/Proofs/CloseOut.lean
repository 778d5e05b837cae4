import FleetRollout.Proofs.Closing
import FleetRollout.Proofs.Idempotence
import FleetRollout.Proofs.Records
import FleetRollout.Proofs.UpdateSwitch

set_option autoImplicit false

/-!
Grants that are closed when an instance asks again and needs no update. Closing one completes it,
and that moves the installation forward to the version it was granted. So it keeps the version it
reports unless it was granted a newer one; and as no grant leads past its target, the target of the
group then has become older since, or may not go to the channel.
-/

namespace FleetRollout

open Store FleetRollout.Action

-- The last grant is of a version up to the target that it was made towards.
def Installation.GrantWithin (row : Installation) : Prop :=
  ∀ version ∈ row.grantedVersion, ∀ target ∈ row.grantedTarget,
    Version.isOlder target version = false

namespace Installation.GrantWithin

variable {row : Installation}

theorem firstSeen (sighting : Sighting) : (firstSeen sighting).GrantWithin := by
  intro version granted
  cases granted

theorem seen (within : row.GrantWithin) (sighting : Sighting) :
    (row.seen sighting).GrantWithin := by
  rcases row.seen_cases sighting with same | ⟨-, reset⟩
  · rw [same]
    exact within
  · rw [reset]
    exact within

theorem moved (within : row.GrantWithin) (status : Status) : (row.moved status).GrantWithin :=
  within

theorem granted {version target : String} (reached : Version.isOlder target version = false)
    (now : Nat) : (row.granted (row.grantOf version target now)).GrantWithin := by
  intro _ granted _ towards
  cases granted
  cases towards
  exact reached

end Installation.GrantWithin

theorem CheckIn.Decision.grantWithin {config : EngineConfig} {now : Nat} {group : Group}
    {row : Installation} {mode : DeliveryMode} {store after : Store}
    {result : Except EngineError UpdatePlan}
    (decision : Decision config now group row mode store result after)
    (within : row.GrantWithin) (every : store.installations.Every Installation.GrantWithin) :
    after.installations.Every Installation.GrantWithin := by
  cases decision with
  | refused calm => rwa [calm.noted.fleet.installations]
  | redelivered => exact every
  | closed _ _ _ noted =>
    rw [noted.fleet.installations]
    exact every.insert (within.moved .complete) row.key
  | held _ _ _ calm =>
    rw [calm.noted.fleet.installations]
    exact every.insert (within.moved .onHold) row.key
  | granted offered _ _ planned delivered noted =>
    obtain ⟨_, _, -, -, targeted, found⟩ := groupTarget_eq_some_iff.mp offered.targeted
    have reached := UpdatePlan.finalPackage_within planned targeted found delivered
    rw [noted.fleet.installations]
    exact every.insert (.granted reached now) row.key

theorem Performed.grantWithin {stage : Stage} {before after : Engine}
    (performed : Performed stage before after)
    (every : before.store.installations.Every Installation.GrantWithin) :
    after.store.installations.Every Installation.GrantWithin := by
  cases performed with
  | upkeep fleet => rwa [fleet.installations]
  | nothing same =>
    obtain ⟨directory, rfl⟩ := same
    exact every
  | arrived admitted =>
    intro key row found
    rcases admitted.effect.lookup key with same | ⟨changed, present, turn⟩
    · exact every key row (same.symm.trans found)
    · obtain rfl := Option.some.inj (present.symm.trans found)
      generalize known : before.store.installations.get? key = old at turn
      cases turn with
      | first sighting => exact .firstSeen sighting
      | seen earlier sighting => exact (every _ earlier known).seen sighting
  | @reported _ _ applicationId instanceId group event _ _ written =>
    rcases CheckIn.applyEvent_cases before.now applicationId group instanceId event before.store
      with unchanged | ⟨old, next, _, found, -, -, -, -, noted, -⟩
    · rwa [written, unchanged]
    · rw [written, noted.fleet.installations]
      exact every.insert ((every _ old found).moved next) _
  | @decided _ _ applicationId instanceId group mode old keyed found _ written =>
    rw [written]
    exact (CheckIn.decide_cases before.config before.now applicationId group instanceId mode found
      (keyed.installations _ old found)).grantWithin (every _ old found) every

theorem Reachable.grantWithin {engine : Engine} (reached : Reachable engine) :
    engine.store.installations.Every Installation.GrantWithin := by
  refine reached.of_performed
    (P := fun engine => engine.store.installations.Every Installation.GrantWithin)
    (fun engine empty => ?_) fun step performed _ _ => performed.grantWithin
  rw [empty]
  exact Table.every_empty

-- Whoever was granted a newer version than it has, and is not behind the target, was granted it
-- towards a newer target.
theorem Installation.GrantWithin.target_older {row : Installation} {granted grantedTarget : String}
    {target : String} (within : row.GrantWithin) (version : row.grantedVersion = some granted)
    (towards : row.grantedTarget = some grantedTarget)
    (targetReads : (Version.parse? target).isSome = true)
    (grantedReads : (Version.parse? grantedTarget).isSome = true)
    (newer : Version.isOlder row.version granted = true)
    (reached : Version.isOlder row.version target = false) :
    Version.isOlder target grantedTarget = true := by
  obtain ⟨current, readsCurrent⟩ := Option.isSome_iff_exists.mp targetReads
  obtain ⟨earlier, readsEarlier⟩ := Option.isSome_iff_exists.mp grantedReads
  have below := Version.isOlder_of_isOlder_of_not newer readsEarlier
    (within granted version grantedTarget towards)
  obtain ⟨lower, _, readsRow, reads, before⟩ := Version.isOlder_iff.mp below
  obtain rfl := Option.some.inj (readsEarlier.symm.trans reads)
  rw [Version.isOlder_of_parse readsRow readsCurrent] at reached
  rw [Version.isOlder_of_parse readsCurrent readsEarlier]
  exact Version.isBefore_of_not_of_isBefore reached before

namespace UpdateRequest

structure FindsReported (request : UpdateRequest) (engine : Engine) (applicationId : String)
    (group : Group) (row : Installation) (entered : Engine) : Prop where
  located : (request.operation.locator.perform engine).1 = .ok (applicationId, group)
  admitted : Engine.Admitted engine (request.registration applicationId group) applicationId group
    entered
  arrival : (request.arrival.perform engine).2 = entered
  found : entered.store.installation? request.instanceId applicationId = some row
  member : row.groupId = group.id
  version : row.version = request.version
  decided : (request.operation.run engine).store =
    (request.decision applicationId group entered).2

variable {request : UpdateRequest} {engine entered : Engine} {applicationId : String}
  {group : Group}

theorem entrance_cases (request : UpdateRequest) (engine : Engine) :
    (∃ error after, request.entrance.perform engine = (.error error, after)) ∨
    ∃ applicationId group entered,
      request.entrance.perform engine = (.ok (applicationId, group), entered) ∧
        Engine.Admitted engine (request.registration applicationId group) applicationId group
          entered := by
  cases request with
  | plan request mode =>
    exact (Engine.enter_cases (Engine.sameData_keptByLookups.resolveGroup _ _)
      Engine.resolveGroup_ok (fun _ _ => request) engine).imp_left
        fun ⟨error, after, refused, _⟩ => ⟨error, after, refused⟩
  | checkIn request =>
    exact (Engine.admission_cases request engine).imp_left
      fun ⟨error, after, refused, _⟩ => ⟨error, after, refused⟩

theorem refused_unwritten {error : EngineError} {after : Engine}
    (refused : request.entrance.perform engine = (.error error, after)) :
    (request.operation.run engine).store = (request.arrival.perform engine).2.store := by
  cases request with
  | plan request mode =>
    obtain ⟨unrecorded, unplanned⟩ := Engine.registration_error request mode refused
    rw [operation, Operation.updatePlan_run, unplanned, arrival, perform_bind_error unrecorded]
  | checkIn request =>
    have quiet : (Engine.checkIn { request with updateCheck := false }).perform engine =
        (.error error, after) := Engine.checkIn_refused refused
    rw [operation, Operation.checkIn_run, Engine.checkIn_refused refused, arrival,
      perform_bind_error quiet]

theorem findsReported (reached : Reachable engine) (asks : request.asksOnly = true)
    (letIn : request.entrance.perform engine = (.ok (applicationId, group), entered))
    (admitted : Engine.Admitted engine (request.registration applicationId group) applicationId
      group entered) :
    ∃ row, request.FindsReported engine applicationId group row entered := by
  obtain ⟨located, -⟩ := Engine.enter_ok letIn
  obtain ⟨row, found, member, version⟩ := admitted.row
  rw [registration_instanceId] at found
  rw [registration_version] at version
  have stored : entered.store.groups.get? group.id = some group := by
    obtain ⟨groupId, asked⟩ := admitted.located.stored
    rw [admitted.groups, reached.keyed.groups groupId group asked, asked]
  suffices (request.arrival.perform engine).2 = entered ∧
      (request.operation.run engine).store = (request.decision applicationId group entered).2 from
    ⟨row, located, admitted, this.1, found, member, version, this.2⟩
  cases request with
  | plan request mode =>
    obtain ⟨⟨record, recorded⟩, planned⟩ := Engine.registration_ok request mode letIn
    rw [arrival, perform_bind_ok recorded, operation, Operation.updatePlan_run, planned,
      Engine.perform_onStore]
    exact ⟨rfl, rfl⟩
  | checkIn request =>
    obtain ⟨asked, none⟩ := (Bool.and_eq_true _ _).mp asks
    have applied : (request.events.mapM (Engine.acknowledge applicationId group
        request.instanceId)).perform entered = (.ok [], entered) := by
      rw [List.isEmpty_iff.mp none]
      rfl
    obtain ⟨-, arrives, -⟩ := arrived_checkIn admitted letIn applied
    refine ⟨congrArg Prod.snd arrives, ?_⟩
    rw [operation, Operation.checkIn_run, checkIn_concludes asks letIn]
    exact (Engine.conclude_denial asked (admitted.keyed reached.keyed) stored (Prod.ext rfl rfl)).1

def decisionStep (request : UpdateRequest) (engine : Engine) : Step :=
  ⟨(request.arrival.perform engine).2, .decision, request.operation.run engine⟩

theorem steps_of_asksOnly (asks : request.asksOnly = true) (engine : Engine) :
    request.operation.steps engine =
      [⟨engine, .arrival, (request.arrival.perform engine).2⟩, request.decisionStep engine] := by
  cases request with
  | plan request mode =>
    rw [decisionStep, ← (Operation.run_updatePlan request mode engine).2]
    rfl
  | checkIn request =>
    obtain ⟨-, none⟩ := (Bool.and_eq_true _ _).mp asks
    have start : Operation.midway engine request 0 =
        ((UpdateRequest.checkIn request).arrival.perform engine).2 := by
      rw [arrival_checkIn, Operation.midway, Operation.checkIn_run, CheckInRequest.upTo,
        List.take_zero, ← List.isEmpty_iff.mp none]
    rw [decisionStep, ← start, operation, Operation.steps, Operation.eventSteps,
      List.isEmpty_iff.mp none]
    rfl

theorem decisionStep_mem (asks : request.asksOnly = true) (engine : Engine) :
    request.decisionStep engine ∈ request.operation.steps engine := by
  rw [steps_of_asksOnly asks]
  exact List.mem_cons_of_mem _ List.mem_cons_self

-- Recording a request completes nothing, so it is the decision that does.
theorem eq_decisionStep_of_completes (keyed : engine.store.Keyed) (asks : request.asksOnly = true)
    {step : Step} (member : step ∈ request.operation.steps engine) {row : Installation}
    (completes : step.Completes row) : step = request.decisionStep engine := by
  have late := completes.not_arrival (Operation.effect_steps keyed request.operation step member)
  rw [steps_of_asksOnly asks, List.mem_cons, List.mem_singleton] at member
  exact member.resolve_left fun first => late (by rw [first])

theorem FindsReported.recorded {row : Installation}
    (finds : request.FindsReported engine applicationId group row entered) :
    entered.store.history = engine.store.history := by
  obtain ⟨_, machine, rfl⟩ := finds.admitted.recorded
  exact recordCheckIn_history engine.store machine _

theorem FindsReported.decision {row : Installation}
    (finds : request.FindsReported engine applicationId group row entered)
    (own : row.key = Installation.keyOf request.instanceId applicationId) :
    CheckIn.Decision entered.config entered.now group row request.mode entered.store
      (request.decision applicationId group entered).1 (request.operation.run engine).store := by
  rw [finds.decided]
  exact CheckIn.decide_cases entered.config entered.now applicationId group request.instanceId
    request.mode finds.found own

-- A request that is refused writes nothing, so one that completes an installation was let in.
theorem findsReported_of_completes (reached : Reachable engine) (asks : request.asksOnly = true)
    {row : Installation} (completes : (request.decisionStep engine).Completes row) :
    ∃ applicationId group old entered,
      request.FindsReported engine applicationId group old entered := by
  rcases request.entrance_cases engine with
    ⟨error, after, refused⟩ | ⟨applicationId, group, entered, letIn, admitted⟩
  · exact absurd (congrArg Store.installations (refused_unwritten refused))
      completes.installations_ne
  · obtain ⟨old, finds⟩ := findsReported reached asks letIn admitted
    exact ⟨applicationId, group, old, entered, finds⟩

end UpdateRequest

/--
A request that reports no events and has its installation completed leaves it at the version it
reports, or at the one that was granted last if that is newer, and history gets one entry that says
the same. The granted version is newer only if the target of the group may not go to the channel,
or is older than the one that the grant was made towards.
-/
theorem closed_at_later_version {engine : Engine} (reached : Reachable engine)
    {request : UpdateRequest} (asks : request.asksOnly = true) {step : Step}
    (member : step ∈ request.operation.steps engine) {row : Installation}
    (completes : step.Completes row) :
    ∃ applicationId group channel target granted grantedTarget,
      (request.operation.locator.perform engine).1 = .ok (applicationId, group) ∧
      CheckIn.groupTarget? engine.store group = some (channel, target) ∧
      row.grantedVersion = some granted ∧ row.grantedTarget = some grantedTarget ∧
      (request.operation.run engine).store.installation? request.instanceId applicationId =
        some row ∧
      (request.operation.run engine).store.history =
        engine.store.history ++ [row.historyEntry engine.now none] ∧
      row.version =
        (if Version.isOlder request.version granted then granted else request.version) ∧
      (Version.isOlder request.version granted = true →
        target.isBlacklistedFor channel.id = true ∨
          Version.isOlder target.version grantedTarget = true) := by
  have moments := Operation.forall_moments reached (reached.step request.operation trivial)
    (fun other _ => reached.step other trivial) step member
  obtain rfl := UpdateRequest.eq_decisionStep_of_completes reached.keyed asks member completes
  obtain ⟨applicationId, group, old, entered, finds⟩ :=
    UpdateRequest.findsReported_of_completes reached asks completes
  have stored := completes.stored
  have fresh := completes.fresh
  dsimp only [UpdateRequest.decisionStep] at stored fresh moments
  rw [finds.arrival] at fresh moments
  have own := moments.1.keyed.installations _ old finds.found
  obtain ⟨channel, target, targeted, needless, hadGrant, rfl, noted, -⟩ :=
    (finds.decision own).completes stored completes.complete fresh
  have found : entered.store.installations.get? old.key = some old := by
    rw [own]
    exact finds.found
  obtain ⟨granted, hadVersion⟩ := Option.isSome_iff_exists.mp hadGrant
  have consistent := moments.1.onRecord.consistent _ old found
  obtain ⟨grantedTarget, hadTarget⟩ : ∃ grantedTarget, old.grantedTarget = some grantedTarget :=
    Option.isSome_iff_exists.mp
      (consistent.whole.2.trans (consistent.whole.1.symm.trans hadGrant))
  refine ⟨applicationId, group, channel, target, granted, grantedTarget, finds.located, ?_,
    hadVersion, hadTarget, ?_, ?_, ?_, fun newer => ?_⟩
  · rwa [CheckIn.groupTarget_congr finds.admitted.catalog.store rfl] at targeted
  · rwa [installation?, ← own]
  · -- It was not complete before, so this is an entry of its own.
    have unfinished : old.status ≠ .complete := by
      rw [Installation.moved_key, found] at fresh
      simpa using fresh
    rw [noted.fleet.history, rewriteRow, finds.recorded, finds.admitted.catalog.now]
    exact if_neg unfinished
  · simp only [Installation.moved, Installation.versionAfter, hadVersion, finds.version]
  · by_cases blacklisted : target.isBlacklistedFor channel.id = true
    · exact .inl blacklisted
    · refine .inr ((moments.1.grantWithin _ old found).target_older hadVersion hadTarget ?_
        (consistent.targetReads _ hadTarget) (finds.version ▸ newer) ?_)
      · obtain ⟨_, _, -, -, -, package⟩ := CheckIn.groupTarget_eq_some_iff.mp targeted
        exact moments.1.readable.versions _ target package
      · rw [← Bool.not_eq_true]
        exact fun behind => needless ⟨targeted, by simpa using blacklisted, behind⟩

namespace UpdateRequest

def askedAgain (version : String) : UpdateRequest :=
  .checkIn { hostCheckIn with version }

end UpdateRequest

theorem closed_at_later_version_grantedTarget :
    let engine := Operation.runAll {} Operation.grantedTarget
    let request := UpdateRequest.askedAgain "3.0.0"
    let row := Installation.done "host" "3.0.0" "3.0.0"
    Reachable engine ∧ request.asksOnly = true ∧ (request.decisionStep engine).Completes row ∧
      (request.operation.run engine).store.history =
        engine.store.history ++ [row.historyEntry engine.now none] ∧
      row.version = request.version := by
  intro engine request row
  have reached : Reachable engine := (ReachableBy.start {} rfl).runAll (by decide +kernel)
  have asks : request.asksOnly = true := rfl
  have completes : (request.decisionStep engine).Completes row :=
    ⟨by decide +kernel, rfl, by decide +kernel⟩
  obtain ⟨_, _, _, _, _, _, -, -, -, -, -, history, -, -⟩ := closed_at_later_version reached asks
    (UpdateRequest.decisionStep_mem asks engine) completes
  exact ⟨reached, asks, completes, history, rfl⟩

def Operation.targetTakenBack : List Operation :=
  grantedTarget ++
    [ .updateChannel
        { id := "stable", name := "Stable", color := "", applicationId := "agent"
          architecture := .amd64, packageId := some "bridge", createdAt := 0 } ]

-- The host still runs what it had, which is enough now, and is said to have what it was given.
theorem closed_beyond_reported_takenBack :
    let engine := Operation.runAll {} Operation.targetTakenBack
    let request := UpdateRequest.askedAgain "2.5.0"
    let row := Installation.done "host" "3.0.0" "3.0.0"
    Reachable engine ∧ request.asksOnly = true ∧
      engine.store.targetOf "fleet" = some "2.0.0" ∧
      (request.outcome.perform engine).1 = .ok (.noUpdate .noUpdateAvailable) ∧
      request.decisionStep engine ∈ request.operation.steps engine ∧
      (request.decisionStep engine).Completes row ∧
      (request.operation.run engine).store.history =
        engine.store.history ++ [row.historyEntry engine.now none] ∧
      request.version = "2.5.0" ∧ row.version = "3.0.0" := by
  intro engine request row
  exact ⟨(ReachableBy.start {} rfl).runAll (by decide +kernel), rfl, by decide +kernel,
    by decide +kernel, UpdateRequest.decisionStep_mem rfl engine,
    ⟨by decide +kernel, rfl, by decide +kernel⟩, by decide +kernel, rfl, rfl⟩

end FleetRollout

import FleetRollout.Proofs.Path

set_option autoImplicit false

/-!
The status of an installation over its life. Each step of a run moves it along in one of few ways;
as long as an update is in flight it only goes forward, with the grant it began with.
-/

namespace FleetRollout

open Store FleetRollout.Action

def Status.Onward (current next : Status) : Prop :=
  ∃ reached ∈ current.rank, ∃ reported ∈ next.rank, reached ≤ reported

/-- How a step may change the status of an installation, by the stage that the step is of. -/
inductive StatusMove (before : Engine) (row : Installation) : Stage → Installation → Prop where
  | kept (stage : Stage) (version : String) (lastCheckAt : Nat) :
      StatusMove before row stage { row with version, lastCheckAt }
  | reset {changed : Installation} (elsewhere : changed.groupId ≠ row.groupId)
      (undefined : changed.status = .undefined) : StatusMove before row .arrival changed
  | progressed {changed : Installation} (event : ProgressEvent)
      (inFlight : row.status.isInFlight = true)
      (onward : changed.status = .error ∨ row.status.Onward changed.status) :
      StatusMove before row (.event event) changed
  | granted {changed : Installation} {group : Group} {channel : Channel} {target : Package}
      (idle : row.status ∈ [Status.undefined, .complete, .error, .onHold])
      (status : changed.status = .updateGranted)
      (asks : CheckIn.Asks before.store row group channel target)
      (admitted : (enforcePolicy group target.version before.now).perform before.store =
        (.ok (), before.store)) : StatusMove before row .decision changed
  | held {changed : Installation} {group : Group} {channel : Channel} {target : Package}
      {denial : Denial} (idle : row.status ∈ [Status.undefined, .complete, .error, .onHold])
      (status : changed.status = .onHold)
      (asks : CheckIn.Asks before.store row group channel target)
      (denied : ((enforcePolicy group target.version before.now).perform before.store).1 =
        .error (.denied denial)) : StatusMove before row .decision changed
  | closed {changed : Installation} (granted : row.grantedVersion.isSome = true)
      (unfinished : row.status ∈ [Status.undefined, .updateGranted, .error, .onHold])
      (status : changed.status = .complete) : StatusMove before row .decision changed

/-- The same grant, and an update in flight that has not gone back. -/
structure Installation.Onward (row later : Installation) : Prop where
  group : later.groupId = row.groupId
  grantedAt : later.grantedAt = row.grantedAt
  grantedVersion : later.grantedVersion = row.grantedVersion
  grantedTarget : later.grantedTarget = row.grantedTarget
  status : row.status.Onward later.status

namespace Status

theorem mem_of_idle {status : Status} (idle : status.isInFlight = false) :
    status ∈ [Status.undefined, .complete, .error, .onHold] := by
  cases status <;> simp [isInFlight] at idle ⊢

theorem Onward.refl {status : Status} (inFlight : status.isInFlight = true) :
    status.Onward status := by
  cases status <;> simp [isInFlight, Onward, rank] at inFlight ⊢

theorem Onward.trans {first second third : Status} (head : first.Onward second)
    (tail : second.Onward third) : first.Onward third := by
  obtain ⟨reached, here, reported, there, forward⟩ := head
  obtain ⟨_, same, latest, last, further⟩ := tail
  obtain rfl := Option.mem_unique there same
  exact ⟨reached, here, latest, last, forward.trans further⟩

theorem onward_of_reported {status next : Status} {event : ProgressEvent}
    (inFlight : status.isInFlight = true) (leads : event.status = .ok (some next))
    (forward : status.isRegression next = false) : next = .error ∨ status.Onward next := by
  have reported := CheckIn.event_status_ok leads
  cases status <;> cases next <;>
    simp_all [isInFlight, isRegression, Onward, rank]

end Status

section Turns

variable {before : Engine} {stage : Stage} {key : String} {row changed : Installation}

theorem Installation.seen_cases (row : Installation) (sighting : Sighting) :
    row.seen sighting =
        { row with version := sighting.version, lastCheckAt := sighting.time } ∨
      sighting.groupId ≠ row.groupId ∧ row.seen sighting =
        { row with
          version := sighting.version
          lastCheckAt := sighting.time
          groupId := sighting.groupId
          status := .undefined
          inProgress := false } := by
  unfold Installation.seen
  split
  next => exact .inl rfl
  next left => exact .inr ⟨Ne.symm left, rfl⟩

theorem Turn.inProgress {old : Option Installation} (turn : Turn before stage key old changed)
    (agrees : ∀ row ∈ old, row.inProgress = row.status.isInFlight) :
    changed.inProgress = changed.status.isInFlight := by
  cases turn with
  | seen row sighting =>
    rcases row.seen_cases sighting with same | ⟨-, reset⟩
    · rw [same]
      exact agrees row rfl
    · rw [reset]
      rfl
  | _ => rfl

theorem Turn.statusMove (turn : Turn before stage key (some row) changed)
    (agrees : row.inProgress = row.status.isInFlight) : StatusMove before row stage changed := by
  cases turn with
  | seen _ sighting =>
    rcases row.seen_cases sighting with same | ⟨left, reset⟩
    · rw [same]
      exact .kept .arrival sighting.version sighting.time
    · rw [reset]
      exact .reset left rfl
  | @reported _ _ event next running leads forward =>
    have inFlight := agrees.symm.trans running
    exact .progressed event inFlight (Status.onward_of_reported inFlight leads forward)
  | closed _ granted unfinished => exact .closed granted unfinished rfl
  | held _ asks denied => exact .held (Status.mem_of_idle asks.idle) rfl asks denied
  | granted _ version asks admitted =>
    exact .granted (Status.mem_of_idle asks.idle) rfl asks admitted

theorem Turn.onward (turn : Turn before stage key (some row) changed)
    (inFlight : row.status.isInFlight = true) (still : changed.status.isInFlight = true) :
    row.Onward changed := by
  cases turn with
  | seen _ sighting =>
    rcases row.seen_cases sighting with same | ⟨-, reset⟩
    · rw [same]
      exact ⟨rfl, rfl, rfl, rfl, .refl inFlight⟩
    · rw [reset] at still
      cases still
  | @reported _ _ event next running leads forward =>
    refine ⟨rfl, rfl, rfl, rfl, ?_⟩
    rcases Status.onward_of_reported inFlight leads forward with rfl | onward
    · cases still
    · exact onward
  -- The other ends and a hold are not in flight, and a grant is for those that are idle.
  | closed | held => cases still
  | granted _ version asks => exact absurd inFlight (by simp [asks.idle])

end Turns

structure Step.Lawful (step : Step) : Prop where
  -- Nobody is forgotten, and the status moves as it may.
  moves : ∀ key row, step.before.store.installations.get? key = some row →
    ∃ changed, step.after.store.installations.get? key = some changed ∧
      StatusMove step.before row step.stage changed
  -- Whoever was unknown comes in by a check-in, undefined.
  first : ∀ key row, step.before.store.installations.get? key = none →
    step.after.store.installations.get? key = some row →
      step.stage = .arrival ∧ row.status = .undefined

/-- Exactly the updates in flight are in progress. -/
def Engine.Agrees (engine : Engine) : Prop :=
  ∀ key row, engine.store.installations.get? key = some row →
    row.inProgress = row.status.isInFlight

section Effects

variable {step : Step}

theorem Effect.lawful (effect : Effect step.stage step.before step.after)
    (agrees : step.before.Agrees) : step.Lawful := by
  constructor
  case moves =>
    intro key row found
    rcases effect.lookup key with same | ⟨changed, present, turn⟩
    · exact ⟨row, same.trans found, .kept _ row.version row.lastCheckAt⟩
    · rw [found] at turn
      exact ⟨changed, present, turn.statusMove (agrees key row found)⟩
  case first =>
    intro key row unknown found
    rcases effect.lookup key with same | ⟨changed, present, turn⟩
    · rw [same, unknown] at found
      cases found
    · obtain rfl := Option.some.inj (present.symm.trans found)
      rw [unknown] at turn
      generalize step.stage = stage at turn
      cases turn
      exact ⟨rfl, rfl⟩

theorem Effect.agrees (effect : Effect step.stage step.before step.after)
    (agrees : step.before.Agrees) : step.after.Agrees := by
  intro key row found
  rcases effect.lookup key with same | ⟨changed, present, turn⟩
  · exact agrees key row (same.symm.trans found)
  · obtain rfl := Option.some.inj (present.symm.trans found)
    exact turn.inProgress (agrees key)

end Effects

theorem Reachable.agrees {engine : Engine} (reached : Reachable engine) : engine.Agrees := by
  refine reached.of_kept (P := Engine.Agrees) (fun engine empty key row found => ?_)
    fun _ effect _ _ => effect.agrees
  rw [empty] at found
  cases found

def Engine.InFlight (key : String) (moment : Engine) : Prop :=
  ∃ row, moment.store.installations.get? key = some row ∧ row.status.isInFlight = true

def Engine.Advances (key : String) (before after : Engine) : Prop :=
  ∃ row later, before.store.installations.get? key = some row ∧
    after.store.installations.get? key = some later ∧ row.Onward later

instance (key : String) : IsTrans Engine (Engine.Advances key) where
  trans _ _ _ := by
    rintro ⟨row, between, found, known, head⟩ ⟨same, later, stored, present, tail⟩
    obtain rfl := Option.some.inj (known.symm.trans stored)
    exact ⟨row, later, found, present, tail.group.trans head.group,
      tail.grantedAt.trans head.grantedAt, tail.grantedVersion.trans head.grantedVersion,
      tail.grantedTarget.trans head.grantedTarget, head.status.trans tail.status⟩

theorem Effect.advances {before after : Engine} {stage : Stage} {key : String}
    (effect : Effect stage before after) (inFlight : before.InFlight key)
    (still : after.InFlight key) : before.Advances key after := by
  obtain ⟨row, found, inFlight⟩ := inFlight
  obtain ⟨later, present, still⟩ := still
  refine ⟨row, later, found, present, ?_⟩
  rcases effect.lookup key with same | ⟨changed, stored, turn⟩
  · rw [same, found] at present
    obtain rfl := Option.some.inj present
    exact ⟨rfl, rfl, rfl, rfl, .refl inFlight⟩
  · obtain rfl := Option.some.inj (stored.symm.trans present)
    rw [found] at turn
    exact turn.onward inFlight still

/--
Every step of a run changes the status of an installation lawfully; and through every stretch of
states in which its update stays in flight it keeps to one grant and never goes back.
-/
theorem status_lifecycle {start : Engine} (reached : Reachable start)
    (operations : List Operation) :
    (∀ step ∈ Operation.trace start operations, step.Lawful) ∧
      ∀ key, ∀ stretch, stretch <:+: Operation.path start operations →
        (∀ moment ∈ stretch, moment.InFlight key) → stretch.Pairwise (Engine.Advances key) := by
  have effects := Operation.effect_trace reached operations
  constructor
  · intro step member
    have before := (Operation.reachable_trace reached operations step member).1
    exact (effects step member).lawful before.agrees
  · intro key stretch inside inFlight
    -- Along the stretch each state advances on the one before it, and advancing is transitive.
    have chain : (Operation.path start operations).IsChain fun before after =>
        before.InFlight key → after.InFlight key → before.Advances key after := by
      rw [Operation.path_eq]
      exact (Operation.linked_trace start operations).isChain fun step member =>
        (effects step member).advances
    obtain ⟨front, back, whole⟩ := inside
    rw [← whole] at chain
    have through := chain.left_of_append.right_of_append
    refine List.isChain_iff_pairwise.mp (through.imp_of_mem_imp ?_)
    intro before after here there advances
    exact advances (inFlight before here) (inFlight after there)

-- An update to the end, with an event that comes late, and the grant of the next one.
def Operation.wholeUpdate : List Operation :=
  [ .updatePlan .firstContact .single,
    .checkIn
      { instanceId := "host", ip := "10.0.0.1", version := "1.0.0", applicationId := "agent"
        track := "fleet", architecture := "amd64"
        events := [{ kind := 13, result := 1 }, { kind := 800, result := 1 },
          { kind := 14, result := 1 }, { kind := 3, result := 2 }] } ]

theorem status_lifecycle_wholeUpdate :
    let start := Operation.runAll {} Operation.smallCatalog
    let path := Operation.path start Operation.wholeUpdate
    (∀ step ∈ Operation.trace start Operation.wholeUpdate, step.Lawful) ∧
      (∀ key, ∀ stretch, stretch <:+: path → (∀ moment ∈ stretch, moment.InFlight key) →
        stretch.Pairwise (Engine.Advances key)) ∧
      path.map (fun moment => (moment.store.installations.get? "agent:host").map (·.status)) =
        [none, some .undefined, some .updateGranted, some .updateGranted, some .downloading,
          some .installed, some .installed, some .complete, some .updateGranted] := by
  intro start path
  have reached : Reachable start := (ReachableBy.start {} rfl).runAll (by decide +kernel)
  obtain ⟨lawful, forward⟩ := status_lifecycle reached Operation.wholeUpdate
  exact ⟨lawful, forward, by decide +kernel⟩

end FleetRollout

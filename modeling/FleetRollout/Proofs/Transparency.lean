import FleetRollout.Proofs.Directory

set_option autoImplicit false

/-!
What the engine remembers shows in no answer. Two engines that differ only in what they remember,
and both look names up as if they remembered nothing, answer alike for ever after.
-/

namespace FleetRollout

open Store FleetRollout.Action

namespace Action

variable {σ α β : Type} {alike : σ → σ → Prop}

/-- The action does not see what tells states that are alike apart, and makes them no less alike. -/
def Blind (alike : σ → σ → Prop) (action : Action σ α) : Prop :=
  ∀ left right, alike left right →
    (action.perform left).1 = (action.perform right).1 ∧
      alike (action.perform left).2 (action.perform right).2

theorem blind_bind {first : Action σ α} {next : α → Action σ β} (head : Blind alike first)
    (tail : ∀ value, Blind alike (next value)) : Blind alike (first >>= next) := by
  intro left right same
  obtain ⟨answers, states⟩ := head left right same
  -- The answers are equal, so both stop at the first action or both go on with one value.
  rw [perform_bind, perform_bind]
  generalize first.perform left = leftward, first.perform right = rightward at answers states ⊢
  obtain ⟨answer, after⟩ := leftward
  obtain ⟨other, after'⟩ := rightward
  obtain rfl : answer = other := answers
  cases answer with
  | error error => exact ⟨rfl, states⟩
  | ok value => exact tail value after after' states

theorem blind_tryCatch {action : Action σ α} {handler : EngineError → Action σ α}
    (body : Blind alike action) (handled : ∀ error, Blind alike (handler error)) :
    Blind alike (tryCatch action handler) := by
  intro left right same
  obtain ⟨answers, states⟩ := body left right same
  rw [perform_tryCatch, perform_tryCatch]
  generalize action.perform left = leftward, action.perform right = rightward at answers states ⊢
  obtain ⟨answer, after⟩ := leftward
  obtain ⟨other, after'⟩ := rightward
  obtain rfl : answer = other := answers
  cases answer with
  | error error => exact handled error after after' states
  | ok value => exact ⟨rfl, states⟩

theorem blind_composes : Composes (fun action : Action σ _ => Blind alike action) where
  pure _ := fun _ _ same => ⟨rfl, same⟩
  throw _ := fun _ _ same => ⟨rfl, same⟩
  bind := blind_bind
  tryCatch := blind_tryCatch

end Action

namespace Engine

-- Reading the state is harmless where no use is made of what the states may differ in.
theorem blind_reading {alike : Engine → Engine → Prop}
    (data : ∀ left right, alike left right →
      ∃ directory nextId, right = { left with directory, nextId }) :
    ComposesReading (fun action : Action Engine _ => Blind alike action) where
  toComposes := blind_composes
  reads := by
    intro _ next unseen each left right same
    have further := each left left right same
    obtain ⟨directory, nextId, rfl⟩ := data left right same
    rwa [perform_bind_ok (perform_get _), perform_bind_ok (perform_get _),
      unseen left directory nextId]

/-- The same data, and on the right no index of tracks is remembered that the left has not. -/
def Trails (left right : Engine) : Prop :=
  ∃ directory, right = { left with directory } ∧
    (left.directory.tracks = none → directory.tracks = none)

theorem Trails.data {left right : Engine} (trails : Trails left right) :
    ∃ directory nextId, right = { left with directory, nextId } := by
  obtain ⟨directory, rfl, -⟩ := trails
  exact ⟨directory, left.nextId, rfl⟩

theorem blind_onStore {α : Type} (action : Action Store α) : Blind Trails (onStore action) := by
  rintro left _ ⟨directory, rfl, fewer⟩
  exact ⟨rfl, directory, rfl, fewer⟩

theorem blind_modify {change : Engine → Engine}
    (blindly : ∀ engine directory, change { engine with directory } =
      { change engine with directory }) : Blind Trails (modify change : Action Engine PUnit) := by
  rintro left _ ⟨directory, rfl, fewer⟩
  have remembered : (change left).directory = left.directory := by
    have same := congrArg Engine.directory (blindly left left.directory)
    exact same
  refine ⟨rfl, directory, blindly left directory, fun unknown => fewer ?_⟩
  rwa [← remembered]

theorem trails_writes : HoldsOfWrites (fun action : Action Engine _ => Blind Trails action) where
  toComposesReading := blind_reading fun _ _ => Trails.data
  onStore := blind_onStore
  write _ := blind_modify fun _ _ => rfl
  idOrNew given := by
    rintro left _ ⟨directory, rfl, fewer⟩
    cases given <;> exact ⟨rfl, directory, rfl, fewer⟩
  forgetApplications := by
    rintro left _ ⟨directory, rfl, fewer⟩
    exact ⟨rfl, directory.forgetApplications, rfl, fewer⟩
  forgetTracks := by
    rintro left _ ⟨directory, rfl, -⟩
    exact ⟨rfl, directory.forgetTracks, rfl, fun _ => rfl⟩
  reopen := by
    rintro left _ ⟨directory, rfl, -⟩
    exact ⟨rfl, {}, rfl, fun _ => rfl⟩
  setNow _ := blind_modify fun _ _ => rfl
  advance _ := blind_modify fun _ _ => rfl

-- Engines of which the right one trails, and that look names up as if nothing were remembered.
structure Alike (left right : Engine) : Prop where
  trails : Trails left right
  left : left.Finds
  right : right.Finds

theorem blind_of_carried {α : Type} {action : Action Engine α} (agrees : Blind Trails action)
    (carried : Keeps (Carries Finds) action) : Blind Alike action := by
  intro left right alike
  obtain ⟨answers, trails⟩ := agrees left right alike.trails
  exact ⟨answers, trails, carried left alike.left, carried right alike.right⟩

theorem blind_lookup {α : Type} {action : Action Engine α} (data : Keeps SameData action)
    (carried : Keeps (Carries Finds) action)
    (reopened : ∀ engine : Engine, engine.Finds →
      (action.perform engine).1 = (action.perform engine.reopen).1)
    (fewer : ∀ left right : Engine,
      (left.directory.tracks = none → right.directory.tracks = none) →
        (action.perform left).2.directory.tracks = none →
          (action.perform right).2.directory.tracks = none) : Blind Alike action := by
  intro left right alike
  obtain ⟨directory, rfl, fewerBefore⟩ := alike.trails
  refine ⟨?_, ?_, carried left alike.left, carried _ alike.right⟩
  -- Reopened, both are the same engine.
  · rw [reopened left alike.left, reopened _ alike.right]
    rfl
  · have fewerAfter := fewer left { left with directory } fewerBefore
    obtain ⟨leftDirectory, leftAfter⟩ := data left
    obtain ⟨rightDirectory, rightAfter⟩ := data { left with directory }
    rw [leftAfter, rightAfter] at fewerAfter ⊢
    exact ⟨rightDirectory, rfl, fewerAfter⟩

theorem blind_findApplication (external : String) : Blind Alike (findApplication external) := by
  refine blind_lookup (sameData_keptByLookups.application external)
    (finds_keptByParts.application external)
    (fun _ finds => findApplication_reopen finds.applications external) fun left right fewer => ?_
  rw [perform_findApplication, perform_findApplication]
  unfold Directory.findApplication
  split <;> exact fewer

theorem blind_findGroup (applicationId track : String) (architecture : Architecture) :
    Blind Alike (findGroup applicationId track architecture) := by
  refine blind_lookup (sameData_keptByLookups.group applicationId track architecture)
    (finds_keptByParts.group applicationId track architecture)
    (fun _ finds => findGroup_reopen finds.tracks applicationId track architecture)
    fun left right _ unknown => ?_
  rw [perform_findGroup] at unknown
  simp [Directory.findGroup] at unknown

theorem alike_parts : HoldsOfParts (fun action : Action Engine _ => Blind Alike action) where
  toComposesReading := blind_reading fun _ _ alike => alike.trails.data
  application := blind_findApplication
  group := blind_findGroup
  register now request applicationId groupId :=
    blind_of_carried (blind_onStore _)
      (finds_keptByParts.register now request applicationId groupId)
  applyEvent now applicationId group instanceId event :=
    blind_of_carried (blind_onStore _)
      (finds_keptByParts.applyEvent now applicationId group instanceId event)
  decide config now applicationId group instanceId mode :=
    blind_of_carried (blind_onStore _)
      (finds_keptByParts.decide config now applicationId group instanceId mode)

end Engine

namespace Operation

theorem uproots_congr {left right : Engine} (trails : Engine.Trails left right)
    (operation : Operation) : operation.uproots right = operation.uproots left := by
  cases operation with
  | createChannel new =>
    obtain ⟨_, after, -⟩ := (Engine.trails_writes.createChannel
      (Engine.trails_writes.idOrNew new.id) left right trails).2
    obtain ⟨_, rfl, -⟩ := trails
    rw [uproots, createChannel_run, after]
    rfl
  | _ => rfl

theorem leavesStale_of_trails {left right : Engine} (trails : Engine.Trails left right)
    {operation : Operation} (current : operation.leavesStale left = false) :
    operation.leavesStale right = false := by
  rw [leavesStale, uproots_congr trails]
  obtain ⟨directory, rfl, fewer⟩ := trails
  cases remembered : left.directory.tracks with
  | none => simp [fewer remembered]
  | some index =>
    have rooted : operation.uproots left = false := by
      simpa [leavesStale, remembered] using current
    rw [rooted, Bool.false_and]

theorem run_alike {left right : Engine} (alike : Engine.Alike left right) {operation : Operation}
    (current : operation.leavesStale left = false) :
    (operation.action.perform left).1 = (operation.action.perform right).1 ∧
      Engine.Alike (operation.run left) (operation.run right) := by
  have parts := Engine.alike_parts
  cases serves : operation.isRequest with
  | true =>
    rw [run, run]
    exact action_serves parts serves left right alike
  | false =>
    cases looks : operation.looksUp with
    | true =>
      rw [run, run]
      exact action_looksUp parts.toHoldsOfLookups looks left right alike
    -- Administration looks nothing up, but it changes what the indexes are taken from.
    | false =>
      obtain ⟨answered, trails⟩ :=
        action_administers Engine.trails_writes serves looks left right alike.trails
      rw [← run, ← run] at trails
      have currentToo := leavesStale_of_trails alike.trails current
      exact ⟨answered, trails, run_finds current alike.left, run_finds currentToo alike.right⟩

-- No operation of the run leaves a stale index.
abbrev Current : Engine → List Operation → Prop :=
  AllowedRun fun engine operation => operation.leavesStale engine = false

theorem answers_congr {alike : Engine → Engine → Prop} {Allowed : Engine → Operation → Prop}
    (each : ∀ {left right operation}, alike left right → Allowed left operation →
      (operation.action.perform left).1 = (operation.action.perform right).1 ∧
        alike (operation.run left) (operation.run right))
    {left right : Engine} (same : alike left right) {operations : List Operation}
    (allowed : AllowedRun Allowed left operations) :
    answers left operations = answers right operations := by
  induction operations generalizing left right with
  | nil => rfl
  | cons operation rest ih =>
    obtain ⟨answered, still⟩ := each same allowed.1
    rw [answers, answers, answered, ih still allowed.2]

theorem answers_alike {left right : Engine} (alike : Engine.Alike left right)
    {operations : List Operation} (current : Current left operations) :
    answers left operations = answers right operations :=
  answers_congr (fun same allowed => run_alike same allowed) alike current

theorem runAll_findsApplications (operations : List Operation) {engine : Engine}
    (finds : engine.FindsApplications) : (runAll engine operations).FindsApplications := by
  induction operations generalizing engine with
  | nil => exact finds
  | cons operation rest ih => exact ih (run_findsApplications operation finds)

theorem runAll_finds {operations : List Operation} {engine : Engine} (finds : engine.Finds)
    (current : Current engine operations) : (runAll engine operations).Finds := by
  induction operations generalizing engine with
  | nil => exact finds
  | cons operation rest ih => exact ih (run_finds current.1 finds) current.2

end Operation

/--
From a start at which nothing is remembered, the engine answers as if nothing ever were. Of
applications that holds without exception; of groups as long as no operation leaves a stale index.
-/
theorem directory_transparent {engine : Engine} (keyed : engine.store.Keyed)
    (cold : engine.directory = {}) (operations : List Operation) :
    let after := Operation.runAll engine operations
    (∀ external, ((Engine.findApplication external).perform after).1 =
      ((Engine.findApplication external).perform after.reopen).1) ∧
    (Operation.Current engine operations →
      (∀ applicationId track architecture,
        ((Engine.findGroup applicationId track architecture).perform after).1 =
          ((Engine.findGroup applicationId track architecture).perform after.reopen).1) ∧
      ∀ later, Operation.Current after later →
        Operation.answers after.reopen later = Operation.answers after later) := by
  have finds := Engine.finds_of_cold keyed cold
  refine ⟨fun external => ?_, fun current => ⟨fun applicationId track architecture => ?_,
    fun later stillCurrent => ?_⟩⟩
  · exact Engine.findApplication_reopen
      (Operation.runAll_findsApplications operations finds.applications) external
  · exact Engine.findGroup_reopen (Operation.runAll_finds finds current).tracks
      applicationId track architecture
  · have warm := Operation.runAll_finds finds current
    -- Reopened, the engine trails itself, and remembers nothing that could be wrong.
    have reopened : (Operation.runAll engine operations).reopen.Finds :=
      Engine.finds_of_cold warm.keyed rfl
    exact (Operation.answers_alike ⟨⟨{}, rfl, fun _ => rfl⟩, warm, reopened⟩ stillCurrent).symm

-- The channel is made anew, under another name only, once its group has been looked up.
def Operation.channelRenewed : List Operation :=
  smallCatalog ++
    [ .findApplication "agent",
      .findGroup "agent" "fleet" .amd64,
      .createChannel
        { id := some "stable", name := "Steady", applicationId := "agent"
          architecture := .amd64 } ]

theorem directory_transparent_channelRenewed :
    let after := Operation.runAll {} Operation.channelRenewed
    let later : List Operation :=
      [.findGroup "agent" "fleet" .amd64, .deleteChannel "stable",
        .findGroup "agent" "fleet" .amd64]
    Store.empty.Keyed ∧ Operation.Current {} Operation.channelRenewed ∧
      Operation.Current after later ∧
      ((Engine.findGroup "agent" "fleet" .amd64).perform after).1 = .ok (some "fleet") ∧
      ((Engine.findGroup "agent" "fleet" .amd64).perform after.reopen).1 = .ok (some "fleet") ∧
      Operation.answers after.reopen later = Operation.answers after later := by
  intro after later
  have current : Operation.Current {} Operation.channelRenewed := by decide +kernel
  have stillCurrent : Operation.Current after later := by decide +kernel
  have found :
      ((Engine.findGroup "agent" "fleet" .amd64).perform after).1 = .ok (some "fleet") := by
    decide +kernel
  obtain ⟨groups, answered⟩ :=
    (directory_transparent keyed_empty rfl Operation.channelRenewed).2 current
  refine ⟨keyed_empty, current, stillCurrent, found, ?_, answered later stillCurrent⟩
  rw [← found]
  exact (groups "agent" "fleet" .amd64).symm

-- The channel is made anew for another architecture while the index of tracks is remembered.
def Operation.channelReplaced : List Operation :=
  smallCatalog ++
    [ .findGroup "agent" "fleet" .amd64,
      .createChannel
        { id := some "stable", name := "Stable", applicationId := "agent"
          architecture := .aarch64 } ]

theorem directory_not_transparent :
    let after := Operation.runAll {} Operation.channelReplaced
    ((Engine.findGroup "agent" "fleet" .aarch64).perform after).1 = .ok none ∧
      ((Engine.findGroup "agent" "fleet" .aarch64).perform after.reopen).1 =
        .ok (some "fleet") := by
  decide +kernel

end FleetRollout

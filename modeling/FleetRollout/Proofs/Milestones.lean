import FleetRollout.Proofs.RolloutFlag

set_option autoImplicit false

/-!
Milestones in the log. One that was logged within the window is not logged again, so two entries
of the same milestone lie more than a window apart, whichever way the clock was moved between them;
and whoever is granted an update has the start of the rollout on record, no more than a window ago.
-/

namespace FleetRollout

open Store FleetRollout.Action

namespace ActivityEntry

-- Milestones of these kinds are logged once within a window.
def isOnce (entry : ActivityEntry) : Bool :=
  entry.kind = .rolloutStarted || entry.kind = .packageNotFound

/-- If both tell of the same milestone, the later entry is by more than the window the later one. -/
def Apart (window : Nat) (earlier later : ActivityEntry) : Prop :=
  later.isOnce = true → earlier.sameMilestone later = true →
    earlier.createdAt + window < later.createdAt

structure Starts (groupId version : String) (since : Nat) (entry : ActivityEntry) : Prop where
  kind : entry.kind = .rolloutStarted
  group : entry.groupId = some groupId
  version : entry.version = version
  recent : since ≤ entry.createdAt

theorem sameMilestone_self (entry : ActivityEntry) : entry.sameMilestone entry = true := by
  simp [sameMilestone]

end ActivityEntry

namespace Store

/-- The log is in the order in which it was written. -/
def Spaced (window : Nat) (store : Store) : Prop :=
  store.activity.Pairwise (ActivityEntry.Apart window)

def SameLog (before after : Store) : Prop := after.activity = before.activity

instance : IsPreorder Store SameLog where
  refl _ := rfl
  trans _ _ _ head tail := Eq.trans tail head

variable {window : Nat} {store after : Store}

theorem Spaced.of_sameLog (spaced : store.Spaced window) (same : SameLog store after) :
    after.Spaced window := by
  rwa [Spaced, same]

theorem Spaced.extend (spaced : store.Spaced window) {entries : List ActivityEntry}
    (grown : after.activity = store.activity ++ entries)
    (others : ∀ entry ∈ entries, entry.isOnce = false) : after.Spaced window := by
  have apart (earlier later : ActivityEntry) (listed : later ∈ entries) :
      earlier.Apart window later := by
    intro once
    rw [others later listed] at once
    cases once
  rw [Spaced, grown]
  refine List.pairwise_append.mpr ⟨spaced, ?_, fun earlier _ later listed => ?_⟩
  · exact List.pairwise_of_forall_mem_list fun earlier _ later listed => apart earlier later listed
  · exact apart earlier later listed

theorem Spaced.record (spaced : store.Spaced window) {entry : ActivityEntry}
    (unlogged : store.hasMilestoneSince entry (entry.createdAt - window) = false) :
    (store.recordActivity entry).Spaced window := by
  refine List.pairwise_append.mpr ⟨spaced, List.pairwise_singleton _ _, ?_⟩
  intro earlier listed later written _ same
  obtain rfl := List.mem_singleton.mp written
  -- The subtraction may be cut off at zero; then no entry is old enough for a second one.
  have old := List.any_eq_false.mp unlogged earlier listed
  simp only [same, Bool.and_true, decide_eq_true_eq] at old
  omega

end Store

theorem spaced_of_sameLog {α : Type} {action : Action Store α} (keeps : Keeps SameLog action)
    (window : Nat) : Keeps (Carries (Spaced window)) action :=
  keeps.imp fun _ _ same spaced => spaced.of_sameLog same

theorem sameLog_changeGroup (id : String) (change : Group → Group) :
    Keeps SameLog (commitOnly fun store => store.changeGroup id change) := by
  refine keeps_commitOnly fun store after changed => ?_
  obtain ⟨group, -, rfl⟩ := changeGroup_ok changed
  rfl

theorem sameLog_changeInstallation (instanceId applicationId : String) (time : Nat)
    (errorCode : Option String) (change : Installation → Installation) :
    Keeps SameLog (commit fun store =>
      store.changeInstallation instanceId applicationId time errorCode change) := by
  refine keeps_commit fun store answer after changed => ?_
  obtain ⟨row, -, -, rfl⟩ := changeInstallation_ok changed
  rfl

namespace Journal

theorem recordOnce_state (window : Nat) (entry : ActivityEntry) (store : Store) :
    ((recordOnce window entry).perform store).2 =
      if store.hasMilestoneSince entry (entry.createdAt - window) then store
      else store.recordActivity entry := by
  unfold recordOnce
  rw [perform_bind_ok (perform_get store)]
  split <;> rfl

theorem recordOnce_logged (window : Nat) (entry : ActivityEntry) (store : Store) :
    ∃ logged ∈ ((recordOnce window entry).perform store).2.activity,
      logged.sameMilestone entry = true ∧ entry.createdAt - window ≤ logged.createdAt := by
  rw [recordOnce_state]
  split
  next known =>
    obtain ⟨logged, listed, holds⟩ := List.any_eq_true.mp known
    simp only [Bool.and_eq_true, decide_eq_true_eq] at holds
    exact ⟨logged, listed, holds.2, holds.1⟩
  next =>
    exact ⟨entry, List.mem_append_right _ (List.mem_singleton_self entry),
      entry.sameMilestone_self, Nat.sub_le _ _⟩

theorem spaced_recordOnce (window : Nat) (entry : ActivityEntry) :
    Keeps (Carries (Spaced window)) (recordOnce window entry) := by
  intro store spaced
  rw [recordOnce_state]
  split
  next => exact spaced
  next unlogged => exact spaced.record (Bool.eq_false_of_not_eq_true unlogged)

theorem spaced_record (window : Nat) {entry : ActivityEntry} (other : entry.isOnce = false) :
    Keeps (Carries (Spaced window)) (record entry) :=
  fun _ spaced => spaced.extend rfl (by simpa using other)

theorem spaced_packageNotFound (window : Nat) (group : Group) (now : Nat) :
    Keeps (Carries (Spaced window)) (packageNotFound window group now) :=
  keeps_bind (spaced_recordOnce window _) fun _ => keeps_pure _

theorem sameLog_ifUnstarted (group : Group) :
    Keeps SameLog (if group.rolloutInProgress then pure ()
      else commitOnly fun store => store.setRollout group.id true) := by
  split
  · exact keeps_pure _
  · exact sameLog_changeGroup _ _

theorem spaced_rolloutStarted (window : Nat) (group : Group) (version : String) (now : Nat) :
    Keeps (Carries (Spaced window)) (rolloutStarted window group version now) :=
  keeps_bind (spaced_recordOnce window _) fun _ =>
    spaced_of_sameLog (sameLog_ifUnstarted group) window

theorem rolloutStarted_logged (window : Nat) (group : Group) (version : String) (now : Nat)
    (store : Store) :
    ∃ entry ∈ ((rolloutStarted window group version now).perform store).2.activity,
      entry.Starts group.id version (now - window) := by
  obtain ⟨entry, listed, same, recent⟩ :=
    recordOnce_logged window (group.milestone .rolloutStarted .info version now) store
  obtain ⟨isNew, entries, logged, -⟩ :=
    perform_recordOnce window (group.milestone .rolloutStarted .info version now) store
  rw [logged] at listed
  refine ⟨entry, ?_, ?_⟩
  · rw [rolloutStarted, perform_bind_ok logged, sameLog_ifUnstarted group _]
    exact listed
  · simp only [ActivityEntry.sameMilestone, Group.milestone, Bool.and_eq_true] at same
    obtain ⟨⟨⟨⟨kind, -⟩, version⟩, -⟩, own⟩ := same
    exact ⟨of_decide_eq_true kind, of_decide_eq_true own, of_decide_eq_true version, recent⟩

theorem spaced_settleRollout (window : Nat) (group : Group) (version : String) (now : Nat) :
    Keeps (Carries (Spaced window)) (settleRollout group version now) := by
  refine keeps_bind keeps_get fun store => ?_
  split
  · exact keeps_bind (spaced_of_sameLog (sameLog_changeGroup _ _) window) fun _ =>
      keeps_bind (spaced_record window rfl) fun _ => keeps_pure true
  · exact keeps_pure false

end Journal

theorem sameLog_enforcePolicy (group : Group) (version : String) (now : Nat) :
    Keeps SameLog (enforcePolicy group version now) := by
  refine keeps_bind (keeps_ofExcept _) fun isOpen => ?_
  split
  · split
    · refine keeps_bind keeps_get fun store => ?_
      split
      · exact keeps_pure ()
      · exact keeps_bind (sameLog_changeGroup _ _) fun _ => keeps_throw _
      · exact keeps_throw _
    · exact keeps_pure ()
  · exact keeps_throw _

namespace CheckIn

theorem spaced_afterEvent (window now : Nat) (group : Group) (instanceId : String)
    (row : Installation) (next : Status) :
    Keeps (Carries (Spaced window)) (afterEvent now group instanceId row next) := by
  cases next
  case complete =>
    refine keeps_bind keeps_get fun store => ?_
    split
    · exact keeps_pure ()
    · exact keeps_bind (keeps_requireGroup _) fun _ =>
        keeps_bind (Journal.spaced_settleRollout window _ _ _) fun _ => keeps_pure ()
  case error => exact Journal.spaced_record window rfl
  all_goals exact keeps_pure ()

theorem spaced_applyEvent (window now : Nat) (applicationId : String) (group : Group)
    (instanceId : String) (event : ProgressEvent) :
    Keeps (Carries (Spaced window)) (applyEvent now applicationId group instanceId event) := by
  intro store spaced
  rcases applyEvent_cases now applicationId group instanceId event store with
    unchanged | ⟨row, next, errorCode, -, -, -, -, -, -, followed⟩
  · rwa [unchanged]
  · rw [followed]
    exact spaced_afterEvent window now group instanceId (row.moved next) next _ spaced

theorem sameLog_transition (row : Installation) (status : Status) (errorCode : Option String)
    (now : Nat) : Keeps SameLog (transition row status errorCode now) :=
  sameLog_changeInstallation _ _ _ _ _

theorem spaced_closeGrant (window : Nat) (row : Installation) (group : Group) (version : String)
    (now : Nat) : Keeps (Carries (Spaced window)) (closeGrant row group version now) :=
  keeps_bind (spaced_of_sameLog (sameLog_transition _ _ _ _) window) fun _ =>
    keeps_bind (keeps_requireGroup _) fun _ =>
      keeps_bind (Journal.spaced_settleRollout window _ _ _) fun _ => keeps_pure ()

theorem spaced_holdIfDenied (window : Nat) (row : Installation) (group : Group) (version : String)
    (now : Nat) (error : EngineError) :
    Keeps (Carries (Spaced window)) (holdIfDenied row group version now error) := by
  unfold holdIfDenied
  split
  · exact keeps_pure ()
  · refine keeps_bind (spaced_of_sameLog (sameLog_transition _ _ _ _) window) fun _ => ?_
    split
    · exact Journal.spaced_record window rfl
    · exact keeps_pure ()

theorem spaced_planFor (window : Nat) (config : EngineConfig) (channel : Channel)
    (target : Package) (version : String) :
    Keeps (Carries (Spaced window)) (planFor config channel target version) :=
  keeps_bind keeps_get fun _ => keeps_bind (keeps_ofExcept _) fun _ => keeps_pure _

theorem spaced_grantUpdate (config : EngineConfig) (now : Nat) (row : Installation)
    (group : Group) (channel : Channel) (target : Package) (mode : DeliveryMode) :
    Keeps (Carries (Spaced config.dedupeSeconds))
      (grantUpdate config now row group channel target mode) := by
  refine keeps_bind (keeps_tryCatch (spaced_of_sameLog (sameLog_enforcePolicy _ _ _) _) fun error =>
      keeps_bind (spaced_holdIfDenied _ _ _ _ _ _) fun _ => keeps_throw _)
    fun _ => keeps_bind (spaced_planFor _ _ _ _ _) fun _ => keeps_bind (keeps_require _ _)
      fun _ => ?_
  exact keeps_bind (spaced_of_sameLog (sameLog_changeInstallation _ _ _ _ _) _) fun _ =>
    keeps_bind (Journal.spaced_rolloutStarted _ _ _ _) fun _ => keeps_pure _

theorem Branch.spaced {config : EngineConfig} {now : Nat} {group : Group} {row : Installation}
    {mode : DeliveryMode} {branch : Action Store UpdatePlan}
    (decides : Branch config now group row mode branch) :
    Keeps (Carries (Spaced config.dedupeSeconds)) branch := by
  cases decides with
  | inFlight | upToDate => exact keeps_throw _
  | unfound => exact keeps_bind (Journal.spaced_packageNotFound _ _ _) fun _ => keeps_throw _
  | closed version => exact keeps_bind (spaced_closeGrant _ _ _ _ _) fun _ => keeps_throw _
  | redelivered channel target => exact spaced_planFor _ _ _ _ _
  | granted channel target => exact spaced_grantUpdate _ _ _ _ _ _ _

end CheckIn

theorem Change.spaced {scope : Scope} {store after : Store} (change : Change scope store after)
    {window : Nat} (spaced : store.Spaced window) : after.Spaced window := by
  cases change with
  | channelUpdated _ _ _ _ _ _ _ _ log =>
    obtain ⟨entries, grown, announced⟩ := log
    refine spaced.extend grown fun entry listed => ?_
    simp [ActivityEntry.isOnce, announced entry listed]
  | channelGone id channel =>
    rw [withoutChannel_eq]
    exact spaced
  | packageGone id package =>
    rw [withoutPackage_eq]
    exact spaced
  | _ => exact spaced

theorem Performed.spaced {stage : Stage} {before after : Engine}
    (performed : Performed stage before after) (requested : stage ≠ .upkeep)
    (spaced : before.store.Spaced before.config.dedupeSeconds) :
    after.store.Spaced before.config.dedupeSeconds := by
  cases performed with
  | upkeep => exact absurd rfl requested
  | nothing same =>
    obtain ⟨directory, rfl⟩ := same
    exact spaced
  | arrived admitted =>
    obtain ⟨directory, machine, rfl⟩ := admitted.recorded
    exact spaced.of_sameLog (by cases machine <;> rfl)
  | reported keyed knows written =>
    rw [written]
    exact CheckIn.spaced_applyEvent _ _ _ _ _ _ _ spaced
  | decided keyed found stored written =>
    obtain ⟨branch, decides, answered⟩ := CheckIn.decide_branch before.config before.now _ _ _ _
      found
    rw [written, answered]
    exact decides.spaced _ spaced

namespace Operation

theorem config_steps (engine : Engine) (operation : Operation) :
    ∀ step ∈ operation.steps engine,
      step.before.config = engine.config ∧ step.after.config = engine.config :=
  forall_moments (P := fun moment => moment.config = engine.config) rfl
    (operation.run_config engine) fun other _ => other.run_config engine

theorem config_trace (engine : Engine) (operations : List Operation) :
    ∀ step ∈ trace engine operations,
      step.before.config = engine.config ∧ step.after.config = engine.config := by
  induction operations generalizing engine with
  | nil => simp [trace]
  | cons operation rest ih =>
    intro step member
    rcases List.mem_append.mp member with during | later
    · exact config_steps engine operation step during
    · rw [← operation.run_config engine]
      exact ih (operation.run engine) step later

theorem runAll_config (engine : Engine) (operations : List Operation) :
    (runAll engine operations).config = engine.config := by
  induction operations generalizing engine with
  | nil => rfl
  | cons operation rest ih => exact (ih _).trans (operation.run_config engine)

theorem run_spaced {engine : Engine} (keyed : engine.store.Keyed) (operation : Operation)
    (spaced : engine.store.Spaced engine.config.dedupeSeconds) :
    (operation.run engine).store.Spaced engine.config.dedupeSeconds := by
  cases serves : operation.isRequest with
  | false => exact (run_changes serves engine).spaced spaced
  | true =>
    -- The window is that of the settings, and no step of the operation changes these.
    refine (linked_steps engine operation).of_kept
      (P := fun _ moment => moment.store.Spaced engine.config.dedupeSeconds) [] spaced ?_
    intro _ step member spaced
    rw [← (config_steps engine operation step member).1] at spaced ⊢
    exact (performed_steps keyed operation step member).spaced
      (stage_of_request serves engine step member) spaced

end Operation

theorem Reachable.spaced {engine : Engine} (reached : Reachable engine) :
    engine.store.Spaced engine.config.dedupeSeconds := by
  induction reached with
  | start engine empty =>
    rw [empty]
    exact List.Pairwise.nil
  | step operation reached _ ih =>
    rw [operation.run_config]
    exact operation.run_spaced reached.keyed ih

-- Whoever is granted an update in a step had the start of the rollout logged in that step.
theorem Performed.starts_of_fresh {step : Step} {groupId : String} {row : Installation}
    (performed : Performed step.stage step.before step.after) (keyed : step.after.store.Keyed)
    (fresh : row ∈ step.freshGrants groupId) :
    ∃ target, row.grantedTarget = some target ∧ ∃ entry ∈ step.after.store.activity,
      entry.Starts groupId target (step.time - step.before.config.dedupeSeconds) := by
  have decides := (performed.effect.of_freshGrant keyed fresh).2
  obtain ⟨found, member, granted, unknown⟩ := (mem_freshGrants keyed).mp fresh
  have moved : step.before.store.installations.get? row.key ≠ some row := by
    intro known
    simp [known, granted] at unknown
  clear fresh unknown keyed
  obtain ⟨before, stage, after⟩ := step
  dsimp only at *
  cases performed with
  | upkeep | arrived | reported => cases decides
  | nothing same =>
    obtain ⟨directory, rfl⟩ := same
    exact absurd found moved
  | @decided _ _ applicationId instanceId group mode asking keyed known stored written =>
    have own : asking.key = Installation.keyOf instanceId applicationId :=
      keyed.installations _ asking known
    have decision := CheckIn.decide_cases before.config before.now applicationId group instanceId
      mode known own
    rw [← written] at decision
    generalize ((CheckIn.decide before.config before.now applicationId group instanceId
      mode).perform before.store).1 = result at decision
    generalize after.store = later at *
    -- No other installation than the one that asked is written.
    have only {changed : Installation}
        (rewritten : later.installations =
          before.store.installations.insert asking.key changed) : row = changed := by
      rw [rewritten, Table.get_insert] at found
      split at found
      next => exact (Option.some.inj found).symm
      next => exact absurd found moved
    cases decision with
    | refused calm =>
      rw [calm.noted.fleet.installations] at found
      exact absurd found moved
    | redelivered => exact absurd found moved
    | closed _ _ _ noted =>
      rw [only noted.fleet.installations] at granted
      cases granted
    | held _ _ _ calm =>
      rw [only calm.noted.fleet.installations] at granted
      cases granted
    | @granted channel target package required _ _ offered idle admitted planned delivered noted _
        starts =>
      obtain rfl := only noted.fleet.installations
      have named : group.id = groupId := (keyed.groups _ group stored).trans member
      refine ⟨target.version, rfl, ?_⟩
      rw [← named, starts]
      exact Journal.rolloutStarted_logged _ _ _ _ _

/--
However the clock is moved, of two entries that tell of the same start of a rollout or of the same
missing package, the later one is more than the window after the other; and a group that grants an
update has the start of that rollout in the log, at most a window before the grant.
-/
theorem milestones_logged_once {start : Engine} (reached : Reachable start)
    (operations : List Operation) :
    (Operation.runAll start operations).store.Spaced start.config.dedupeSeconds ∧
    ∀ step ∈ Operation.trace start operations, ∀ groupId, ∀ row ∈ step.freshGrants groupId,
      ∃ target, row.grantedTarget = some target ∧ ∃ entry ∈ step.after.store.activity,
        entry.Starts groupId target (step.time - start.config.dedupeSeconds) := by
  constructor
  · have last := Operation.reachable_runAll reached operations
    rw [← Operation.runAll_config start operations]
    exact last.spaced
  · intro step member groupId row fresh
    have keyed := (Operation.reachable_trace reached operations step member).2.keyed
    rw [← (Operation.config_trace start operations step member).1]
    exact (Operation.performed_trace reached operations step member).starts_of_fresh keyed fresh

def Operation.clockSetBack : List Operation :=
  [ .updateGroup
      { id := "fleet", name := "Fleet", description := "", applicationId := "agent"
        channelId := some "stable", policy := { safeMode := false, maxUpdatesPerPeriod := 3 }
        rolloutInProgress := false, track := "fleet", createdAt := 0 },
    .setNow 100000,
    .updatePlan .firstContact .single,
    .setNow 50000,
    .updatePlan { Registration.firstContact with instanceId := "other" } .single,
    .setNow 186401,
    .updatePlan { Registration.firstContact with instanceId := "third" } .single ]

theorem milestones_logged_once_clockSetBack :
    let start := Operation.runAll {} Operation.smallCatalog
    let last := Operation.runAll start Operation.clockSetBack
    let trace := Operation.trace start Operation.clockSetBack
    start.config.dedupeSeconds = 86400 ∧ last.store.Spaced 86400 ∧
      (last.store.activity.filter (·.isOnce)).map (·.createdAt) = [100000, 186401] ∧
      trace.flatMap (fun step => (step.freshGrants "fleet").map fun row =>
          (row.instanceId, step.time)) =
        [("host", 100000), ("other", 50000), ("third", 186401)] ∧
      ∀ step ∈ trace, ∀ row ∈ step.freshGrants "fleet", ∃ target, row.grantedTarget = some target ∧
        ∃ entry ∈ step.after.store.activity, entry.Starts "fleet" target (step.time - 86400) := by
  intro start last trace
  have reached : Reachable start := (ReachableBy.start {} rfl).runAll (by decide +kernel)
  have window : start.config.dedupeSeconds = 86400 := by decide +kernel
  obtain ⟨spaced, started⟩ := milestones_logged_once reached Operation.clockSetBack
  rw [window] at spaced started
  exact ⟨window, spaced, by decide +kernel, by decide +kernel,
    fun step member => started step member "fleet"⟩

end FleetRollout

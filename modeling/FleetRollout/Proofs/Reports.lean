import FleetRollout.Proofs.Names
import FleetRollout.Proofs.Service

set_option autoImplicit false

/-!
Progress reports made one by one. Whoever finds its group at the first report finds it at every
one, so a run of reports applies its events in turn. While nothing fails, events only lead forward:
a run of them comes to what the event that leads furthest does alone, but for the history.
-/

namespace FleetRollout

open Store FleetRollout.Action

/-- An instance, and the names it uses for its application and its group. -/
structure Reporter where
  instanceId : String
  applicationId : String
  groupId : String

namespace Reporter

def report (reporter : Reporter) (event : ProgressEvent) : EventReport :=
  { instanceId := reporter.instanceId
    applicationId := reporter.applicationId
    groupId := reporter.groupId
    event }

def operations (reporter : Reporter) (events : List ProgressEvent) : List Operation :=
  events.map fun event => .registerEvent (reporter.report event)

-- The store after the events were reported one by one, whatever became of them.
def storeAfter (reporter : Reporter) (engine : Engine) (events : List ProgressEvent) : Store :=
  (Operation.runAll engine (reporter.operations events)).store

theorem storeAfter_cons (reporter : Reporter) (engine : Engine) (event : ProgressEvent)
    (rest : List ProgressEvent) :
    reporter.storeAfter engine (event :: rest) =
      reporter.storeAfter ((Operation.registerEvent (reporter.report event)).run engine) rest := by
  rw [storeAfter, operations, List.map_cons, Operation.runAll, List.foldl_cons]
  rfl

-- The reporter's events are taken for the application and the group.
structure Finds (reporter : Reporter) (engine : Engine) (applicationId : String) (group : Group) :
    Prop where
  named : CheckIn.isInstanceId reporter.instanceId = true
  located : ((Engine.resolveGroup reporter.applicationId reporter.groupId).perform engine).1 =
    .ok (applicationId, group)

end Reporter

namespace CheckIn

theorem applyEvent_congr {group other : Group} (setup : group.setup = other.setup) (now : Nat)
    (applicationId instanceId : String) (event : ProgressEvent) :
    applyEvent now applicationId group instanceId event =
      applyEvent now applicationId other instanceId event := by
  rw [Group.eq_of_setup setup]
  rfl

end CheckIn

-- The store after an event, applied or rejected.
def Store.reported (now : Nat) (applicationId : String) (group : Group) (instanceId : String)
    (store : Store) (event : ProgressEvent) : Store :=
  ((CheckIn.applyEvent now applicationId group instanceId event).perform store).2

theorem Engine.SameNames.symm {left right : Engine} (same : Engine.SameNames left right) :
    Engine.SameNames right left := by
  obtain ⟨applications, tracks, looks, other⟩ := same.indexes
  obtain ⟨teams, apps, channels, packages, floors, groups⟩ := same.catalog
  exact ⟨⟨applications, tracks, other, looks⟩, teams.symm, apps.symm, channels.symm, packages.symm,
    floors.symm, fun id => (groups id).symm⟩

namespace Reporter

variable {reporter : Reporter} {start engine : Engine} {applicationId : String} {group : Group}

theorem Finds.again (finds : reporter.Finds start applicationId group)
    (same : Engine.SameNames start engine) :
    ∃ current, reporter.Finds engine applicationId current ∧ current.setup = group.setup := by
  have asked : (((Operation.registerEvent (reporter.report ⟨0, 0, none, none⟩)).locator.perform
      start).1 = .ok (applicationId, group)) := finds.located
  obtain ⟨current, located, setup⟩ := Operation.located_again same asked
  exact ⟨current, ⟨finds.named, located⟩, setup⟩

theorem sameNames_report (reporter : Reporter) (same : Engine.SameNames start engine)
    (event : ProgressEvent) :
    Engine.SameNames start ((Engine.registerEvent (reporter.report event)).perform engine).2 :=
  same.of_parts fun parts => parts.registerEvent (reporter.report event)

theorem Finds.perform_report (finds : reporter.Finds start applicationId group)
    (same : Engine.SameNames start engine) (event : ProgressEvent) :
    ∃ directory, (Engine.registerEvent (reporter.report event)).perform engine =
      (((CheckIn.applyEvent engine.now applicationId group reporter.instanceId event).perform
          engine.store).1,
        { engine with
          directory
          store := engine.store.reported engine.now applicationId group reporter.instanceId
            event }) := by
  -- The names are resolved anew, and lead to the group as it now is, with the setup it had.
  obtain ⟨current, again, setup⟩ := finds.again same
  obtain ⟨directory, unchanged⟩ :=
    Engine.sameData_keptByLookups.resolveGroup reporter.applicationId reporter.groupId engine
  have located : (Engine.resolveGroup reporter.applicationId reporter.groupId).perform engine =
      (.ok (applicationId, current), { engine with directory }) :=
    Prod.ext again.located unchanged
  have named : (Action.check (CheckIn.isInstanceId reporter.instanceId)
      (.invalidInstanceId reporter.instanceId)).perform engine = (.ok (), engine) :=
    check_ok.mpr ⟨again.named, rfl⟩
  refine ⟨directory, ?_⟩
  rw [Engine.registerEvent, report, perform_bind_ok named, perform_bind_ok located,
    perform_bind_ok (perform_get _), CheckIn.applyEvent_congr setup]
  rfl

theorem Finds.step (finds : reporter.Finds start applicationId group)
    (same : Engine.SameNames start engine) (event : ProgressEvent) :
    ∃ after, (Engine.registerEvent (reporter.report event)).perform engine =
        (((CheckIn.applyEvent engine.now applicationId group reporter.instanceId event).perform
          engine.store).1, after) ∧
      (Operation.registerEvent (reporter.report event)).run engine = after ∧
      (∃ directory, after = { engine with
        directory
        store := engine.store.reported engine.now applicationId group reporter.instanceId
          event }) ∧
      Engine.SameNames start after := by
  obtain ⟨directory, applied⟩ := finds.perform_report same event
  have onward := reporter.sameNames_report same event
  rw [applied] at onward
  refine ⟨_, applied, ?_, ⟨directory, rfl⟩, onward⟩
  rw [Operation.registerEvent_run, applied]

theorem Finds.storeAfter (finds : reporter.Finds start applicationId group)
    (same : Engine.SameNames start engine) (events : List ProgressEvent) :
    reporter.storeAfter engine events =
      events.foldl (Store.reported engine.now applicationId group reporter.instanceId)
        engine.store := by
  induction events generalizing engine with
  | nil => rfl
  | cons event rest ih =>
    obtain ⟨_, -, step, ⟨directory, rfl⟩, onward⟩ := finds.step same event
    rw [storeAfter_cons, step, List.foldl_cons]
    exact ih onward

theorem storeAfter_of_not_finds
    (lost : ∀ applicationId group, ¬ reporter.Finds start applicationId group)
    (same : Engine.SameNames start engine) (events : List ProgressEvent) :
    reporter.storeAfter engine events = engine.store := by
  induction events generalizing engine with
  | nil => rfl
  | cons event rest ih =>
    have onward := reporter.sameNames_report same event
    have kept : Engine.SameData engine
        ((Engine.registerEvent (reporter.report event)).perform engine).2 := by
      have looked := Engine.sameData_keptByLookups.resolveGroup reporter.applicationId
        reporter.groupId engine
      rw [Engine.registerEvent, report]
      cases named : CheckIn.isInstanceId reporter.instanceId with
      | false => exact refl_of Engine.SameData engine
      | true =>
        have admitted : (Action.check true (.invalidInstanceId reporter.instanceId)).perform
            engine = (.ok (), engine) := rfl
        rw [perform_bind_ok admitted]
        rcases located : (Engine.resolveGroup reporter.applicationId reporter.groupId).perform
          engine with ⟨error | ⟨applicationId, group⟩, between⟩
        · rw [located] at looked
          rwa [perform_bind_error located]
        · -- What is found at a later report would have been found at the start as well.
          have finds : reporter.Finds engine applicationId group := ⟨named, by rw [located]⟩
          obtain ⟨current, earlier, -⟩ := finds.again same.symm
          exact absurd earlier (lost applicationId current)
    obtain ⟨directory, unchanged⟩ := kept
    rw [storeAfter_cons, Operation.registerEvent_run, ih onward, unchanged]

end Reporter

/-- The stores differ in nothing but the record of status changes. -/
def Store.SameButHistory (left right : Store) : Prop :=
  ∃ history, right = { left with history }

theorem Store.SameButHistory.refl (store : Store) : SameButHistory store store :=
  ⟨store.history, rfl⟩

theorem Store.SameButHistory.symm {left right : Store} (same : SameButHistory left right) :
    SameButHistory right left := by
  obtain ⟨history, rfl⟩ := same
  exact ⟨left.history, rfl⟩

theorem Store.SameButHistory.trans {first second third : Store}
    (head : SameButHistory first second) (tail : SameButHistory second third) :
    SameButHistory first third := by
  obtain ⟨_, rfl⟩ := head
  obtain ⟨history, rfl⟩ := tail
  exact ⟨history, rfl⟩

theorem blind_reads {α : Type} {next : Store → Action Store α}
    (unseen : ∀ store history, next { store with history } = next store)
    (each : ∀ store, Blind SameButHistory (next store)) : Blind SameButHistory (get >>= next) := by
  intro left right same
  have further := each left left right same
  obtain ⟨history, rfl⟩ := same
  rwa [perform_bind_ok (perform_get _), perform_bind_ok (perform_get _), unseen left history]

theorem blind_changeGroup (id : String) (change : Group → Group) :
    Blind SameButHistory (commitOnly fun store => store.changeGroup id change) := by
  rintro left _ ⟨history, rfl⟩
  rw [commitOnly, perform_commit, perform_commit]
  unfold changeGroup
  cases left.groups.get? id with
  | none => exact ⟨rfl, history, rfl⟩
  | some group => exact ⟨rfl, history, rfl⟩

theorem blind_record (entry : ActivityEntry) : Blind SameButHistory (Journal.record entry) := by
  rintro left _ ⟨history, rfl⟩
  exact ⟨rfl, history, rfl⟩

theorem blind_settleRollout (group : Group) (version : String) (now : Nat) :
    Blind SameButHistory (Journal.settleRollout group version now) := by
  refine blind_reads (fun _ _ => rfl) fun store => ?_
  split
  · exact blind_bind (blind_changeGroup group.id _) fun _ =>
      blind_bind (blind_record _) fun _ => blind_composes.pure true
  · exact blind_composes.pure false

theorem blind_requireGroup (id : String) : Blind SameButHistory (CheckIn.requireGroup id) :=
  blind_reads (fun _ _ => rfl) fun _ => blind_composes.require _ _

theorem blind_afterEvent (now : Nat) (group : Group) (instanceId : String) (row : Installation)
    (next : Status) : Blind SameButHistory (CheckIn.afterEvent now group instanceId row next) := by
  cases next
  case complete =>
    refine blind_reads (fun _ _ => rfl) fun store => ?_
    split
    · exact blind_composes.pure ()
    · exact blind_bind (blind_requireGroup _) fun _ =>
        blind_bind (blind_settleRollout _ _ _) fun _ => blind_composes.pure ()
  case error => exact blind_record _
  all_goals exact blind_composes.pure ()

namespace Status

def place (status : Status) : Nat :=
  status.rank.getD 0

theorem isRegression_iff {current next : Status} (onPath : 0 < next.place) :
    current.isRegression next = true ↔ next.place < current.place := by
  unfold isRegression place at *
  cases reached : current.rank <;> cases reported : next.rank <;> simp_all

theorem eq_of_place {status other : Status} (onPath : 0 < status.place)
    (same : status.place = other.place) : status = other := by
  cases status <;> cases other <;> simp_all [place, rank]

end Status

/-- The event asks for a status on the path of an update that goes well. -/
structure ProgressEvent.LeadsTo (event : ProgressEvent) (next : Status) : Prop where
  status : event.status = .ok (some next)
  well : next ≠ .error

theorem ProgressEvent.LeadsTo.onPath {event : ProgressEvent} {next : Status}
    (leads : event.LeadsTo next) : 0 < next.place := by
  have listed := CheckIn.event_status_ok leads.status
  have well := leads.well
  simp only [List.mem_cons, List.not_mem_nil, or_false] at listed
  rcases listed with rfl | rfl | rfl | rfl | rfl
  · exact absurd rfl well
  all_goals decide

theorem ProgressEvent.LeadsTo.unique {event : ProgressEvent} {next other : Status}
    (leads : event.LeadsTo next) (also : event.LeadsTo other) : next = other := by
  have same := leads.status.symm.trans also.status
  rwa [Except.ok.injEq, Option.some.injEq] at same

theorem ProgressEvent.LeadsTo.onward_iff {event : ProgressEvent} {current next : Status}
    (leads : event.LeadsTo next) :
    current.isRegression next = false ↔ current.place ≤ next.place := by
  rw [← Nat.not_lt, ← Status.isRegression_iff leads.onPath, Bool.not_eq_true]

theorem ProgressEvent.leadsTo_of_result {event : ProgressEvent} {next : Status}
    (fair : event.result ≠ EventResult.failed.code) (leads : event.status = .ok (some next)) :
    event.LeadsTo next := by
  refine ⟨leads, ?_⟩
  rintro rfl
  unfold ProgressEvent.status at leads
  cases reported : EventKind.ofCode? event.kind with
  | none => simp [reported] at leads
  | some kind =>
    cases ended : EventResult.ofCode? event.result with
    | none => simp [reported, ended] at leads
    | some result =>
      simp only [reported, ended, Option.bind_eq_bind, Option.bind_some] at leads
      have code : (result.code == event.result) = true :=
        List.find?_some (p := fun result : EventResult => result.code == event.result) ended
      cases kind <;> cases result <;> simp_all [EventKind.outcome?]

-- An event for the group moves the installation on to the status.
structure Installation.Takes (row : Installation) (groupId : String) (next : Status) : Prop where
  member : row.groupId = groupId
  running : row.inProgress = true
  onward : row.status.isRegression next = false

section Reported

variable {now : Nat} {applicationId instanceId : String} {group : Group} {store : Store}
  {row : Installation} {event : ProgressEvent} {next : Status}

theorem reported_of_takes (leads : event.LeadsTo next)
    (found : store.installation? instanceId applicationId = some row)
    (takes : row.Takes group.id next) :
    store.reported now applicationId group instanceId event =
      ((CheckIn.afterEvent now group instanceId (row.moved next) next).perform
        (store.rewriteRow (Installation.keyOf instanceId applicationId) row (row.moved next) now
          none)).2 := by
  rw [reported, CheckIn.perform_applyEvent leads.status found takes.member takes.running
    takes.onward, perform_bind_answer, if_neg leads.well]

theorem reported_of_not_takes
    (idle : ∀ row next, store.installation? instanceId applicationId = some row →
      event.status = .ok (some next) → ¬ row.Takes group.id next) :
    store.reported now applicationId group instanceId event = store := by
  rcases CheckIn.applyEvent_cases now applicationId group instanceId event store with
    unchanged | ⟨row, next, _, found, member, running, leads, onward, -, -⟩
  · exact unchanged
  · exact absurd ⟨member, running, onward⟩ (idle row next found leads)

theorem reported_unmoved (leads : event.LeadsTo next)
    (idle : ∀ row, store.installation? instanceId applicationId = some row →
      ¬ row.Takes group.id next) :
    store.reported now applicationId group instanceId event = store := by
  refine reported_of_not_takes fun row other found asked => ?_
  rw [leads.status, Except.ok.injEq, Option.some.injEq] at asked
  exact asked ▸ idle row found

theorem reported_congr {other : ProgressEvent} (leads : event.LeadsTo next)
    (also : other.LeadsTo next) :
    store.reported now applicationId group instanceId event =
      store.reported now applicationId group instanceId other := by
  by_cases moves : ∃ row, store.installation? instanceId applicationId = some row ∧
      row.Takes group.id next
  · obtain ⟨row, found, takes⟩ := moves
    rw [reported_of_takes leads found takes, reported_of_takes also found takes]
  · have idle (row : Installation)
        (found : store.installation? instanceId applicationId = some row) :
        ¬ row.Takes group.id next :=
      fun takes => moves ⟨row, found, takes⟩
    rw [reported_unmoved leads idle, reported_unmoved also idle]

variable (now) in
theorem installation_reported (leads : event.LeadsTo next)
    (found : store.installation? instanceId applicationId = some row)
    (takes : row.Takes group.id next) :
    (store.reported now applicationId group instanceId event).installation? instanceId
      applicationId = some (row.moved next) := by
  have noted := CheckIn.keeps_afterEvent now group instanceId (row.moved next) next
    (store.rewriteRow (Installation.keyOf instanceId applicationId) row (row.moved next) now none)
  rw [reported_of_takes leads found takes, installation?, noted.fleet.installations, rewriteRow,
    Table.get_insert, if_pos rfl]

section Pairs

variable {first second : ProgressEvent} {status : Status}

theorem reported_reported_of_idle (early : first.LeadsTo status) (late : second.LeadsTo next)
    (idle : ∀ row, store.installation? instanceId applicationId = some row →
      ¬ row.Takes group.id status) :
    (store.reported now applicationId group instanceId first).reported now applicationId group
        instanceId second =
      store.reported now applicationId group instanceId
        (if next.place < status.place then first else second) := by
  rw [reported_unmoved early idle]
  split
  next nearer =>
    rw [reported_unmoved early idle]
    refine reported_unmoved late fun row found takes => ?_
    have reached := late.onward_iff.mp takes.onward
    exact idle row found ⟨takes.member, takes.running, early.onward_iff.mpr (by omega)⟩
  next => rfl

theorem reported_reported_of_complete (early : first.LeadsTo .complete)
    (late : second.LeadsTo next)
    (found : store.installation? instanceId applicationId = some row)
    (takes : row.Takes group.id .complete) :
    (store.reported now applicationId group instanceId first).reported now applicationId group
        instanceId second =
      store.reported now applicationId group instanceId
        (if next.place < Status.complete.place then first else second) := by
  have moved := installation_reported now early found takes
  -- Once the update is complete, no event moves the installation any more.
  rw [reported_unmoved late]
  · split
    next => rfl
    next =>
      have same : next = .complete := by
        have onPath := late.onPath
        cases next <;> simp_all [Status.place, Status.rank]
      subst same
      exact reported_congr early late
  · intro later foundLater takesLater
    obtain rfl := Option.some.inj (moved.symm.trans foundLater)
    exact Bool.false_ne_true takesLater.running

theorem Store.rewriteRow_rewriteRow (store : Store) (key : String)
    (row between moved last : Installation) (time : Nat) (errorCode : Option String) :
    SameButHistory
      ((store.rewriteRow key row between time errorCode).rewriteRow key moved last time errorCode)
      (store.rewriteRow key row last time errorCode) := by
  refine ⟨(store.rewriteRow key row last time errorCode).history, ?_⟩
  simp only [rewriteRow, Table.insert_insert]

-- An installation that is on its way gets to where it would have got at once.
theorem moved_moved (unfinished : status ≠ .complete) :
    (row.moved status).moved next = row.moved next := by
  have version : row.versionAfter status = row.version := by
    cases status <;> simp_all [Installation.versionAfter]
  have same : row.moved status = { row with status, inProgress := status.isInFlight } := by
    rw [Installation.moved, version]
  rw [same]
  rfl

theorem reported_reported_of_underWay (early : first.LeadsTo status) (late : second.LeadsTo next)
    (found : store.installation? instanceId applicationId = some row)
    (takes : row.Takes group.id status) (unfinished : status ≠ .complete) :
    SameButHistory
      ((store.reported now applicationId group instanceId first).reported now applicationId group
        instanceId second)
      (store.reported now applicationId group instanceId
        (if next.place < status.place then first else second)) := by
  have moved := installation_reported now early found takes
  have listed := CheckIn.event_status_ok early.status
  have well := early.well
  have inFlight : status.isInFlight = true := by
    cases status <;> simp_all [Status.isInFlight]
  split
  next nearer =>
    rw [reported_unmoved late]
    · exact SameButHistory.refl _
    · intro later foundLater takesLater
      obtain rfl := Option.some.inj (moved.symm.trans foundLater)
      have reached : status.place ≤ next.place := late.onward_iff.mp takesLater.onward
      omega
  next further =>
    -- Both events move the installation, the second one from where the first one left it.
    have written : store.reported now applicationId group instanceId first =
        store.rewriteRow (Installation.keyOf instanceId applicationId) row (row.moved status) now
          none := by
      rw [reported_of_takes early found takes]
      cases status <;> first | rfl | simp_all
    have reached : row.status.place ≤ status.place := early.onward_iff.mp takes.onward
    have onward : status.place ≤ next.place := by omega
    have again : (row.moved status).Takes group.id next :=
      ⟨takes.member, inFlight, late.onward_iff.mpr onward⟩
    have straight : row.Takes group.id next :=
      ⟨takes.member, takes.running, late.onward_iff.mpr (by omega)⟩
    rw [reported_of_takes late moved again, reported_of_takes late found straight, written,
      moved_moved unfinished]
    exact (blind_afterEvent now group instanceId (row.moved next) next _ _
      (store.rewriteRow_rewriteRow _ _ _ _ _ _ _)).2

theorem reported_reported (early : first.LeadsTo status) (late : second.LeadsTo next) :
    SameButHistory
      ((store.reported now applicationId group instanceId first).reported now applicationId group
        instanceId second)
      (store.reported now applicationId group instanceId
        (if next.place < status.place then first else second)) := by
  by_cases moves : ∃ row, store.installation? instanceId applicationId = some row ∧
      row.Takes group.id status
  · obtain ⟨row, found, takes⟩ := moves
    by_cases done : status = .complete
    · subst done
      rw [reported_reported_of_complete early late found takes]
      exact SameButHistory.refl _
    · exact reported_reported_of_underWay early late found takes done
  · rw [reported_reported_of_idle early late fun row found takes => moves ⟨row, found, takes⟩]
    exact SameButHistory.refl _

end Pairs

variable (now applicationId instanceId group) in
-- A run of events leads nowhere, or does what the one that leads furthest does alone.
inductive ComesTo (events : List ProgressEvent) : Prop where
  | nothing (nowhere : ∀ event ∈ events, ∀ next, ¬ event.LeadsTo next)
      (same : ∀ store, events.foldl (Store.reported now applicationId group instanceId) store =
        store)
  | furthest {event : ProgressEvent} {next : Status} (member : event ∈ events)
      (leads : event.LeadsTo next)
      (nearer : ∀ other ∈ events, ∀ status, other.LeadsTo status → status.place ≤ next.place)
      (same : ∀ store, SameButHistory
        (events.foldl (Store.reported now applicationId group instanceId) store)
        (store.reported now applicationId group instanceId event))

theorem ComesTo.cons_nowhere {first : ProgressEvent} {rest : List ProgressEvent}
    (nowhere : ∀ next, ¬ first.LeadsTo next)
    (idle : ∀ store, Store.reported now applicationId group instanceId store first = store)
    (further : ComesTo now applicationId instanceId group rest) :
    ComesTo now applicationId instanceId group (first :: rest) := by
  cases further with
  | nothing nowhereElse same =>
    refine .nothing (List.forall_mem_cons.mpr ⟨nowhere, nowhereElse⟩) fun store => ?_
    rw [List.foldl_cons, idle, same]
  | furthest member leads nearer same =>
    refine .furthest (List.mem_cons_of_mem first member) leads
      (List.forall_mem_cons.mpr ⟨fun next leads => absurd leads (nowhere next), nearer⟩)
      fun store => ?_
    rw [List.foldl_cons, idle]
    exact same store

theorem ComesTo.cons_leading {first : ProgressEvent} {rest : List ProgressEvent} {status : Status}
    (leads : first.LeadsTo status)
    (further : ComesTo now applicationId instanceId group rest) :
    ComesTo now applicationId instanceId group (first :: rest) := by
  have own (reach : Status) (also : first.LeadsTo reach) : reach.place = status.place := by
    rw [also.unique leads]
  cases further with
  | nothing nowhere same =>
    refine .furthest List.mem_cons_self leads (List.forall_mem_cons.mpr
      ⟨fun reach also => Nat.le_of_eq (own reach also),
        fun other member reach also => absurd also (nowhere other member reach)⟩) fun store => ?_
    rw [List.foldl_cons, same]
    exact SameButHistory.refl _
  | @furthest event next member leadsFurther nearer same =>
    have joined (store : Store) : SameButHistory
        ((first :: rest).foldl (Store.reported now applicationId group instanceId) store)
        (store.reported now applicationId group instanceId
          (if next.place < status.place then first else event)) :=
      (same _).trans (reported_reported leads leadsFurther)
    by_cases behind : next.place < status.place
    · simp only [behind, if_true] at joined
      refine .furthest List.mem_cons_self leads (List.forall_mem_cons.mpr
        ⟨fun reach also => Nat.le_of_eq (own reach also), fun other member reach also => ?_⟩)
        joined
      have within := nearer other member reach also
      omega
    · simp only [behind, if_false] at joined
      refine .furthest (List.mem_cons_of_mem first member) leadsFurther
        (List.forall_mem_cons.mpr ⟨fun reach also => ?_, nearer⟩) joined
      have reached := own reach also
      omega

variable (now applicationId instanceId group) in
theorem comesTo (events : List ProgressEvent)
    (fair : ∀ event ∈ events, event.result ≠ EventResult.failed.code) :
    ComesTo now applicationId instanceId group events := by
  induction events with
  | nil => exact .nothing (by simp) fun _ => rfl
  | cons first rest ih =>
    obtain ⟨fairFirst, fairRest⟩ := List.forall_mem_cons.mp fair
    by_cases leading : ∃ status, first.LeadsTo status
    · obtain ⟨status, leads⟩ := leading
      exact (ih fairRest).cons_leading leads
    · refine (ih fairRest).cons_nowhere (fun next leads => leading ⟨next, leads⟩) fun store => ?_
      exact reported_of_not_takes fun _ next _ leads _ =>
        leading ⟨next, ProgressEvent.leadsTo_of_result fairFirst leads⟩

theorem leadsTo_of_codes {left right : List ProgressEvent}
    (codes : ∀ pair, pair ∈ left.map (fun event => (event.kind, event.result)) →
      pair ∈ right.map fun event => (event.kind, event.result))
    (member : event ∈ left) (leads : event.LeadsTo next) :
    ∃ other ∈ right, other.LeadsTo next := by
  obtain ⟨other, inside, same⟩ :=
    List.mem_map.mp (codes _ (List.mem_map.mpr ⟨event, member, rfl⟩))
  obtain ⟨kind, result⟩ := Prod.mk.inj same
  refine ⟨other, inside, ?_, leads.well⟩
  rw [← leads.status, ProgressEvent.status, kind, result, ProgressEvent.status]

theorem foldl_reported_congr {left right : List ProgressEvent}
    (fair : ∀ event ∈ left ++ right, event.result ≠ EventResult.failed.code)
    (codes : ∀ pair, pair ∈ left.map (fun event => (event.kind, event.result)) ↔
      pair ∈ right.map fun event => (event.kind, event.result)) (store : Store) :
    SameButHistory (left.foldl (Store.reported now applicationId group instanceId) store)
      (right.foldl (Store.reported now applicationId group instanceId) store) := by
  obtain ⟨fairLeft, fairRight⟩ := List.forall_mem_append.mp fair
  cases comesTo now applicationId instanceId group left fairLeft with
  | nothing nowhere same =>
    cases comesTo now applicationId instanceId group right fairRight with
    | nothing _ sameRight =>
      rw [same, sameRight]
      exact SameButHistory.refl store
    | furthest member leads =>
      obtain ⟨other, inside, also⟩ := leadsTo_of_codes (fun pair => (codes pair).mpr) member leads
      exact absurd also (nowhere other inside _)
  | @furthest top next member leads nearer same =>
    obtain ⟨other, inside, also⟩ := leadsTo_of_codes (fun pair => (codes pair).mp) member leads
    cases comesTo now applicationId instanceId group right fairRight with
    | nothing nowhere => exact absurd also (nowhere other inside next)
    | @furthest topRight nextRight memberRight leadsRight nearerRight sameRight =>
      -- Each list leads as far as the other, so both furthest events ask for one status.
      obtain ⟨back, insideLeft, alsoLeft⟩ :=
        leadsTo_of_codes (fun pair => (codes pair).mpr) memberRight leadsRight
      have equal : next = nextRight := Status.eq_of_place leads.onPath
        (Nat.le_antisymm (nearerRight other inside next also)
          (nearer back insideLeft nextRight alsoLeft))
      subst equal
      have reaches := same store
      rw [reported_congr leads leadsRight] at reaches
      exact reaches.trans (sameRight store).symm

end Reported

/--
Order and repetition of reports do not matter: two runs without failures that name the same pairs
of codes leave the same installations, the same groups with their flags and the same activity.
-/
theorem reports_unordered {engine : Engine} (reached : Reachable engine) (reporter : Reporter)
    (left right : List ProgressEvent)
    (fair : ∀ event ∈ left ++ right, event.result ≠ EventResult.failed.code)
    (codes : ∀ pair, pair ∈ left.map (fun event => (event.kind, event.result)) ↔
      pair ∈ right.map fun event => (event.kind, event.result)) :
    (reporter.storeAfter engine left).installations =
        (reporter.storeAfter engine right).installations ∧
      (reporter.storeAfter engine left).groups = (reporter.storeAfter engine right).groups ∧
      (reporter.storeAfter engine left).activity = (reporter.storeAfter engine right).activity := by
  have same := Engine.sameNames_refl reached.keyed
  have alike : SameButHistory (reporter.storeAfter engine left)
      (reporter.storeAfter engine right) := by
    by_cases finds : ∃ applicationId group, reporter.Finds engine applicationId group
    · obtain ⟨applicationId, group, finds⟩ := finds
      rw [finds.storeAfter same, finds.storeAfter same]
      exact foldl_reported_congr fair codes engine.store
    · have lost (applicationId : String) (group : Group) :
          ¬ reporter.Finds engine applicationId group :=
        fun found => finds ⟨applicationId, group, found⟩
      rw [Reporter.storeAfter_of_not_finds lost same, Reporter.storeAfter_of_not_finds lost same]
      exact SameButHistory.refl engine.store
  obtain ⟨_, others⟩ := alike
  rw [others]
  exact ⟨rfl, rfl, rfl⟩

def Reporter.host : Reporter :=
  { instanceId := "host", applicationId := "agent", groupId := "fleet" }

theorem reports_unordered_host :
    let engine := Operation.runAll {}
      (Operation.smallCatalog ++ [.updatePlan .firstContact .single])
    let inOrder : List ProgressEvent :=
      [⟨13, 1, none, none⟩, ⟨3, 2, none, none⟩, ⟨7, 1, none, none⟩]
    let mixed : List ProgressEvent :=
      [⟨7, 1, none, none⟩, ⟨3, 2, none, none⟩, ⟨13, 1, none, none⟩, ⟨13, 1, none, none⟩]
    ((Reporter.host.storeAfter engine inOrder).installations =
        (Reporter.host.storeAfter engine mixed).installations ∧
      (Reporter.host.storeAfter engine inOrder).groups =
        (Reporter.host.storeAfter engine mixed).groups ∧
      (Reporter.host.storeAfter engine inOrder).activity =
        (Reporter.host.storeAfter engine mixed).activity) ∧
      ((Reporter.host.storeAfter engine mixed).installation? "host" "agent").map (·.status) =
        some .complete := by
  intro engine inOrder mixed
  have reached : Reachable engine := (ReachableBy.start {} rfl).runAll (by decide +kernel)
  refine ⟨reports_unordered reached Reporter.host inOrder mixed (by decide) fun pair => ?_,
    by decide +kernel⟩
  simp only [inOrder, mixed, List.map_cons, List.map_nil, List.mem_cons, List.not_mem_nil]
  tauto

end FleetRollout

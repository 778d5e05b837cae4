import FleetRollout.Proofs.Frame
import FleetRollout.Proofs.Version
import FleetRollout.Rollout.CheckIn

set_option autoImplicit false

/-!
The stages of a client's request once its application and group are known: the check-in is
recorded, events are applied, the update is decided. Each stage writes one installation at most,
once at most; `register_cases`, `applyEvent_cases` and `Decision` tell all it may write and what it
checked before.
-/

namespace FleetRollout

namespace Store

-- The store with an installation replaced, and its change of status on record.
def rewriteRow (store : Store) (key : String) (row changed : Installation) (time : Nat)
    (errorCode : Option String) : Store :=
  { store with
    installations := store.installations.insert key changed
    history :=
      if row.status = changed.status then store.history
      else store.history ++ [changed.historyEntry time errorCode] }

theorem changeInstallation_eq {store : Store} {instanceId applicationId : String}
    {row : Installation}
    (found : store.installations.get? (Installation.keyOf instanceId applicationId) = some row)
    (time : Nat) (errorCode : Option String) (change : Installation → Installation) :
    store.changeInstallation instanceId applicationId time errorCode change =
      .ok (change row,
        store.rewriteRow (Installation.keyOf instanceId applicationId) row (change row) time
          errorCode) := by
  simp only [changeInstallation, found]
  rfl

theorem changeInstallation_ok {store after : Store} {instanceId applicationId : String} {time : Nat}
    {errorCode : Option String} {change : Installation → Installation} {answer : Installation}
    (changed : store.changeInstallation instanceId applicationId time errorCode change =
      .ok (answer, after)) :
    ∃ row, store.installations.get? (Installation.keyOf instanceId applicationId) = some row ∧
      answer = change row ∧
      after = store.rewriteRow (Installation.keyOf instanceId applicationId) row (change row) time
        errorCode := by
  cases found : store.installations.get? (Installation.keyOf instanceId applicationId) with
  | none => simp [changeInstallation, found] at changed
  | some row =>
    rw [changeInstallation_eq found, Except.ok.injEq, Prod.mk.injEq] at changed
    exact ⟨row, rfl, changed.1.symm, changed.2.symm⟩

theorem rewriteRow_sameCatalog (store : Store) (key : String) (row changed : Installation)
    (time : Nat) (errorCode : Option String) :
    SameCatalog store (store.rewriteRow key row changed time errorCode) :=
  ⟨rfl, rfl, rfl, rfl, rfl, fun _ => rfl⟩

theorem Noted.rewriteRow {before after : Store} (noted : Noted before after) (key : String)
    (row changed : Installation) (time : Nat) (errorCode : Option String) :
    Noted (before.rewriteRow key row changed time errorCode)
      (after.rewriteRow key row changed time errorCode) where
  catalog :=
    ⟨noted.catalog.teams, noted.catalog.applications, noted.catalog.channels,
      noted.catalog.packages, noted.catalog.floors, noted.catalog.groups⟩
  fleet :=
    { instances := noted.fleet.instances
      installations := by simp only [Store.rewriteRow, noted.fleet.installations]
      history := by simp only [Store.rewriteRow, noted.fleet.history] }

theorem Calm.rewriteRow {before after : Store} (calm : Calm before after) (key : String)
    (row changed : Installation) (time : Nat) (errorCode : Option String) :
    Calm (before.rewriteRow key row changed time errorCode)
      (after.rewriteRow key row changed time errorCode) :=
  ⟨calm.noted.rewriteRow key row changed time errorCode, calm.rollouts.flags, calm.rollouts.log⟩

theorem recordCheckIn_installations (store : Store) (machine : Option Instance)
    (sighting : Sighting) :
    (store.recordCheckIn machine sighting).2.installations =
      store.installations.insert (Installation.keyOf sighting.instanceId sighting.applicationId)
        (store.sighted sighting) := by
  cases machine <;> rfl

theorem recordCheckIn_groups (store : Store) (machine : Option Instance) (sighting : Sighting) :
    (store.recordCheckIn machine sighting).2.groups = store.groups := by
  cases machine <;> rfl

theorem recordCheckIn_history (store : Store) (machine : Option Instance) (sighting : Sighting) :
    (store.recordCheckIn machine sighting).2.history = store.history := by
  cases machine <;> rfl

-- No instance is forgotten, and this one is known from now on.
def Enrols (instanceId : String) (before after : Store) : Prop :=
  ∀ id, before.instances.contains id = true ∨ id = instanceId →
    after.instances.contains id = true

theorem recordCheckIn_enrols {store : Store} {machine : Option Instance} (sighting : Sighting)
    (known : store.instances.contains sighting.instanceId = true ∨
      ∃ news ∈ machine, news.id = sighting.instanceId) :
    Enrols sighting.instanceId store (store.recordCheckIn machine sighting).2 := by
  rintro id present
  have listed : store.instances.contains id = true ∨ ∃ news ∈ machine, news.id = id := by
    rcases present with earlier | rfl
    · exact .inl earlier
    · exact known
  cases machine with
  | none =>
    rcases listed with earlier | ⟨_, none, -⟩
    · exact earlier
    · cases none
  | some news =>
    change ((store.instances.insert news.id news).get? id).isSome = true
    rw [Table.get_insert]
    split
    next => rfl
    next differs =>
      rcases listed with earlier | ⟨_, reported, same⟩
      · exact earlier
      · cases reported
        exact absurd same differs

theorem recordCheckIn_sameCatalog (store : Store) (machine : Option Instance)
    (sighting : Sighting) : SameCatalog store (store.recordCheckIn machine sighting).2 := by
  cases machine <;> exact ⟨rfl, rfl, rfl, rfl, rfl, fun _ => rfl⟩

end Store

def Registration.sighting (request : Registration) (applicationId groupId : String) (now : Nat) :
    Sighting :=
  { instanceId := request.instanceId
    applicationId
    groupId
    version := request.version
    time := now }

theorem Installation.seen_instanceId (row : Installation) (sighting : Sighting) :
    (row.seen sighting).instanceId = row.instanceId := by
  unfold Installation.seen
  simp only
  split <;> rfl

theorem Installation.seen_applicationId (row : Installation) (sighting : Sighting) :
    (row.seen sighting).applicationId = row.applicationId := by
  unfold Installation.seen
  simp only
  split <;> rfl

theorem Installation.seen_key (row : Installation) (sighting : Sighting) :
    (row.seen sighting).key = row.key := by
  unfold Installation.seen
  simp only
  split <;> rfl

theorem Installation.moved_key (row : Installation) (status : Status) :
    (row.moved status).key = row.key := rfl

theorem Installation.granted_key (row : Installation) (grant : Grant) :
    (row.granted grant).key = row.key := rfl

def Installation.grantOf (row : Installation) (version target : String) (now : Nat) : Grant :=
  { instanceId := row.instanceId
    applicationId := row.applicationId
    version
    target
    time := now }

namespace CheckIn

open Store FleetRollout.Action

theorem reported_known (stored : Option Instance) (request : Registration) (ip : String)
    (now : Nat) :
    stored.isSome = true ∨
      (reported stored request ip now).2 = true ∧
        (reported stored request ip now).1.id = request.instanceId := by
  cases stored with
  | none => exact .inr ⟨rfl, rfl⟩
  | some machine => exact .inl rfl

structure Valid (request : Registration) : Prop where
  named : isInstanceId request.instanceId = true
  located : (Network.Address.parse? (Text.trim request.ip)).isSome = true
  reads : (Version.parse? request.version).isSome = true

def news (store : Store) (request : Registration) (address : Network.Address) (now : Nat) :
    Option Instance :=
  let (machine, isNews) :=
    reported (store.instances.get? request.instanceId) request address.render now
  if isNews then some machine else none

theorem perform_register {request : Registration} {address : Network.Address}
    (named : isInstanceId request.instanceId = true)
    (located : Network.Address.parse? (Text.trim request.ip) = some address)
    (reads : (Version.parse? request.version).isSome = true) (now : Nat)
    (applicationId groupId : String) (store : Store) :
    ∃ machine, (register now request applicationId groupId).perform store =
      (.ok ⟨machine, store.sighted (request.sighting applicationId groupId now)⟩,
        (store.recordCheckIn (news store request address now)
          (request.sighting applicationId groupId now)).2) := by
  refine ⟨(reported (store.instances.get? request.instanceId) request address.render now).1, ?_⟩
  simp only [register, named, located, reads, check, require, perform_bind, perform_pure,
    perform_get, perform_commit, if_true]
  rfl

theorem register_valid {now : Nat} {request : Registration} {applicationId groupId : String}
    {store after : Store} {record : InstanceRecord}
    (recorded : (register now request applicationId groupId).perform store = (.ok record, after)) :
    Valid request := by
  unfold register at recorded
  obtain ⟨_, _, named, recorded⟩ := bind_ok.mp recorded
  obtain ⟨address, _, located, recorded⟩ := bind_ok.mp recorded
  obtain ⟨_, _, reads, -⟩ := bind_ok.mp recorded
  exact ⟨(check_ok.mp named).1, Option.isSome_of_eq_some (require_ok.mp located).1,
    (check_ok.mp reads).1⟩

theorem register_cases (now : Nat) (request : Registration) (applicationId groupId : String)
    (store : Store) :
    (∃ error ∈ [EngineError.invalidInstanceId request.instanceId, .invalidAddress request.ip,
        .invalidVersion request.version],
      (register now request applicationId groupId).perform store = (.error error, store)) ∨
    ∃ machine written, (Version.parse? request.version).isSome = true ∧
      Enrols request.instanceId store
        (store.recordCheckIn written (request.sighting applicationId groupId now)).2 ∧
      (register now request applicationId groupId).perform store =
        (.ok ⟨machine, store.sighted (request.sighting applicationId groupId now)⟩,
          (store.recordCheckIn written (request.sighting applicationId groupId now)).2) := by
  cases named : isInstanceId request.instanceId with
  | false =>
    refine .inl ⟨.invalidInstanceId request.instanceId, by simp, ?_⟩
    rw [register, named]
    rfl
  | true =>
    cases located : Network.Address.parse? (Text.trim request.ip) with
    | none =>
      refine .inl ⟨.invalidAddress request.ip, by simp, ?_⟩
      rw [register, named, located]
      rfl
    | some address =>
      cases reads : (Version.parse? request.version).isSome with
      | false =>
        refine .inl ⟨.invalidVersion request.version, by simp, ?_⟩
        rw [register, named, located, reads]
        rfl
      | true =>
        obtain ⟨machine, recorded⟩ :=
          perform_register named located reads now applicationId groupId store
        refine .inr ⟨machine, news store request address now, rfl,
          recordCheckIn_enrols (request.sighting applicationId groupId now) ?_, recorded⟩
        refine (reported_known _ request address.render now).imp_right ?_
        rintro ⟨isNews, own⟩
        exact ⟨_, if_pos isNews, own⟩

theorem keeps_register (now : Nat) (request : Registration) (applicationId groupId : String) :
    Keeps SameCatalog (register now request applicationId groupId) := by
  intro store
  rcases register_cases now request applicationId groupId store with
    ⟨_, -, refused⟩ | ⟨_, written, -, -, accepted⟩
  · rw [refused]
    exact SameCatalog.refl store
  · rw [accepted]
    exact recordCheckIn_sameCatalog store written _

theorem keeps_commit_changeInstallation (instanceId applicationId : String) (time : Nat)
    (errorCode : Option String) (change : Installation → Installation) :
    Keeps SameCatalog (commit fun store =>
      store.changeInstallation instanceId applicationId time errorCode change) := by
  refine keeps_commit fun store answer after changed => ?_
  obtain ⟨row, -, -, rfl⟩ := changeInstallation_ok changed
  exact rewriteRow_sameCatalog store _ row _ _ _

theorem perform_changeInstallation {store : Store} {instanceId applicationId : String}
    {row : Installation}
    (found : store.installations.get? (Installation.keyOf instanceId applicationId) = some row)
    (time : Nat) (errorCode : Option String) (change : Installation → Installation) :
    (commit fun store =>
        store.changeInstallation instanceId applicationId time errorCode change).perform store =
      (.ok (change row),
        store.rewriteRow (Installation.keyOf instanceId applicationId) row (change row) time
          errorCode) := by
  rw [perform_commit, changeInstallation_eq found]

theorem event_status_ok {event : ProgressEvent} {next : Status}
    (leads : event.status = .ok (some next)) :
    next ∈ [Status.error, .downloading, .downloaded, .installed, .complete] := by
  unfold ProgressEvent.status at leads
  cases reported : EventKind.ofCode? event.kind with
  | none => simp [reported] at leads
  | some kind =>
    cases ended : EventResult.ofCode? event.result with
    | none => simp [reported, ended] at leads
    | some result =>
      simp only [reported, ended, Option.bind_eq_bind, Option.bind_some] at leads
      cases kind <;> cases result <;> simp_all [EventKind.outcome?]

theorem perform_requireGroup {store : Store} {id : String} {group : Group}
    (stored : store.groups.get? id = some group) :
    (requireGroup id).perform store = (.ok group, store) := by
  rw [requireGroup, perform_bind_ok (perform_get store), stored]
  rfl

theorem perform_requireGroup_missing {store : Store} {id : String}
    (missing : store.groups.get? id = none) :
    (requireGroup id).perform store = (.error (.invalidGroup id), store) := by
  rw [requireGroup, perform_bind_ok (perform_get store), missing]
  rfl

theorem keeps_requireGroup {R : Store → Store → Prop} [IsPreorder Store R] (id : String) :
    Keeps R (requireGroup id) :=
  keeps_bind keeps_get fun _ => keeps_require _ _

theorem keeps_afterEvent (now : Nat) (group : Group) (instanceId : String) (row : Installation)
    (next : Status) : Keeps Noted (afterEvent now group instanceId row next) := by
  cases next
  case complete =>
    refine keeps_bind keeps_get fun store => ?_
    split
    · exact keeps_pure ()
    · exact keeps_bind (keeps_requireGroup _) fun _ =>
        keeps_bind (Journal.keeps_settleRollout _ _ _) fun _ => keeps_pure ()
  case error => exact noted_of_calm (Journal.keeps_instanceUpdateFailed _ _ _ _)
  all_goals exact keeps_pure ()

theorem perform_applyEvent {store : Store} {applicationId instanceId : String} {group : Group}
    {event : ProgressEvent} {row : Installation} {next : Status}
    (leads : event.status = .ok (some next))
    (found : store.installation? instanceId applicationId = some row)
    (member : row.groupId = group.id) (running : row.inProgress = true)
    (onward : row.status.isRegression next = false) (now : Nat) :
    (applyEvent now applicationId group instanceId event).perform store =
      (do
        afterEvent now group instanceId (row.moved next) next
        pure (some next)).perform
        (store.rewriteRow (Installation.keyOf instanceId applicationId) row (row.moved next) now
          (if next = Status.error then event.errorCode else none)) := by
  have own : (check (row.groupId = group.id) .invalidApplicationOrGroup).perform store =
      (.ok (), store) := check_ok.mpr ⟨decide_eq_true member, rfl⟩
  have underWay : (check row.inProgress (.denied .noUpdateInProgress)).perform store =
      (.ok (), store) := check_ok.mpr ⟨running, rfl⟩
  unfold applyEvent
  rw [leads, perform_bind_ok (perform_ofExcept _ store), perform_bind_ok (perform_get store),
    perform_bind_ok (require_ok.mpr ⟨found, rfl⟩), perform_bind_ok own, perform_bind_ok underWay]
  simp only [onward, Bool.false_eq_true, if_false, Store.transition]
  rw [perform_bind_ok (perform_changeInstallation found _ _ _)]
  rfl

theorem applyEvent_cases (now : Nat) (applicationId : String) (group : Group) (instanceId : String)
    (event : ProgressEvent) (store : Store) :
    ((applyEvent now applicationId group instanceId event).perform store).2 = store ∨
    ∃ row next errorCode, store.installation? instanceId applicationId = some row ∧
      row.groupId = group.id ∧ row.inProgress = true ∧
      event.status = .ok (some next) ∧ row.status.isRegression next = false ∧
      Noted
        (store.rewriteRow (Installation.keyOf instanceId applicationId) row (row.moved next) now
          errorCode)
        ((applyEvent now applicationId group instanceId event).perform store).2 ∧
      ((applyEvent now applicationId group instanceId event).perform store).2 =
        ((afterEvent now group instanceId (row.moved next) next).perform
          (store.rewriteRow (Installation.keyOf instanceId applicationId) row (row.moved next) now
            errorCode)).2 := by
  cases leads : event.status with
  | error error =>
    rw [applyEvent, leads]
    exact .inl rfl
  | ok next =>
    cases found : store.installation? instanceId applicationId with
    | none => simp [applyEvent, leads, perform_bind, found, require]
    | some row =>
      by_cases member : row.groupId = group.id
      case neg => simp [applyEvent, leads, perform_bind, found, require, check, member]
      case pos =>
        cases running : row.inProgress with
        | false => simp [applyEvent, leads, perform_bind, found, require, check, member, running]
        | true =>
          cases next with
          | none => simp [applyEvent, leads, perform_bind, found, require, check, member, running]
          | some next =>
            cases regression : row.status.isRegression next with
            | true =>
              simp [applyEvent, leads, perform_bind, found, require, check, member, running,
                regression]
            | false =>
              refine .inr ⟨row, next, if next = .error then event.errorCode else none, rfl, member,
                running, rfl, regression, ?_⟩
              rw [perform_applyEvent leads found member running regression, perform_bind_answer]
              -- The rest takes notes only, whether it succeeds or fails.
              exact ⟨keeps_afterEvent now group instanceId (row.moved next) next _, rfl⟩

theorem keeps_applyEvent (now : Nat) (applicationId : String) (group : Group) (instanceId : String)
    (event : ProgressEvent) :
    Keeps SameCatalog (applyEvent now applicationId group instanceId event) := by
  intro store
  rcases applyEvent_cases now applicationId group instanceId event store with
    unchanged | ⟨row, next, errorCode, -, -, -, -, -, noted, -⟩
  · rw [unchanged]
    exact SameCatalog.refl store
  · exact (rewriteRow_sameCatalog store _ row _ _ _).trans noted.catalog

-- The installation is stored in the group, and has not fallen behind the version.
def Present (instanceId applicationId groupId version : String) (store : Store) : Prop :=
  ∃ row, store.installation? instanceId applicationId = some row ∧ row.groupId = groupId ∧
    Version.AtLeast row.version version

theorem atLeast_versionAfter {row : Installation} {version : String}
    (atLeast : Version.AtLeast row.version version) (status : Status) :
    Version.AtLeast (row.versionAfter status) version := by
  unfold Installation.versionAfter
  split
  · split
    next older => exact atLeast.of_isOlder older
    next => exact atLeast
  · exact atLeast

theorem sighted_groupId (store : Store) (sighting : Sighting) :
    (store.sighted sighting).groupId = sighting.groupId := by
  unfold Store.sighted
  split
  · unfold Installation.seen
    simp only
    split
    next same => exact same
    next => rfl
  · rfl

theorem sighted_version (store : Store) (sighting : Sighting) :
    (store.sighted sighting).version = sighting.version := by
  unfold Store.sighted
  split
  · unfold Installation.seen
    simp only
    split <;> rfl
  · rfl

theorem sighted_same {store : Store} {sighting : Sighting} {row : Installation}
    (found : store.installation? sighting.instanceId sighting.applicationId = some row)
    (member : row.groupId = sighting.groupId) (version : sighting.version = row.version) :
    store.sighted sighting = { row with lastCheckAt := sighting.time } := by
  rw [Store.sighted, found]
  simp only [Installation.seen, member, if_true, version]

theorem present_recordCheckIn (store : Store) (machine : Option Instance) (sighting : Sighting)
    (reads : (Version.parse? sighting.version).isSome = true) :
    Present sighting.instanceId sighting.applicationId sighting.groupId sighting.version
      (store.recordCheckIn machine sighting).2 := by
  refine ⟨store.sighted sighting, ?_, sighted_groupId store sighting, ?_⟩
  · rw [Store.installation?, recordCheckIn_installations, Table.get_insert, if_pos rfl]
  · rw [sighted_version]
    exact Version.atLeast_self reads

theorem keeps_applyEvent_present (now : Nat) (applicationId groupId version : String)
    (group : Group) (instanceId : String) (event : ProgressEvent) :
    Keeps (Carries (Present instanceId applicationId groupId version))
      (applyEvent now applicationId group instanceId event) := by
  rintro store ⟨row, found, member, atLeast⟩
  rcases applyEvent_cases now applicationId group instanceId event store with
    unchanged | ⟨stored, next, errorCode, storedFound, -, -, -, -, noted, -⟩
  · rw [unchanged]
    exact ⟨row, found, member, atLeast⟩
  · obtain rfl : row = stored := Option.some.inj (found.symm.trans storedFound)
    refine ⟨row.moved next, ?_, member, atLeast_versionAfter atLeast next⟩
    rw [Store.installation?, noted.fleet.installations, rewriteRow, Table.get_insert, if_pos rfl]

/-- The group's channel offers the target to an installation that is behind it. -/
structure Offered (store : Store) (group : Group) (row : Installation) (channel : Channel)
    (target : Package) : Prop where
  targeted : groupTarget? store group = some (channel, target)
  permitted : target.isBlacklistedFor channel.id = false
  behind : Version.isOlder row.version target.version = true

theorem groupTarget_eq_some_iff {store : Store} {group : Group} {channel : Channel}
    {target : Package} :
    groupTarget? store group = some (channel, target) ↔
      ∃ channelId packageId, group.channelId = some channelId ∧
        store.channels.get? channelId = some channel ∧ channel.packageId = some packageId ∧
        store.packages.get? packageId = some target := by
  simp only [groupTarget?, Option.bind_eq_bind, Option.bind_eq_some_iff, Option.some.injEq,
    Prod.mk.injEq]
  constructor
  · rintro ⟨channelId, own, _, stored, packageId, targeted, _, found, rfl, rfl⟩
    exact ⟨channelId, packageId, own, stored, targeted, found⟩
  · rintro ⟨channelId, packageId, own, stored, targeted, found⟩
    exact ⟨channelId, own, channel, stored, packageId, targeted, target, found, rfl, rfl⟩

theorem groupTarget_congr {store after : Store} (same : SameCatalog store after)
    {group later : Group} (setup : later.setup = group.setup) :
    groupTarget? after later = groupTarget? store group := by
  rw [groupTarget?, (Group.same_of_setup setup).2.2, same.channels, same.packages, groupTarget?]

theorem channelFloors_congr {store after : Store} (same : SameCatalog store after)
    (channelId : String) : after.channelFloors channelId = store.channelFloors channelId := by
  have resolves : after.resolveFloor = store.resolveFloor := by
    funext floor
    rw [resolveFloor, resolveFloor, same.packages]
  rw [channelFloors, channelFloors, same.floors, resolves]

theorem requiredFloors_congr {store after : Store} (same : SameCatalog store after)
    (channel : Channel) (version : String) (cap : Nat) :
    requiredFloors after channel version cap = requiredFloors store channel version cap := by
  unfold requiredFloors channelFloorsIn
  rw [channelFloors_congr same, same.packages]

theorem redeliver_iff {facts : CheckInFacts} :
    facts.nextStep = .redeliver ↔
      facts.status = .updateGranted ∧ facts.target = .available ∧ facts.isBehind = true := by
  obtain ⟨status, hadGrant, target, isBehind⟩ := facts
  cases status <;> cases target <;> cases isBehind <;> simp [CheckInFacts.nextStep]

theorem evaluatePolicy_iff {facts : CheckInFacts} :
    facts.nextStep = .evaluatePolicy ↔
      facts.status.isInFlight = false ∧ facts.target = .available ∧ facts.isBehind = true := by
  obtain ⟨status, hadGrant, target, isBehind⟩ := facts
  cases status <;> cases target <;> cases isBehind <;>
    simp [CheckInFacts.nextStep, Status.isInFlight]

theorem closing_step {facts : CheckInFacts} {complete : Bool}
    (step : facts.nextStep = .blacklisted complete ∨ facts.nextStep = .upToDate complete) :
    complete = facts.hasOpenGrant ∧ ¬ (facts.target = .available ∧ facts.isBehind = true) := by
  obtain ⟨status, hadGrant, target, isBehind⟩ := facts
  cases status <;> cases target <;> cases isBehind <;> simp_all [CheckInFacts.nextStep]

theorem offered_iff {store : Store} {group : Group} {row : Installation} {channel : Channel}
    {target : Package} (targeted : groupTarget? store group = some (channel, target)) :
    Offered store group row channel target ↔
      (factsOf row (some (channel, target))).target = .available ∧
        (factsOf row (some (channel, target))).isBehind = true := by
  simp only [factsOf, targetState, Option.any_some]
  cases permitted : target.isBlacklistedFor channel.id
  · constructor
    · intro offered
      exact ⟨rfl, offered.behind⟩
    · rintro ⟨-, behind⟩
      exact ⟨targeted, permitted, behind⟩
  · simp only [if_true, reduceCtorEq, false_and, iff_false]
    intro offered
    exact absurd offered.permitted (by simp [permitted])

def settleGroup (groupId version : String) (now : Nat) : Action Store Unit := do
  let group ← requireGroup groupId
  let _ ← Journal.settleRollout group version now

theorem keeps_settleGroup (groupId version : String) (now : Nat) :
    Keeps Noted (settleGroup groupId version now) :=
  keeps_bind (keeps_requireGroup _) fun _ =>
    keeps_bind (Journal.keeps_settleRollout _ _ _) fun _ => keeps_pure ()

/-- How the decision about an installation ended, what it checked and all it wrote. -/
inductive Decision (config : EngineConfig) (now : Nat) (group : Group) (row : Installation)
    (mode : DeliveryMode) (store : Store) : Except EngineError UpdatePlan → Store → Prop where
  | refused {error : EngineError} {after : Store} (calm : Calm store after) :
      Decision config now group row mode store (.error error) after
  | redelivered {channel : Channel} {target : Package} {required : RequiredFloors}
      (offered : Offered store group row channel target)
      (pending : row.status = .updateGranted)
      (planned : requiredFloors store channel row.version config.maxFloorsPerResponse =
        .ok required) :
      Decision config now group row mode store (.ok (UpdatePlan.make target required)) store
  | closed {channel : Channel} {target : Package} {error : EngineError} {after : Store}
      (targeted : groupTarget? store group = some (channel, target))
      (needless : ¬ Offered store group row channel target)
      (unfinished : row.grantedVersion.isSome = true ∧ row.status ≠ .complete)
      (noted : Noted (store.rewriteRow row.key row (row.moved .complete) now none) after)
      (closes : after = ((settleGroup group.id target.version now).perform
        (store.rewriteRow row.key row (row.moved .complete) now none)).2) :
      Decision config now group row mode store (.error error) after
  | held {channel : Channel} {target : Package} {denial : Denial} {error : EngineError}
      {after : Store}
      (offered : Offered store group row channel target)
      (idle : row.status.isInFlight = false)
      (denied : ((enforcePolicy group target.version now).perform store).1 =
        .error (.denied denial))
      (calm : Calm (store.rewriteRow row.key row (row.moved .onHold) now none) after) :
      Decision config now group row mode store (.error error) after
  | granted {channel : Channel} {target package : Package} {required : RequiredFloors}
      {result : Except EngineError UpdatePlan} {after : Store}
      (offered : Offered store group row channel target)
      (idle : row.status.isInFlight = false)
      (admitted : (enforcePolicy group target.version now).perform store = (.ok (), store))
      (planned : requiredFloors store channel row.version config.maxFloorsPerResponse =
        .ok required)
      (delivered : (UpdatePlan.make target required).finalPackage? mode = some package)
      (noted : Noted
        (store.rewriteRow row.key row
          (row.granted (row.grantOf package.version target.version now)) now none)
        after)
      (answered : ∀ plan, result = .ok plan → plan = UpdatePlan.make target required)
      (starts : after = ((Journal.rolloutStarted config.dedupeSeconds group target.version
        now).perform (store.rewriteRow row.key row
          (row.granted (row.grantOf package.version target.version now)) now none)).2) :
      Decision config now group row mode store result after

theorem perform_planFor (config : EngineConfig) (channel : Channel) (target : Package)
    (version : String) (store : Store) :
    (planFor config channel target version).perform store =
      ((requiredFloors store channel version config.maxFloorsPerResponse).map
        (UpdatePlan.make target), store) := by
  simp only [planFor, perform_bind, perform_get, perform_ofExcept]
  cases requiredFloors store channel version config.maxFloorsPerResponse <;> rfl

section

variable {store : Store} {row : Installation} {group : Group}

theorem perform_transition (found : store.installations.get? row.key = some row)
    (status : Status) (errorCode : Option String) (now : Nat) :
    (transition row status errorCode now).perform store =
      (.ok (row.moved status), store.rewriteRow row.key row (row.moved status) now errorCode) :=
  perform_changeInstallation found now errorCode _

theorem perform_grant (found : store.installations.get? row.key = some row)
    (version target : String) (now : Nat) :
    (commit fun store => store.grant (row.grantOf version target now)).perform store =
      (.ok (row.granted (row.grantOf version target now)),
        store.rewriteRow row.key row (row.granted (row.grantOf version target now)) now none) :=
  perform_changeInstallation found now none _

theorem perform_closeGrant (found : store.installations.get? row.key = some row)
    (version : String) (now : Nat) :
    (closeGrant row group version now).perform store =
      (settleGroup group.id version now).perform
        (store.rewriteRow row.key row (row.moved .complete) now none) := by
  unfold closeGrant
  rw [perform_bind_ok (perform_transition found .complete none now)]
  rfl

theorem holdIfDenied_cases {before : Store} (found : before.installations.get? row.key = some row)
    (calm : Calm before store) (version : String) (now : Nat) (error : EngineError) :
    Calm before ((holdIfDenied row group version now error).perform store).2 ∨
      (∃ denial, error = .denied denial) ∧
        Calm (before.rewriteRow row.key row (row.moved .onHold) now none)
          ((holdIfDenied row group version now error).perform store).2 := by
  unfold holdIfDenied
  cases error with
  | denied denial =>
    refine .inr ⟨⟨denial, rfl⟩, ?_⟩
    -- What the policy wrote before it denied has left the installations alone.
    rw [← calm.noted.fleet.installations] at found
    simp only [EngineError.denial?]
    rw [perform_bind_ok (perform_transition found .onHold none now)]
    refine trans_of Calm (calm.rewriteRow row.key row (row.moved .onHold) now none) ?_
    split
    · exact Journal.keeps_rolloutFailed group version now _
    · exact keeps_pure () _
  | _ => exact .inl calm

theorem grantUpdate_cases (config : EngineConfig) (now : Nat) {channel : Channel}
    {target : Package} {mode : DeliveryMode}
    (found : store.installations.get? row.key = some row)
    (offered : Offered store group row channel target) (idle : row.status.isInFlight = false) :
    Decision config now group row mode store
      ((grantUpdate config now row group channel target mode).perform store).1
      ((grantUpdate config now row group channel target mode).perform store).2 := by
  unfold grantUpdate
  rcases enforced : (enforcePolicy group target.version now).perform store with
    ⟨error | admitted, between⟩
  · -- The policy refuses; what it wrote itself comes before the hold and touches no installation.
    have calm : Calm store between := by
      simpa [enforced] using keeps_enforcePolicy group target.version now store
    obtain ⟨failure, failed⟩ := perform_bind_throw (β := Unit)
      (holdIfDenied row group target.version now error) error between
    have handled : perform
        (tryCatch (enforcePolicy group target.version now) fun error => do
          holdIfDenied row group target.version now error
          throw error) store =
        (.error failure,
          ((holdIfDenied row group target.version now error).perform between).2) := by
      rw [perform_tryCatch, enforced]
      exact failed
    rw [perform_bind_error handled]
    rcases holdIfDenied_cases found calm target.version now error with
      quiet | ⟨⟨denial, rfl⟩, held⟩
    · exact .refused quiet
    · exact .held offered idle (by rw [enforced]) held
  · obtain rfl := (enforcePolicy_ok.mp enforced).1.symm
    have handled : perform
        (tryCatch (enforcePolicy group target.version now) fun error => do
          holdIfDenied row group target.version now error
          throw error) store = (.ok (), store) := by
      rw [perform_tryCatch, enforced]
    rw [perform_bind_ok handled]
    -- Nothing is written before there is a plan and in it a package to grant.
    cases planned : requiredFloors store channel row.version config.maxFloorsPerResponse with
    | error error =>
      rw [perform_bind_error (by rw [perform_planFor, planned]; rfl)]
      exact .refused (Calm.refl store)
    | ok required =>
      rw [perform_bind_ok (by rw [perform_planFor, planned]; rfl)]
      cases delivered : (UpdatePlan.make target required).finalPackage? mode with
      | none =>
        rw [perform_bind_error (by simp only [require]; rfl)]
        exact .refused (Calm.refl store)
      | some package =>
        rw [perform_bind_ok (by simp only [require]; rfl)]
        have written := perform_grant found package.version target.version now
        rw [Installation.grantOf] at written
        rw [perform_bind_ok written]
        refine .granted offered idle enforced planned delivered ?_ ?_ ?_
        · exact keeps_bind (Journal.keeps_rolloutStarted _ _ _ _) (fun _ => keeps_pure _) _
        · intro plan answered
          obtain ⟨_, _, -, returned⟩ := bind_ok.mp (Prod.ext answered rfl)
          simp only [perform_pure, Prod.mk.injEq, Except.ok.injEq] at returned
          exact returned.1.symm
        · exact perform_bind_answer _ _ _

end

section

variable {config : EngineConfig} {now : Nat} {group : Group} {row : Installation}
  {mode : DeliveryMode} {store : Store}

theorem Decision.of_notes {notes : Action Store Unit} (keeps : Keeps Calm notes)
    (error : EngineError) :
    let denial : Action Store UpdatePlan := notes >>= fun _ => throw error
    Decision config now group row mode store (denial.perform store).1 (denial.perform store).2 := by
  obtain ⟨failure, failed⟩ := perform_bind_throw (β := UpdatePlan) notes error store
  simp only [failed]
  exact .refused (keeps store)

theorem Decision.of_closing {channel : Channel} {target : Package} {complete : Bool}
    (found : store.installations.get? row.key = some row)
    (targeted : groupTarget? store group = some (channel, target))
    (step : (factsOf row (some (channel, target))).nextStep = .blacklisted complete ∨
      (factsOf row (some (channel, target))).nextStep = .upToDate complete)
    (error : EngineError) :
    let denial : Action Store UpdatePlan :=
      if complete then closeGrant row group target.version now >>= fun _ => throw error
      else throw error
    Decision config now group row mode store (denial.perform store).1 (denial.perform store).2 := by
  obtain ⟨closes, needless⟩ := closing_step step
  cases complete with
  | false => exact .refused (Calm.refl store)
  | true =>
    obtain ⟨failure, failed⟩ := perform_bind_throw (β := UpdatePlan)
      (closeGrant row group target.version now) error store
    simp only [if_true, failed]
    rw [perform_closeGrant found]
    refine .closed targeted ?_ ?_ (keeps_settleGroup _ _ _ _) rfl
    · rwa [offered_iff targeted]
    · obtain ⟨hadGrant, unfinished⟩ := (Bool.and_eq_true _ _).mp closes.symm
      exact ⟨hadGrant, of_decide_eq_true unfinished⟩

end

theorem decide_cases (config : EngineConfig) (now : Nat) (applicationId : String) (group : Group)
    (instanceId : String) (mode : DeliveryMode) {store : Store} {row : Installation}
    (found : store.installation? instanceId applicationId = some row)
    (own : row.key = Installation.keyOf instanceId applicationId) :
    Decision config now group row mode store
      ((decide config now applicationId group instanceId mode).perform store).1
      ((decide config now applicationId group instanceId mode).perform store).2 := by
  have stored : store.installations.get? row.key = some row := by rwa [own]
  unfold decide
  rw [perform_bind_ok (perform_get store), perform_bind_ok (require_ok.mpr ⟨found, rfl⟩)]
  cases targeted : groupTarget? store group with
  | none =>
    -- Whatever the table of next steps says, nothing can be handed out without a target.
    cases step : (factsOf row none).nextStep <;> simp only [step]
    case rejectInFlight => exact .refused (Calm.refl store)
    all_goals exact .of_notes (Journal.keeps_packageNotFound _ _ _) _
  | some pair =>
    obtain ⟨channel, target⟩ := pair
    cases step : (factsOf row (some (channel, target))).nextStep <;> simp only [step]
    case rejectInFlight => exact .refused (Calm.refl store)
    case noPackage => exact .of_notes (Journal.keeps_packageNotFound _ _ _) _
    case blacklisted complete => exact .of_closing stored targeted (.inl step) _
    case upToDate complete => exact .of_closing stored targeted (.inr step) _
    case redeliver =>
      -- The grant stands; the plan is made once more, and nothing is written.
      obtain ⟨pending, offers⟩ := redeliver_iff.mp step
      rw [perform_planFor]
      cases planned : requiredFloors store channel row.version config.maxFloorsPerResponse with
      | error error => exact .refused (Calm.refl store)
      | ok required =>
        exact .redelivered ((offered_iff targeted).mpr offers) pending planned
    case evaluatePolicy =>
      obtain ⟨idle, offers⟩ := evaluatePolicy_iff.mp step
      exact grantUpdate_cases config now stored ((offered_iff targeted).mpr offers) idle

inductive Branch (config : EngineConfig) (now : Nat) (group : Group) (row : Installation)
    (mode : DeliveryMode) : Action Store UpdatePlan → Prop where
  | inFlight : Branch config now group row mode (throw (.denied .updateInProgress))
  | unfound : Branch config now group row mode (do
      Journal.packageNotFound config.dedupeSeconds group now
      throw (.denied .noPackageFound))
  | upToDate : Branch config now group row mode (throw (.denied .noUpdateAvailable))
  | closed (version : String) : Branch config now group row mode (do
      closeGrant row group version now
      throw (.denied .noUpdateAvailable))
  | redelivered (channel : Channel) (target : Package) :
      Branch config now group row mode (planFor config channel target row.version)
  | granted (channel : Channel) (target : Package) :
      Branch config now group row mode (grantUpdate config now row group channel target mode)

theorem decide_branch (config : EngineConfig) (now : Nat) (applicationId : String) (group : Group)
    (instanceId : String) (mode : DeliveryMode) {store : Store} {row : Installation}
    (found : store.installation? instanceId applicationId = some row) :
    ∃ branch, Branch config now group row mode branch ∧
      (decide config now applicationId group instanceId mode).perform store =
        branch.perform store := by
  have closing (complete : Bool) (version : String) : ∃ branch,
      Branch config now group row mode branch ∧
      (if complete then
          closeGrant row group version now >>= fun _ => throw (.denied .noUpdateAvailable)
        else throw (.denied .noUpdateAvailable) : Action Store UpdatePlan).perform store =
          branch.perform store := by
    cases complete with
    | false => exact ⟨_, .upToDate, rfl⟩
    | true => exact ⟨_, .closed version, rfl⟩
  unfold decide
  rw [perform_bind_ok (perform_get store), perform_bind_ok (require_ok.mpr ⟨found, rfl⟩)]
  cases targeted : groupTarget? store group with
  | none =>
    cases step : (factsOf row none).nextStep <;> simp only [step]
    case rejectInFlight => exact ⟨_, .inFlight, rfl⟩
    all_goals exact ⟨_, .unfound, rfl⟩
  | some pair =>
    obtain ⟨channel, target⟩ := pair
    cases step : (factsOf row (some (channel, target))).nextStep <;> simp only [step]
    case rejectInFlight => exact ⟨_, .inFlight, rfl⟩
    case noPackage => exact ⟨_, .unfound, rfl⟩
    case blacklisted complete => exact closing complete _
    case upToDate complete => exact closing complete _
    case redeliver => exact ⟨_, .redelivered channel target, rfl⟩
    case evaluatePolicy => exact ⟨_, .granted channel target, rfl⟩

theorem planFor_ok {config : EngineConfig} {channel : Channel} {target : Package} {version : String}
    {store after : Store} {plan : UpdatePlan}
    (planned : (planFor config channel target version).perform store = (.ok plan, after)) :
    ∃ required, requiredFloors store channel version config.maxFloorsPerResponse = .ok required ∧
      plan = UpdatePlan.make target required := by
  rw [perform_planFor, Prod.mk.injEq] at planned
  cases required : requiredFloors store channel version config.maxFloorsPerResponse with
  | error error => simp [required, Except.map] at planned
  | ok floors =>
    simp only [required, Except.map, Except.ok.injEq] at planned
    exact ⟨floors, rfl, planned.1.symm⟩

theorem grantUpdate_ok {config : EngineConfig} {now : Nat} {row : Installation} {group : Group}
    {channel : Channel} {target : Package} {mode : DeliveryMode} {store after : Store}
    {plan : UpdatePlan}
    (answered : (grantUpdate config now row group channel target mode).perform store =
      (.ok plan, after)) :
    ∃ required, requiredFloors store channel row.version config.maxFloorsPerResponse =
      .ok required ∧ plan = UpdatePlan.make target required := by
  unfold grantUpdate at answered
  obtain ⟨_, between, admitted, answered⟩ := bind_ok.mp answered
  obtain ⟨_, _, planned, answered⟩ := bind_ok.mp answered
  obtain ⟨_, _, _, answered⟩ := bind_ok.mp answered
  obtain ⟨_, _, _, answered⟩ := bind_ok.mp answered
  obtain ⟨_, _, _, answered⟩ := bind_ok.mp answered
  rw [perform_pure, Prod.mk.injEq, Except.ok.injEq] at answered
  obtain rfl := answered.1
  rw [perform_tryCatch] at admitted
  rcases enforced : (enforcePolicy group target.version now).perform store with
    ⟨error | _, enforcedStore⟩
  · obtain ⟨_, failed⟩ := perform_bind_throw (β := Unit)
      (holdIfDenied row group target.version now error) error enforcedStore
    simp only [enforced, failed, Prod.mk.injEq, reduceCtorEq, false_and] at admitted
  · rw [enforced] at admitted
    simp only [Prod.mk.injEq] at admitted
    rw [← admitted.2, (enforcePolicy_ok.mp enforced).1] at planned
    exact planFor_ok planned

theorem decide_ok {config : EngineConfig} {now : Nat} {applicationId : String} {group : Group}
    {instanceId : String} {mode : DeliveryMode} {store after : Store} {plan : UpdatePlan}
    (answered : (decide config now applicationId group instanceId mode).perform store =
      (.ok plan, after)) :
    ∃ row channel target required, store.installation? instanceId applicationId = some row ∧
      Offered store group row channel target ∧
      requiredFloors store channel row.version config.maxFloorsPerResponse = .ok required ∧
      plan = UpdatePlan.make target required := by
  unfold decide at answered
  rw [perform_bind_ok (perform_get store)] at answered
  obtain ⟨row, _, found, answered⟩ := bind_ok.mp answered
  obtain ⟨found, same⟩ := require_ok.mp found
  rw [same] at answered
  cases targeted : groupTarget? store group with
  | none =>
    cases step : (factsOf row none).nextStep <;> simp only [targeted, step] at answered
    case rejectInFlight => simp at answered
    all_goals
      obtain ⟨_, _, _, denied⟩ := bind_ok.mp answered
      simp at denied
  | some pair =>
    obtain ⟨channel, target⟩ := pair
    cases step : (factsOf row (some (channel, target))).nextStep <;>
      simp only [targeted, step] at answered
    case rejectInFlight => simp at answered
    case noPackage =>
      obtain ⟨_, _, _, denied⟩ := bind_ok.mp answered
      simp at denied
    -- Both end in a denial, whether a grant is closed first or not.
    case blacklisted complete => cases complete <;> simp [bind_ok] at answered
    case upToDate complete => cases complete <;> simp [bind_ok] at answered
    case redeliver =>
      obtain ⟨required, planned, rfl⟩ := planFor_ok answered
      exact ⟨row, channel, target, required, found,
        (offered_iff targeted).mpr (redeliver_iff.mp step).2, planned, rfl⟩
    case evaluatePolicy =>
      obtain ⟨required, planned, rfl⟩ := grantUpdate_ok answered
      exact ⟨row, channel, target, required, found,
        (offered_iff targeted).mpr (evaluatePolicy_iff.mp step).2, planned, rfl⟩

theorem catalog_of_notes {α : Type} {notes : Action Store α} (keeps : Keeps Noted notes) :
    Keeps SameCatalog notes :=
  keeps.imp fun _ _ noted => noted.catalog

theorem keeps_transition (row : Installation) (status : Status) (errorCode : Option String)
    (now : Nat) : Keeps SameCatalog (transition row status errorCode now) :=
  keeps_commit_changeInstallation _ _ _ _ _

theorem keeps_closeGrant (row : Installation) (group : Group) (version : String) (now : Nat) :
    Keeps SameCatalog (closeGrant row group version now) :=
  keeps_bind (keeps_transition _ _ _ _) fun _ =>
    keeps_bind (keeps_requireGroup _) fun _ =>
      keeps_bind (catalog_of_notes (Journal.keeps_settleRollout _ _ _)) fun _ => keeps_pure ()

theorem keeps_holdIfDenied (row : Installation) (group : Group) (version : String) (now : Nat)
    (error : EngineError) : Keeps SameCatalog (holdIfDenied row group version now error) := by
  unfold holdIfDenied
  split
  · exact keeps_pure ()
  · refine keeps_bind (keeps_transition _ _ _ _) fun _ => ?_
    split
    · exact catalog_of_notes (noted_of_calm (Journal.keeps_rolloutFailed _ _ _))
    · exact keeps_pure ()

theorem keeps_planFor (config : EngineConfig) (channel : Channel) (target : Package)
    (version : String) : Keeps SameCatalog (planFor config channel target version) :=
  keeps_bind keeps_get fun _ => keeps_bind (keeps_ofExcept _) fun _ => keeps_pure _

theorem keeps_grantUpdate (config : EngineConfig) (now : Nat) (row : Installation) (group : Group)
    (channel : Channel) (target : Package) (mode : DeliveryMode) :
    Keeps SameCatalog (grantUpdate config now row group channel target mode) := by
  refine keeps_bind (keeps_tryCatch
      (catalog_of_notes (noted_of_calm (keeps_enforcePolicy _ _ _))) fun error => ?_)
    fun _ => keeps_bind (keeps_planFor _ _ _ _) fun _ => keeps_bind (keeps_require _ _) fun _ => ?_
  · exact keeps_bind (keeps_holdIfDenied _ _ _ _ _) fun _ => keeps_throw _
  · exact keeps_bind (keeps_commit_changeInstallation _ _ _ _ _) fun _ =>
      keeps_bind (catalog_of_notes (Journal.keeps_rolloutStarted _ _ _ _)) fun _ => keeps_pure _

theorem packageNotFound_sameCatalog (window : Nat) (group : Group) (now : Nat) :
    Keeps SameCatalog (Journal.packageNotFound window group now) :=
  catalog_of_notes (noted_of_calm (Journal.keeps_packageNotFound window group now))

theorem keeps_decide (config : EngineConfig) (now : Nat) (applicationId : String) (group : Group)
    (instanceId : String) (mode : DeliveryMode) :
    Keeps SameCatalog (decide config now applicationId group instanceId mode) := by
  have closing (complete : Bool) (row : Installation) (version : String) (error : EngineError) :
      Keeps SameCatalog
        (if complete then closeGrant row group version now >>= fun _ => throw error
          else throw error : Action Store UpdatePlan) := by
    cases complete
    · exact keeps_throw error
    · exact keeps_bind (keeps_closeGrant _ _ _ _) fun _ => keeps_throw error
  refine keeps_bind keeps_get fun store => keeps_bind (keeps_require _ _) fun row => ?_
  simp only
  split
  · exact keeps_throw _
  · exact keeps_bind (packageNotFound_sameCatalog _ _ _) fun _ => keeps_throw _
  · exact keeps_bind (packageNotFound_sameCatalog _ _ _) fun _ => keeps_throw _
  · exact closing _ _ _ _
  · exact closing _ _ _ _
  · exact keeps_planFor _ _ _ _
  · exact keeps_grantUpdate _ _ _ _ _ _ _

end CheckIn

end FleetRollout

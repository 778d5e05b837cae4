import FleetRollout.Proofs.Names
import FleetRollout.Proofs.Replies
import FleetRollout.Proofs.Traversal

set_option autoImplicit false

/-!
A client that asks at the version it has on record, reports that its update is complete and asks
again. Where nothing but floors stands between it and the target of its group, every answer is a
leg of its way, and each report puts it where the leg ended; so it comes to the target, with all
floors on the way delivered, and is told then that there is no update any more.
-/

namespace FleetRollout

open Store FleetRollout.Action

-- The request made with a version, and without events.
def UpdateRequest.asking (version : String) : UpdateRequest → UpdateRequest
  | .plan request mode => .plan { request with version } mode
  | .checkIn request => .checkIn { request with version, events := [], updateCheck := true }

/-- What a client asks and reports, for an installation of the application. -/
structure Walk where
  request : UpdateRequest
  report : EventReport
  applicationId : String

namespace Walk

def storedRow (walk : Walk) : Action Engine Installation := do
  Action.require (.invalidInstance walk.request.instanceId)
    ((← Engine.readStore).installation? walk.request.instanceId walk.applicationId)

-- One round after the other, each with the times of its request and of its report. Answers all that
-- was delivered once there is no update available, and nothing if the rounds end before.
def run (walk : Walk) : List (Nat × Nat) → Action Engine (Option (List Delivery))
  | [] => pure none
  | (asked, reported) :: later => do
      modify fun engine => engine.setNow asked
      let row ← walk.storedRow
      match ← (walk.request.asking row.version).outcome with
      | .noUpdate .noUpdateAvailable => pure (some [])
      | .update deliveries _ => do
          modify fun engine => engine.setNow reported
          let _ ← Engine.registerEvent walk.report
          let rest ← walk.run later
          pure (rest.map (deliveries ++ ·))
      | _ => pure none

end Walk

structure Policy.Unrestricted (policy : Policy) : Prop where
  enabled : policy.updatesEnabled = true
  allDay : policy.officeHours = false
  noCanary : policy.safeMode = false
  unlimited : unlimitedUpdates ≤ policy.maxUpdatesPerPeriod

theorem Policy.Unrestricted.admits {group : Group} (unrestricted : group.policy.Unrestricted)
    (version : String) (now : Nat) (store : Store) :
    (enforcePolicy group version now).perform store = (.ok (), store) := by
  have uncounted : group.policy.needsCounters = false := by
    simp [Policy.needsCounters, unrestricted.noCanary, unrestricted.unlimited]
  have opened : group.policy.isOpen now = .ok true := by
    simp [Policy.isOpen, unrestricted.enabled, unrestricted.allDay]
  exact enforcePolicy_ok.mpr ⟨rfl, opened, by simp [uncounted]⟩

namespace Store

/-- The group is offered the target of its channel, and its policy denies nothing. -/
def OpenWay (store : Store) (groupId : String) (channel : Channel) (target : Package) : Prop :=
  ∃ group, store.groups.get? groupId = some group ∧
    CheckIn.groupTarget? store group = some (channel, target) ∧
    target.isBlacklistedFor channel.id = false ∧ group.policy.Unrestricted

def SamePolicies (before after : Store) : Prop :=
  ∀ id, (after.groups.get? id).map Group.policy = (before.groups.get? id).map Group.policy

instance : IsPreorder Store SamePolicies where
  refl _ _ := rfl
  trans _ _ _ head tail id := (tail id).trans (head id)

theorem OpenWay.after {store after : Store} {groupId : String} {channel : Channel}
    {target : Package} (way : store.OpenWay groupId channel target)
    (catalog : SameCatalog store after) (policies : SamePolicies store after) :
    after.OpenWay groupId channel target := by
  obtain ⟨group, stored, targeted, permitted, unrestricted⟩ := way
  obtain ⟨later, found, setup⟩ := catalog.group_after stored
  have same : later.policy = group.policy := by
    have kept := policies groupId
    rwa [found, stored, Option.map_some, Option.map_some, Option.some.injEq] at kept
  exact ⟨later, found, (CheckIn.groupTarget_congr catalog setup).trans targeted, permitted,
    same ▸ unrestricted⟩

end Store

namespace Journal

theorem keeps_policies_setRollout (id : String) (inProgress : Bool) :
    Keeps SamePolicies (commitOnly fun store => store.setRollout id inProgress) := by
  refine keeps_commitOnly fun store after changed other => ?_
  obtain ⟨group, found, rfl⟩ := changeGroup_ok changed
  dsimp only
  rw [Table.get_insert]
  split
  next same => simp [← same, found]
  next => rfl

theorem keeps_policies_record (entry : ActivityEntry) : Keeps SamePolicies (record entry) :=
  fun _ _ => rfl

theorem keeps_policies_rolloutStarted (window : Nat) (group : Group) (version : String)
    (now : Nat) : Keeps SamePolicies (rolloutStarted window group version now) := by
  refine keeps_bind (keeps_bind keeps_get fun store => ?_) fun _ => ?_
  · split
    · exact keeps_pure _
    · exact keeps_bind (keeps_policies_record _) fun _ => keeps_pure _
  · split
    · exact keeps_pure _
    · exact keeps_policies_setRollout _ _

theorem keeps_policies_settleRollout (group : Group) (version : String) (now : Nat) :
    Keeps SamePolicies (settleRollout group version now) := by
  refine keeps_bind keeps_get fun store => ?_
  split
  · exact keeps_bind (keeps_policies_setRollout _ _) fun _ =>
      keeps_bind (keeps_policies_record _) fun _ => keeps_pure _
  · exact keeps_pure _

end Journal

namespace CheckIn

theorem keeps_policies_completed (now : Nat) (group : Group) (instanceId : String)
    (row : Installation) : Keeps SamePolicies (afterEvent now group instanceId row .complete) := by
  refine keeps_bind keeps_get fun store => ?_
  split
  · exact keeps_pure _
  · exact keeps_bind (keeps_requireGroup _) fun _ =>
      keeps_bind (Journal.keeps_policies_settleRollout _ _ _) fun _ => keeps_pure _

variable {config : EngineConfig} {store : Store} {group : Group} {row : Installation}
  {channel : Channel} {target : Package} {required : RequiredFloors}
  {applicationId instanceId : String}

theorem decide_unrestricted (unrestricted : group.policy.Unrestricted) (keyed : store.Keyed)
    (found : store.installation? instanceId applicationId = some row)
    (stored : store.groups.get? group.id = some group)
    (offered : Offered store group row channel target) (idle : row.status.isInFlight = false)
    (now : Nat) {mode : DeliveryMode} {package : Package}
    (planned : requiredFloors store channel row.version config.maxFloorsPerResponse = .ok required)
    (delivered : (UpdatePlan.make target required).finalPackage? mode = some package) :
    ∃ after, (decide config now applicationId group instanceId mode).perform store =
        (.ok (UpdatePlan.make target required), after) ∧
      SamePolicies store after ∧
      after.installation? instanceId applicationId =
        some (row.granted (row.grantOf package.version target.version now)) := by
  refine ⟨_, decide_grants keyed found stored offered idle
    (unrestricted.admits target.version now store) planned delivered, ?_, ?_⟩
  · exact Journal.keeps_policies_rolloutStarted _ _ _ _ (store.rewriteRow _ _ _ _ _)
  · have noted := Journal.keeps_rolloutStarted config.dedupeSeconds group target.version now
      (store.rewriteRow row.key row
        (row.granted (row.grantOf package.version target.version now)) now none)
    rw [installation?, noted.fleet.installations, rewriteRow, Table.get_insert,
      if_pos (keyed.installations _ row found)]

theorem applyEvent_completes {event : ProgressEvent} (leads : event.status = .ok (some .complete))
    (keyed : store.Keyed) (found : store.installation? instanceId applicationId = some row)
    (member : row.groupId = group.id) (running : row.inProgress = true)
    (pending : row.status = .updateGranted)
    (stored : ∃ current, store.groups.get? group.id = some current) (now : Nat) :
    ∃ after, (applyEvent now applicationId group instanceId event).perform store =
        (.ok (some .complete), after) ∧
      SamePolicies store after ∧
      after.installation? instanceId applicationId = some (row.moved .complete) := by
  have onward : row.status.isRegression .complete = false := by
    rw [pending]
    rfl
  obtain ⟨errorCode, applied⟩ :=
    applyEvent_moves leads found member running onward keyed.groups stored now
  refine ⟨_, applied, ?_, ?_⟩
  · exact keeps_policies_completed now group instanceId _ (store.rewriteRow _ _ _ _ _)
  · have noted := keeps_afterEvent now group instanceId (row.moved .complete) .complete
      (store.rewriteRow (Installation.keyOf instanceId applicationId) row (row.moved .complete) now
        errorCode)
    rw [installation?, noted.fleet.installations, rewriteRow, Table.get_insert, if_pos rfl]

end CheckIn

namespace Walk

structure Serves (walk : Walk) (engine : Engine) (groupId : String) : Prop where
  named : CheckIn.isInstanceId walk.request.instanceId = true
  addressed : (Network.Address.parse? (Text.trim walk.request.ip)).isSome = true
  reporter : walk.report.instanceId = walk.request.instanceId
  completes : walk.report.event.kind = 3 ∧ walk.report.event.result = 2
  asks : ∃ group, (walk.request.operation.locator.perform engine).1 =
    .ok (walk.applicationId, group) ∧ group.id = groupId
  reports : ∃ group, ((Operation.registerEvent walk.report).locator.perform engine).1 =
    .ok (walk.applicationId, group) ∧ group.id = groupId

/-- A walker in the group that has the installation, with nothing in its way to the target. -/
structure On (walk : Walk) (engine : Engine) (groupId : String) (channel : Channel)
    (target : Package) (row : Installation) : Prop where
  keyed : engine.store.Keyed
  bounded : engine.config.maxFloorsPerResponse < Text.wordSize - 1
  serves : walk.Serves engine groupId
  way : engine.store.OpenWay groupId channel target
  found : engine.store.installation? walk.request.instanceId walk.applicationId = some row
  member : row.groupId = groupId

variable {walk : Walk} {engine later : Engine} {groupId : String} {channel : Channel}
  {target : Package} {row other : Installation}

theorem Serves.again (serves : walk.Serves engine groupId)
    (same : Engine.SameNames engine later) : walk.Serves later groupId := by
  obtain ⟨group, asked, rfl⟩ := serves.asks
  obtain ⟨reported, told, own⟩ := serves.reports
  obtain ⟨current, asks, setup⟩ := Operation.located_again same asked
  obtain ⟨reporting, reports, reportingSetup⟩ := Operation.located_again same told
  exact
    { serves with
      asks := ⟨current, asks, (Group.same_of_setup setup).1⟩
      reports := ⟨reporting, reports, (Group.same_of_setup reportingSetup).1.trans own⟩ }

theorem On.again (on : walk.On engine groupId channel target row)
    (same : Engine.SameNames engine later) (config : later.config = engine.config)
    (policies : SamePolicies engine.store later.store)
    (found : later.store.installation? walk.request.instanceId walk.applicationId = some other)
    (member : other.groupId = groupId) : walk.On later groupId channel target other where
  keyed := by
    obtain ⟨_, _, -, looks⟩ := same.indexes
    exact looks.keyed
  bounded := config ▸ on.bounded
  serves := on.serves.again same
  way := on.way.after same.catalog policies
  found
  member

theorem On.setNow (on : walk.On engine groupId channel target row) (now : Nat) :
    walk.On (engine.setNow now) groupId channel target row := by
  have same : Engine.SameNames engine (engine.setNow now) := by
    obtain ⟨applications, tracks, looks, other⟩ := (Engine.sameNames_refl on.keyed).indexes
    exact ⟨⟨applications, tracks, looks, other.keyed, other.applications, other.tracks⟩,
      SameCatalog.refl engine.store⟩
  exact on.again same rfl (fun _ => rfl) on.found on.member

end Walk

-- An update to this version was granted, and nothing was reported of it so far.
structure Installation.Awaits (row : Installation) (version : Version) : Prop where
  pending : row.status = .updateGranted
  running : row.inProgress = true
  records : ∃ granted, row.grantedVersion = some granted ∧ Version.parse? granted = some version

theorem Installation.Awaits.completed {row : Installation} {version above : Version}
    (awaits : row.Awaits version) (reads : Version.parse? row.version = some above)
    (newer : above.isBefore version = true) :
    Version.parse? (row.moved .complete).version = some version := by
  obtain ⟨granted, record, parsed⟩ := awaits.records
  have older : Version.isOlder row.version granted = true := by
    rwa [Version.isOlder_of_parse reads parsed]
  simp [Installation.moved, Installation.versionAfter, record, older, parsed]

namespace UpdateRequest

@[simp]
theorem asking_instanceId (request : UpdateRequest) (version : String) :
    (request.asking version).instanceId = request.instanceId := by
  cases request <;> rfl

@[simp]
theorem asking_version (request : UpdateRequest) (version : String) :
    (request.asking version).version = version := by
  cases request <;> rfl

@[simp]
theorem asking_ip (request : UpdateRequest) (version : String) :
    (request.asking version).ip = request.ip := by
  cases request <;> rfl

@[simp]
theorem asking_asksOnly (request : UpdateRequest) (version : String) :
    (request.asking version).asksOnly = true := by
  cases request <;> rfl

@[simp]
theorem asking_locator (request : UpdateRequest) (version : String) :
    (request.asking version).operation.locator = request.operation.locator := by
  cases request <;> rfl

theorem outcome_holds {Q : {α : Type} → Action Engine α → Prop} (parts : Engine.HoldsOfParts Q)
    (request : UpdateRequest) : Q request.outcome := by
  cases request with
  | plan request mode =>
    refine parts.tryCatch (parts.bind (parts.updatePlan request mode) fun _ => parts.pure _)
      fun error => ?_
    cases error.denial? with
    | some reason => exact parts.pure _
    | none => exact parts.throw _
  | checkIn request => exact parts.bind (parts.checkIn request) fun _ => parts.pure _

end UpdateRequest

namespace Walk

variable {walk : Walk} {engine : Engine} {groupId : String} {channel : Channel}
  {target : Package} {row : Installation} {above upTo : Version}

structure Entered (walk : Walk) (engine : Engine) (channel : Channel) (target : Package)
    (row : Installation) (group : Group) (entered : Engine) : Prop where
  letIn : (walk.request.asking row.version).entrance.perform engine =
    (.ok (walk.applicationId, group), entered)
  config : entered.config = engine.config
  keyed : entered.store.Keyed
  catalog : SameCatalog engine.store entered.store
  groups : entered.store.groups = engine.store.groups
  found : entered.store.installation? (walk.request.asking row.version).instanceId
    walk.applicationId = some { row with lastCheckAt := engine.now }
  stored : entered.store.groups.get? group.id = some group
  targeted : CheckIn.groupTarget? entered.store group = some (channel, target)
  permitted : target.isBlacklistedFor channel.id = false
  unrestricted : group.policy.Unrestricted

theorem On.enters (on : walk.On engine groupId channel target row)
    (reads : Version.parse? row.version = some above) :
    ∃ group entered, walk.Entered engine channel target row group entered := by
  obtain ⟨group, located, rfl⟩ := on.serves.asks
  rw [← walk.request.asking_locator row.version] at located
  have valid : CheckIn.Valid
      ((walk.request.asking row.version).registration walk.applicationId group) := by
    refine UpdateRequest.registration_valid ?_ ?_ ?_ walk.applicationId group
    · simpa using on.serves.named
    · simpa using on.serves.addressed
    · simp [reads]
  obtain ⟨entered, address, letIn, config, -, recorded⟩ :=
    UpdateRequest.perform_entrance located valid
  -- What it reports is what is on record, so nothing is news but the time.
  have seen : engine.store.sighted (((walk.request.asking row.version).registration
      walk.applicationId group).sighting walk.applicationId group.id engine.now) =
        { row with lastCheckAt := engine.now } := by
    refine CheckIn.sighted_same ?_ on.member ?_
    · simpa [Registration.sighting, UpdateRequest.registration_instanceId] using on.found
    · simp [Registration.sighting, UpdateRequest.registration_version]
  have groups : entered.store.groups = engine.store.groups := by
    rw [recorded, recordCheckIn_groups]
  have catalog : SameCatalog engine.store entered.store := by
    rw [recorded]
    exact recordCheckIn_sameCatalog _ _ _
  have stored : engine.store.groups.get? group.id = some group :=
    Operation.located_stored on.keyed located
  obtain ⟨own, known, targeted, permitted, unrestricted⟩ := on.way
  obtain rfl : group = own := Option.some.inj (stored.symm.trans known)
  refine ⟨group, entered,
    { letIn, config, catalog, groups, permitted, unrestricted
      keyed := ?_
      found := ?_
      stored := by rwa [groups]
      targeted := (CheckIn.groupTarget_congr catalog rfl).trans targeted }⟩
  · rw [recorded]
    exact on.keyed.recordCheckIn _ _
  · rw [recorded, installation?, recordCheckIn_installations, seen, Table.get_insert, if_pos]
    rw [Registration.sighting, UpdateRequest.registration_instanceId]

theorem On.plan (on : walk.On engine groupId channel target row)
    (reads : Version.parse? row.version = some above)
    (targetReads : Version.parse? target.version = some upTo)
    (behind : above.isBefore upTo = true) (mode : DeliveryMode) :
    ∃ required package reached,
      requiredFloors engine.store channel row.version engine.config.maxFloorsPerResponse =
        .ok required ∧
      (UpdatePlan.make target required).finalPackage? mode = some package ∧
      Version.parse? package.version = some reached ∧
      Leg engine.store channel.id above upTo ((UpdatePlan.make target required).deliverable mode)
        reached := by
  obtain ⟨group, -, targeted, permitted, -⟩ := on.way
  obtain ⟨_, _, -, -, targets, stands⟩ := CheckIn.groupTarget_eq_some_iff.mp targeted
  have planned := (requiredFloors_eq targets stands reads targetReads
    engine.config.maxFloorsPerResponse).trans (if_pos on.bounded)
  obtain ⟨package, delivered⟩ := UpdatePlan.finalPackage_delivered planned target mode
  have older : Version.isOlder row.version target.version = true := by
    rwa [Version.isOlder_of_parse reads targetReads]
  obtain ⟨reached, parsed, leg⟩ := leg_of_plan
    ⟨targeted, permitted, older⟩ planned reads targetReads delivered
  exact ⟨_, package, reached, planned, delivered, parsed, leg⟩

theorem On.granted (on : walk.On engine groupId channel target row)
    (idle : row.status.isInFlight = false)
    (reads : Version.parse? row.version = some above)
    (targetReads : Version.parse? target.version = some upTo)
    (behind : above.isBefore upTo = true) :
    ∃ deliveries hasMore granted reached next,
      (walk.request.asking row.version).outcome.perform engine =
        (.ok (.update deliveries hasMore), granted) ∧
      SameCatalog engine.store granted.store ∧
      Leg engine.store channel.id above upTo deliveries reached ∧
      walk.On granted groupId channel target next ∧ next.version = row.version ∧
      next.Awaits reached := by
  obtain ⟨group, entered, here⟩ := on.enters reads
  obtain ⟨required, package, reached, planned, delivered, parsed, leg⟩ :=
    on.plan reads targetReads behind (walk.request.asking row.version).mode
  have older : Version.isOlder row.version target.version = true := by
    rwa [Version.isOlder_of_parse reads targetReads]
  -- The plan is made from the catalog and the version, and both are as before.
  rw [← CheckIn.requiredFloors_congr here.catalog, ← here.config] at planned
  obtain ⟨store, decided, policies, granted⟩ := CheckIn.decide_unrestricted here.unrestricted
    here.keyed here.found here.stored ⟨here.targeted, here.permitted, older⟩ idle entered.now
    planned delivered
  have handsOut := UpdateRequest.handsOut_of_decided (walk.request.asking_asksOnly row.version)
    here.letIn here.stored decided granted
  have outcome := handsOut.outcome
  have same := (Engine.sameNames_refl on.keyed).of_parts (fun parts =>
    UpdateRequest.outcome_holds parts (walk.request.asking row.version))
  rw [outcome] at same
  rw [walk.request.asking_instanceId] at granted
  have onward := on.again same here.config
    (fun id => (policies id).trans (by rw [here.groups])) granted on.member
  exact ⟨_, _, _, reached, _, outcome, same.catalog, leg, onward, rfl, rfl, rfl, _, rfl, parsed⟩

theorem On.completed (on : walk.On engine groupId channel target row) {reached : Version}
    (awaits : row.Awaits reached) :
    ∃ after, (Engine.registerEvent walk.report).perform engine = (.ok (some .complete), after) ∧
      SameCatalog engine.store after.store ∧
      walk.On after groupId channel target (row.moved .complete) := by
  obtain ⟨group, located, rfl⟩ := on.serves.reports
  obtain ⟨directory, unmoved⟩ := Engine.sameData_keptByLookups.resolveGroup
    walk.report.applicationId walk.report.groupId engine
  have told : (Engine.resolveGroup walk.report.applicationId walk.report.groupId).perform engine =
      (.ok (walk.applicationId, group), { engine with directory }) := Prod.ext located unmoved
  have named : (check (CheckIn.isInstanceId walk.report.instanceId)
      (.invalidInstanceId walk.report.instanceId)).perform engine = (.ok (), engine) :=
    check_ok.mpr ⟨by rw [on.serves.reporter, on.serves.named], rfl⟩
  have leads : walk.report.event.status = .ok (some .complete) := by
    obtain ⟨kind, result⟩ := on.serves.completes
    rw [ProgressEvent.status, kind, result]
    rfl
  have found := on.found
  rw [← on.serves.reporter] at found
  obtain ⟨current, stored, -⟩ := on.way
  obtain ⟨store, applied, policies, completed⟩ := CheckIn.applyEvent_completes leads on.keyed found
    on.member awaits.running awaits.pending ⟨current, stored⟩ engine.now
  have registered : (Engine.registerEvent walk.report).perform engine =
      (.ok (some .complete), { engine with directory, store }) := by
    unfold Engine.registerEvent
    rw [perform_bind_ok named, perform_bind_ok told]
    dsimp only
    rw [perform_bind_ok (perform_get _), Engine.perform_onStore, applied]
  have same := (Engine.sameNames_refl on.keyed).of_parts (fun parts =>
    parts.registerEvent walk.report)
  rw [registered] at same
  rw [on.serves.reporter] at completed
  exact ⟨_, registered, same.catalog, on.again same rfl policies completed on.member⟩

theorem On.stopped (on : walk.On engine groupId channel target row) (done : row.status = .complete)
    (reads : Version.parse? row.version = some above)
    (targetReads : Version.parse? target.version = some upTo)
    (arrived : above.isBefore upTo = false) :
    ∃ after last, (walk.request.asking row.version).outcome.perform engine =
        (.ok (.noUpdate .noUpdateAvailable), after) ∧
      after.store.installation? walk.request.instanceId walk.applicationId = some last ∧
      last.version = row.version := by
  obtain ⟨group, entered, here⟩ := on.enters reads
  have reached : Version.isOlder row.version target.version = false :=
    (Version.isOlder_of_parse reads targetReads).trans arrived
  have decided : (walk.request.asking row.version).decision walk.applicationId group entered =
      (.error (.denied .noUpdateAvailable), entered.store) :=
    CheckIn.decide_upToDate here.found here.targeted here.permitted (by rw [done]) reached
      entered.now _
  have outcome := UpdateRequest.outcome_of_denied (walk.request.asking_asksOnly row.version)
    here.letIn here.stored decided here.found
  have found := here.found
  rw [walk.request.asking_instanceId] at found
  exact ⟨_, _, outcome, found, rfl⟩

section Rounds

variable {deliveries : List Delivery} {hasMore : Bool} {granted between after : Engine}
  {asked reported : Nat} {later : List (Nat × Nat)}

theorem On.perform_storedRow (on : walk.On engine groupId channel target row) :
    walk.storedRow.perform (engine.setNow asked) = (.ok row, engine.setNow asked) := by
  rw [storedRow, perform_bind_ok (Engine.perform_readStore _)]
  exact require_ok.mpr ⟨on.found, rfl⟩

theorem On.run_round (on : walk.On engine groupId channel target row)
    (outcome : (walk.request.asking row.version).outcome.perform (engine.setNow asked) =
      (.ok (.update deliveries hasMore), granted)) {status : Option Status}
    (registered : (Engine.registerEvent walk.report).perform (granted.setNow reported) =
      (.ok status, between)) {others : List Delivery}
    (rest : (walk.run later).perform between = (.ok (some others), after)) :
    (walk.run ((asked, reported) :: later)).perform engine =
      (.ok (some (deliveries ++ others)), after) := by
  rw [run, perform_bind_ok (perform_modify _ engine), perform_bind_ok on.perform_storedRow,
    perform_bind_ok outcome]
  dsimp only
  rw [perform_bind_ok (perform_modify _ granted), perform_bind_ok registered,
    perform_bind_ok rest]
  rfl

theorem On.run_end (on : walk.On engine groupId channel target row)
    (outcome : (walk.request.asking row.version).outcome.perform (engine.setNow asked) =
      (.ok (.noUpdate .noUpdateAvailable), after)) :
    (walk.run ((asked, reported) :: later)).perform engine = (.ok (some []), after) := by
  rw [run, perform_bind_ok (perform_modify _ engine), perform_bind_ok on.perform_storedRow,
    perform_bind_ok outcome]
  rfl

end Rounds

/-- The rounds end at the target, with all that lies on the way delivered. -/
def Arrives (walk : Walk) (engine : Engine) (channelId : String) (above upTo : Version)
    (rounds : List (Nat × Nat)) : Prop :=
  ∃ deliveries after last version,
    (walk.run rounds).perform engine = (.ok (some deliveries), after) ∧
    after.store.installation? walk.request.instanceId walk.applicationId = some last ∧
    Version.parse? last.version = some version ∧ version.triple = upTo.triple ∧
    Traversal engine.store channelId above upTo deliveries

theorem On.arrives (on : walk.On engine groupId channel target row)
    (idle : row.status.isInFlight = false)
    (reads : Version.parse? row.version = some above)
    (targetReads : Version.parse? target.version = some upTo)
    (behind : above.isBefore upTo = true) {rounds : List (Nat × Nat)}
    (enough : (engine.store.floorsAhead channel.id above upTo).length + 2 ≤ rounds.length) :
    walk.Arrives engine channel.id above upTo rounds := by
  induction rounds generalizing engine row above with
  | nil => simp at enough
  | cons round rest ih =>
    obtain ⟨asked, reported⟩ := round
    rw [List.length_cons] at enough
    obtain ⟨deliveries, hasMore, granted, reached, next, outcome, firstCatalog, leg, onGrant,
      version, awaits⟩ := (on.setNow asked).granted idle reads targetReads behind
    obtain ⟨between, registered, secondCatalog, onward⟩ :=
      (onGrant.setNow reported).completed awaits
    have catalog : SameCatalog engine.store between.store := firstCatalog.trans secondCatalog
    have stands : Version.parse? (next.moved .complete).version = some reached :=
      awaits.completed (version ▸ reads) leg.range.1
    cases short : reached.isBefore upTo with
    | true =>
      -- Fewer floors are ahead of where the leg ended, so the rounds that are left are enough.
      have fewer : (engine.store.floorsAhead channel.id reached upTo).length <
          (engine.store.floorsAhead channel.id above upTo).length := leg.closer short
      obtain ⟨others, after, last, arrived, ran, found, readsLast, level, traversal⟩ :=
        ih onward rfl stands short (by
          rw [Store.floorsAhead_congr catalog]
          omega)
      exact ⟨deliveries ++ others, after, last, arrived, on.run_round outcome registered ran, found,
        readsLast, level, leg.append short (traversal.of_sameCatalog catalog)⟩
    | false =>
      cases rest with
      | nil => simp at enough
      | cons round rest =>
        obtain ⟨askedAgain, _⟩ := round
        obtain ⟨after, last, denied, found, same⟩ :=
          (onward.setNow askedAgain).stopped rfl stands targetReads short
        refine ⟨deliveries ++ [], after, last, reached,
          on.run_round outcome registered (onward.run_end denied), found, ?_, ?_, ?_⟩
        · rw [same, stands]
        · exact Version.triple_eq_of_not_isBefore short leg.range.2
        · rw [List.append_nil]
          exact leg.traversal short

/--
Whoever is behind a target that nothing but floors is in front of comes to it: in as many rounds as
there are floors on the way and two more, whatever the mode, the cap and the times, it has been
delivered each of these versions and the target's in order, and is told that there is no update.
-/
theorem floor_walk_arrives (walk : Walk) (on : walk.On engine groupId channel target row)
    (idle : row.status.isInFlight = false)
    (behind : Version.isOlder row.version target.version = true) :
    ∃ above upTo, Version.parse? row.version = some above ∧
      Version.parse? target.version = some upTo ∧
      ∀ rounds : List (Nat × Nat),
        (engine.store.floorsAhead channel.id above upTo).length + 2 ≤ rounds.length →
          walk.Arrives engine channel.id above upTo rounds := by
  obtain ⟨above, upTo, reads, targetReads, before⟩ := Version.isOlder_iff.mp behind
  exact ⟨above, upTo, reads, targetReads, fun rounds enough =>
    on.arrives idle reads targetReads before enough⟩

def openFleet : Group :=
  { id := "fleet", name := "Fleet", description := "", applicationId := "agent"
    channelId := some "stable"
    policy := { safeMode := false, maxUpdatesPerPeriod := unlimitedUpdates }
    rolloutInProgress := false, track := "fleet", createdAt := 0 }

def stable : Channel :=
  { id := "stable", name := "Stable", color := "", applicationId := "agent"
    architecture := .amd64, packageId := some "latest", createdAt := 0 }

def latest : Package :=
  { id := "latest", applicationId := "agent", version := "3.0.0", architecture := .amd64
    kind := .generic, url := "https://packages/latest", filename := "", description := ""
    size := 0, hash := "", action := none, extraFiles := [], channelsBlacklist := []
    createdAt := 0 }

-- Two floors of the channel are level, and a host has registered below them.
def levelFloors : List Operation :=
  Operation.smallCatalog ++
    [ .createPackage
        { id := some "bridge-fix", applicationId := "agent", version := "2.0.0+fix"
          architecture := .amd64, kind := .generic, url := "https://packages/bridge-fix" },
      .addFloor "stable" "bridge-fix" "fix of the new file format",
      .updateGroup openFleet,
      .registerInstance .firstContact ]

theorem floor_walk_arrives_levelFloors :
    let engine := Operation.runAll {} levelFloors
    let walk : Walk :=
      { request := .plan .firstContact .single
        report :=
          { instanceId := "host", applicationId := "agent", groupId := "fleet"
            event := { kind := 3, result := 2 } }
        applicationId := "agent" }
    let row : Installation := .firstSeen
      { instanceId := "host", applicationId := "agent", groupId := "fleet", version := "1.0.0"
        time := 0 }
    let rounds := [(10, 20), (30, 40), (50, 60), (70, 80)]
    walk.On engine "fleet" stable latest row ∧
      Version.isOlder row.version latest.version = true ∧
      ((walk.run rounds).perform engine).1.toOption.join.map
        (fun deliveries => deliveries.map (·.package.version)) = some ["2.0.0", "3.0.0"] ∧
      ∃ above upTo, walk.Arrives engine stable.id above upTo rounds := by
  intro engine walk row rounds
  have on : walk.On engine "fleet" stable latest row :=
    { keyed := (Operation.reachable_runAll (.start {} rfl) levelFloors).keyed
      bounded := by decide +kernel
      serves :=
        { named := by decide +kernel
          addressed := by decide +kernel
          reporter := rfl
          completes := ⟨rfl, rfl⟩
          asks := UpdateRequest.located_of_ids (by decide +kernel)
          reports := UpdateRequest.located_of_ids (by decide +kernel) }
      way := ⟨openFleet, by decide +kernel, by decide +kernel, by decide +kernel,
        ⟨rfl, rfl, rfl, by decide +kernel⟩⟩
      found := by decide +kernel
      member := rfl }
  have behind : Version.isOlder row.version latest.version = true := by decide +kernel
  obtain ⟨above, upTo, reads, targetReads, arrives⟩ := floor_walk_arrives walk on rfl behind
  have start : Version.parse? row.version = some ⟨1, 0, 0, "1.0.0"⟩ := by decide +kernel
  have goal : Version.parse? latest.version = some ⟨3, 0, 0, "3.0.0"⟩ := by decide +kernel
  obtain rfl := Option.some.inj (reads.symm.trans start)
  obtain rfl := Option.some.inj (targetReads.symm.trans goal)
  exact ⟨on, behind, by decide +kernel, _, _, arrives rounds (by decide +kernel)⟩

end Walk

end FleetRollout

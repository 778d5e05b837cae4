import FleetRollout.Proofs.Change
import FleetRollout.Proofs.Floors

set_option autoImplicit false

/-!
What a client's request may fail with. Versions of packages and time zones of groups are read
before they are stored, so a request that was let in finds nothing it cannot read. From there on
only a denial stops it, or a cap on the floors that no word exceeds; whatever else is wrong with a
request is found before anything is written.
-/

namespace FleetRollout

open Store FleetRollout.Action

namespace Store

structure Readable (store : Store) : Prop where
  versions : store.packages.Every fun package => (Version.parse? package.version).isSome = true
  zones : store.groups.Every fun group => ∃ zone, zoneOf group.policy.timezone = .ok zone

variable {store after : Store}

theorem readable_empty : Readable Store.empty :=
  ⟨Table.every_empty, Table.every_empty⟩

theorem SameCatalog.readable (same : SameCatalog store after) (readable : store.Readable) :
    after.Readable where
  versions := same.packages ▸ readable.versions
  zones := by
    refine Table.Every.of_map (fun group : Group => group.policy.timezone)
      (fun timezone => ∃ zone, zoneOf timezone = .ok zone) readable.zones fun id => ?_
    have kept := congrArg (Option.map fun group : Group => group.policy.timezone) (same.groups id)
    rw [Option.map_map, Option.map_map] at kept
    exact kept

end Store

theorem Change.readable {scope : Scope} {store after : Store} (change : Change scope store after)
    (keyed : store.Keyed) (readable : store.Readable) : after.Readable := by
  cases change with
  | packageCreated package _ _ reads | packageUpdated package _ _ _ _ _ _ reads =>
    exact { readable with versions := readable.versions.insert reads package.id }
  | groupCreated _ group _ _ _ zone | groupUpdated _ group _ _ _ _ _ zone =>
    exact { readable with zones := readable.zones.insert zone group.id }
  | groupGone _ id => exact { readable with zones := readable.zones.erase id }
  | channelUpdated channel _ _ _ _ _ calm =>
    have written : (store.putChannel channel).Readable := ⟨readable.versions, readable.zones⟩
    exact calm.noted.catalog.readable written
  | channelGone id channel =>
    have zones := Table.Every.of_map (fun group => group.policy.timezone)
      (fun timezone => ∃ zone, zoneOf timezone = .ok zone) readable.zones
      (map_withoutChannel _ (fun _ => rfl) keyed.groups channel id)
    rw [withoutChannel_eq] at zones ⊢
    exact ⟨readable.versions, zones⟩
  | packageGone id package =>
    rw [withoutPackage_eq]
    exact ⟨readable.versions.erase id, readable.zones⟩
  | _ => exact ⟨readable.versions, readable.zones⟩

theorem Reachable.readable {engine : Engine} (reached : Reachable engine) :
    engine.store.Readable := by
  induction reached with
  | start engine empty =>
    rw [empty]
    exact readable_empty
  | @step engine operation reached _ ih =>
    cases serves : operation.isRequest with
    | true =>
      have same := (Operation.run_serves Engine.sameCatalog_keptByStages.parts serves engine).store
      exact same.readable ih
    | false => exact (Operation.run_changes serves engine).readable reached.keyed ih

variable {allowed : EngineError → Prop} {store : Store} {group : Group}

namespace Journal

theorem failsOnly_recordOnce (window : Nat) (entry : ActivityEntry) :
    FailsOnly allowed (recordOnce window entry) store := by
  obtain ⟨_, _, logged, -⟩ := perform_recordOnce window entry store
  exact failsOnly_of_ok logged

theorem failsOnly_packageNotFound (window : Nat) (group : Group) (now : Nat) :
    FailsOnly allowed (packageNotFound window group now) store :=
  failsOnly_bind (failsOnly_recordOnce _ _) fun _ _ _ => failsOnly_pure _

theorem failsOnly_rolloutStarted (stored : store.groups.get? group.id = some group) (window : Nat)
    (version : String) (now : Nat) :
    FailsOnly allowed (rolloutStarted window group version now) store := by
  obtain ⟨_, entries, logged, -⟩ :=
    perform_recordOnce window (group.milestone .rolloutStarted .info version now) store
  rw [FailsOnly, rolloutStarted, perform_bind_ok logged]
  have known : { store with activity := store.activity ++ entries }.groups.get? group.id =
      some group := stored
  split
  · exact failsOnly_pure _
  · exact failsOnly_of_ok (perform_setRollout known true)

theorem failsOnly_settleRollout (stored : store.groups.get? group.id = some group)
    (version : String) (now : Nat) :
    FailsOnly allowed (settleRollout group version now) store := by
  rw [FailsOnly, settleRollout, perform_bind_ok (perform_get store)]
  split
  · rw [perform_bind_ok (perform_setRollout stored false)]
    exact failsOnly_of_ok rfl
  · exact failsOnly_pure false

end Journal

namespace Policy

theorem isOpen_answers {policy : Policy} (zone : ∃ zone, zoneOf policy.timezone = .ok zone)
    (now : Nat) : ∃ isOpen, policy.isOpen now = .ok isOpen := by
  obtain ⟨zone, known⟩ := zone
  unfold isOpen
  split
  · exact ⟨false, rfl⟩
  · split
    · rw [withinOfficeHours, known]
      exact ⟨_, rfl⟩
    · exact ⟨true, rfl⟩

end Policy

structure Store.Holds (store : Store) (group : Group) : Prop where
  stored : store.groups.get? group.id = some group
  zone : ∃ zone, zoneOf group.policy.timezone = .ok zone

theorem Store.Holds.of_stored (keyed : store.Keyed) (readable : store.Readable) {id : String}
    (stored : store.groups.get? id = some group) : store.Holds group where
  stored := (keyed.groups id group stored).symm ▸ stored
  zone := readable.zones id group stored

def EngineError.IsDenial (error : EngineError) : Prop :=
  ∃ denial, error = .denied denial

-- What may stop a client that was let in.
def EngineConfig.Stops (config : EngineConfig) (error : EngineError) : Prop :=
  error.IsDenial ∨ Text.wordSize - 1 ≤ config.maxFloorsPerResponse ∧ error = .overflow

theorem failsOnly_enforcePolicy (holds : store.Holds group) (version : String) (now : Nat) :
    FailsOnly EngineError.IsDenial (enforcePolicy group version now) store := by
  obtain ⟨isOpen, opened⟩ := Policy.isOpen_answers holds.zone now
  rw [FailsOnly, enforcePolicy, opened, perform_bind_ok (perform_ofExcept _ _)]
  split
  · split
    · rw [perform_bind_ok (perform_get store)]
      split
      · exact failsOnly_pure ()
      · -- The group whose updates are switched off is stored, so the switch does not fail.
        have switched : FailsOnly EngineError.IsDenial
            (commitOnly fun store => store.disableUpdates group.id) store :=
          failsOnly_of_ok (Journal.perform_changeGroup holds.stored _)
        exact failsOnly_bind switched fun _ _ _ => failsOnly_throw ⟨_, rfl⟩
      · exact failsOnly_throw ⟨_, rfl⟩
    · exact failsOnly_pure ()
  · exact failsOnly_throw ⟨_, rfl⟩

namespace CheckIn

variable {row : Installation}

theorem failsOnly_settleGroup (keyed : store.groups.KeyedBy Group.id) {groupId : String}
    (stored : store.groups.get? groupId = some group) (version : String) (now : Nat) :
    FailsOnly allowed (settleGroup groupId version now) store := by
  obtain rfl := keyed groupId group stored
  rw [FailsOnly, settleGroup, perform_bind_ok (perform_requireGroup stored)]
  exact failsOnly_bind (Journal.failsOnly_settleRollout stored _ _) fun _ _ _ => failsOnly_pure ()

theorem failsOnly_holdIfDenied (found : store.installations.get? row.key = some row)
    (version : String) (now : Nat) (error : EngineError) :
    FailsOnly allowed (holdIfDenied row group version now error) store := by
  unfold holdIfDenied
  split
  · exact failsOnly_pure ()
  · rw [FailsOnly, perform_bind_ok (perform_transition found _ _ _)]
    split
    · exact failsOnly_of_ok rfl
    · exact failsOnly_pure ()

theorem requiredFloors_cases (config : EngineConfig) {channel : Channel} {target : Package}
    (readable : store.Readable) (targeted : groupTarget? store group = some (channel, target))
    {version : String} (reads : (Version.parse? version).isSome = true) :
    (∃ required,
      requiredFloors store channel version config.maxFloorsPerResponse = .ok required) ∨
    Text.wordSize - 1 ≤ config.maxFloorsPerResponse ∧
      requiredFloors store channel version config.maxFloorsPerResponse = .error .overflow := by
  obtain ⟨_, packageId, -, -, targets, found⟩ := groupTarget_eq_some_iff.mp targeted
  obtain ⟨above, reads⟩ := Option.isSome_iff_exists.mp reads
  obtain ⟨upTo, targetReads⟩ :=
    Option.isSome_iff_exists.mp (readable.versions packageId target found)
  have planned := requiredFloors_eq targets found reads targetReads config.maxFloorsPerResponse
  rcases lt_or_ge config.maxFloorsPerResponse (Text.wordSize - 1) with bounded | largest
  · exact .inl ⟨_, planned.trans (if_pos bounded)⟩
  · exact .inr ⟨largest, planned.trans (if_neg largest.not_gt)⟩

theorem perform_grantUpdate {config : EngineConfig} {now : Nat} {channel : Channel}
    {target package : Package} {required : RequiredFloors} {mode : DeliveryMode}
    (found : store.installations.get? row.key = some row)
    (stored : store.groups.get? group.id = some group)
    (admitted : (enforcePolicy group target.version now).perform store = (.ok (), store))
    (planned : requiredFloors store channel row.version config.maxFloorsPerResponse = .ok required)
    (delivered : (UpdatePlan.make target required).finalPackage? mode = some package) :
    (grantUpdate config now row group channel target mode).perform store =
      (.ok (UpdatePlan.make target required),
        ((Journal.rolloutStarted config.dedupeSeconds group target.version now).perform
          (store.rewriteRow row.key row
            (row.granted (row.grantOf package.version target.version now)) now none)).2) := by
  have handled : perform
      (tryCatch (enforcePolicy group target.version now) fun error => do
        holdIfDenied row group target.version now error
        throw error) store = (.ok (), store) := by
    rw [perform_tryCatch, admitted]
  have answered : (planFor config channel target row.version).perform store =
      (.ok (UpdatePlan.make target required), store) := by
    rw [perform_planFor, planned]
    rfl
  have written := perform_grant found package.version target.version now
  rw [Installation.grantOf] at written
  -- The grant was written into the installation; the group is where it was.
  have starts : FailsOnly (fun _ => False)
      (Journal.rolloutStarted config.dedupeSeconds group target.version now)
      (store.rewriteRow row.key row
        (row.granted (row.grantOf package.version target.version now)) now none) := by
    apply Journal.failsOnly_rolloutStarted
    exact stored
  obtain ⟨_, started⟩ := starts.answers
  unfold grantUpdate
  rw [perform_bind_ok handled, perform_bind_ok answered,
    perform_bind_ok (require_ok.mpr ⟨delivered, rfl⟩), perform_bind_ok written]
  exact perform_bind_ok started _

theorem failsOnly_grantUpdate (config : EngineConfig) (now : Nat) {channel : Channel}
    {target : Package} (mode : DeliveryMode) (readable : store.Readable)
    (holds : store.Holds group) (found : store.installations.get? row.key = some row)
    (reads : (Version.parse? row.version).isSome = true)
    (targeted : groupTarget? store group = some (channel, target)) :
    FailsOnly config.Stops (grantUpdate config now row group channel target mode) store := by
  rcases enforced : (enforcePolicy group target.version now).perform store with
    ⟨error | admitted, between⟩
  · -- The policy denies; to put the installation on hold adds no error of its own.
    have calm : Calm store between := by
      simpa [enforced] using keeps_enforcePolicy group target.version now store
    have denied := failsOnly_enforcePolicy holds target.version now error (by rw [enforced])
    have still : between.installations.get? row.key = some row := by
      rwa [calm.noted.fleet.installations]
    unfold grantUpdate
    refine failsOnly_bind ?_ fun _ after passed => ?_
    · rw [FailsOnly, perform_tryCatch, enforced]
      exact failsOnly_bind (failsOnly_holdIfDenied still _ _ _) fun _ _ _ =>
        failsOnly_throw (.inl denied)
    · rw [perform_tryCatch, enforced] at passed
      dsimp only at passed
      obtain ⟨_, failed⟩ := perform_bind_throw (β := Unit)
        (holdIfDenied row group target.version now error) error between
      rw [failed] at passed
      cases passed
  · obtain rfl := (enforcePolicy_ok.mp enforced).1.symm
    rcases requiredFloors_cases config readable targeted reads with
      ⟨required, planned⟩ | ⟨largest, overflows⟩
    · obtain ⟨package, delivered⟩ := UpdatePlan.finalPackage_delivered planned target mode
      exact failsOnly_of_ok
        (perform_grantUpdate found holds.stored enforced planned delivered)
    · have unplanned : (planFor config channel target row.version).perform store =
          (.error .overflow, store) := by
        rw [perform_planFor, overflows]
        rfl
      unfold grantUpdate
      rw [FailsOnly, perform_bind, perform_tryCatch, enforced]
      dsimp only
      rw [perform_bind_error unplanned]
      rintro _ ⟨⟩
      exact .inr ⟨largest, rfl⟩

-- Whatever is decided, it is an update or a denial, if the cap leaves room for a plan.
theorem failsOnly_decide (config : EngineConfig) (now : Nat) {applicationId instanceId : String}
    (mode : DeliveryMode) (keyed : store.Keyed) (readable : store.Readable)
    (holds : store.Holds group)
    (found : store.installation? instanceId applicationId = some row)
    (reads : (Version.parse? row.version).isSome = true) :
    FailsOnly config.Stops (decide config now applicationId group instanceId mode) store := by
  have stored : store.installations.get? row.key = some row := by
    rwa [keyed.installations _ row found]
  have closing (complete : Bool) (version : String) :
      FailsOnly config.Stops
        (if complete then
            closeGrant row group version now >>= fun _ => throw (.denied .noUpdateAvailable)
          else throw (.denied .noUpdateAvailable) : Action Store UpdatePlan) store := by
    cases complete with
    | false => exact failsOnly_throw (.inl ⟨_, rfl⟩)
    | true =>
      refine failsOnly_bind ?_ fun _ _ _ => failsOnly_throw (.inl ⟨_, rfl⟩)
      rw [FailsOnly, perform_closeGrant stored]
      apply failsOnly_settleGroup
      · exact keyed.groups
      · exact holds.stored
  have notFound : FailsOnly config.Stops
      (Journal.packageNotFound config.dedupeSeconds group now >>= fun _ =>
        throw (.denied .noPackageFound) : Action Store UpdatePlan) store :=
    failsOnly_bind (Journal.failsOnly_packageNotFound _ _ _) fun _ _ _ =>
      failsOnly_throw (.inl ⟨_, rfl⟩)
  rw [FailsOnly, decide, perform_bind_ok (perform_get store),
    perform_bind_ok (require_ok.mpr ⟨found, rfl⟩)]
  cases targeted : groupTarget? store group with
  | none =>
    cases step : (factsOf row none).nextStep <;> simp only [step]
    case rejectInFlight => exact failsOnly_throw (.inl ⟨_, rfl⟩)
    all_goals exact notFound
  | some pair =>
    obtain ⟨channel, target⟩ := pair
    cases step : (factsOf row (some (channel, target))).nextStep <;> simp only [step]
    case rejectInFlight => exact failsOnly_throw (.inl ⟨_, rfl⟩)
    case noPackage => exact notFound
    case blacklisted complete => exact closing complete _
    case upToDate complete => exact closing complete _
    case redeliver =>
      rw [perform_planFor]
      rcases requiredFloors_cases config readable targeted reads with
        ⟨_, planned⟩ | ⟨largest, overflows⟩
      · simp [planned, Except.map]
      · rw [overflows]
        rintro _ ⟨⟩
        exact .inr ⟨largest, rfl⟩
    case evaluatePolicy =>
      exact failsOnly_grantUpdate config now mode readable holds stored reads targeted

-- What an event may be rejected for.
def Rejection (kind result : Nat) (error : EngineError) : Prop :=
  error = .invalidEvent kind result ∨ error = .denied .noUpdateInProgress

theorem failsOnly_status (event : ProgressEvent) :
    FailsOnly (Rejection event.kind event.result) (Action.ofExcept event.status) store := by
  unfold ProgressEvent.status
  simp only
  split
  · exact failsOnly_pure _
  · exact failsOnly_throw (.inl rfl)

theorem failsOnly_afterEvent (keyed : store.groups.KeyedBy Group.id)
    (stored : ∃ current, store.groups.get? group.id = some current) (now : Nat)
    (instanceId : String) (row : Installation) (next : Status) :
    FailsOnly allowed (afterEvent now group instanceId row next) store := by
  obtain ⟨current, stored⟩ := stored
  cases next
  case complete =>
    rw [FailsOnly, afterEvent, perform_bind_ok (perform_get _)]
    split
    · exact failsOnly_pure _
    · exact failsOnly_settleGroup keyed stored _ _
  case error => exact failsOnly_of_ok rfl
  all_goals exact failsOnly_pure _

theorem failsOnly_applyEvent (now : Nat) {applicationId instanceId : String}
    (event : ProgressEvent) (keyed : store.Keyed)
    (stored : ∃ current, store.groups.get? group.id = some current)
    (found : store.installation? instanceId applicationId = some row)
    (member : row.groupId = group.id) :
    FailsOnly (Rejection event.kind event.result)
      (applyEvent now applicationId group instanceId event) store := by
  refine failsOnly_bind (failsOnly_status event) fun next after passed => ?_
  obtain rfl : store = after := congrArg Prod.snd passed
  have own : (check (row.groupId = group.id) .invalidApplicationOrGroup).perform store =
      (.ok (), store) := check_ok.mpr ⟨decide_eq_true member, rfl⟩
  rw [FailsOnly, perform_bind_ok (perform_get store),
    perform_bind_ok (require_ok.mpr ⟨found, rfl⟩), perform_bind_ok own]
  refine failsOnly_bind (failsOnly_check _ (.inr rfl)) fun _ after passed => ?_
  obtain rfl : after = store := (check_ok.mp passed).2
  cases next with
  | none => exact failsOnly_pure _
  | some next =>
    dsimp only
    split
    · exact failsOnly_pure _
    · simp only [Store.transition]
      rw [FailsOnly, perform_bind_ok (perform_changeInstallation found _ _ _)]
      refine failsOnly_bind ?_ fun _ _ _ => failsOnly_pure _
      apply failsOnly_afterEvent
      · exact keyed.groups
      · exact stored

theorem Decision.remains {config : EngineConfig} {now : Nat} {mode : DeliveryMode}
    {row : Installation} {result : Except EngineError UpdatePlan} {after : Store} {key : String}
    (decision : Decision config now group row mode store result after)
    (present : (store.installations.get? key).isSome = true) :
    (after.installations.get? key).isSome = true := by
  have rewritten {changed : Installation} {errorCode : Option String}
      (noted : Noted (store.rewriteRow row.key row changed now errorCode) after) :
      (after.installations.get? key).isSome = true := by
    rw [noted.fleet.installations, rewriteRow, Table.get_insert]
    split
    · rfl
    · exact present
  cases decision with
  | refused calm => rwa [calm.noted.fleet.installations]
  | redelivered => exact present
  | closed _ _ _ noted => exact rewritten noted
  | held _ _ _ calm => exact rewritten calm.noted
  | granted _ _ _ _ _ noted => exact rewritten noted

end CheckIn

/-- What may be wrong with the fields that are recorded. -/
def Registration.faults (request : Registration) : List EngineError :=
  [.invalidInstanceId request.instanceId, .invalidAddress request.ip,
    .invalidVersion request.version]

def CheckInRequest.faults (request : CheckInRequest) : List EngineError :=
  [.invalidArchitecture request.architecture, .invalidApplicationOrGroup,
    .invalidInstanceId request.instanceId, .invalidAddress request.ip,
    .invalidVersion request.version]

namespace Engine

variable {engine : Engine}

theorem failsOnly_requireGroupOf (applicationId groupId : String)
    (misplaced : allowed .invalidApplicationOrGroup) :
    FailsOnly allowed (requireGroupOf applicationId groupId) engine :=
  failsOnly_bind (failsOnly_of_ok (perform_readStore _)) fun _ _ _ =>
    failsOnly_bind (failsOnly_require misplaced _) fun _ _ _ =>
      failsOnly_bind (failsOnly_check _ misplaced) fun _ _ _ => failsOnly_pure _

theorem failsOnly_resolveApplication (external : String) {error : EngineError}
    (unknown : allowed error) : FailsOnly allowed (resolveApplication external error) engine :=
  failsOnly_bind (failsOnly_of_ok (perform_findApplication _ _)) fun _ _ _ =>
    failsOnly_require unknown _

theorem failsOnly_resolveGroup (application group : String)
    (misplaced : allowed .invalidApplicationOrGroup) :
    FailsOnly allowed (resolveGroup application group) engine :=
  failsOnly_bind (failsOnly_resolveApplication _ misplaced) fun _ _ _ =>
    failsOnly_bind (failsOnly_requireGroupOf _ _ misplaced) fun _ _ _ => failsOnly_pure _

theorem failsOnly_locate (request : CheckInRequest) :
    FailsOnly (· ∈ request.faults) (locate request) engine := by
  have misplaced : EngineError.invalidApplicationOrGroup ∈ request.faults := by
    simp [CheckInRequest.faults]
  refine failsOnly_bind (failsOnly_require (by simp [CheckInRequest.faults]) _) fun _ _ _ => ?_
  refine failsOnly_bind (failsOnly_resolveApplication _ misplaced) fun _ _ _ => ?_
  refine failsOnly_bind (failsOnly_of_ok (perform_findGroup _ _ _ _)) fun _ _ _ => ?_
  refine failsOnly_bind (failsOnly_require misplaced _) fun _ _ _ => ?_
  exact failsOnly_bind (failsOnly_requireGroupOf _ _ misplaced) fun _ _ _ => failsOnly_pure _

theorem failsOnly_enter {locate : Action Engine (String × Group)}
    {request : String → Group → Registration} (located : FailsOnly allowed locate engine)
    (faulty : ∀ applicationId group, ∀ error ∈ (request applicationId group).faults,
      allowed error) : FailsOnly allowed (enter locate request) engine := by
  refine failsOnly_bind located fun (applicationId, group) between _ => ?_
  refine failsOnly_bind (failsOnly_of_ok (perform_get between)) fun _ _ passed => ?_
  cases passed
  refine failsOnly_bind (fun error failed => ?_) fun _ _ _ => failsOnly_pure _
  rw [perform_onStore] at failed
  rcases CheckIn.register_cases between.now (request applicationId group) applicationId group.id
      between.store with ⟨fault, listed, refused⟩ | ⟨_, _, -, -, accepted⟩
  · rw [refused] at failed
    cases failed
    exact faulty applicationId group _ listed
  · rw [accepted] at failed
    cases failed

structure Served (instanceId applicationId : String) (group : Group) (engine : Engine) : Prop where
  keyed : engine.store.Keyed
  readable : engine.store.Readable
  stored : ∃ current, engine.store.groups.get? group.id = some current
  present : ∃ version,
    CheckIn.Present instanceId applicationId group.id version engine.store

theorem Admitted.served {after : Engine} {request : Registration} {applicationId : String}
    {group : Group} (admitted : Admitted engine request applicationId group after)
    (keyed : engine.store.Keyed) (readable : engine.store.Readable) :
    Served request.instanceId applicationId group after where
  keyed := admitted.keyed keyed
  readable := admitted.catalog.store.readable readable
  stored := by
    obtain ⟨groupId, stored⟩ := admitted.located.stored
    rw [admitted.groups, keyed.groups groupId group stored]
    exact ⟨group, stored⟩
  present := ⟨request.version, admitted.present⟩

section Served

variable {instanceId applicationId : String} {group : Group}

theorem Served.reads (served : Served instanceId applicationId group engine) :
    ∃ row, engine.store.installation? instanceId applicationId = some row ∧
      row.groupId = group.id ∧ (Version.parse? row.version).isSome = true := by
  obtain ⟨_, row, found, member, version, _, parsed, -⟩ := served.present
  exact ⟨row, found, member, Option.isSome_iff_exists.mpr ⟨version, parsed⟩⟩

theorem Served.applyEvent (served : Served instanceId applicationId group engine)
    (event : ProgressEvent) :
    Served instanceId applicationId group
      { engine with
        store := ((CheckIn.applyEvent engine.now applicationId group instanceId event).perform
          engine.store).2 } := by
  have same := CheckIn.keeps_applyEvent engine.now applicationId group instanceId event engine.store
  obtain ⟨current, stored⟩ := served.stored
  obtain ⟨version, present⟩ := served.present
  refine ⟨?_, same.readable served.readable, ?_, version, ?_⟩
  · exact CheckIn.keyed_applyEvent _ _ _ _ _ _ served.keyed
  · obtain ⟨later, found, -⟩ := same.group_after stored
    exact ⟨later, found⟩
  · exact CheckIn.keeps_applyEvent_present _ _ _ _ _ _ _ _ present

end Served

end Engine

/-- An event that was rejected names no move that exists, or comes while nothing is under way. -/
def EventAck.Explained (ack : EventAck) : Prop :=
  ∀ reason ∈ ack.rejected, ∃ error, CheckIn.Rejection ack.kind ack.result error ∧
    reason = error.message

namespace Engine

variable {engine : Engine} {instanceId applicationId : String} {group : Group}

theorem acknowledge_answers (event : ProgressEvent) (engine : Engine)
    (served : Served instanceId applicationId group engine) :
    ∃ ack after, (acknowledge applicationId group instanceId event).perform engine =
      (.ok ack, after) ∧ ack.Explained ∧ Served instanceId applicationId group after := by
  have kept := served.applyEvent event
  obtain ⟨row, found, member, -⟩ := served.reads
  have rejects :=
    CheckIn.failsOnly_applyEvent engine.now event served.keyed served.stored found member
  unfold acknowledge
  simp only [perform_tryCatch, perform_bind, perform_get, perform_onStore, perform_pure]
  rcases applied : (CheckIn.applyEvent engine.now applicationId group instanceId event).perform
    engine.store with ⟨error | status, after⟩
  · rw [applied] at kept
    have rejection := rejects error (by rw [applied])
    -- Neither rejection is an error of the store, so the event is acknowledged.
    have acknowledged : ∀ reason ∈ some error.message, ∃ error,
        CheckIn.Rejection event.kind event.result error ∧ reason = error.message := by
      rintro reason given
      exact ⟨error, rejection, (Option.mem_some_iff.mp given).symm⟩
    rcases rejection with rfl | rfl
    · exact ⟨_, _, rfl, acknowledged, kept⟩
    · exact ⟨_, _, rfl, acknowledged, kept⟩
  · rw [applied] at kept
    refine ⟨_, _, rfl, ?_, kept⟩
    rintro reason given
    cases given

theorem updateOutcome_answers (mode : DeliveryMode)
    (served : Served instanceId applicationId group engine) {current : Group}
    (holds : engine.store.Holds current) :
    (∃ outcome after, (updateOutcome applicationId current instanceId mode).perform engine =
      (.ok outcome, after) ∧
      ∃ row, after.store.installation? instanceId applicationId = some row) ∨
    Text.wordSize - 1 ≤ engine.config.maxFloorsPerResponse ∧
      ∃ after, (updateOutcome applicationId current instanceId mode).perform engine =
        (.error .overflow, after) := by
  obtain ⟨row, found, -, reads⟩ := served.reads
  have stops := CheckIn.failsOnly_decide engine.config engine.now mode served.keyed
    served.readable holds found reads
  have remains := (CheckIn.decide_cases engine.config engine.now applicationId current instanceId
    mode found (served.keyed.installations _ row found)).remains (Option.isSome_of_eq_some found)
  unfold updateOutcome
  simp only [perform_tryCatch, perform_bind, perform_get, perform_onStore, perform_pure]
  rcases decided : (CheckIn.decide engine.config engine.now applicationId current instanceId
    mode).perform engine.store with ⟨error | plan, after⟩
  · rw [decided] at remains
    rcases stops error (by rw [decided]) with ⟨denial, rfl⟩ | ⟨largest, rfl⟩
    · exact .inl ⟨_, _, rfl, Option.isSome_iff_exists.mp remains⟩
    · exact .inr ⟨largest, _, rfl⟩
  · rw [decided] at remains
    exact .inl ⟨_, _, rfl, Option.isSome_iff_exists.mp remains⟩

theorem conclude_answers (request : CheckInRequest) (events : List EventAck)
    (served : Served request.instanceId applicationId group engine) :
    (∃ response after, (conclude request applicationId group events).perform engine =
      (.ok response, after) ∧ response.events = events) ∨
    Text.wordSize - 1 ≤ engine.config.maxFloorsPerResponse ∧
      ∃ after, (conclude request applicationId group events).perform engine =
        (.error .overflow, after) := by
  unfold conclude
  split
  · obtain ⟨current, stored⟩ := served.stored
    have outcome := updateOutcome_answers (modeOf request) served
      (.of_stored served.keyed served.readable stored)
    rw [perform_bind_ok (perform_requireGroup stored)]
    rcases outcome with ⟨outcome, after, updated, row, found⟩ | ⟨largest, after, overflows⟩
    · rw [perform_bind_ok updated, perform_bind_ok (perform_readStore after),
        perform_bind_ok (require_ok.mpr ⟨found, rfl⟩)]
      exact .inl ⟨_, _, rfl, rfl⟩
    · exact .inr ⟨largest, after, perform_bind_error overflows _⟩
  · obtain ⟨row, found, -, -⟩ := served.reads
    rw [pure_bind, perform_bind_ok (perform_readStore engine),
      perform_bind_ok (require_ok.mpr ⟨found, rfl⟩)]
    exact .inl ⟨_, _, rfl, rfl⟩

theorem checkIn_answers (request : CheckInRequest) (keyed : engine.store.Keyed)
    (readable : engine.store.Readable) :
    (∃ response after, (checkIn request).perform engine = (.ok response, after) ∧
      ∀ ack ∈ response.events, ack.Explained) ∨
    (∃ error ∈ request.faults, ∃ after,
      (checkIn request).perform engine = (.error error, after) ∧ after.store = engine.store) ∨
    Text.wordSize - 1 ≤ engine.config.maxFloorsPerResponse ∧
      ∃ after, (checkIn request).perform engine = (.error .overflow, after) := by
  rcases admission_cases request engine with
    ⟨error, after, refused, same⟩ | ⟨applicationId, group, entered, letIn, admitted⟩
  · have fault : FailsOnly (· ∈ request.faults) (admission request) engine := by
      refine failsOnly_enter (failsOnly_locate request) fun _ _ error listed => ?_
      exact List.mem_cons_of_mem _ (List.mem_cons_of_mem _ listed)
    obtain ⟨directory, rfl⟩ := same
    exact .inr (.inl ⟨error, fault error (by rw [refused]), _, checkIn_refused refused, rfl⟩)
  · have served : Served request.instanceId applicationId group entered :=
      admitted.served keyed readable
    obtain ⟨acks, decided, applied, explained, still⟩ :=
      mapM_answers acknowledge_answers request.events served
    have kept := (keeps_reading.events (fun now event => keeps_onStore
      (CheckIn.keeps_applyEvent now applicationId group request.instanceId event))
      request.events entered).config
    rw [applied] at kept
    rw [checkIn_applied letIn applied]
    rcases conclude_answers request acks still with
      ⟨response, after, concluded, events⟩ | ⟨largest, after, overflows⟩
    · exact .inl ⟨response, after, concluded, events ▸ explained⟩
    · rw [kept, admitted.catalog.config] at largest
      exact .inr (.inr ⟨largest, after, overflows⟩)

theorem updatePlan_fails (request : Registration) (mode : DeliveryMode)
    (keyed : engine.store.Keyed) (readable : engine.store.Readable) {error : EngineError}
    {after : Engine} (failed : (updatePlan request mode).perform engine = (.error error, after)) :
    engine.config.Stops error ∨
      (error = .invalidApplicationOrGroup ∨ error ∈ request.faults) ∧
        after.store = engine.store := by
  rcases enter_cases (sameData_keptByLookups.resolveGroup _ _) resolveGroup_ok
      (fun _ _ => request) engine with
    ⟨fault, between, refused, same⟩ | ⟨applicationId, group, entered, letIn, admitted⟩
  · have faulty : FailsOnly (fun error => error = .invalidApplicationOrGroup ∨
        error ∈ request.faults) (registration request) engine :=
      failsOnly_enter (failsOnly_resolveGroup _ _ (.inl rfl)) fun _ _ _ listed => .inr listed
    rw [(registration_error request mode refused).2] at failed
    cases failed
    obtain ⟨directory, rfl⟩ := same
    exact .inr ⟨faulty _ (congrArg Prod.fst refused), rfl⟩
  · have served : Served request.instanceId applicationId group entered :=
      admitted.served keyed readable
    obtain ⟨groupId, stored⟩ := admitted.located.stored
    rw [← admitted.groups] at stored
    obtain ⟨row, found, -, reads⟩ := served.reads
    have stops := CheckIn.failsOnly_decide entered.config entered.now mode served.keyed
      served.readable (.of_stored served.keyed served.readable stored) found reads
    rw [(registration_ok request mode letIn).2, perform_onStore] at failed
    rw [← admitted.catalog.config]
    exact .inl (stops error (congrArg Prod.fst failed))

end Engine

/--
Only faulty requests fail, unless the cap on the floors is the largest word. In every state a run
leads to, a check-in is answered, whatever events it reports, or an own field of it is at fault and
the store is left alone; a request for a plan that is not denied leaves the store alone as well.
Under the largest cap they may overflow instead.
-/
theorem only_faulty_requests_fail {engine : Engine} (reached : Reachable engine) :
    (∀ request : CheckInRequest,
      (∃ response after, (Engine.checkIn request).perform engine = (.ok response, after) ∧
        ∀ ack ∈ response.events, ack.Explained) ∨
      (∃ error ∈ request.faults, ∃ after,
        (Engine.checkIn request).perform engine = (.error error, after) ∧
          after.store = engine.store) ∨
      Text.wordSize - 1 ≤ engine.config.maxFloorsPerResponse ∧
        ∃ after, (Engine.checkIn request).perform engine = (.error .overflow, after)) ∧
    ∀ (request : Registration) (mode : DeliveryMode) (error : EngineError) (after : Engine),
      (Engine.updatePlan request mode).perform engine = (.error error, after) →
        error.denial? = none →
          after.store = engine.store ∨
            Text.wordSize - 1 ≤ engine.config.maxFloorsPerResponse ∧ error = .overflow := by
  have keyed := reached.keyed
  have readable := reached.readable
  refine ⟨fun request => Engine.checkIn_answers request keyed readable, ?_⟩
  intro request mode error after failed undenied
  rcases Engine.updatePlan_fails request mode keyed readable failed with
    (⟨denial, rfl⟩ | overflows) | ⟨-, untouched⟩
  · cases undenied
  · exact .inr overflows
  · exact .inl untouched

def CheckInRequest.unexpected : CheckInRequest :=
  { instanceId := "host", ip := "10.0.0.1", version := "1.0.0", applicationId := "agent"
    track := "fleet", architecture := "amd64"
    events := [{ kind := 7, result := 7 }, { kind := 3, result := 2 }] }

theorem only_faulty_requests_fail_smallCatalog :
    let engine := Operation.runAll {} Operation.smallCatalog
    let unread : Registration := { Registration.firstContact with version := "one" }
    Reachable engine ∧
      (∃ response after, (Engine.checkIn .unexpected).perform engine = (.ok response, after) ∧
        ∀ ack ∈ response.events, ack.Explained) ∧
      ∃ after, (Engine.updatePlan unread .multi).perform engine =
        (.error (.invalidVersion "one"), after) ∧ after.store = engine.store := by
  intro engine unread
  have reached : Reachable engine :=
    Operation.reachable_runAll (.start {} rfl) Operation.smallCatalog
  have answered : ((Engine.checkIn .unexpected).perform engine).1.isOk = true := by
    decide +kernel
  have refused : ((Engine.updatePlan unread .multi).perform engine).1 =
      .error (.invalidVersion "one") := by decide +kernel
  have small : ¬ Text.wordSize - 1 ≤ engine.config.maxFloorsPerResponse := by decide +kernel
  obtain ⟨checkIns, plans⟩ := only_faulty_requests_fail reached
  refine ⟨reached, ?_, ?_⟩
  · rcases checkIns .unexpected with responds | ⟨error, -, after, failed, -⟩ | ⟨largest, -⟩
    · exact responds
    · rw [failed] at answered
      cases answered
    · exact absurd largest small
  · rcases planned : (Engine.updatePlan unread .multi).perform engine with ⟨answer, after⟩
    rw [planned] at refused
    obtain rfl : answer = .error (.invalidVersion "one") := refused
    exact ⟨after, rfl, (plans unread .multi _ after planned rfl).resolve_right
      fun overflows => small overflows.1⟩

-- Nothing is wrong with the request, and under the largest cap it is not answered.
theorem largest_cap_fails_check_in :
    ¬ ∀ engine : Engine, Reachable engine → ∀ request : CheckInRequest,
      (∃ response after, (Engine.checkIn request).perform engine = (.ok response, after)) ∨
      ∃ error ∈ request.faults, ∃ after,
        (Engine.checkIn request).perform engine = (.error error, after) ∧
          after.store = engine.store := by
  intro fails
  let largest : EngineConfig := { maxFloorsPerResponse := Text.wordSize - 1 }
  have overflows : ((Engine.checkIn .unexpected).perform
      (Operation.runAll { config := largest } Operation.smallCatalog)).1 = .error .overflow := by
    decide +kernel
  rcases fails (Operation.runAll { config := largest } Operation.smallCatalog)
      (Operation.reachable_runAll (.start _ rfl) _) .unexpected with
    ⟨_, _, answered⟩ | ⟨error, listed, _, failed, -⟩
  · rw [answered] at overflows
    cases overflows
  · rw [failed] at overflows
    cases overflows
    simp [CheckInRequest.faults] at listed

end FleetRollout

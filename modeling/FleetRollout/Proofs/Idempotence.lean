import FleetRollout.Proofs.Isolation
import FleetRollout.Proofs.Replies

set_option autoImplicit false

/-!
A grant that is handed out again. While nobody operates on the installation, and the way from its
group to the target stays as it is, the repeated request is answered with the plan of the grant,
and all that it writes is that the instance was seen. The plan is made again from the version that
is reported, so it has to be the version that the grant was decided for.
-/

namespace FleetRollout

open Store FleetRollout.Action

-- What a group's plans are made from: its channel, the target and the floors with packages.
structure Route where
  channel : Channel
  target : Package
  floors : List FloorPackage
  deriving Repr, DecidableEq

namespace Store

def route? (store : Store) (groupId : String) : Option Route := do
  let group ← store.groups.get? groupId
  let (channel, target) ← CheckIn.groupTarget? store group
  some { channel, target, floors := store.channelFloors channel.id }

-- The plan that the group has for an installation that is behind its target.
def Offers (store : Store) (groupId : String) (row : Installation) (cap : Nat)
    (plan : UpdatePlan) : Prop :=
  ∃ group channel target required, store.groups.get? groupId = some group ∧
    CheckIn.Offered store group row channel target ∧
    requiredFloors store channel row.version cap = .ok required ∧
    plan = UpdatePlan.make target required

variable {store after : Store} {groupId : String}

theorem route_eq_some_iff {route : Route} :
    store.route? groupId = some route ↔ ∃ group, store.groups.get? groupId = some group ∧
      CheckIn.groupTarget? store group = some (route.channel, route.target) ∧
      store.channelFloors route.channel.id = route.floors := by
  simp only [route?, Option.bind_eq_bind, Option.bind_eq_some_iff, Option.some.injEq]
  constructor
  · rintro ⟨group, stored, ⟨channel, target⟩, targeted, rfl⟩
    exact ⟨group, stored, targeted, rfl⟩
  · rintro ⟨group, stored, targeted, floors⟩
    exact ⟨group, stored, _, targeted, by rw [floors]⟩

theorem SameCatalog.route (same : SameCatalog store after) (groupId : String) :
    after.route? groupId = store.route? groupId := by
  have agreed := same.groups groupId
  cases found : after.groups.get? groupId with
  | none =>
    rw [found, Option.map_none, eq_comm, Option.map_eq_none_iff] at agreed
    simp [route?, found, agreed]
  | some group =>
    obtain ⟨earlier, stored, setup⟩ := same.group_before found
    simp only [route?, found, stored, Option.bind_eq_bind, Option.bind_some,
      CheckIn.channelFloors_congr same, CheckIn.groupTarget_congr same setup.symm]

theorem requiredFloors_congr {channel : Channel} {target : Package} {group later : Group}
    (targeted : CheckIn.groupTarget? store group = some (channel, target))
    (still : CheckIn.groupTarget? after later = some (channel, target))
    (floors : after.channelFloors channel.id = store.channelFloors channel.id)
    (version : String) (cap : Nat) :
    requiredFloors after channel version cap = requiredFloors store channel version cap := by
  obtain ⟨_, packageId, -, -, own, found⟩ := CheckIn.groupTarget_eq_some_iff.mp targeted
  obtain ⟨_, _, -, -, same, known⟩ := CheckIn.groupTarget_eq_some_iff.mp still
  obtain rfl := Option.some.inj (own.symm.trans same)
  unfold requiredFloors channelFloorsIn
  rw [floors, own]
  simp only [found, known]

-- The plan is made from the route and the version of the installation, and nothing else.
theorem Offers.of_route {row later : Installation} {cap : Nat} {plan : UpdatePlan}
    (offers : store.Offers groupId row cap plan)
    (same : after.route? groupId = store.route? groupId)
    (version : later.version = row.version) : after.Offers groupId later cap plan := by
  obtain ⟨group, channel, target, required, stored, offered, planned, rfl⟩ := offers
  have route : store.route? groupId =
      some ⟨channel, target, store.channelFloors channel.id⟩ :=
    route_eq_some_iff.mpr ⟨group, stored, offered.targeted, rfl⟩
  rw [route] at same
  obtain ⟨current, found, targeted, floors⟩ := route_eq_some_iff.mp same
  refine ⟨current, channel, target, required, found, ?_, ?_, rfl⟩
  · exact ⟨targeted, offered.permitted, by rw [version]; exact offered.behind⟩
  · rw [version, requiredFloors_congr offered.targeted targeted floors, planned]

/-- The instance is known, and its installation was granted an update that it has not begun. -/
structure Outstanding (instanceId applicationId : String) (row : Installation)
    (store : Store) : Prop where
  keyed : store.Keyed
  enrolled : store.instances.contains instanceId = true
  found : store.installation? instanceId applicationId = some row
  pending : row.status = .updateGranted

end Store

namespace CheckIn

variable {config : EngineConfig} {now : Nat} {applicationId instanceId : String} {group : Group}
  {mode : DeliveryMode} {store after : Store} {plan : UpdatePlan} {row : Installation}

theorem decide_leaves_outstanding (keyed : store.Keyed)
    (enrolled : store.instances.contains instanceId = true)
    (found : store.installation? instanceId applicationId = some row)
    (stored : store.groups.get? group.id = some group)
    (decided : (decide config now applicationId group instanceId mode).perform store =
      (.ok plan, after)) :
    ∃ granted, Outstanding instanceId applicationId granted after ∧
      granted.version = row.version ∧ granted.groupId = row.groupId ∧
      after.Offers group.id granted config.maxFloorsPerResponse plan := by
  have own := keyed.installations _ row found
  have decision := decide_cases config now applicationId group instanceId mode found own
  rw [decided] at decision
  cases decision with
  | redelivered offered pending planned =>
    exact ⟨row, ⟨keyed, enrolled, found, pending⟩, rfl, rfl, group, _, _, _, stored, offered,
      planned, rfl⟩
  | @granted channel target package required _ _ offered _ _ planned _ noted same =>
    obtain rfl := same plan rfl
    have before : store.Offers group.id row config.maxFloorsPerResponse
        (UpdatePlan.make target required) :=
      ⟨group, channel, target, required, stored, offered, planned, rfl⟩
    have catalog := (rewriteRow_sameCatalog store row.key row
      (row.granted (row.grantOf package.version target.version now)) now none).trans noted.catalog
    refine ⟨row.granted (row.grantOf package.version target.version now), ?_, rfl, rfl,
      before.of_route (catalog.route group.id) rfl⟩
    exact
      { keyed := noted.keyed (keyed.rewriteRow rfl (row.granted_key _) now none)
        enrolled := by rw [noted.fleet.instances]; exact enrolled
        found := by
          rw [installation?, noted.fleet.installations, rewriteRow, Table.get_insert, if_pos own]
        pending := rfl }

end CheckIn

theorem CheckIn.Decision.instances {config : EngineConfig} {now : Nat} {group : Group}
    {row : Installation} {mode : DeliveryMode} {store after : Store}
    {result : Except EngineError UpdatePlan}
    (decision : Decision config now group row mode store result after) :
    after.instances = store.instances := by
  cases decision with
  | redelivered => rfl
  | refused calm | held _ _ _ calm => exact calm.noted.fleet.instances
  | closed _ _ _ noted | granted _ _ _ _ _ noted => exact noted.fleet.instances

theorem Store.enrolled_keptByStages (id : String) :
    Engine.KeptByStages
      (Carries fun store => store.Keyed ∧ store.instances.contains id = true) where
  register now request applicationId groupId := by
    rintro store ⟨keyed, enrolled⟩
    refine ⟨CheckIn.keyed_register now request applicationId groupId store keyed, ?_⟩
    rcases CheckIn.register_cases now request applicationId groupId store with
      ⟨_, -, refused⟩ | ⟨_, _, -, enrols, accepted⟩
    · rwa [refused]
    · rw [accepted]
      exact enrols id (.inl enrolled)
  applyEvent now applicationId group instanceId event := by
    rintro store ⟨keyed, enrolled⟩
    refine ⟨CheckIn.keyed_applyEvent now applicationId group instanceId event store keyed, ?_⟩
    rcases CheckIn.applyEvent_cases now applicationId group instanceId event store with
      unchanged | ⟨_, _, _, -, -, -, -, -, noted, -⟩
    · rwa [unchanged]
    · rwa [noted.fleet.instances]
  decide config now applicationId group instanceId mode := by
    rintro store ⟨keyed, enrolled⟩
    refine ⟨CheckIn.keyed_decide config now applicationId group instanceId mode store keyed, ?_⟩
    cases found : store.installation? instanceId applicationId with
    | none =>
      unfold CheckIn.decide
      rw [perform_bind_ok (perform_get store), found]
      exact enrolled
    | some row =>
      rwa [(CheckIn.decide_cases config now applicationId group instanceId mode found
        (keyed.installations _ row found)).instances]

namespace Operation

-- The key of the installation that a request operates on.
def servedKey? (engine : Engine) (operation : Operation) : Option String := do
  let instanceId ← operation.instanceId?
  let (applicationId, _) ← (operation.locator.perform engine).1.toOption
  some (Installation.keyOf instanceId applicationId)

theorem IsFor.servedKey {operation : Operation} {engine : Engine}
    {instanceId applicationId : String} (serves : operation.IsFor engine instanceId applicationId) :
    operation.servedKey? engine = some (Installation.keyOf instanceId applicationId) := by
  obtain ⟨named, group, located⟩ := serves
  simp [servedKey?, named, located, Except.toOption]

theorem run_outstanding {operation : Operation} {engine : Engine}
    {instanceId applicationId : String} {row : Installation}
    (elsewhere : operation.servedKey? engine ≠
      some (Installation.keyOf instanceId applicationId))
    (outstanding : Outstanding instanceId applicationId row engine.store) :
    Outstanding instanceId applicationId row (operation.run engine).store := by
  have keyed := operation.run_keyed outstanding.keyed
  cases serves : operation.isRequest with
  | true =>
    have alone : Engine.Over (LeavesAlone (Installation.keyOf instanceId applicationId)) engine
        (operation.run engine) :=
      run_leavesAlone serves fun served application isFor same =>
        elsewhere (same ▸ isFor.servedKey)
    have kept := run_serves (enrolled_keptByStages instanceId).parts serves engine
    refine ⟨keyed, (kept.store ⟨outstanding.keyed, outstanding.enrolled⟩).2, ?_,
      outstanding.pending⟩
    · rw [installation?, (alone.store outstanding.keyed).2]
      exact outstanding.found
  | false =>
    have fleet := (run_changes serves engine).sameFleet
    refine ⟨keyed, ?_, ?_, outstanding.pending⟩
    · rw [fleet.instances]
      exact outstanding.enrolled
    · rw [installation?, fleet.installations]
      exact outstanding.found

end Operation

theorem Engine.enter_ok {locate : Action Engine (String × Group)}
    {request : String → Group → Registration} {engine after : Engine} {found : String × Group}
    (entered : (enter locate request).perform engine = (.ok found, after)) :
    (locate.perform engine).1 = .ok found ∧ CheckIn.Valid (request found.1 found.2) := by
  unfold enter at entered
  obtain ⟨_, between, located, entered⟩ := bind_ok.mp entered
  obtain ⟨_, _, _, entered⟩ := bind_ok.mp entered
  obtain ⟨_, _, recorded, entered⟩ := bind_ok.mp entered
  rw [perform_pure, Prod.mk.injEq, Except.ok.injEq] at entered
  obtain ⟨rfl, -⟩ := entered
  obtain ⟨_, registered, -⟩ := Engine.onStore_ok.mp recorded
  exact ⟨by rw [located], CheckIn.register_valid registered⟩

theorem Engine.Admitted.row {engine after : Engine} {request : Registration}
    {applicationId : String} {group : Group}
    (admitted : Admitted engine request applicationId group after) :
    ∃ row, after.store.installation? request.instanceId applicationId = some row ∧
      row.groupId = group.id ∧ row.version = request.version := by
  obtain ⟨directory, machine, rfl⟩ := admitted.recorded
  have recorded := recordCheckIn_installations engine.store machine
    (request.sighting applicationId group.id engine.now)
  refine ⟨engine.store.sighted (request.sighting applicationId group.id engine.now), ?_,
    CheckIn.sighted_groupId _ _, CheckIn.sighted_version _ _⟩
  rw [installation?, recorded, Table.get_insert]
  exact if_pos rfl

theorem Engine.Admitted.reported {engine entered : Engine} {request : Registration}
    {applicationId : String} {group : Group}
    (admitted : Admitted engine request applicationId group entered) (reached : Reachable engine)
    (events : List ProgressEvent) :
    ∃ acks decided row, (events.mapM (acknowledge applicationId group
        request.instanceId)).perform entered = (.ok acks, decided) ∧
      decided.store.Keyed ∧ decided.store.instances.contains request.instanceId = true ∧
      decided.store.installation? request.instanceId applicationId = some row ∧
      row.groupId = group.id ∧ (events = [] → row.version = request.version) := by
  have served : Served request.instanceId applicationId group entered :=
    admitted.served reached.keyed reached.readable
  obtain ⟨acks, decided, applied, -, still⟩ := mapM_answers acknowledge_answers events served
  have enrolled := (keeps_reading.events (fun now event => keeps_onStore
    ((enrolled_keptByStages request.instanceId).applyEvent now applicationId group
      request.instanceId event)) events entered).store
    ⟨served.keyed, admitted.enrolled request.instanceId (.inr rfl)⟩
  rw [applied] at enrolled
  obtain ⟨row, found, member, -⟩ := still.reads
  refine ⟨acks, decided, row, applied, still.keyed, enrolled.2, found, member, ?_⟩
  -- Without events the installation is decided about as it was recorded.
  rintro rfl
  cases applied
  obtain ⟨recorded, present, -, version⟩ := admitted.row
  obtain rfl := Option.some.inj (found.symm.trans present)
  exact version

namespace UpdateRequest

variable {engine after : Engine} {applicationId : String} {group : Group}

-- What an answer with an update leaves behind.
structure Leaves (request : UpdateRequest) (applicationId groupId : String) (plan : UpdatePlan)
    (row : Installation) (after : Engine) : Prop where
  named : CheckIn.isInstanceId request.instanceId = true
  reads : (Version.parse? request.version).isSome = true
  outstanding : Outstanding request.instanceId applicationId row after.store
  member : row.groupId = groupId
  version : request.asksOnly = true → row.version = request.version
  offers : after.store.Offers groupId row after.config.maxFloorsPerResponse plan

theorem plan_leaves (reached : Reachable engine) {request : Registration} {mode : DeliveryMode}
    {plan : UpdatePlan}
    (planned : (Engine.updatePlan request mode).perform engine = (.ok plan, after)) :
    ∃ applicationId group row,
      ((Engine.resolveGroup request.applicationId request.groupId).perform engine).1 =
        .ok (applicationId, group) ∧
      (UpdateRequest.plan request mode).Leaves applicationId group.id plan row after := by
  rcases Engine.enter_cases (Engine.sameData_keptByLookups.resolveGroup _ _)
      Engine.resolveGroup_ok (fun _ _ => request) engine with
    ⟨error, between, refused, -⟩ | ⟨applicationId, group, entered, letIn, admitted⟩
  · rw [(Engine.registration_error request mode refused).2] at planned
    cases planned
  · obtain ⟨located, valid⟩ := Engine.enter_ok letIn
    obtain ⟨row, found, member, version⟩ := admitted.row
    have stored : entered.store.groups.get? group.id = some group := by
      obtain ⟨groupId, asked⟩ := admitted.located.stored
      rw [admitted.groups, reached.keyed.groups groupId group asked, asked]
    rw [(Engine.registration_ok request mode letIn).2] at planned
    obtain ⟨store, decided, rfl⟩ := Engine.onStore_ok.mp planned
    obtain ⟨granted, outstanding, unmoved, same, offers⟩ := CheckIn.decide_leaves_outstanding
      (admitted.keyed reached.keyed) (admitted.enrolled request.instanceId (.inr rfl)) found
      stored decided
    exact ⟨applicationId, group, granted, located, valid.named, valid.reads, outstanding,
      same.trans member, fun _ => unmoved.trans version, offers⟩

theorem checkIn_leaves (reached : Reachable engine) {request : CheckInRequest}
    {response : CheckInResponse} {deliveries : List Delivery} {hasMore : Bool}
    (responded : (Engine.checkIn request).perform engine = (.ok response, after))
    (updated : response.update = .update deliveries hasMore) :
    ∃ applicationId group plan row,
      ((Engine.locate request).perform engine).1 = .ok (applicationId, group) ∧
      deliveries = plan.deliverable (Engine.modeOf request) ∧ hasMore = plan.hasMoreFloors ∧
      (UpdateRequest.checkIn request).Leaves applicationId group.id plan row after := by
  rcases Engine.admission_cases request engine with
    ⟨error, between, refused, -⟩ | ⟨applicationId, group, entered, letIn, admitted⟩
  · rw [Engine.checkIn_refused refused] at responded
    cases responded
  · obtain ⟨acks, decided, row, applied, keyed, enrolled, found, member, quiet⟩ :=
      admitted.reported reached request.events
    obtain ⟨located, valid⟩ := Engine.enter_ok letIn
    rw [Engine.checkIn_applied letIn applied] at responded
    cases asked : request.updateCheck with
    | false =>
      obtain ⟨_, unasked, concluded⟩ :=
        Engine.conclude_unasked request asked group acks found
      rw [concluded] at responded
      cases responded
      rw [unasked] at updated
      cases updated
    | true =>
      rcases Engine.conclude_asked asked applicationId group acks decided with
        ⟨error, refused⟩ | ⟨current, stored, state, planned⟩
      · rw [refused] at responded
        cases responded
      · rw [responded] at state planned
        obtain ⟨plan, made, delivers, more⟩ := planned response deliveries hasMore rfl updated
        have named : current.id = group.id := keyed.groups _ _ stored
        obtain ⟨granted, outstanding, unmoved, same, offers⟩ := CheckIn.decide_leaves_outstanding
          keyed enrolled found (named ▸ stored) (Prod.ext made rfl)
        obtain rfl : after = _ := state
        refine ⟨applicationId, group, plan, granted, located, delivers, more, valid.named,
          valid.reads, outstanding, same.trans member, ?_, named ▸ offers⟩
        intro asksOnly
        obtain ⟨-, none⟩ := (Bool.and_eq_true _ _).mp asksOnly
        exact unmoved.trans (quiet (List.isEmpty_iff.mp none))

theorem answer_leaves (reached : Reachable engine) (request : UpdateRequest)
    {deliveries : List Delivery}
    (answered : request.answer.perform engine = (.ok (some deliveries), after)) :
    ∃ applicationId group plan row,
      (request.operation.locator.perform engine).1 = .ok (applicationId, group) ∧
      request.HandsOut engine plan after ∧
      request.Leaves applicationId group.id plan row after := by
  cases request with
  | plan request mode =>
    obtain ⟨plan, _, planned, returned⟩ := bind_ok.mp answered
    rw [perform_pure, Prod.mk.injEq] at returned
    obtain ⟨-, rfl⟩ := returned
    obtain ⟨applicationId, group, row, located, leaves⟩ := plan_leaves reached planned
    exact ⟨applicationId, group, plan, row, located, planned, leaves⟩
  | checkIn request =>
    obtain ⟨response, _, responded, returned⟩ := bind_ok.mp answered
    cases updated : response.update with
    | update delivered hasMore =>
      simp only [updated, perform_pure, Prod.mk.injEq] at returned
      obtain ⟨-, rfl⟩ := returned
      obtain ⟨applicationId, group, plan, row, located, rfl, rfl, leaves⟩ :=
        checkIn_leaves reached responded updated
      exact ⟨applicationId, group, plan, row, located, ⟨response, responded, updated⟩, leaves⟩
    | _ => simp [updated] at returned

end UpdateRequest

-- Of an instance that is known, only its address and its name can be news.
theorem CheckIn.news_cases {store : Store} {request : Registration} {machine : Instance}
    (stored : store.instances.get? request.instanceId = some machine)
    (address : Network.Address) (now : Nat) :
    news store request address now = none ∨ ∃ nickname,
      news store request address now = some { machine with ip := address.render, nickname } := by
  rw [news, stored, reported]
  simp only
  split
  · exact .inr ⟨_, rfl⟩
  · exact .inl rfl

namespace Store

/-- Nothing has changed but the time of the last check-in, and what the instance tells of itself. -/
structure OnlySeen (instanceId applicationId : String) (now : Nat) (before after : Store) :
    Prop where
  rest : after = { before with instances := after.instances, installations := after.installations }
  row : ∃ row, before.installation? instanceId applicationId = some row ∧
    after.installations = before.installations.insert
      (Installation.keyOf instanceId applicationId) { row with lastCheckAt := now }
  machine : after.instances = before.instances ∨
    ∃ machine ip nickname, before.instances.get? instanceId = some machine ∧
      after.instances = before.instances.insert instanceId { machine with ip, nickname }

theorem Outstanding.onlySeen {store : Store} {request : Registration}
    {applicationId groupId : String} {row : Installation}
    (outstanding : Outstanding request.instanceId applicationId row store)
    (member : row.groupId = groupId) (version : request.version = row.version)
    (address : Network.Address) (now : Nat) :
    OnlySeen request.instanceId applicationId now store
      (store.recordCheckIn (CheckIn.news store request address now)
        (request.sighting applicationId groupId now)).2 := by
  have seen : store.sighted (request.sighting applicationId groupId now) =
      { row with lastCheckAt := now } :=
    CheckIn.sighted_same outstanding.found member version
  obtain ⟨machine, stored⟩ := Option.isSome_iff_exists.mp outstanding.enrolled
  have known := outstanding.keyed.instances _ machine stored
  constructor
  case rest => cases CheckIn.news store request address now <;> rfl
  case row =>
    refine ⟨row, outstanding.found, ?_⟩
    rw [recordCheckIn_installations, seen]
    rfl
  case machine =>
    rcases CheckIn.news_cases stored address now with none | ⟨nickname, news⟩
    · rw [none]
      exact .inl rfl
    · rw [news, ← known]
      exact .inr ⟨machine, address.render, nickname, known ▸ stored, rfl⟩

end Store

namespace UpdateRequest

/-- The request is made once more, wherever the instance is by now and whatever it is called. -/
structure Repeats (again request : UpdateRequest) (engine : Engine)
    (applicationId groupId : String) : Prop where
  instanceId : again.instanceId = request.instanceId
  version : again.version = request.version
  mode : again.mode = request.mode
  asksOnly : again.asksOnly = true
  located : ∃ group, (again.operation.locator.perform engine).1 = .ok (applicationId, group) ∧
    group.id = groupId
  addressed : (Network.Address.parse? (Text.trim again.ip)).isSome = true

variable {request again : UpdateRequest} {engine granted : Engine}
  {applicationId groupId : String} {plan : UpdatePlan} {row : Installation} {group : Group}

theorem Leaves.repeated (leaves : request.Leaves applicationId groupId plan row engine)
    (unmoved : row.version = request.version)
    (repeats : again.Repeats request engine applicationId groupId) :
    ∃ after, again.HandsOut engine plan after ∧
      OnlySeen request.instanceId applicationId engine.now engine.store after.store := by
  obtain ⟨group, located, rfl⟩ := repeats.located
  have version := repeats.version.trans unmoved.symm
  have valid : CheckIn.Valid (again.registration applicationId group) := by
    refine registration_valid ?_ repeats.addressed ?_ applicationId group
    · rw [repeats.instanceId]
      exact leaves.named
    · rw [repeats.version]
      exact leaves.reads
  obtain ⟨entered, address, letIn, config, -, recorded⟩ := perform_entrance located valid
  -- What is recorded of the request changes neither the route of the group nor the grant.
  have catalog := recordCheckIn_sameCatalog engine.store
    (CheckIn.news engine.store (again.registration applicationId group) address engine.now)
    ((again.registration applicationId group).sighting applicationId group.id engine.now)
  have outstanding := leaves.outstanding
  rw [← repeats.instanceId, ← again.registration_instanceId applicationId group] at outstanding
  have onlySeen := outstanding.onlySeen leaves.member
    ((again.registration_version applicationId group).trans version) address engine.now
  rw [again.registration_instanceId, ← recorded] at onlySeen
  rw [← recorded] at catalog
  obtain ⟨seen, found, onlyTime⟩ : ∃ seen : Installation,
      entered.store.installation? again.instanceId applicationId = some seen ∧
        seen = { row with lastCheckAt := engine.now } := by
    obtain ⟨_, known, written⟩ := onlySeen.row
    rw [repeats.instanceId] at known
    obtain rfl := Option.some.inj (leaves.outstanding.found.symm.trans known)
    exact ⟨_, by rw [installation?, written, Table.get_insert, if_pos rfl], rfl⟩
  have offers : entered.store.Offers group.id seen entered.config.maxFloorsPerResponse plan := by
    rw [config]
    exact leaves.offers.of_route (catalog.route group.id) (by rw [onlyTime])
  obtain ⟨current, channel, target, required, stored, offered, planned, rfl⟩ := offers
  obtain rfl : group = current := by
    have same := Operation.located_stored leaves.outstanding.keyed located
    rw [onlySeen.rest, same] at stored
    exact Option.some.inj stored
  have pending : seen.status = .updateGranted := by
    rw [onlyTime]
    exact leaves.outstanding.pending
  have decided := CheckIn.decide_redelivers found offered pending planned entered.now again.mode
  rw [repeats.instanceId] at onlySeen
  exact ⟨_, handsOut_of_decided repeats.asksOnly letIn stored decided found, onlySeen⟩

/--
Whoever is answered with an update and asks again is answered with the same plan, whatever was done
in between, as long as no request was served under the key of the installation and the route of the
group is the same again; and nothing is written but that it was seen. The grant has to be for the
version that was reported, as it always is unless events came with the request.
-/
theorem redelivery_repeats (reached : Reachable engine) (request : UpdateRequest)
    {deliveries : List Delivery}
    (answered : request.answer.perform engine = (.ok (some deliveries), granted)) :
    ∃ applicationId group plan row,
      (request.operation.locator.perform engine).1 = .ok (applicationId, group) ∧
      request.HandsOut engine plan granted ∧
      granted.store.installation? request.instanceId applicationId = some row ∧
      (request.asksOnly = true → row.version = request.version) ∧
      (row.version = request.version → ∀ operations,
        AllowedRun (fun moment operation => operation.servedKey? moment ≠
          some (Installation.keyOf request.instanceId applicationId)) granted operations →
        let later := Operation.runAll granted operations
        later.store.route? group.id = granted.store.route? group.id →
        ∀ again : UpdateRequest, again.Repeats request later applicationId group.id →
          ∃ after, again.HandsOut later plan after ∧
            OnlySeen request.instanceId applicationId later.now later.store after.store) := by
  obtain ⟨applicationId, group, plan, row, located, handed, leaves⟩ :=
    answer_leaves reached request answered
  refine ⟨applicationId, group, plan, row, located, handed, leaves.outstanding.found,
    leaves.version, ?_⟩
  intro unmoved operations elsewhere later sameRoute again repeats
  -- The run carries the outstanding grant along; the plan on it is still the one of the route.
  obtain ⟨outstanding, config⟩ := elsewhere.carries
    (P := fun moment => Outstanding request.instanceId applicationId row moment.store ∧
      moment.config = granted.config)
    (fun moment operation spared carried =>
      ⟨Operation.run_outstanding spared carried.1,
        (operation.run_config moment).trans carried.2⟩)
    ⟨leaves.outstanding, rfl⟩
  have still : request.Leaves applicationId group.id plan row later :=
    { leaves with
      outstanding
      offers := by
        rw [show later.config = granted.config from config]
        exact leaves.offers.of_route sameRoute rfl }
  exact still.repeated unmoved repeats

def handedVersions (request : UpdateRequest) (engine : Engine) : Option (List String) :=
  (request.answer.perform engine).1.toOption.join.map fun deliveries =>
    deliveries.map (·.package.version)

def hostCheckIn : CheckInRequest :=
  { instanceId := "host", ip := "10.0.0.1", version := "1.0.0", applicationId := "agent"
    track := "fleet", architecture := "amd64" }

-- Updates are switched off, another instance is served, and time goes by.
def meanwhile : List Operation :=
  [ .updateGroup
      { id := "fleet", name := "Fleet", description := "", applicationId := "agent"
        channelId := some "stable"
        policy := { updatesEnabled := false, officeHours := true, maxUpdatesPerPeriod := 0 }
        rolloutInProgress := false, track := "fleet", createdAt := 0 },
    .checkIn { hostCheckIn with instanceId := "other" },
    .advance 90000,
    .reopen ]

theorem redelivery_repeats_meanwhile :
    let engine := Operation.runAll {} Operation.smallCatalog
    let request : UpdateRequest := .checkIn hostCheckIn
    let granted := (request.answer.perform engine).2
    let later := Operation.runAll granted meanwhile
    let again : UpdateRequest :=
      .checkIn { hostCheckIn with ip := "10.0.0.9", nickname := some "Host" }
    Reachable engine ∧ request.handedVersions engine = some ["2.0.0"] ∧
      ∃ plan after, request.HandsOut engine plan granted ∧ again.HandsOut later plan after ∧
        OnlySeen "host" "agent" later.now later.store after.store := by
  intro engine request granted later again
  have reached : Reachable engine := (ReachableBy.start {} rfl).runAll (by decide +kernel)
  have answered : (request.answer.perform engine).1 =
      .ok (some ((request.answer.perform engine).1.toOption.join.getD [])) := by decide +kernel
  obtain ⟨place, found, fleet⟩ : ∃ place,
      (request.operation.locator.perform engine).1 = .ok ("agent", place) ∧ place.id = "fleet" :=
    located_of_ids (by decide +kernel)
  obtain ⟨applicationId, group, plan, row, located, handed, stored, unmoved, repeated⟩ :=
    redelivery_repeats reached request (perform_of_answer answered)
  obtain ⟨rfl, rfl⟩ := Prod.mk.inj (Except.ok.inj (located.symm.trans found))
  rw [fleet] at repeated
  obtain ⟨after, again, onlySeen⟩ := repeated (unmoved rfl) meanwhile (by decide +kernel)
    (by decide +kernel) again
    { instanceId := rfl
      version := rfl
      mode := rfl
      asksOnly := rfl
      located := located_of_ids (by decide +kernel)
      addressed := by decide +kernel }
  exact ⟨reached, by decide +kernel, plan, after, handed, again, onlySeen⟩

-- With the request come events that complete one update, so the next one is granted for a version
-- that was never reported. Asked again, the version that is reported counts, and the earlier update
-- is handed out once more.
theorem redelivery_departs_from_grant :
    let engine := Operation.runAll {}
      (Operation.smallCatalog ++ [.checkIn hostCheckIn])
    let reporting : CheckInRequest := { hostCheckIn with events := [{ kind := 3, result := 2 }] }
    let request : UpdateRequest := .checkIn reporting
    let again : UpdateRequest := .checkIn hostCheckIn
    let granted := (request.answer.perform engine).2
    Reachable engine ∧
      ((Operation.midway engine reporting 1).store.installation? "host" "agent").map (·.status) =
        some .complete ∧
      again.Repeats request granted "agent" "fleet" ∧
      request.handedVersions engine = some ["3.0.0"] ∧
      again.handedVersions granted = some ["2.0.0"] := by
  intro engine reporting request again granted
  refine ⟨(ReachableBy.start {} rfl).runAll (by decide +kernel), by decide +kernel, ?_,
    by decide +kernel, by decide +kernel⟩
  exact
    { instanceId := rfl
      version := rfl
      mode := rfl
      asksOnly := rfl
      located := located_of_ids (by decide +kernel)
      addressed := by decide +kernel }

end UpdateRequest

end FleetRollout

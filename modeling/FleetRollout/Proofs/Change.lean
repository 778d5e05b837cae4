import FleetRollout.Proofs.Operation

set_option autoImplicit false

/-!
All that an operation on the catalog may do to the store, with what it checked before. Every
invariant of the catalog is an invariant of these changes.
-/

namespace FleetRollout

open Store FleetRollout.Action

namespace Store

def Serves (store : Store) (channelId applicationId : String) (architecture : Architecture)
    (packageId : String) : Prop :=
  ∃ package, store.packages.get? packageId = some package ∧
    package.applicationId = applicationId ∧ package.architecture = architecture ∧
    package.isBlacklistedFor channelId = false

def MayShut (store : Store) (applicationId packageId channelId : String) : Prop :=
  (∃ channel, store.channels.get? channelId = some channel ∧
    channel.applicationId = applicationId ∧ channel.packageId ≠ some packageId) ∧
  store.floor? channelId packageId = none

def HasChannel (store : Store) (applicationId channelId : String) : Prop :=
  ∃ channel, store.channels.get? channelId = some channel ∧ channel.applicationId = applicationId

end Store

-- The kinds of entries that an operation creates under an id of their own.
inductive Kind where
  | team
  | application
  | channel
  | package
  | group
  deriving Repr, DecidableEq

structure Scope where
  -- Every new entry has an id of its own.
  fresh : Prop
  -- A new entry of the kind is written under the id, whatever lies there.
  creates : Kind → String → Prop
  editsGroups : Prop
  makesGroups : Prop
  makesChannels : Prop
  dropsApplications : Prop
  dropsTracks : Prop

inductive Change (scope : Scope) (store : Store) : Store → Prop where
  | unchanged : Change scope store store
  | teamPut (team : Team)
      (origin : scope.creates .team team.id ∨ ∃ existing,
        store.teams.get? team.id = some existing ∧ team.createdAt = existing.createdAt) :
      Change scope store (store.putTeam team)
  | applicationPut (application : Application) (dropped : scope.dropsApplications)
      (origin : scope.creates .application application.id ∨ ∃ existing,
        store.applications.get? application.id = some existing ∧
          application.createdAt = existing.createdAt) :
      Change scope store (store.putApplication application)
  | applicationGone (id : String) (dropped : scope.dropsApplications) :
      Change scope store (store.deleteApplication id)
  | channelCreated (made : scope.makesChannels) (channel : Channel)
      (free : scope.fresh → store.channels.get? channel.id = none)
      (target : ∀ packageId ∈ channel.packageId,
        store.Serves channel.id channel.applicationId channel.architecture packageId)
      (created : scope.creates .channel channel.id) :
      Change scope store (store.putChannel channel)
  | channelUpdated {after : Store} (channel existing : Channel)
      (found : store.channels.get? channel.id = some existing)
      (application : channel.applicationId = existing.applicationId)
      (architecture : channel.architecture = existing.architecture)
      (target : ∀ packageId ∈ channel.packageId,
        store.Serves channel.id channel.applicationId channel.architecture packageId)
      (calm : Calm (store.putChannel channel) after)
      (created : channel.createdAt = existing.createdAt)
      (log : ∃ entries, after.activity = store.activity ++ entries ∧
        ∀ entry ∈ entries, entry.kind = .channelPackageUpdated) : Change scope store after
  | channelGone (id : String) (channel : Channel)
      (found : store.channels.get? id = some channel) (dropped : scope.dropsTracks) :
      Change scope store (Engine.withoutChannel store channel id)
  | packageCreated (package : Package)
      (free : scope.fresh → store.packages.get? package.id = none)
      (blacklist : ∀ channelId ∈ package.channelsBlacklist,
        store.MayShut package.applicationId package.id channelId)
      (reads : (Version.parse? package.version).isSome = true)
      (created : scope.creates .package package.id) :
      Change scope store (store.putPackage package)
  | packageUpdated (package existing : Package)
      (found : store.packages.get? package.id = some existing)
      (application : package.applicationId = existing.applicationId)
      (blacklist : ∀ channelId ∈ package.channelsBlacklist,
        store.MayShut package.applicationId package.id channelId)
      (targeting : ∀ channel ∈ store.channelsOf package.applicationId,
        channel.packageId = some package.id → channel.architecture = package.architecture)
      (floors : ∀ floor ∈ store.floorsForPackage package.id, ∃ channel,
        store.channels.get? floor.channelId = some channel ∧
          channel.architecture = package.architecture)
      (reads : (Version.parse? package.version).isSome = true)
      (created : package.createdAt = existing.createdAt) :
      Change scope store (store.putPackage package)
  | packageGone (id : String) (package : Package)
      (found : store.packages.get? id = some package) :
      Change scope store (Engine.withoutPackage store package id)
  | groupCreated (made : scope.makesGroups) (group : Group)
      (unstarted : group.rolloutInProgress = false)
      (channel : ∀ channelId ∈ group.channelId, store.HasChannel group.applicationId channelId)
      (dropped : scope.dropsTracks)
      (zone : ∃ zone, zoneOf group.policy.timezone = .ok zone)
      (created : scope.creates .group group.id)
      (track : Engine.trackOr group.id group.track = group.track) :
      Change scope store (store.putGroup group)
  | groupUpdated (edited : scope.editsGroups) (group existing : Group)
      (found : store.groups.get? group.id = some existing)
      (flag : group.rolloutInProgress = existing.rolloutInProgress)
      (channel : ∀ channelId ∈ group.channelId, store.HasChannel group.applicationId channelId)
      (dropped : scope.dropsTracks)
      (zone : ∃ zone, zoneOf group.policy.timezone = .ok zone)
      (application : group.applicationId = existing.applicationId)
      (created : group.createdAt = existing.createdAt)
      (track : Engine.trackOr group.id group.track = group.track) :
      Change scope store (store.putGroup group)
  | groupGone (made : scope.makesGroups) (id : String) (dropped : scope.dropsTracks) :
      Change scope store (store.deleteGroup id)
  | floorAdded (floor : Floor) (channel : Channel)
      (found : store.channels.get? floor.channelId = some channel)
      (serves : store.Serves floor.channelId channel.applicationId channel.architecture
        floor.packageId) :
      Change scope store (store.putFloor floor)
  | floorRemoved (channelId packageId : String) :
      Change scope store (store.deleteFloor channelId packageId)

namespace Engine

theorem inspects_checkTarget (channelId applicationId : String) (architecture : Architecture)
    (packageId : String) :
    Inspects (checkTarget channelId applicationId architecture packageId) fun engine _ =>
      engine.store.Serves channelId applicationId architecture packageId := by
  refine (inspects_bind (inspects_requirePackage packageId) fun package =>
    inspects_bind (inspects_check _ _) fun _ => inspects_bind (inspects_check _ _) fun _ =>
      inspects_bind (inspects_check _ _) fun _ => inspects_pure package).imp fun engine answer => ?_
  rintro ⟨package, found, _, application, _, architecture, _, permitted, rfl⟩
  exact ⟨answer, found, eq_of_beq application, (of_decide_eq_true architecture).symm,
    by simpa using permitted⟩

theorem inspects_checkTarget? (channelId applicationId : String) (architecture : Architecture)
    (packageId : Option String) :
    Inspects (checkTarget? channelId applicationId architecture packageId) fun engine _ =>
      ∀ id ∈ packageId, engine.store.Serves channelId applicationId architecture id := by
  cases packageId with
  | none => exact (inspects_pure none).imp (by simp)
  | some packageId =>
    refine (inspects_bind (inspects_checkTarget channelId applicationId architecture packageId)
      fun package => inspects_pure (some package)).imp fun engine answer => ?_
    rintro ⟨_, serves, -⟩
    simpa using serves

theorem inspects_checkBlacklist (package : Package) :
    Inspects (checkBlacklist package) fun engine _ =>
      ∀ channelId ∈ package.channelsBlacklist,
        engine.store.MayShut package.applicationId package.id channelId := by
  refine inspects_forM (fun channelId => ?_) _
  refine (inspects_bind (inspects_requireChannel channelId) fun channel =>
    inspects_bind (inspects_check _ _) fun _ => inspects_bind (inspects_check _ _) fun _ =>
      inspects_bind inspects_readStore fun store => inspects_check _ _).imp fun engine answer => ?_
  rintro ⟨channel, found, _, application, _, elsewhere, _, rfl, unfloored⟩
  exact ⟨⟨channel, found, of_decide_eq_true application, of_decide_eq_true elsewhere⟩,
    Option.isNone_iff_eq_none.mp unfloored⟩

theorem inspects_checkReferences (package : Package) :
    Inspects (checkReferences package) fun engine _ =>
      (∀ channel ∈ engine.store.channelsOf package.applicationId,
        channel.packageId = some package.id → channel.architecture = package.architecture) ∧
      ∀ floor ∈ engine.store.floorsForPackage package.id, ∃ channel,
        engine.store.channels.get? floor.channelId = some channel ∧
          channel.architecture = package.architecture := by
  have targeting (channel : Channel) :
      Inspects (checkTargeting package channel) fun (_ : Engine) _ =>
        channel.packageId = some package.id → channel.architecture = package.architecture := by
    unfold checkTargeting
    split
    next => exact (inspects_check _ _).imp fun _ _ agrees _ => of_decide_eq_true agrees
    next other => exact (inspects_pure ()).imp fun _ _ _ targeted => absurd targeted other
  have floorUse (floor : Floor) : Inspects (checkFloorUse package floor) fun engine _ => ∃ channel,
      engine.store.channels.get? floor.channelId = some channel ∧
        channel.architecture = package.architecture :=
    (inspects_bind (inspects_requireChannel floor.channelId) fun channel =>
      inspects_check _ _).imp fun engine _ ⟨channel, found, agrees⟩ =>
        ⟨channel, found, of_decide_eq_true agrees⟩
  refine (inspects_bind inspects_readStore fun first =>
    inspects_bind (inspects_forM targeting (first.channelsOf package.applicationId)) fun _ =>
      inspects_bind inspects_readStore fun second =>
        inspects_forM floorUse (second.floorsForPackage package.id)).imp fun engine _ => ?_
  rintro ⟨_, rfl, _, targets, _, rfl, floors⟩
  exact ⟨targets, floors⟩

theorem inspects_checkGroupReferences (applicationId : String) (channelId : Option String)
    (policy : Policy) :
    Inspects (checkGroupReferences applicationId channelId policy) fun engine _ =>
      (∀ id ∈ channelId, engine.store.HasChannel applicationId id) ∧
        ∃ zone, zoneOf policy.timezone = .ok zone := by
  unfold checkGroupReferences
  cases channelId with
  | none =>
    refine (inspects_bind (inspects_ofExcept _) fun _ => inspects_pure ()).imp fun engine _ => ?_
    rintro ⟨zone, known, -⟩
    exact ⟨by simp, zone, known⟩
  | some channelId =>
    refine (inspects_bind (inspects_requireChannel channelId) fun channel =>
      inspects_bind (inspects_check _ _) fun _ => inspects_bind (inspects_ofExcept _) fun _ =>
        inspects_pure ()).imp fun engine _ => ?_
    rintro ⟨channel, found, _, own, zone, known, -⟩
    refine ⟨fun id member => ?_, zone, known⟩
    obtain rfl := Option.mem_some_iff.mp member
    exact ⟨channel, found, of_decide_eq_true own⟩

theorem trackOr_trackOr (id track : String) : trackOr id (trackOr id track) = trackOr id track := by
  unfold trackOr
  split <;> simp_all

theorem perform_idOrNew (given : Option String) (engine : Engine) :
    ∃ nextId, (idOrNew given).perform engine =
      (.ok (engine.idFor given), { engine with nextId }) := by
  cases given with
  | some id => exact ⟨engine.nextId, rfl⟩
  | none => exact ⟨engine.nextId + 1, rfl⟩

-- What was looked up is kept or forgotten, but nothing is looked up.
structure Recalls (before after : Directory) : Prop where
  applications : after.applications = before.applications ∨ after.applications = none
  tracks : after.tracks = before.tracks ∨ after.tracks = none

structure Changes (scope : Scope) (before after : Engine) : Prop where
  change : (after.directory.applications = none → scope.dropsApplications) →
    (after.directory.tracks = none → scope.dropsTracks) → Change scope before.store after.store
  recalls : Recalls before.directory after.directory

theorem Recalls.refl (directory : Directory) : Recalls directory directory :=
  ⟨.inl rfl, .inl rfl⟩

section Operations

variable {scope : Scope}

theorem Changes.unchanged {engine after : Engine} (store : after.store = engine.store)
    (directory : after.directory = engine.directory) : Changes scope engine after := by
  refine ⟨fun _ _ => ?_, directory ▸ .refl _⟩
  rw [store]
  exact .unchanged

theorem createTeam_changes (id : Option String) (name : String) (engine : Engine)
    (created : scope.creates .team (engine.idFor id)) :
    Changes scope engine ((createTeam id name).perform engine).2 := by
  obtain ⟨nextId, named⟩ := perform_idOrNew id engine
  unfold createTeam
  rw [perform_bind_ok named]
  exact ⟨fun _ _ => .teamPut _ (.inl created), .refl _⟩

theorem updateTeam_changes (team : Team) (engine : Engine) :
    Changes scope engine ((updateTeam team).perform engine).2 :=
  (inspects_requireTeam team.id).then_leads (.unchanged rfl rfl) fun existing found =>
    ⟨fun _ _ => .teamPut { team with createdAt := existing.createdAt }
      (.inr ⟨existing, found, rfl⟩), .refl _⟩

theorem createApplication_changes (new : NewApplication) (engine : Engine)
    (created : scope.creates .application (engine.idFor new.id)) :
    Changes scope engine ((createApplication new).perform engine).2 := by
  refine (inspects_requireTeam new.teamId).then_leads (.unchanged rfl rfl) fun _ _ => ?_
  obtain ⟨nextId, named⟩ := perform_idOrNew new.id engine
  rw [perform_bind_ok named]
  exact ⟨fun drops _ => .applicationPut _ (drops rfl) (.inl created), .inr rfl, .inl rfl⟩

theorem updateApplication_changes (application : Application) (engine : Engine) :
    Changes scope engine ((updateApplication application).perform engine).2 :=
  (inspects_requireApplication application.id).then_leads (.unchanged rfl rfl)
    fun existing found =>
      (inspects_requireTeam application.teamId).then_leads (.unchanged rfl rfl) fun _ _ =>
        ⟨fun drops _ =>
          .applicationPut { application with createdAt := existing.createdAt } (drops rfl)
            (.inr ⟨existing, found, rfl⟩),
          .inr rfl, .inl rfl⟩

theorem deleteApplication_changes (id : String) (engine : Engine) :
    Changes scope engine ((deleteApplication id).perform engine).2 :=
  ⟨fun drops _ => .applicationGone id (drops rfl), .inr rfl, .inr rfl⟩

theorem createChannel_changes (made : scope.makesChannels) (new : NewChannel) (engine : Engine)
    (free : scope.fresh → engine.store.channels.get? (engine.idFor new.id) = none)
    (created : scope.creates .channel (engine.idFor new.id)) :
    Changes scope engine ((createChannel new).perform engine).2 := by
  refine (inspects_requireApplication new.applicationId).then_leads (.unchanged rfl rfl)
    fun _ _ => ?_
  obtain ⟨nextId, named⟩ := perform_idOrNew new.id engine
  rw [perform_bind_ok named]
  refine (inspects_checkTarget? _ _ _ _).then_leads (.unchanged rfl rfl) fun _ serves => ?_
  let channel : Channel :=
    { id := engine.idFor new.id
      name := new.name
      color := new.color
      applicationId := new.applicationId
      architecture := new.architecture
      packageId := new.packageId
      createdAt := engine.now }
  exact ⟨fun _ _ => .channelCreated made channel free serves created, .refl _⟩

theorem updateChannel_changes (channel : Channel) (engine : Engine) :
    Changes scope engine ((updateChannel channel).perform engine).2 := by
  refine (inspects_requireChannel channel.id).then_leads (.unchanged rfl rfl)
    fun existing found => ?_
  refine (inspects_check _ _).then_leads (.unchanged rfl rfl) fun _ application => ?_
  refine (inspects_check _ _).then_leads (.unchanged rfl rfl) fun _ architecture => ?_
  refine (inspects_checkTarget? _ _ _ _).then_leads (.unchanged rfl rfl) fun target serves => ?_
  -- Whether the new target is announced in the log or not, it is written the same way.
  have written {after : Store}
      (calm : Calm (engine.store.putChannel { channel with createdAt := existing.createdAt })
        after)
      (log : ∃ entries, after.activity = engine.store.activity ++ entries ∧
        ∀ entry ∈ entries, entry.kind = .channelPackageUpdated) :
      Changes scope engine { engine with store := after } :=
    ⟨fun _ _ => .channelUpdated { channel with createdAt := existing.createdAt } existing found
      (of_decide_eq_true application) (of_decide_eq_true architecture) serves calm rfl log,
      .refl _⟩
  have silent : ∃ entries, engine.store.activity = engine.store.activity ++ entries ∧
      ∀ entry ∈ entries, entry.kind = .channelPackageUpdated :=
    ⟨[], (List.append_nil _).symm, by simp⟩
  rw [perform_bind_ok (perform_write _ engine)]
  cases target with
  | none => exact written (Calm.refl _) silent
  | some package =>
    simp only
    split
    · exact written (Calm.refl _) silent
    · exact written (recordActivity_calm _ (by simp)) ⟨_, rfl, by simp⟩

theorem deleteChannel_changes (id : String) (engine : Engine) :
    Changes scope engine ((deleteChannel id).perform engine).2 := by
  unfold deleteChannel
  rw [perform_bind_ok (perform_readStore engine)]
  cases found : engine.store.channels.get? id with
  | none => exact .unchanged rfl rfl
  | some channel =>
    exact ⟨fun _ drops => .channelGone id channel found (drops rfl), .inl rfl, .inr rfl⟩

theorem createPackage_changes (new : NewPackage) (engine : Engine)
    (free : scope.fresh → engine.store.packages.get? (engine.idFor new.id) = none)
    (created : scope.creates .package (engine.idFor new.id)) :
    Changes scope engine ((createPackage new).perform engine).2 := by
  refine (inspects_requireApplication new.applicationId).then_leads (.unchanged rfl rfl)
    fun _ _ => ?_
  refine (inspects_check _ _).then_leads (.unchanged rfl rfl) fun _ reads => ?_
  obtain ⟨nextId, named⟩ := perform_idOrNew new.id engine
  rw [perform_bind_ok named]
  exact (inspects_checkBlacklist _).then_leads (.unchanged rfl rfl) fun _ blacklist =>
    ⟨fun _ _ => .packageCreated _ free blacklist reads created, .refl _⟩

theorem updatePackage_changes (package : Package) (engine : Engine) :
    Changes scope engine ((updatePackage package).perform engine).2 := by
  refine (inspects_requirePackage package.id).then_leads (.unchanged rfl rfl)
    fun existing found => ?_
  refine (inspects_check _ _).then_leads (.unchanged rfl rfl) fun _ application => ?_
  refine (inspects_check _ _).then_leads (.unchanged rfl rfl) fun _ reads => ?_
  refine (inspects_checkBlacklist package).then_leads (.unchanged rfl rfl) fun _ blacklist => ?_
  refine (inspects_checkReferences package).then_leads (.unchanged rfl rfl) fun _ references => ?_
  exact ⟨fun _ _ =>
    .packageUpdated { package with createdAt := existing.createdAt } existing found
      (of_decide_eq_true application) blacklist references.1 references.2 reads rfl, .refl _⟩

theorem deletePackage_changes (id : String) (engine : Engine) :
    Changes scope engine ((deletePackage id).perform engine).2 := by
  unfold deletePackage
  rw [perform_bind_ok (perform_readStore engine)]
  cases found : engine.store.packages.get? id with
  | none => exact .unchanged rfl rfl
  | some package => exact ⟨fun _ _ => .packageGone id package found, .refl _⟩

theorem createGroup_changes (made : scope.makesGroups) (new : NewGroup) (engine : Engine)
    (created : scope.creates .group (engine.idFor new.id)) :
    Changes scope engine ((createGroup new).perform engine).2 := by
  refine (inspects_requireApplication new.applicationId).then_leads (.unchanged rfl rfl)
    fun _ _ => ?_
  refine (inspects_checkGroupReferences _ _ _).then_leads (.unchanged rfl rfl)
    fun _ references => ?_
  obtain ⟨nextId, named⟩ := perform_idOrNew new.id engine
  rw [perform_bind_ok named]
  exact ⟨fun _ drops =>
    .groupCreated made _ rfl references.1 (drops rfl) references.2 created (trackOr_trackOr _ _),
    .inl rfl, .inr rfl⟩

theorem updateGroup_changes (edited : scope.editsGroups) (group : Group) (engine : Engine) :
    Changes scope engine ((updateGroup group).perform engine).2 := by
  refine (inspects_requireGroup group.id).then_leads (.unchanged rfl rfl) fun existing found => ?_
  refine (inspects_check _ _).then_leads (.unchanged rfl rfl) fun _ application => ?_
  refine (inspects_checkGroupReferences _ _ _).then_leads (.unchanged rfl rfl)
    fun _ references => ?_
  exact ⟨fun _ drops =>
    .groupUpdated edited _ existing found rfl references.1 (drops rfl) references.2
      (of_decide_eq_true application) rfl (trackOr_trackOr _ _), .inl rfl, .inr rfl⟩

theorem deleteGroup_changes (made : scope.makesGroups) (id : String) (engine : Engine) :
    Changes scope engine ((deleteGroup id).perform engine).2 :=
  ⟨fun _ drops => .groupGone made id (drops rfl), .inl rfl, .inr rfl⟩

theorem addFloor_changes (channelId packageId reason : String) (engine : Engine) :
    Changes scope engine ((addFloor channelId packageId reason).perform engine).2 := by
  refine (inspects_requireChannel channelId).then_leads (.unchanged rfl rfl)
    fun channel found => ?_
  refine (inspects_requirePackage packageId).then_leads (.unchanged rfl rfl)
    fun package stored => ?_
  refine (inspects_check _ _).then_leads (.unchanged rfl rfl) fun _ application => ?_
  refine (inspects_check _ _).then_leads (.unchanged rfl rfl) fun _ architecture => ?_
  refine (inspects_check _ _).then_leads (.unchanged rfl rfl) fun _ permitted => ?_
  refine (inspects_check _ _).then_leads (.unchanged rfl rfl) fun _ _ => ?_
  have serves :
      engine.store.Serves channelId channel.applicationId channel.architecture packageId :=
    ⟨package, stored, eq_of_beq application, (of_decide_eq_true architecture).symm,
      by simpa using permitted⟩
  let floor : Floor := { channelId, packageId, reason, createdAt := engine.now }
  exact ⟨fun _ _ => .floorAdded floor channel found serves, .refl _⟩

theorem removeFloor_changes (channelId packageId : String) (engine : Engine) :
    Changes scope engine ((removeFloor channelId packageId).perform engine).2 :=
  ⟨fun _ _ => .floorRemoved channelId packageId, .refl _⟩

end Operations

end Engine

namespace Operation

def editsGroups : Operation → Bool
  | .updateGroup _ => true
  | _ => false

def makesGroups : Operation → Bool
  | .createGroup _ | .deleteGroup _ => true
  | _ => false

def makesChannels : Operation → Bool
  | .createChannel _ => true
  | _ => false

def creates (engine : Engine) : Operation → Option (Kind × String)
  | .createTeam id _ => some (.team, engine.idFor id)
  | .createApplication new => some (.application, engine.idFor new.id)
  | .createChannel new => some (.channel, engine.idFor new.id)
  | .createPackage new => some (.package, engine.idFor new.id)
  | .createGroup new => some (.group, engine.idFor new.id)
  | _ => none

def scope (engine : Engine) (operation : Operation) : Scope where
  fresh := operation.reusesId engine = false
  creates kind id := operation.creates engine = some (kind, id)
  editsGroups := operation.editsGroups = true
  makesGroups := operation.makesGroups = true
  makesChannels := operation.makesChannels = true
  dropsApplications := (operation.run engine).directory.applications = none
  dropsTracks := (operation.run engine).directory.tracks = none

theorem run_administers {operation : Operation} (serves : operation.isRequest = false)
    (looks : operation.looksUp = false) (engine : Engine) :
    Engine.Changes (operation.scope engine) engine (operation.run engine) := by
  cases operation with
  | createTeam id name => exact Engine.createTeam_changes id name engine rfl
  | updateTeam team => exact Engine.updateTeam_changes team engine
  | createApplication new => exact Engine.createApplication_changes new engine rfl
  | updateApplication application => exact Engine.updateApplication_changes application engine
  | deleteApplication id => exact Engine.deleteApplication_changes id engine
  | createChannel new =>
    exact Engine.createChannel_changes rfl new engine Table.get_eq_none_of_contains rfl
  | updateChannel channel => exact Engine.updateChannel_changes channel engine
  | deleteChannel id => exact Engine.deleteChannel_changes id engine
  | createPackage new =>
    exact Engine.createPackage_changes new engine Table.get_eq_none_of_contains rfl
  | updatePackage package => exact Engine.updatePackage_changes package engine
  | deletePackage id => exact Engine.deletePackage_changes id engine
  | createGroup new => exact Engine.createGroup_changes rfl new engine rfl
  | updateGroup group => exact Engine.updateGroup_changes rfl group engine
  | deleteGroup id => exact Engine.deleteGroup_changes rfl id engine
  | addFloor channelId packageId reason =>
    exact Engine.addFloor_changes channelId packageId reason engine
  | removeFloor channelId packageId => exact Engine.removeFloor_changes channelId packageId engine
  | forgetApplications => exact ⟨fun _ _ => .unchanged, .inr rfl, .inl rfl⟩
  | forgetTracks => exact ⟨fun _ _ => .unchanged, .inl rfl, .inr rfl⟩
  | reopen => exact ⟨fun _ _ => .unchanged, .inr rfl, .inr rfl⟩
  | setNow | advance => exact .unchanged rfl rfl
  | _ => simp_all [isRequest, looksUp]

theorem run_changes {operation : Operation} (serves : operation.isRequest = false)
    (engine : Engine) :
    Change (operation.scope engine) engine.store (operation.run engine).store := by
  cases looks : operation.looksUp with
  | false => exact (run_administers serves looks engine).change id id
  | true =>
    obtain ⟨directory, same⟩ := run_looksUp Engine.sameData_keptByLookups looks engine
    rw [same]
    exact .unchanged

end Operation

namespace Store

section Folds

variable {β : Type}

theorem foldl_deleteFloor (channelOf packageOf : β → String) (elements : List β) (store : Store) :
    elements.foldl (fun store element => store.deleteFloor (channelOf element) (packageOf element))
        store =
      { store with
        floors := elements.foldl (fun floors element =>
          floors.erase (Floor.keyOf (channelOf element) (packageOf element))) store.floors } := by
  induction elements generalizing store with
  | nil => rfl
  | cons head rest ih => exact ih _

theorem foldl_detachFrom (id : String) (groups : List Group) (store : Store) :
    groups.foldl (Engine.detachFrom id) store =
      { store with
        groups := (groups.filter fun group => group.channelId = some id).foldl
          (fun table group => table.insert group.id { group with channelId := none })
          store.groups } := by
  induction groups generalizing store with
  | nil => rfl
  | cons head rest ih =>
    -- To leave an element as it is comes to the same as to pass over it.
    rw [List.foldl_cons, ih, Engine.detachFrom, List.filter_cons]
    by_cases attached : head.channelId = some id
    · simp only [attached, if_true, decide_true, List.foldl_cons]
      rfl
    · simp only [attached, if_false, decide_false, Bool.false_eq_true]

theorem foldl_clearTarget (id : String) (channels : List Channel) (store : Store) :
    channels.foldl (Engine.clearTarget id) store =
      { store with
        channels := (channels.filter fun channel => channel.packageId = some id).foldl
          (fun table channel => table.insert channel.id { channel with packageId := none })
          store.channels } := by
  induction channels generalizing store with
  | nil => rfl
  | cons head rest ih =>
    rw [List.foldl_cons, ih, Engine.clearTarget, List.filter_cons]
    by_cases targeted : head.packageId = some id
    · simp only [targeted, if_true, decide_true, List.foldl_cons]
      rfl
    · simp only [targeted, if_false, decide_false, Bool.false_eq_true]

end Folds

theorem withoutChannel_eq (store : Store) (channel : Channel) (id : String) :
    Engine.withoutChannel store channel id =
      { store with
        floors := (store.channelFloors id).foldl (fun floors floor =>
          floors.erase (Floor.keyOf id floor.package.id)) store.floors
        groups := ((store.groupsOf channel.applicationId).filter fun group =>
          group.channelId = some id).foldl
            (fun table group => table.insert group.id { group with channelId := none }) store.groups
        channels := store.channels.erase id } := by
  simp only [Engine.withoutChannel, foldl_detachFrom,
    foldl_deleteFloor (fun _ => id) (fun floor : FloorPackage => floor.package.id)]
  rfl

theorem withoutPackage_eq (store : Store) (package : Package) (id : String) :
    Engine.withoutPackage store package id =
      { store with
        floors := (store.floorsForPackage id).foldl (fun floors floor =>
          floors.erase (Floor.keyOf floor.channelId id)) store.floors
        channels := ((store.channelsOf package.applicationId).filter fun channel =>
          channel.packageId = some id).foldl
            (fun table channel => table.insert channel.id { channel with packageId := none })
            store.channels
        packages := store.packages.erase id } := by
  simp only [Engine.withoutPackage, foldl_clearTarget,
    foldl_deleteFloor (fun floor : Floor => floor.channelId) (fun _ => id)]
  rfl

theorem map_withoutChannel {β : Type} (read : Group → β)
    (unread : ∀ group, read { group with channelId := none } = read group) {store : Store}
    (keyed : store.groups.KeyedBy Group.id) (channel : Channel) (id groupId : String) :
    ((Engine.withoutChannel store channel id).groups.get? groupId).map read =
      (store.groups.get? groupId).map read := by
  rw [withoutChannel_eq]
  exact keyed.map_foldl_rewrite unread
    (fun _ member => (List.mem_filter.mp (List.mem_filter.mp member).1).1) groupId

theorem map_withoutPackage {β : Type} (read : Channel → β)
    (unread : ∀ channel, read { channel with packageId := none } = read channel) {store : Store}
    (keyed : store.channels.KeyedBy Channel.id) (package : Package) (id channelId : String) :
    ((Engine.withoutPackage store package id).channels.get? channelId).map read =
      (store.channels.get? channelId).map read := by
  rw [withoutPackage_eq]
  exact keyed.map_foldl_rewrite unread
    (fun _ member => (List.mem_filter.mp (List.mem_filter.mp member).1).1) channelId

end Store

theorem Change.keyed {scope : Scope} {store after : Store} (change : Change scope store after)
    (keyed : store.Keyed) : after.Keyed := by
  cases change with
  | unchanged => exact keyed
  | teamPut team => exact { keyed with teams := keyed.teams.insert rfl }
  | applicationPut application =>
    exact { keyed with applications := keyed.applications.insert rfl }
  | applicationGone id => exact { keyed with applications := keyed.applications.erase id }
  | channelCreated _ channel => exact { keyed with channels := keyed.channels.insert rfl }
  | channelUpdated channel _ _ _ _ _ calm =>
    exact calm.noted.keyed { keyed with channels := keyed.channels.insert rfl }
  | channelGone id channel =>
    rw [withoutChannel_eq]
    exact
      { keyed with
        floors := keyed.floors.foldl_erase _ _
        groups := keyed.groups.foldl_insert Group.id
          (fun group => { group with channelId := none }) (fun _ => rfl) _
        channels := keyed.channels.erase id }
  | packageCreated package | packageUpdated package =>
    exact { keyed with packages := keyed.packages.insert rfl }
  | packageGone id package =>
    rw [withoutPackage_eq]
    exact
      { keyed with
        floors := keyed.floors.foldl_erase _ _
        channels := keyed.channels.foldl_insert Channel.id
          (fun channel => { channel with packageId := none }) (fun _ => rfl) _
        packages := keyed.packages.erase id }
  | groupCreated _ group | groupUpdated _ group =>
    exact { keyed with groups := keyed.groups.insert rfl }
  | groupGone _ id => exact { keyed with groups := keyed.groups.erase id }
  | floorAdded floor => exact { keyed with floors := keyed.floors.insert rfl }
  | floorRemoved => exact { keyed with floors := keyed.floors.erase _ }

theorem Operation.run_keyed (operation : Operation) {engine : Engine} (keyed : engine.store.Keyed) :
    (operation.run engine).store.Keyed := by
  cases serves : operation.isRequest with
  | true => exact (run_serves Engine.keyed_keptByStages.parts serves engine).store keyed
  | false => exact (run_changes serves engine).keyed keyed

theorem Operation.runAll_keyed (operations : List Operation) {engine : Engine}
    (keyed : engine.store.Keyed) : (runAll engine operations).store.Keyed := by
  induction operations generalizing engine with
  | nil => exact keyed
  | cons operation rest ih => exact ih (operation.run_keyed keyed)

theorem ReachableBy.keyed {Allowed : Engine → Operation → Prop} {engine : Engine}
    (reached : ReachableBy Allowed engine) : engine.store.Keyed := by
  induction reached with
  | start engine empty =>
    rw [empty]
    exact keyed_empty
  | step operation _ _ ih => exact operation.run_keyed ih

theorem Change.sameFleet {scope : Scope} {store after : Store}
    (change : Change scope store after) : SameFleet store after := by
  cases change with
  | channelUpdated _ _ _ _ _ _ calm =>
    exact ⟨calm.noted.fleet.instances, calm.noted.fleet.installations, calm.noted.fleet.history⟩
  | channelGone id channel =>
    rw [withoutChannel_eq]
    exact ⟨rfl, rfl, rfl⟩
  | packageGone id package =>
    rw [withoutPackage_eq]
    exact ⟨rfl, rfl, rfl⟩
  | _ => exact ⟨rfl, rfl, rfl⟩

end FleetRollout

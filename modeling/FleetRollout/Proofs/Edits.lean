import FleetRollout.Engine.Manifest
import FleetRollout.Proofs.Integrity

set_option autoImplicit false

/-!
When an edit of the catalog is made, and what it writes. An edit answers exactly if all it refers
to is stored and fits; then it writes its one entry. Nothing else in the store matters to it, and
nothing else is changed.
-/

namespace FleetRollout

def TeamSpec.entry (spec : TeamSpec) (createdAt : Nat) : Team :=
  { id := spec.id, name := spec.name, createdAt }

def NewApplication.entry (new : NewApplication) (id : String) (createdAt : Nat) : Application :=
  { id
    productId := new.productId
    name := new.name
    description := new.description
    teamId := new.teamId
    createdAt }

def NewChannel.entry (new : NewChannel) (id : String) (target : Option String) (createdAt : Nat) :
    Channel :=
  { id
    name := new.name
    color := new.color
    applicationId := new.applicationId
    architecture := new.architecture
    packageId := target
    createdAt }

def NewPackage.entry (new : NewPackage) (id : String) (createdAt : Nat) : Package :=
  { id
    applicationId := new.applicationId
    version := new.version
    architecture := new.architecture
    kind := new.kind
    url := new.url
    filename := new.filename
    description := new.description
    size := new.size
    hash := new.hash
    action := new.action
    extraFiles := new.extraFiles
    channelsBlacklist := new.channelsBlacklist
    createdAt }

def FloorSpec.entry (spec : FloorSpec) (createdAt : Nat) : Floor :=
  { channelId := spec.channelId, packageId := spec.packageId, reason := spec.reason, createdAt }

def FloorSpec.key (spec : FloorSpec) : String :=
  Floor.keyOf spec.channelId spec.packageId

def NewGroup.entry (new : NewGroup) (id : String) (rolloutInProgress : Bool) (createdAt : Nat) :
    Group :=
  { id
    name := new.name
    description := new.description
    applicationId := new.applicationId
    channelId := new.channelId
    policy := new.policy
    rolloutInProgress
    track := Engine.trackOr id (new.track.getD "")
    createdAt }

theorem Store.Integrity.references {store : Store} (integrity : store.Integrity) {id : String}
    {package : Package} (stored : store.packages.get? id = some package) :
    (∀ channel ∈ store.channelsOf package.applicationId,
      channel.packageId = some id → channel.architecture = package.architecture) ∧
    ∀ floor ∈ store.floorsForPackage id, ∃ channel,
      store.channels.get? floor.channelId = some channel ∧
        channel.architecture = package.architecture := by
  refine ⟨fun channel listed targeted => ?_, fun floor listed => ?_⟩
  · obtain ⟨⟨key, found⟩, -⟩ := Table.mem_valuesWhere.mp listed
    obtain ⟨_, known, -, agrees, -⟩ := integrity.targets key channel found id targeted
    obtain rfl := Option.some.inj (stored.symm.trans known)
    exact agrees.symm
  · obtain ⟨⟨key, declared⟩, own⟩ := Table.mem_valuesWhere.mp listed
    obtain ⟨channel, found, _, known, -, agrees, -⟩ := integrity.floors key floor declared
    rw [eq_of_beq own] at known
    obtain rfl := Option.some.inj (stored.symm.trans known)
    exact ⟨channel, found, agrees.symm⟩

namespace Engine

open FleetRollout.Action

variable {engine after : Engine}

theorem checkTarget_ok {channelId applicationId : String} {architecture : Architecture}
    {packageId : String} {answer : Package} :
    (checkTarget channelId applicationId architecture packageId).perform engine =
        (.ok answer, after) ↔
      (engine.store.packages.get? packageId = some answer ∧
        answer.applicationId = applicationId ∧ answer.architecture = architecture ∧
        answer.isBlacklistedFor channelId = false) ∧ after = engine := by
  simp only [checkTarget, checkSameApplication, checkArchitecture, checkNotBlacklisted, bind_ok,
    requirePackage_ok, check_ok, pure_ok, and_assoc, exists_and_left, exists_eq_left, exists_const]
  grind

theorem checkTarget?_ok {channelId applicationId : String} {architecture : Architecture}
    {packageId : Option String} {answer : Option Package} :
    (checkTarget? channelId applicationId architecture packageId).perform engine =
        (.ok answer, after) ↔
      (∀ id ∈ packageId, engine.store.Serves channelId applicationId architecture id) ∧
        answer = packageId.bind engine.store.packages.get? ∧ after = engine := by
  cases packageId with
  | none => simp [checkTarget?, eq_comm]
  | some packageId =>
    simp only [checkTarget?, bind_ok, checkTarget_ok, pure_ok, Store.Serves, Option.mem_def,
      Option.some.injEq, Option.bind_some]
    grind

theorem checkBlacklist_ok {package : Package} {answer : Unit} :
    (checkBlacklist package).perform engine = (.ok answer, after) ↔
      (∀ channelId ∈ package.channelsBlacklist,
        engine.store.MayShut package.applicationId package.id channelId) ∧ after = engine := by
  refine forM_ok fun channelId after => ?_
  simp only [checkBlacklistEntry, bind_ok, requireChannel_ok, readStore_ok, check_ok, and_assoc,
    exists_and_left, exists_eq_left, exists_const, Store.MayShut, decide_eq_true_eq,
    Option.isNone_iff_eq_none]
  grind

theorem checkReferences_ok {package : Package} {answer : Unit} :
    (checkReferences package).perform engine = (.ok answer, after) ↔
      (∀ channel ∈ engine.store.channelsOf package.applicationId,
        channel.packageId = some package.id → channel.architecture = package.architecture) ∧
      (∀ floor ∈ engine.store.floorsForPackage package.id, ∃ channel,
        engine.store.channels.get? floor.channelId = some channel ∧
          channel.architecture = package.architecture) ∧ after = engine := by
  have targeting (channel : Channel) (after : Engine) :
      (checkTargeting package channel).perform engine = (.ok ⟨⟩, after) ↔
        (channel.packageId = some package.id → channel.architecture = package.architecture) ∧
          after = engine := by
    unfold checkTargeting
    split
    next targeted => simp [checkArchitecture, check_ok, targeted]
    next other => simp only [pure_ok, other, false_implies, true_and]
  have floorUse (floor : Floor) (after : Engine) :
      (checkFloorUse package floor).perform engine = (.ok ⟨⟩, after) ↔
        (∃ channel, engine.store.channels.get? floor.channelId = some channel ∧
          channel.architecture = package.architecture) ∧ after = engine := by
    simp only [checkFloorUse, checkArchitecture, bind_ok, requireChannel_ok, check_ok, and_assoc,
      exists_and_left, exists_eq_left]
    grind
  simp only [checkReferences, bind_ok, readStore_ok, and_assoc, exists_eq_left,
    forM_ok targeting, forM_ok floorUse, exists_and_left, exists_const]

theorem checkGroupReferences_ok {applicationId : String} {channelId : Option String}
    {policy : Policy} {answer : Unit} :
    (checkGroupReferences applicationId channelId policy).perform engine = (.ok answer, after) ↔
      (∀ id ∈ channelId, engine.store.HasChannel applicationId id) ∧
        (∃ zone, zoneOf policy.timezone = .ok zone) ∧ after = engine := by
  cases channelId with
  | none =>
    simp only [checkGroupReferences, bind_ok, ofExcept_ok, pure_ok, and_assoc, exists_and_left,
      exists_eq_left]
    simp
  | some channelId =>
    simp only [checkGroupReferences, bind_ok, requireChannel_ok, check_ok, ofExcept_ok, pure_ok,
      and_assoc, exists_and_left, exists_eq_left, exists_const, Store.HasChannel,
      decide_eq_true_eq, Option.mem_def, Option.some.injEq, forall_eq']
    grind

def nextIdAfter (engine : Engine) : Option String → Nat
  | some _ => engine.nextId
  | none => engine.nextId + 1

theorem idOrNew_answers {given : Option String} {answer : String} :
    (idOrNew given).perform engine = (.ok answer, after) ↔
      answer = engine.idFor given ∧ after = { engine with nextId := engine.nextIdAfter given } := by
  cases given with
  | some id => exact idOrNew_ok
  | none =>
    change (Except.ok _, _) = (Except.ok answer, after) ↔ _
    simp [idFor, nextIdAfter, eq_comm]

theorem createTeam_answers {id : Option String} {name : String} {answer : Team} :
    (createTeam id name).perform engine = (.ok answer, after) ↔
      answer = { id := engine.idFor id, name, createdAt := engine.now } ∧
        after = { engine with
          store := engine.store.putTeam answer
          nextId := engine.nextIdAfter id } := by
  simp only [createTeam, bind_ok, idOrNew_answers, get_ok, write_ok, pure_ok, and_assoc,
    exists_and_left, exists_eq_left, exists_const]
  grind

theorem createTeam_ok {id name : String} {answer : Team} :
    (createTeam (some id) name).perform engine = (.ok answer, after) ↔
      answer = { id, name, createdAt := engine.now } ∧
        after = { engine with store := engine.store.putTeam answer } :=
  createTeam_answers

theorem updateTeam_ok {team answer : Team} :
    (updateTeam team).perform engine = (.ok answer, after) ↔
      ∃ existing, engine.store.teams.get? team.id = some existing ∧
        answer = { team with createdAt := existing.createdAt } ∧
        after = { engine with store := engine.store.putTeam answer } := by
  simp only [updateTeam, bind_ok, requireTeam_ok, write_ok, pure_ok, and_assoc, exists_and_left,
    exists_eq_left, exists_const]
  grind

theorem createApplication_answers {new : NewApplication} {answer : Application} :
    (createApplication new).perform engine = (.ok answer, after) ↔
      (∃ team, engine.store.teams.get? new.teamId = some team) ∧
        answer = new.entry (engine.idFor new.id) engine.now ∧
        after = { engine with
          store := engine.store.putApplication answer
          directory := engine.directory.forgetApplications
          nextId := engine.nextIdAfter new.id } := by
  simp only [createApplication, bind_ok, requireTeam_ok, idOrNew_answers, get_ok, write_ok,
    forgetApplications_ok, pure_ok, and_assoc, exists_and_left, exists_eq_left, exists_const,
    NewApplication.entry]
  grind

theorem createApplication_ok {new : NewApplication} {id : String} (given : new.id = some id)
    {answer : Application} :
    (createApplication new).perform engine = (.ok answer, after) ↔
      (∃ team, engine.store.teams.get? new.teamId = some team) ∧
        answer = new.entry id engine.now ∧
        after = { engine with
          store := engine.store.putApplication answer
          directory := engine.directory.forgetApplications } := by
  rw [createApplication_answers, given]
  exact Iff.rfl

theorem updateApplication_ok {application answer : Application} :
    (updateApplication application).perform engine = (.ok answer, after) ↔
      ∃ existing, engine.store.applications.get? application.id = some existing ∧
        (∃ team, engine.store.teams.get? application.teamId = some team) ∧
        answer = { application with createdAt := existing.createdAt } ∧
        after = { engine with
          store := engine.store.putApplication answer
          directory := engine.directory.forgetApplications } := by
  simp only [updateApplication, bind_ok, requireApplication_ok, requireTeam_ok, write_ok,
    forgetApplications_ok, pure_ok, and_assoc, exists_and_left, exists_eq_left, exists_const]
  grind

theorem createChannel_answers {new : NewChannel} {answer : Channel} :
    (createChannel new).perform engine = (.ok answer, after) ↔
      (∃ application, engine.store.applications.get? new.applicationId = some application) ∧
        (∀ packageId ∈ new.packageId, engine.store.Serves (engine.idFor new.id) new.applicationId
          new.architecture packageId) ∧
        answer = new.entry (engine.idFor new.id) new.packageId engine.now ∧
        after = { engine with
          store := engine.store.putChannel answer
          nextId := engine.nextIdAfter new.id } := by
  simp only [createChannel, bind_ok, requireApplication_ok, idOrNew_answers, checkTarget?_ok,
    get_ok, write_ok, pure_ok, and_assoc, exists_and_left, exists_eq_left, exists_const,
    NewChannel.entry]
  grind

theorem createChannel_ok {new : NewChannel} {id : String} (given : new.id = some id)
    {answer : Channel} :
    (createChannel new).perform engine = (.ok answer, after) ↔
      (∃ application, engine.store.applications.get? new.applicationId = some application) ∧
        (∀ packageId ∈ new.packageId,
          engine.store.Serves id new.applicationId new.architecture packageId) ∧
        answer = new.entry id new.packageId engine.now ∧
        after = { engine with store := engine.store.putChannel answer } := by
  rw [createChannel_answers, given]
  exact Iff.rfl

theorem updateChannel_ok {channel answer : Channel}
    (updated : (updateChannel channel).perform engine = (.ok answer, after)) :
    ∃ existing activity, engine.store.channels.get? channel.id = some existing ∧
      channel.applicationId = existing.applicationId ∧
      channel.architecture = existing.architecture ∧
      (∀ packageId ∈ channel.packageId,
        engine.store.Serves channel.id channel.applicationId channel.architecture packageId) ∧
      answer = { channel with createdAt := existing.createdAt } ∧
      after = { engine with store := { engine.store.putChannel answer with activity } } := by
  simp only [updateChannel, bind_ok, requireChannel_ok, check_ok, checkTarget?_ok, write_ok,
    and_assoc, exists_and_left, exists_eq_left, exists_const, decide_eq_true_eq] at updated
  obtain ⟨existing, found, application, architecture, serves, noted⟩ := updated
  split at noted
  next =>
    obtain ⟨rfl, rfl⟩ := pure_ok.mp noted
    exact ⟨existing, _, found, application, architecture, serves, rfl, rfl⟩
  next package _ =>
    split at noted
    next =>
      obtain ⟨rfl, rfl⟩ := pure_ok.mp noted
      exact ⟨existing, _, found, application, architecture, serves, rfl, rfl⟩
    next =>
      cases noted
      exact ⟨existing, _, found, application, architecture, serves, rfl, rfl⟩

theorem updateChannel_sameTarget_ok {channel answer : Channel}
    (same : ∀ existing, engine.store.channels.get? channel.id = some existing →
      existing.packageId = channel.packageId) :
    (updateChannel channel).perform engine = (.ok answer, after) ↔
      ∃ existing, engine.store.channels.get? channel.id = some existing ∧
        channel.applicationId = existing.applicationId ∧
        channel.architecture = existing.architecture ∧
        (∀ packageId ∈ channel.packageId,
          engine.store.Serves channel.id channel.applicationId channel.architecture packageId) ∧
        answer = { channel with createdAt := existing.createdAt } ∧
        after = { engine with store := engine.store.putChannel answer } := by
  simp only [updateChannel, bind_ok, requireChannel_ok, check_ok, checkTarget?_ok, write_ok,
    and_assoc, exists_and_left, exists_eq_left, exists_const, decide_eq_true_eq]
  refine exists_congr fun existing => and_congr_right fun found => ?_
  simp only [same existing found, if_true]
  cases channel.packageId.bind engine.store.packages.get? <;> simp only [pure_ok] <;> grind

theorem createPackage_answers {new : NewPackage} {answer : Package} :
    (createPackage new).perform engine = (.ok answer, after) ↔
      (∃ application, engine.store.applications.get? new.applicationId = some application) ∧
        (Version.parse? new.version).isSome = true ∧
        (∀ channelId ∈ new.channelsBlacklist,
          engine.store.MayShut new.applicationId (engine.idFor new.id) channelId) ∧
        answer = new.entry (engine.idFor new.id) engine.now ∧
        after = { engine with
          store := engine.store.putPackage answer
          nextId := engine.nextIdAfter new.id } := by
  simp only [createPackage, checkVersion, bind_ok, requireApplication_ok, check_ok,
    idOrNew_answers, get_ok, checkBlacklist_ok, write_ok, pure_ok, and_assoc, exists_and_left,
    exists_eq_left, exists_const, NewPackage.entry]
  grind

theorem createPackage_ok {new : NewPackage} {id : String} (given : new.id = some id)
    {answer : Package} :
    (createPackage new).perform engine = (.ok answer, after) ↔
      (∃ application, engine.store.applications.get? new.applicationId = some application) ∧
        (Version.parse? new.version).isSome = true ∧
        (∀ channelId ∈ new.channelsBlacklist,
          engine.store.MayShut new.applicationId id channelId) ∧
        answer = new.entry id engine.now ∧
        after = { engine with store := engine.store.putPackage answer } := by
  rw [createPackage_answers, given]
  exact Iff.rfl

theorem updatePackage_ok {package answer : Package} :
    (updatePackage package).perform engine = (.ok answer, after) ↔
      ∃ existing, engine.store.packages.get? package.id = some existing ∧
        package.applicationId = existing.applicationId ∧
        (Version.parse? package.version).isSome = true ∧
        (∀ channelId ∈ package.channelsBlacklist,
          engine.store.MayShut package.applicationId package.id channelId) ∧
        (∀ channel ∈ engine.store.channelsOf package.applicationId,
          channel.packageId = some package.id → channel.architecture = package.architecture) ∧
        (∀ floor ∈ engine.store.floorsForPackage package.id, ∃ channel,
          engine.store.channels.get? floor.channelId = some channel ∧
            channel.architecture = package.architecture) ∧
        answer = { package with createdAt := existing.createdAt } ∧
        after = { engine with store := engine.store.putPackage answer } := by
  simp only [updatePackage, checkVersion, bind_ok, requirePackage_ok, check_ok, checkBlacklist_ok,
    checkReferences_ok, write_ok, pure_ok, and_assoc, exists_and_left, exists_eq_left,
    exists_const, decide_eq_true_eq]
  grind

theorem createGroup_answers {new : NewGroup} {answer : Group} :
    (createGroup new).perform engine = (.ok answer, after) ↔
      (∃ application, engine.store.applications.get? new.applicationId = some application) ∧
        (∀ channelId ∈ new.channelId, engine.store.HasChannel new.applicationId channelId) ∧
        (∃ zone, zoneOf new.policy.timezone = .ok zone) ∧
        answer = new.entry (engine.idFor new.id) false engine.now ∧
        after = { engine with
          store := engine.store.putGroup answer
          directory := engine.directory.forgetTracks
          nextId := engine.nextIdAfter new.id } := by
  simp only [createGroup, bind_ok, requireApplication_ok, checkGroupReferences_ok,
    idOrNew_answers, get_ok, write_ok, forgetTracks_ok, pure_ok, and_assoc, exists_and_left,
    exists_eq_left, exists_const, NewGroup.entry]
  grind

theorem createGroup_ok {new : NewGroup} {id : String} (given : new.id = some id) {answer : Group} :
    (createGroup new).perform engine = (.ok answer, after) ↔
      (∃ application, engine.store.applications.get? new.applicationId = some application) ∧
        (∀ channelId ∈ new.channelId, engine.store.HasChannel new.applicationId channelId) ∧
        (∃ zone, zoneOf new.policy.timezone = .ok zone) ∧
        answer = new.entry id false engine.now ∧
        after = { engine with
          store := engine.store.putGroup answer
          directory := engine.directory.forgetTracks } := by
  rw [createGroup_answers, given]
  exact Iff.rfl

theorem updateGroup_ok {group answer : Group} :
    (updateGroup group).perform engine = (.ok answer, after) ↔
      ∃ existing, engine.store.groups.get? group.id = some existing ∧
        group.applicationId = existing.applicationId ∧
        (∀ channelId ∈ group.channelId, engine.store.HasChannel group.applicationId channelId) ∧
        (∃ zone, zoneOf group.policy.timezone = .ok zone) ∧
        answer =
          { group with
            track := trackOr group.id group.track
            rolloutInProgress := existing.rolloutInProgress
            createdAt := existing.createdAt } ∧
        after = { engine with
          store := engine.store.putGroup answer
          directory := engine.directory.forgetTracks } := by
  simp only [updateGroup, bind_ok, requireGroup_ok, check_ok, checkGroupReferences_ok, write_ok,
    forgetTracks_ok, pure_ok, and_assoc, exists_and_left, exists_eq_left, exists_const,
    decide_eq_true_eq]
  grind

theorem addFloor_ok {channelId packageId reason : String} {answer : Floor} :
    (addFloor channelId packageId reason).perform engine = (.ok answer, after) ↔
      ∃ channel package, engine.store.channels.get? channelId = some channel ∧
        engine.store.packages.get? packageId = some package ∧
        package.applicationId = channel.applicationId ∧
        package.architecture = channel.architecture ∧
        package.isBlacklistedFor channelId = false ∧
        (Version.parse? package.version).isSome = true ∧
        answer = { channelId, packageId, reason, createdAt := engine.now } ∧
        after = { engine with store := engine.store.putFloor answer } := by
  simp only [addFloor, checkSameApplication, checkArchitecture, checkNotBlacklisted, checkVersion,
    bind_ok, requireChannel_ok, requirePackage_ok, check_ok, get_ok, write_ok, pure_ok, and_assoc,
    exists_and_left, exists_eq_left, exists_const]
  grind

end Engine

end FleetRollout

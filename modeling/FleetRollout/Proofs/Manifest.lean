import FleetRollout.Proofs.Edits

set_option autoImplicit false

/-!
What applying a manifest has done when it answers. Each entry is written to the table of its kind,
and no later entry takes it away: the tables are filled one after the other, and the entries of
one kind lie under keys of their own.
-/

namespace FleetRollout

namespace Store

-- Entries lie under their own keys, and the references of the catalog are good.
structure Sound (store : Store) : Prop where
  keyed : store.Keyed
  integrity : store.Integrity

theorem sound_empty : Sound Store.empty := ⟨keyed_empty, integrity_empty⟩

end Store

def Scope.unlimited : Scope where
  fresh := True
  creates _ _ := True
  editsGroups := True
  makesGroups := True
  makesChannels := True
  dropsApplications := True
  dropsTracks := True

theorem Store.Sound.edited {α : Type} {edit : Action Engine α} {answer : α}
    {engine after : Engine} (sound : engine.store.Sound)
    (answered : edit.perform engine = (.ok answer, after))
    (changes : Engine.Changes .unlimited engine (edit.perform engine).2) : after.store.Sound := by
  have change := changes.change (fun _ => trivial) fun _ => trivial
  rw [answered] at change
  exact ⟨change.keyed sound.keyed, change.integrity trivial sound.keyed sound.integrity⟩

namespace Manifest

namespace Applying

variable {α β : Type}

-- Run from the engine, the action answers and leaves the other engine.
def Yields (action : Applying α) (engine : Engine) (answer : α) (after : Engine) : Prop :=
  (ExceptT.run action).run engine = (.ok answer, after)

variable {engine after : Engine}

theorem yields_pure {value answer : α} :
    Yields (pure value) engine answer after ↔ answer = value ∧ after = engine := by
  change (Except.ok value, engine) = (Except.ok answer, after) ↔ _
  simp [eq_comm]

theorem yields_bind {first : Applying α} {next : α → Applying β} {answer : β} :
    Yields (first >>= next) engine answer after ↔
      ∃ value between, first.Yields engine value between ∧
        (next value).Yields between answer after := by
  simp only [Yields, ExceptT.run_bind, StateT.run_bind]
  rcases StateT.run (ExceptT.run first) engine with ⟨error | value, between⟩
  · constructor
    · intro failed
      cases failed
    · rintro ⟨_, _, failed, -⟩
      cases failed
  · constructor
    · intro answered
      exact ⟨value, between, rfl, answered⟩
    · rintro ⟨_, _, same, answered⟩
      cases same
      exact answered

theorem yields_on {entry : String} {action : Action Engine α} {answer : α} :
    Yields (on entry action) engine answer after ↔ action.perform engine = (.ok answer, after) := by
  change ((action.perform engine).1.mapError _, (action.perform engine).2) = _ ↔ _
  rcases action.perform engine with ⟨error | value, between⟩ <;> simp [Except.mapError]

theorem yields_edit {entry : String} {edit : Action Engine α} {answerOf : α → β} {answer : β} :
    Yields (on entry edit >>= fun value => pure (answerOf value)) engine answer after ↔
      ∃ value, edit.perform engine = (.ok value, after) ∧ answer = answerOf value := by
  simp only [yields_bind, yields_on, yields_pure]
  grind

theorem yields_currentStore {next : Store → Applying α} {answer : α} :
    Yields (currentStore >>= next) engine answer after ↔
      (next engine.store).Yields engine answer after := by
  rw [yields_bind]
  constructor
  · rintro ⟨_, _, same, answered⟩
    cases same
    exact answered
  · intro answered
    exact ⟨engine.store, engine, rfl, answered⟩

theorem yields_mapM_cons {σ : Type} {f : σ → Applying β} {head : σ} {rest : List σ}
    {answers : List β} :
    Yields ((head :: rest).mapM f) engine answers after ↔
      ∃ answer between others, (f head).Yields engine answer between ∧
        Yields (rest.mapM f) between others after ∧ answers = answer :: others := by
  rw [List.mapM_cons, yields_bind]
  simp only [yields_bind, yields_pure]
  grind

theorem yields_forM {σ : Type} {f : σ → Applying PUnit} {values : List σ} {answer : PUnit} :
    Yields (values.forM f) engine answer after ↔
      ∃ answers, Yields (values.mapM f) engine answers after := by
  induction values generalizing engine with
  | nil =>
    rw [List.mapM_nil]
    simp only [yields_pure]
    exact yields_pure.trans (by simp)
  | cons head rest ih =>
    change Yields (f head >>= fun _ => rest.forM f) engine answer after ↔ _
    simp only [yields_bind, yields_mapM_cons, ih]
    grind

end Applying

-- A table of the store, as it is read and as it is replaced, together with the log.
structure Shelf (α : Type) where
  read : Store → Table α
  replace : Store → Table α → List ActivityEntry → Store
  read_replace : ∀ store table activity, read (replace store table activity) = table
  replace_replace : ∀ store table activity later log,
    replace (replace store table activity) later log = replace store later log
  replace_read : ∀ store, replace store (read store) store.activity = store

def Shelf.teams : Shelf Team where
  read := Store.teams
  replace store teams activity := { store with teams, activity }
  read_replace _ _ _ := rfl
  replace_replace _ _ _ _ _ := rfl
  replace_read _ := rfl

def Shelf.applications : Shelf Application where
  read := Store.applications
  replace store applications activity := { store with applications, activity }
  read_replace _ _ _ := rfl
  replace_replace _ _ _ _ _ := rfl
  replace_read _ := rfl

def Shelf.channels : Shelf Channel where
  read := Store.channels
  replace store channels activity := { store with channels, activity }
  read_replace _ _ _ := rfl
  replace_replace _ _ _ _ _ := rfl
  replace_read _ := rfl

def Shelf.packages : Shelf Package where
  read := Store.packages
  replace store packages activity := { store with packages, activity }
  read_replace _ _ _ := rfl
  replace_replace _ _ _ _ _ := rfl
  replace_read _ := rfl

def Shelf.floors : Shelf Floor where
  read := Store.floors
  replace store floors activity := { store with floors, activity }
  read_replace _ _ _ := rfl
  replace_replace _ _ _ _ _ := rfl
  replace_read _ := rfl

def Shelf.groups : Shelf Group where
  read := Store.groups
  replace store groups activity := { store with groups, activity }
  read_replace _ _ _ := rfl
  replace_replace _ _ _ _ _ := rfl
  replace_read _ := rfl

theorem Shelf.rewrite {α : Type} (shelf : Shelf α) {store : Store} {key : String} {value : α}
    (stored : (shelf.read store).get? key = some value) :
    shelf.replace store ((shelf.read store).insert key value) store.activity = store := by
  rw [Table.insert_of_get stored, shelf.replace_read]

section Filling

open Applying

variable {σ α β : Type} {shelf : Shelf α} {base engine between after : Engine}

-- At most the table and the log are changed, and the store is left in order.
structure Touched (shelf : Shelf α) (before after : Engine) : Prop where
  sound : after.store.Sound
  now : after.now = before.now
  only : ∃ table activity, after.store = shelf.replace before.store table activity

theorem Touched.refl (sound : engine.store.Sound) : Touched shelf engine engine :=
  ⟨sound, rfl, shelf.read engine.store, engine.store.activity, (shelf.replace_read _).symm⟩

theorem Touched.trans (head : Touched shelf engine between) (tail : Touched shelf between after) :
    Touched shelf engine after := by
  obtain ⟨_, _, first⟩ := head.only
  obtain ⟨table, activity, second⟩ := tail.only
  refine ⟨tail.sound, tail.now.trans head.now, table, activity, ?_⟩
  rw [second, first, shelf.replace_replace]

-- What does not look at the table, nor at the log, finds the same.
theorem Touched.unread (touched : Touched shelf engine after) {γ : Type} (read : Store → γ)
    (unread : ∀ store table activity, read (shelf.replace store table activity) = read store) :
    read after.store = read engine.store := by
  obtain ⟨table, activity, same⟩ := touched.only
  rw [same, unread]

structure Named (keyOf : σ → Option String) (specs : List σ) : Prop where
  given : ∀ spec ∈ specs, (keyOf spec).isSome = true
  distinct : (specs.map keyOf).Nodup

def Stored (table : Table α) (keyOf : σ → Option String) (Fits : σ → String → α → Prop)
    (specs : List σ) : Prop :=
  ∀ spec ∈ specs, ∀ key ∈ keyOf spec, ∃ value, table.get? key = some value ∧ Fits spec key value

-- Each spec has got its row, and all rows under other keys are as before.
structure Filled (shelf : Shelf α) (keyOf : σ → Option String) (Fits : σ → String → α → Prop)
    (specs : List σ) (before after : Engine) : Prop extends Touched shelf before after where
  stored : Stored (shelf.read after.store) keyOf Fits specs
  kept : ∀ key, some key ∉ specs.map keyOf →
    (shelf.read after.store).get? key = (shelf.read before.store).get? key

variable {keyOf : σ → Option String} {Fits : σ → String → α → Prop}

theorem Filled.of_write {spec : σ} {key : String} {value : α} {activity : List ActivityEntry}
    (sound : after.store.Sound) (now : after.now = engine.now) (own : keyOf spec = some key)
    (fits : Fits spec key value)
    (wrote : after.store =
      shelf.replace engine.store ((shelf.read engine.store).insert key value) activity) :
    Filled shelf keyOf Fits [spec] engine after := by
  have row (other : String) : (shelf.read after.store).get? other =
      if key = other then some value else (shelf.read engine.store).get? other := by
    rw [wrote, shelf.read_replace, Table.get_insert]
  refine ⟨⟨sound, now, _, activity, wrote⟩, fun _ member other given => ?_, fun other apart => ?_⟩
  · obtain rfl := List.mem_singleton.mp member
    obtain rfl : key = other := Option.some.inj (own.symm.trans given)
    exact ⟨value, by rw [row, if_pos rfl], fits⟩
  · rw [row, if_neg]
    rintro rfl
    simp [own] at apart

-- To leave a row that fits comes to the same as to write it once more.
theorem Filled.of_row {spec : σ} {key : String} {value : α} (sound : engine.store.Sound)
    (own : keyOf spec = some key) (fits : Fits spec key value)
    (stored : (shelf.read engine.store).get? key = some value) :
    Filled shelf keyOf Fits [spec] engine engine :=
  .of_write sound rfl own fits (shelf.rewrite stored).symm

theorem Filled.cons {spec : σ} {rest : List σ}
    (head : Filled shelf keyOf Fits [spec] engine between)
    (tail : Filled shelf keyOf Fits rest between after) (apart : keyOf spec ∉ rest.map keyOf) :
    Filled shelf keyOf Fits (spec :: rest) engine after := by
  refine ⟨head.trans tail.toTouched, fun other member key given => ?_, fun key absent => ?_⟩
  · rcases List.mem_cons.mp member with rfl | inside
    · obtain ⟨value, stored, fits⟩ := head.stored other List.mem_cons_self key given
      refine ⟨value, ?_, fits⟩
      rw [tail.kept key (Option.mem_def.mp given ▸ apart), stored]
    · exact tail.stored other inside key given
  · obtain ⟨first, later⟩ := not_or.mp (mt List.mem_cons.mpr absent)
    rw [tail.kept key later, head.kept key (by simpa using first)]

theorem filled_of_mapM {f : σ → Applying β} {specs : List σ} (named : Named keyOf specs)
    (step : ∀ spec ∈ specs, ∀ key, keyOf spec = some key → ∀ engine answer after,
      Touched shelf base engine →
      (shelf.read engine.store).get? key = (shelf.read base.store).get? key →
      (f spec).Yields engine answer after → Filled shelf keyOf Fits [spec] engine after)
    (touched : Touched shelf base engine)
    (untouched : ∀ spec ∈ specs, ∀ key ∈ keyOf spec,
      (shelf.read engine.store).get? key = (shelf.read base.store).get? key)
    {answers : List β} (applied : Yields (specs.mapM f) engine answers after) :
    Filled shelf keyOf Fits specs engine after := by
  -- What carries the induction: the rows of the specs still to come are untouched so far.
  induction specs generalizing engine answers with
  | nil =>
    obtain ⟨-, rfl⟩ := yields_pure.mp applied
    exact ⟨.refl touched.sound, by simp [Stored], fun _ _ => rfl⟩
  | cons head rest ih =>
    obtain ⟨_, between, _, first, others, -⟩ := yields_mapM_cons.mp applied
    obtain ⟨apart, distinct⟩ := List.nodup_cons.mp named.distinct
    obtain ⟨key, own⟩ := Option.isSome_iff_exists.mp (named.given head List.mem_cons_self)
    have written := step head List.mem_cons_self key own engine _ between touched
      (untouched head List.mem_cons_self key own) first
    refine written.cons (ih ⟨fun spec member => named.given spec (List.mem_cons_of_mem _ member),
      distinct⟩ (fun spec member => step spec (List.mem_cons_of_mem _ member))
      (touched.trans written.toTouched) (fun spec member other given => ?_) others) apart
    have elsewhere : some other ∉ [head].map keyOf := by
      rw [← Option.mem_def.mp given]
      have listed : keyOf spec ∈ rest.map keyOf := List.mem_map_of_mem member
      simpa using fun same : keyOf spec = keyOf head => apart (same ▸ listed)
    rw [written.kept other elsewhere]
    exact untouched spec (List.mem_cons_of_mem _ member) other given

end Filling

-- The entry is written for the spec, and what else it took to write it is in the store.
def FitsTeam (spec : TeamSpec) (_ : String) (team : Team) : Prop :=
  ∃ createdAt, team = spec.entry createdAt

def FitsApplication (store : Store) (spec : NewApplication) (id : String)
    (application : Application) : Prop :=
  (∃ createdAt, application = spec.entry id createdAt) ∧
    ∃ team, store.teams.get? spec.teamId = some team

def FitsChannel (spec : NewChannel) (id : String) (channel : Channel) : Prop :=
  ∃ target createdAt, channel = spec.entry id target createdAt

def FitsTarget (spec : NewChannel) (id : String) (channel : Channel) : Prop :=
  ∃ target createdAt, channel = spec.entry id target createdAt ∧
    ∀ wanted ∈ spec.packageId, target = some wanted

def FitsPackage (store : Store) (spec : NewPackage) (id : String) (package : Package) : Prop :=
  (∃ createdAt, package = spec.entry id createdAt) ∧
    (Version.parse? spec.version).isSome = true ∧
    ∀ channelId ∈ spec.channelsBlacklist, store.MayShut spec.applicationId id channelId

def FitsFloor (store : Store) (now : Nat) (spec : FloorSpec) (_ : String) (floor : Floor) : Prop :=
  floor = spec.entry now ∧ ∃ package, store.packages.get? spec.packageId = some package ∧
    (Version.parse? package.version).isSome = true

def FitsGroup (spec : NewGroup) (id : String) (group : Group) : Prop :=
  (∃ rolloutInProgress createdAt, group = spec.entry id rolloutInProgress createdAt) ∧
    ∃ zone, zoneOf spec.policy.timezone = .ok zone

section Entries

open Applying

variable {engine after : Engine} {existed : Bool}

theorem applyTeam_filled {spec : TeamSpec} (sound : engine.store.Sound)
    (applied : (applyTeam spec).Yields engine existed after) :
    Filled .teams (fun spec => some spec.id) FitsTeam [spec] engine after := by
  simp only [applyTeam, yields_currentStore] at applied
  cases found : engine.store.teams.get? spec.id with
  | none =>
    simp only [found, yields_edit] at applied
    obtain ⟨team, created, -⟩ := applied
    have kept := sound.edited created (Engine.createTeam_changes _ _ engine trivial)
    obtain ⟨rfl, rfl⟩ := Engine.createTeam_ok.mp created
    exact .of_write kept rfl rfl ⟨engine.now, rfl⟩ rfl
  | some existing =>
    have own := sound.keyed.teams _ _ found
    simp only [found] at applied
    split at applied
    next same =>
      obtain ⟨-, rfl⟩ := yields_pure.mp applied
      refine .of_row sound rfl ⟨existing.createdAt, ?_⟩ found
      rw [TeamSpec.entry, ← own, ← same]
    next =>
      obtain ⟨team, updated, -⟩ := yields_edit.mp applied
      have kept := sound.edited updated (Engine.updateTeam_changes _ engine)
      obtain ⟨stored, -, rfl, rfl⟩ := Engine.updateTeam_ok.mp updated
      refine .of_write kept rfl rfl ⟨stored.createdAt, ?_⟩ (by rw [← own]; rfl)
      rw [TeamSpec.entry, ← own]

theorem applyApplication_filled {spec : NewApplication} {id : String} (given : spec.id = some id)
    (sound : engine.store.Sound) (applied : (applyApplication spec).Yields engine existed after) :
    Filled .applications NewApplication.id (FitsApplication engine.store) [spec] engine after := by
  simp only [applyApplication, yields_currentStore, existing?, given, Option.bind_some] at applied
  cases found : engine.store.applications.get? id with
  | none =>
    simp only [found, yields_edit] at applied
    obtain ⟨_, created, -⟩ := applied
    have kept := sound.edited created (Engine.createApplication_changes spec engine trivial)
    obtain ⟨team, rfl, rfl⟩ := (Engine.createApplication_ok given).mp created
    exact .of_write kept rfl given ⟨⟨engine.now, rfl⟩, team⟩ rfl
  | some existing =>
    have own := sound.keyed.applications _ _ found
    simp only [found, yields_edit] at applied
    obtain ⟨_, updated, -⟩ := applied
    have kept := sound.edited updated (Engine.updateApplication_changes _ engine)
    obtain ⟨_, -, team, rfl, rfl⟩ := Engine.updateApplication_ok.mp updated
    subst own
    exact .of_write kept rfl given ⟨⟨_, rfl⟩, team⟩ rfl

theorem applyChannel_filled {spec : NewChannel} {id : String} (given : spec.id = some id)
    (sound : engine.store.Sound) {answer : Option String × Bool}
    (applied : (applyChannel spec).Yields engine answer after) :
    Filled .channels NewChannel.id FitsChannel [spec] engine after := by
  simp only [applyChannel, yields_currentStore, existing?, given, Option.bind_some] at applied
  cases found : engine.store.channels.get? id with
  | none =>
    simp only [found, yields_edit] at applied
    obtain ⟨_, created, -⟩ := applied
    have kept := sound.edited created
      (Engine.createChannel_changes trivial _ engine (fun _ => found) trivial)
    obtain ⟨-, -, rfl, rfl⟩ := (Engine.createChannel_ok rfl).mp created
    exact .of_write kept rfl given ⟨none, engine.now, rfl⟩ rfl
  | some existing =>
    have own := sound.keyed.channels _ _ found
    simp only [found, yields_edit] at applied
    obtain ⟨_, updated, -⟩ := applied
    have kept := sound.edited updated (Engine.updateChannel_changes _ engine)
    obtain ⟨_, _, -, -, -, -, rfl, rfl⟩ := Engine.updateChannel_ok updated
    subst own
    exact .of_write kept rfl given ⟨existing.packageId, _, rfl⟩ rfl

theorem applyChannel_answer {spec : NewChannel} {id : String} (given : spec.id = some id)
    {answer : Option String × Bool} (applied : (applyChannel spec).Yields engine answer after) :
    answer.1 = spec.id := by
  simp only [applyChannel, yields_currentStore, existing?, given, Option.bind_some] at applied
  cases found : engine.store.channels.get? id with
  | none =>
    simp only [found, yields_edit] at applied
    obtain ⟨_, created, rfl⟩ := applied
    obtain ⟨-, -, rfl, -⟩ := (Engine.createChannel_ok rfl).mp created
    exact given.symm
  | some existing =>
    simp only [found, yields_edit] at applied
    obtain ⟨_, -, rfl⟩ := applied
    exact given.symm

theorem applyPackage_filled {spec : NewPackage} {id : String} (given : spec.id = some id)
    (sound : engine.store.Sound) (applied : (applyPackage spec).Yields engine existed after) :
    Filled .packages NewPackage.id (FitsPackage engine.store) [spec] engine after := by
  simp only [applyPackage, yields_currentStore, existing?, given, Option.bind_some] at applied
  cases found : engine.store.packages.get? id with
  | none =>
    simp only [found, yields_edit] at applied
    obtain ⟨_, created, -⟩ := applied
    have free : engine.store.packages.get? (engine.idFor spec.id) = none := given ▸ found
    have kept := sound.edited created
      (Engine.createPackage_changes spec engine (fun _ => free) trivial)
    obtain ⟨-, reads, blacklist, rfl, rfl⟩ := (Engine.createPackage_ok given).mp created
    exact .of_write kept rfl given ⟨⟨engine.now, rfl⟩, reads, blacklist⟩ rfl
  | some existing =>
    have own := sound.keyed.packages _ _ found
    simp only [found, yields_edit] at applied
    obtain ⟨_, updated, -⟩ := applied
    have kept := sound.edited updated (Engine.updatePackage_changes _ engine)
    obtain ⟨_, -, -, reads, blacklist, -, -, rfl, rfl⟩ := Engine.updatePackage_ok.mp updated
    subst own
    exact .of_write kept rfl given ⟨⟨_, rfl⟩, reads, blacklist⟩ rfl

theorem applyFloor_filled {spec : FloorSpec} (sound : engine.store.Sound)
    (applied : (applyFloor spec).Yields engine existed after) :
    Filled .floors (fun spec => some spec.key) (FitsFloor engine.store engine.now) [spec] engine
      after := by
  rw [applyFloor, yields_currentStore] at applied
  obtain ⟨_, added, -⟩ := yields_edit.mp applied
  have kept := sound.edited added (Engine.addFloor_changes _ _ _ engine)
  obtain ⟨_, package, -, stored, -, -, -, reads, rfl, rfl⟩ := Engine.addFloor_ok.mp added
  exact .of_write kept rfl rfl ⟨rfl, package, stored, reads⟩ rfl

theorem applyGroup_filled {spec : NewGroup} {id : String} (given : spec.id = some id)
    (sound : engine.store.Sound) (applied : (applyGroup spec).Yields engine existed after) :
    Filled .groups NewGroup.id FitsGroup [spec] engine after := by
  simp only [applyGroup, yields_currentStore, existing?, given, Option.bind_some] at applied
  cases found : engine.store.groups.get? id with
  | none =>
    simp only [found, yields_edit] at applied
    obtain ⟨_, created, -⟩ := applied
    have kept := sound.edited created (Engine.createGroup_changes trivial spec engine trivial)
    obtain ⟨-, -, zone, rfl, rfl⟩ := (Engine.createGroup_ok given).mp created
    exact .of_write kept rfl given ⟨⟨false, engine.now, rfl⟩, zone⟩ rfl
  | some existing =>
    have own := sound.keyed.groups _ _ found
    simp only [found, yields_edit] at applied
    obtain ⟨_, updated, -⟩ := applied
    have kept := sound.edited updated (Engine.updateGroup_changes trivial _ engine)
    obtain ⟨_, -, -, -, zone, rfl, rfl⟩ := Engine.updateGroup_ok.mp updated
    subst own
    exact .of_write kept rfl given ⟨⟨_, _, rfl⟩, zone⟩ rfl

theorem applyTarget_filled {spec : NewChannel} {id : String} (given : spec.id = some id)
    (sound : engine.store.Sound) {channel : Channel}
    (found : engine.store.channels.get? id = some channel) (fits : FitsChannel spec id channel)
    (applied : (applyTarget spec spec.id).Yields engine () after) :
    Filled .channels NewChannel.id FitsTarget [spec] engine after := by
  obtain ⟨target, createdAt, rfl⟩ := fits
  have asItIs (settled : ∀ wanted ∈ spec.packageId, target = some wanted) :
      Filled .channels NewChannel.id FitsTarget [spec] engine engine :=
    .of_row sound given ⟨target, createdAt, rfl, settled⟩ found
  rw [given] at applied
  cases wanted : spec.packageId with
  | none =>
    simp only [applyTarget, wanted, yields_pure] at applied
    obtain ⟨-, rfl⟩ := applied
    exact asItIs (by simp [wanted])
  | some wantedId =>
    simp only [applyTarget, wanted, yields_currentStore, found] at applied
    split at applied
    next same =>
      obtain ⟨-, rfl⟩ := yields_pure.mp applied
      exact asItIs (by simpa [wanted, NewChannel.entry] using same)
    next =>
      obtain ⟨_, updated, -⟩ := yields_edit.mp applied
      have kept := sound.edited updated (Engine.updateChannel_changes _ engine)
      obtain ⟨_, activity, -, -, -, -, rfl, rfl⟩ := Engine.updateChannel_ok updated
      exact .of_write kept rfl given ⟨some wantedId, _, rfl, by simp [wanted]⟩ rfl

end Entries

theorem fitsApplication_congr {store other : Store} (same : store.teams = other.teams) :
    FitsApplication store = FitsApplication other := by
  unfold FitsApplication
  rw [same]

theorem fitsPackage_congr {store other : Store} (channels : store.channels = other.channels)
    (floors : store.floors = other.floors) : FitsPackage store = FitsPackage other := by
  unfold FitsPackage Store.MayShut Store.floor?
  rw [channels, floors]

theorem fitsFloor_congr {store other : Store} (same : store.packages = other.packages)
    (now : Nat) : FitsFloor store now = FitsFloor other now := by
  unfold FitsFloor
  rw [same]

section Kinds

open Applying

variable {engine after : Engine} (sound : engine.store.Sound)
include sound

theorem teams_filled {specs : List TeamSpec} (named : Named (fun spec => some spec.id) specs)
    {answers : List Bool} (applied : Yields (specs.mapM applyTeam) engine answers after) :
    Filled .teams (fun spec => some spec.id) FitsTeam specs engine after :=
  filled_of_mapM named (fun _ _ _ _ _ _ _ touched _ wrote => applyTeam_filled touched.sound wrote)
    (.refl sound) (fun _ _ _ _ => rfl) applied

theorem applications_filled {specs : List NewApplication} (named : Named NewApplication.id specs)
    {answers : List Bool} (applied : Yields (specs.mapM applyApplication) engine answers after) :
    Filled .applications NewApplication.id (FitsApplication engine.store) specs engine after := by
  refine filled_of_mapM named (fun _ _ _ own _ _ _ touched _ wrote => ?_) (.refl sound)
    (fun _ _ _ _ => rfl) applied
  rw [← fitsApplication_congr (touched.unread Store.teams fun _ _ _ => rfl)]
  exact applyApplication_filled own touched.sound wrote

theorem channels_filled {specs : List NewChannel} (named : Named NewChannel.id specs)
    {answers : List (Option String × Bool)}
    (applied : Yields (specs.mapM applyChannel) engine answers after) :
    Filled .channels NewChannel.id FitsChannel specs engine after :=
  filled_of_mapM named (fun _ _ _ own _ _ _ touched _ wrote =>
    applyChannel_filled own touched.sound wrote) (.refl sound) (fun _ _ _ _ => rfl) applied

omit sound in
theorem channels_answers {specs : List NewChannel}
    (given : ∀ spec ∈ specs, spec.id.isSome = true) {answers : List (Option String × Bool)}
    (applied : Yields (specs.mapM applyChannel) engine answers after) :
    answers.map (·.1) = specs.map NewChannel.id := by
  induction specs generalizing engine answers with
  | nil =>
    obtain ⟨rfl, -⟩ := yields_pure.mp applied
    rfl
  | cons head rest ih =>
    obtain ⟨_, _, _, first, others, rfl⟩ := yields_mapM_cons.mp applied
    obtain ⟨id, own⟩ := Option.isSome_iff_exists.mp (given head List.mem_cons_self)
    rw [List.map_cons, List.map_cons, applyChannel_answer own first,
      ih (fun spec member => given spec (List.mem_cons_of_mem _ member)) others]

theorem packages_filled {specs : List NewPackage} (named : Named NewPackage.id specs)
    {answers : List Bool} (applied : Yields (specs.mapM applyPackage) engine answers after) :
    Filled .packages NewPackage.id (FitsPackage engine.store) specs engine after := by
  refine filled_of_mapM named (fun _ _ _ own _ _ _ touched _ wrote => ?_) (.refl sound)
    (fun _ _ _ _ => rfl) applied
  rw [← fitsPackage_congr (touched.unread Store.channels fun _ _ _ => rfl)
    (touched.unread Store.floors fun _ _ _ => rfl)]
  exact applyPackage_filled own touched.sound wrote

theorem targets_filled {specs : List NewChannel} (named : Named NewChannel.id specs)
    (written : Stored engine.store.channels NewChannel.id FitsChannel specs)
    {answers : List Unit}
    (applied : Yields (specs.mapM fun spec => applyTarget spec spec.id) engine answers after) :
    Filled .channels NewChannel.id FitsTarget specs engine after := by
  refine filled_of_mapM named (fun spec member id own between _ _ touched untouched wrote => ?_)
    (.refl sound) (fun _ _ _ _ => rfl) applied
  obtain ⟨channel, found, fits⟩ := written spec member id own
  exact applyTarget_filled own touched.sound (untouched.trans found) fits wrote

theorem floors_filled {specs : List FloorSpec} (named : Named (fun spec => some spec.key) specs)
    {answers : List Bool} (applied : Yields (specs.mapM applyFloor) engine answers after) :
    Filled .floors (fun spec => some spec.key) (FitsFloor engine.store engine.now) specs engine
      after := by
  refine filled_of_mapM named (fun _ _ _ _ _ _ _ touched _ wrote => ?_) (.refl sound)
    (fun _ _ _ _ => rfl) applied
  rw [← touched.now, ← fitsFloor_congr (touched.unread Store.packages fun _ _ _ => rfl)]
  exact applyFloor_filled touched.sound wrote

theorem groups_filled {specs : List NewGroup} (named : Named NewGroup.id specs)
    {answers : List Bool} (applied : Yields (specs.mapM applyGroup) engine answers after) :
    Filled .groups NewGroup.id FitsGroup specs engine after :=
  filled_of_mapM named (fun _ _ _ own _ _ _ touched _ wrote =>
    applyGroup_filled own touched.sound wrote) (.refl sound) (fun _ _ _ _ => rfl) applied

end Kinds

end Manifest

end FleetRollout

import FleetRollout.Proofs.Manifest

set_option autoImplicit false

/-!
Applying a manifest brings the catalog to where the manifest wants it, and there it rests: to
apply the same manifest once more finds every entry as it would write it.
-/

namespace FleetRollout

namespace Manifest

open Applying

-- All entries carry ids, no two of a kind the same, and no two floors share a key.
structure Identified (manifest : Manifest) : Prop where
  teams : (manifest.teams.map TeamSpec.id).Nodup
  applications : Named NewApplication.id manifest.applications
  channels : Named NewChannel.id manifest.channels
  packages : Named NewPackage.id manifest.packages
  groups : Named NewGroup.id manifest.groups
  floors : (manifest.floors.map FloorSpec.key).Nodup

/-- No floor has the key of another channel and package, where the package is shut out. -/
def BlacklistsApart (manifest : Manifest) : Prop :=
  ∀ package ∈ manifest.packages, ∀ id ∈ package.id, ∀ channelId ∈ package.channelsBlacklist,
    ∀ floor ∈ manifest.floors, floor.key = Floor.keyOf channelId id →
      floor.channelId = channelId ∧ floor.packageId = id

/-- Every entry is stored as the manifest gives it, with all it relies on. -/
structure Settled (manifest : Manifest) (store : Store) (now : Nat) : Prop where
  sound : store.Sound
  teams : Stored store.teams (fun spec => some spec.id) FitsTeam manifest.teams
  applications :
    Stored store.applications NewApplication.id (FitsApplication store) manifest.applications
  channels : Stored store.channels NewChannel.id FitsTarget manifest.channels
  packages : Stored store.packages NewPackage.id (FitsPackage store) manifest.packages
  floors : Stored store.floors (fun spec => some spec.key) (FitsFloor store now) manifest.floors
  groups : Stored store.groups NewGroup.id FitsGroup manifest.groups

theorem named_of_nodup {σ : Type} {keyOf : σ → String} {specs : List σ}
    (distinct : (specs.map keyOf).Nodup) : Named (fun spec => some (keyOf spec)) specs where
  given _ _ := rfl
  distinct := by
    simpa [Function.comp_def] using distinct.map (Option.some_injective String)

section FirstRun

variable {engine after : Engine}

theorem hasChannel_of_filled {specs : List NewChannel}
    (written : Stored engine.store.channels NewChannel.id FitsChannel specs)
    (filled : Filled .channels NewChannel.id FitsTarget specs engine after)
    {applicationId channelId : String} (has : engine.store.HasChannel applicationId channelId) :
    after.store.HasChannel applicationId channelId := by
  obtain ⟨channel, found, own⟩ := has
  by_cases listed : some channelId ∈ specs.map NewChannel.id
  · obtain ⟨spec, member, given⟩ := List.mem_map.mp listed
    obtain ⟨_, before, _, _, rfl⟩ := written spec member channelId given
    obtain rfl := Option.some.inj (found.symm.trans before)
    obtain ⟨_, now, _, _, rfl, -⟩ := filled.stored spec member channelId given
    exact ⟨_, now, own⟩
  · exact ⟨channel, (filled.kept channelId listed).trans found, own⟩

theorem mayShut_of_filled {specs : List FloorSpec} {Fits : FloorSpec → String → Floor → Prop}
    (entries : ∀ spec key floor, Fits spec key floor →
      floor.channelId = spec.channelId ∧ floor.packageId = spec.packageId)
    (filled : Filled .floors (fun spec => some spec.key) Fits specs engine after)
    {applicationId id channelId : String} {package : Package}
    (found : after.store.packages.get? id = some package)
    (blacklisted : package.isBlacklistedFor channelId = true)
    (apart : ∀ floor ∈ specs, floor.key = Floor.keyOf channelId id →
      floor.channelId = channelId ∧ floor.packageId = id)
    (has : after.store.HasChannel applicationId channelId)
    (unfloored : engine.store.floor? channelId id = none) :
    after.store.MayShut applicationId id channelId := by
  obtain ⟨untargeted, noFloor⟩ := filled.sound.integrity.exclusive found blacklisted
  obtain ⟨channel, stored, own⟩ := has
  refine ⟨⟨channel, stored, own, untargeted channel stored⟩, ?_⟩
  by_cases listed : some (Floor.keyOf channelId id) ∈ specs.map fun spec => some spec.key
  · obtain ⟨spec, member, same⟩ := List.mem_map.mp listed
    obtain ⟨floor, added, fits⟩ := filled.stored spec member _ same
    obtain ⟨ownChannel, ownPackage⟩ := entries spec _ floor fits
    -- A floor that was added under the key of the pair is the pair's own, which is ruled out.
    obtain ⟨sameChannel, samePackage⟩ := apart spec member (Option.some.inj same)
    exact absurd ⟨ownChannel.trans sameChannel, ownPackage.trans samePackage⟩
      (noFloor floor (Table.mem_values.mpr ⟨_, added⟩))
  · exact (filled.kept _ listed).trans unfloored

theorem packages_stay {manifest : Manifest} (apart : manifest.BlacklistsApart)
    {engine targeted floored : Engine} {store : Store} {now : Nat}
    (channels : engine.store.channels = store.channels)
    (floors : engine.store.floors = store.floors)
    (packages : Stored engine.store.packages NewPackage.id (FitsPackage store) manifest.packages)
    (written : Stored engine.store.channels NewChannel.id FitsChannel manifest.channels)
    (targets : Filled .channels NewChannel.id FitsTarget manifest.channels engine targeted)
    (added : Filled .floors (fun spec => some spec.key) (FitsFloor targeted.store now)
      manifest.floors targeted floored) :
    Stored floored.store.packages NewPackage.id (FitsPackage floored.store) manifest.packages := by
  have samePackages : floored.store.packages = engine.store.packages :=
    (added.unread Store.packages fun _ _ _ => rfl).trans
      (targets.unread Store.packages fun _ _ _ => rfl)
  have sameChannels : floored.store.channels = targeted.store.channels :=
    added.unread Store.channels fun _ _ _ => rfl
  -- The blacklists were checked before targets and floors were written; both respect them.
  rw [← fitsPackage_congr channels floors] at packages
  intro spec member id given
  obtain ⟨package, found, ⟨createdAt, rfl⟩, reads, blacklist⟩ := packages spec member id given
  rw [← samePackages] at found
  refine ⟨_, found, ⟨createdAt, rfl⟩, reads, fun channelId listed => ?_⟩
  obtain ⟨⟨channel, stored, own, -⟩, unfloored⟩ := blacklist channelId listed
  refine mayShut_of_filled (fun spec _ floor fits => by simp [fits.1, FloorSpec.entry]) added found
    (by simpa [Package.isBlacklistedFor, NewPackage.entry] using listed)
    (fun floor listed' => apart spec member id given channelId listed floor listed') ?_ ?_
  · rw [Store.HasChannel, sameChannels]
    exact hasChannel_of_filled written targets ⟨channel, stored, own⟩
  · rw [Store.floor?, targets.unread Store.floors fun _ _ _ => rfl]
    exact unfloored

theorem forM_targets (specs : List NewChannel) :
    ((specs.zip (specs.map NewChannel.id)).forM fun target => applyTarget target.1 target.2) =
      specs.forM fun spec => applyTarget spec spec.id := by
  induction specs with
  | nil => rfl
  | cons head rest ih => exact congrArg (applyTarget head head.id >>= fun _ => ·) ih

theorem apply_settled {manifest : Manifest} (identified : manifest.Identified)
    (apart : manifest.BlacklistsApart) (sound : engine.store.Sound) {summary : ApplySummary}
    (applied : manifest.apply.Yields engine summary after) :
    manifest.Settled after.store engine.now ∧ after.now = engine.now := by
  simp only [apply, yields_bind, yields_pure] at applied
  obtain ⟨_, engine₁, first, _, engine₂, second, channels, engine₃, third, _, engine₄, fourth, _,
    engine₅, fifth, _, engine₆, sixth, _, _, seventh, -, rfl⟩ := applied
  rw [channels_answers identified.channels.given third, forM_targets] at fifth
  obtain ⟨_, fifth⟩ := yields_forM.mp fifth
  have teams := teams_filled sound (named_of_nodup identified.teams) first
  have applications := applications_filled teams.sound identified.applications second
  have channels := channels_filled applications.sound identified.channels third
  have packages := packages_filled channels.sound identified.packages fourth
  have written : Stored engine₄.store.channels NewChannel.id FitsChannel manifest.channels := by
    rw [packages.unread Store.channels fun _ _ _ => rfl]
    exact channels.stored
  have targets := targets_filled packages.sound identified.channels written fifth
  have floors := floors_filled targets.sound (named_of_nodup identified.floors) sixth
  have groups := groups_filled floors.sound identified.groups seventh
  have now : engine₅.now = engine.now := by
    rw [targets.now, packages.now, channels.now, applications.now, teams.now]
  -- Each table is read at the end as the last pass that writes it has left it.
  obtain ⟨_, _, wrote₂⟩ := applications.only
  obtain ⟨_, _, wrote₃⟩ := channels.only
  obtain ⟨_, _, wrote₄⟩ := packages.only
  obtain ⟨_, _, wrote₅⟩ := targets.only
  obtain ⟨_, _, wrote₆⟩ := floors.only
  obtain ⟨_, _, wrote₇⟩ := groups.only
  have sameTeams : after.store.teams = engine₁.store.teams := by
    rw [wrote₇, wrote₆, wrote₅, wrote₄, wrote₃, wrote₂]
    rfl
  have sameApplications : after.store.applications = engine₂.store.applications := by
    rw [wrote₇, wrote₆, wrote₅, wrote₄, wrote₃]
    rfl
  have sameChannels : after.store.channels = engine₅.store.channels := by
    rw [wrote₇, wrote₆]
    rfl
  have sameFloors : after.store.floors = engine₆.store.floors := by
    rw [wrote₇]
    rfl
  have samePackages : after.store.packages = engine₅.store.packages := by
    rw [wrote₇, wrote₆]
    rfl
  refine ⟨{ sound := groups.sound, teams := ?_, applications := ?_, channels := ?_, packages := ?_,
            floors := ?_, groups := groups.stored },
    groups.now.trans (floors.now.trans now)⟩
  · rw [sameTeams]
    exact teams.stored
  · rw [sameApplications, fitsApplication_congr sameTeams]
    exact applications.stored
  · rw [sameChannels]
    exact targets.stored
  · rw [groups.unread Store.packages fun _ _ _ => rfl,
      fitsPackage_congr (groups.unread Store.channels fun _ _ _ => rfl) sameFloors]
    exact packages_stay apart (packages.unread Store.channels fun _ _ _ => rfl)
      (packages.unread Store.floors fun _ _ _ => rfl) packages.stored written targets floors
  · rw [sameFloors, fitsFloor_congr samePackages, ← now]
    exact floors.stored

end FirstRun

section SecondRun

variable {α β σ : Type} {store : Store} {now : Nat}

-- From every engine over the store at that time, the action answers and leaves the store alone.
def Rests (action : Applying α) (answer : α) (store : Store) (now : Nat) : Prop :=
  ∀ engine : Engine, engine.store = store → engine.now = now →
    ∃ after, action.Yields engine answer after ∧ after.store = store ∧ after.now = now

theorem rests_pure (answer : α) : Rests (pure answer) answer store now :=
  fun engine same time => ⟨engine, yields_pure.mpr ⟨rfl, rfl⟩, same, time⟩

theorem Rests.bind {first : Applying α} {next : α → Applying β} {value : α} {answer : β}
    (head : Rests first value store now) (tail : Rests (next value) answer store now) :
    Rests (first >>= next) answer store now := by
  intro engine same time
  obtain ⟨between, answered, same, time⟩ := head engine same time
  obtain ⟨after, others, same, time⟩ := tail between same time
  exact ⟨after, yields_bind.mpr ⟨value, between, answered, others⟩, same, time⟩

theorem rests_currentStore {next : Store → Applying α} {answer : α}
    (tail : Rests (next store) answer store now) :
    Rests (currentStore >>= next) answer store now := by
  intro engine same time
  obtain ⟨after, answered, ends⟩ := tail engine same time
  exact ⟨after, yields_currentStore.mpr (same ▸ answered), ends⟩

theorem rests_edit {entry : String} {edit : Action Engine α} {answer : β}
    (again : ∀ engine : Engine, engine.store = store → engine.now = now → ∃ value after,
      edit.perform engine = (.ok value, after) ∧ after.store = store ∧ after.now = now) :
    Rests (on entry edit >>= fun _ => pure answer) answer store now := by
  intro engine same time
  obtain ⟨value, after, made, ends⟩ := again engine same time
  exact ⟨after, yields_edit.mpr ⟨value, made, rfl⟩, ends⟩

theorem rests_mapM {f : σ → Applying β} {answerOf : σ → β} {specs : List σ}
    (each : ∀ spec ∈ specs, Rests (f spec) (answerOf spec) store now) :
    Rests (specs.mapM f) (specs.map answerOf) store now := by
  induction specs with
  | nil => exact rests_pure []
  | cons head rest ih =>
    obtain ⟨first, others⟩ := List.forall_mem_cons.mp each
    rw [List.mapM_cons]
    exact first.bind ((ih others).bind (rests_pure _))

theorem rests_forM {f : σ → Applying PUnit} {specs : List σ}
    (each : ∀ spec ∈ specs, Rests (f spec) ⟨⟩ store now) : Rests (specs.forM f) ⟨⟩ store now := by
  induction specs with
  | nil => exact rests_pure _
  | cons head rest ih =>
    obtain ⟨first, others⟩ := List.forall_mem_cons.mp each
    exact first.bind (ih others)

theorem applyTeam_rests {spec : TeamSpec}
    (found : ∃ team, store.teams.get? spec.id = some team ∧ FitsTeam spec spec.id team) :
    Rests (applyTeam spec) true store now := by
  obtain ⟨_, found, createdAt, rfl⟩ := found
  refine rests_currentStore ?_
  simp only [found, TeamSpec.entry, if_true]
  exact rests_pure true

theorem applyApplication_rests {spec : NewApplication} {id : String} (given : spec.id = some id)
    (found : ∃ application, store.applications.get? id = some application ∧
      FitsApplication store spec id application) :
    Rests (applyApplication spec) true store now := by
  obtain ⟨_, found, ⟨createdAt, rfl⟩, team⟩ := found
  refine rests_currentStore ?_
  simp only [existing?, given, Option.bind_some, found]
  refine rests_edit fun engine same time => ?_
  subst same
  exact ⟨_, _, Engine.updateApplication_ok.mpr ⟨_, found, team, rfl, rfl⟩,
    Shelf.applications.rewrite found, time⟩

theorem applyChannel_rests (sound : store.Sound) {spec : NewChannel} {id : String}
    (given : spec.id = some id)
    (found : ∃ channel, store.channels.get? id = some channel ∧ FitsTarget spec id channel) :
    Rests (applyChannel spec) (spec.id, true) store now := by
  obtain ⟨_, found, target, createdAt, rfl, -⟩ := found
  refine rests_currentStore ?_
  simp only [existing?, given, Option.bind_some, found]
  refine rests_edit fun engine same time => ?_
  subst same
  refine ⟨_, _, (Engine.updateChannel_sameTarget_ok fun existing known => ?_).mpr
    ⟨_, found, rfl, rfl, sound.integrity.targets id _ found, rfl, rfl⟩,
    Shelf.channels.rewrite found, time⟩
  obtain rfl := Option.some.inj (found.symm.trans known)
  rfl

theorem applyTarget_rests {spec : NewChannel} {id : String} (given : spec.id = some id)
    (found : ∃ channel, store.channels.get? id = some channel ∧ FitsTarget spec id channel) :
    Rests (applyTarget spec spec.id) () store now := by
  obtain ⟨_, found, target, createdAt, rfl, settled⟩ := found
  rw [given]
  cases wanted : spec.packageId with
  | none =>
    simp only [applyTarget, wanted]
    exact rests_pure ()
  | some wantedId =>
    simp only [applyTarget, wanted]
    refine rests_currentStore ?_
    simp only [found, NewChannel.entry, settled wantedId wanted, if_true]
    exact rests_pure ()

theorem applyPackage_rests (sound : store.Sound) {spec : NewPackage} {id : String}
    (given : spec.id = some id)
    (found : ∃ package, store.packages.get? id = some package ∧ FitsPackage store spec id package) :
    Rests (applyPackage spec) true store now := by
  obtain ⟨_, found, ⟨createdAt, rfl⟩, reads, blacklist⟩ := found
  refine rests_currentStore ?_
  simp only [existing?, given, Option.bind_some, found]
  refine rests_edit fun engine same time => ?_
  subst same
  obtain ⟨targeting, floors⟩ := sound.integrity.references found
  exact ⟨_, _, Engine.updatePackage_ok.mpr
    ⟨_, found, rfl, reads, blacklist, targeting, floors, rfl, rfl⟩,
    Shelf.packages.rewrite found, time⟩

theorem applyFloor_rests (sound : store.Sound) {spec : FloorSpec}
    (found : ∃ floor, store.floors.get? spec.key = some floor ∧
      FitsFloor store now spec spec.key floor) : Rests (applyFloor spec) true store now := by
  obtain ⟨_, found, rfl, package, known, reads⟩ := found
  obtain ⟨channel, stored, _, served, own, architecture, permitted⟩ :=
    sound.integrity.floors spec.key _ found
  obtain rfl := Option.some.inj (known.symm.trans served)
  refine rests_currentStore ?_
  have existed : (store.floor? spec.channelId spec.packageId).isSome = true :=
    Option.isSome_of_eq_some found
  rw [existed]
  refine rests_edit fun engine same time => ?_
  subst same time
  exact ⟨_, _, Engine.addFloor_ok.mpr
    ⟨channel, package, stored, known, own, architecture, permitted, reads, rfl, rfl⟩,
    Shelf.floors.rewrite found, rfl⟩

theorem applyGroup_rests (sound : store.Sound) {spec : NewGroup} {id : String}
    (given : spec.id = some id)
    (found : ∃ group, store.groups.get? id = some group ∧ FitsGroup spec id group) :
    Rests (applyGroup spec) true store now := by
  obtain ⟨_, found, ⟨rolloutInProgress, createdAt, rfl⟩, zone⟩ := found
  have attached := sound.integrity.groups id _ found
  refine rests_currentStore ?_
  simp only [existing?, given, Option.bind_some, found]
  refine rests_edit fun engine same time => ?_
  subst same
  exact ⟨_, _, Engine.updateGroup_ok.mpr ⟨_, found, rfl, attached, zone, rfl, rfl⟩,
    Shelf.groups.rewrite found, time⟩

def size (manifest : Manifest) : Nat :=
  manifest.teams.length + manifest.applications.length + manifest.channels.length +
    manifest.packages.length + manifest.floors.length + manifest.groups.length

theorem record_existed (existed : List Bool) (all : ∀ entry ∈ existed, entry = true)
    (summary : ApplySummary) : existed.foldl ApplySummary.record summary =
      { summary with updated := summary.updated + existed.length } := by
  induction existed generalizing summary with
  | nil => rfl
  | cons head rest ih =>
    obtain ⟨rfl, others⟩ := List.forall_mem_cons.mp all
    rw [List.foldl_cons, ih others]
    simp only [ApplySummary.record, if_true, List.length_cons]
    grind

theorem apply_rests {manifest : Manifest} (identified : manifest.Identified)
    (settled : manifest.Settled store now) :
    Rests manifest.apply { created := 0, updated := manifest.size } store now := by
  have sound := settled.sound
  have teams : Rests (manifest.teams.mapM applyTeam) (manifest.teams.map fun _ => true) store now :=
    rests_mapM fun spec member => applyTeam_rests (settled.teams spec member _ rfl)
  have applications : Rests (manifest.applications.mapM applyApplication)
      (manifest.applications.map fun _ => true) store now :=
    rests_mapM fun spec member =>
      have ⟨id, given⟩ := Option.isSome_iff_exists.mp (identified.applications.given spec member)
      applyApplication_rests given (settled.applications spec member id given)
  have channels : Rests (manifest.channels.mapM applyChannel)
      (manifest.channels.map fun spec => (spec.id, true)) store now :=
    rests_mapM fun spec member =>
      have ⟨id, given⟩ := Option.isSome_iff_exists.mp (identified.channels.given spec member)
      applyChannel_rests sound given (settled.channels spec member id given)
  have packages : Rests (manifest.packages.mapM applyPackage)
      (manifest.packages.map fun _ => true) store now :=
    rests_mapM fun spec member =>
      have ⟨id, given⟩ := Option.isSome_iff_exists.mp (identified.packages.given spec member)
      applyPackage_rests sound given (settled.packages spec member id given)
  have targets : Rests (manifest.channels.forM fun spec => applyTarget spec spec.id) () store now :=
    rests_forM fun spec member =>
      have ⟨id, given⟩ := Option.isSome_iff_exists.mp (identified.channels.given spec member)
      applyTarget_rests given (settled.channels spec member id given)
  have floors : Rests (manifest.floors.mapM applyFloor) (manifest.floors.map fun _ => true) store
      now :=
    rests_mapM fun spec member => applyFloor_rests sound (settled.floors spec member _ rfl)
  have groups : Rests (manifest.groups.mapM applyGroup) (manifest.groups.map fun _ => true) store
      now :=
    rests_mapM fun spec member =>
      have ⟨id, given⟩ := Option.isSome_iff_exists.mp (identified.groups.given spec member)
      applyGroup_rests sound given (settled.groups spec member id given)
  refine teams.bind (applications.bind (channels.bind (packages.bind ?_)))
  rw [List.map_map]
  refine (forM_targets manifest.channels ▸ targets).bind (floors.bind (groups.bind ?_))
  dsimp only
  rw [record_existed _ (by grind)]
  simp only [List.length_append, List.length_map, Nat.zero_add]
  exact rests_pure _

end SecondRun

/--
Whatever was in the store, a manifest that is applied leaves the catalog as it says, and to apply it
once more at the same time updates every entry to what it is. No floor may have the key of a pair
that a package shuts out: the check of the blacklist would take it for that pair's.
-/
theorem apply_converges {manifest : Manifest} (identified : manifest.Identified)
    (apart : manifest.BlacklistsApart) {engine after : Engine} (sound : engine.store.Sound)
    {summary : ApplySummary} (applied : manifest.apply.Yields engine summary after) :
    manifest.Settled after.store engine.now ∧ after.now = engine.now ∧
      ∀ again : Engine, again.store = after.store → again.now = engine.now →
        ∃ last, manifest.apply.Yields again { created := 0, updated := manifest.size } last ∧
          last.store = after.store := by
  obtain ⟨settled, now⟩ := apply_settled identified apart sound applied
  refine ⟨settled, now, fun again same time => ?_⟩
  obtain ⟨last, answered, ends, -⟩ := apply_rests identified settled again same time
  exact ⟨last, answered, ends⟩

def smallFleet : Manifest where
  teams := [{ id := "ops", name := "Operations" }]
  applications := [{ id := some "agent", name := "Agent", teamId := "ops" }]
  channels :=
    [{ id := some "stable", name := "Stable", applicationId := "agent", architecture := .amd64,
       packageId := some "latest" },
     { id := some "legacy", name := "Legacy", applicationId := "agent", architecture := .amd64 }]
  packages :=
    [{ id := some "bridge", applicationId := "agent", version := "2.0.0", architecture := .amd64,
       kind := .generic, url := "https://packages/bridge" },
     { id := some "latest", applicationId := "agent", version := "3.0.0", architecture := .amd64,
       kind := .generic, url := "https://packages/latest", channelsBlacklist := ["legacy"] }]
  groups := [{ id := some "fleet", name := "Fleet", applicationId := "agent",
               channelId := some "stable" }]
  floors := [{ channelId := "stable", packageId := "bridge", reason := "bridge" }]

theorem apply_converges_smallFleet :
    let after := ((ExceptT.run smallFleet.apply).run {}).2
    smallFleet.Identified ∧ smallFleet.BlacklistsApart ∧ ({} : Engine).store.Sound ∧
      smallFleet.apply.Yields {} { created := 8 } after ∧ smallFleet.Settled after.store 0 ∧
      ∃ last, smallFleet.apply.Yields after { updated := 8 } last ∧ last.store = after.store := by
  intro after
  have identified : smallFleet.Identified :=
    ⟨by decide, ⟨by decide, by decide⟩, ⟨by decide, by decide⟩, ⟨by decide, by decide⟩,
      ⟨by decide, by decide⟩, by decide⟩
  have apart : smallFleet.BlacklistsApart := by
    unfold BlacklistsApart
    decide
  have applied : smallFleet.apply.Yields {} { created := 8 } after :=
    Prod.ext (by decide +kernel) rfl
  obtain ⟨settled, now, again⟩ := apply_converges identified apart Store.sound_empty applied
  exact ⟨identified, apart, Store.sound_empty, applied, settled, again after rfl now⟩

-- The only floor has the key of another channel and package, which is shut out of that channel.
def sharedKey : Manifest where
  teams := [{ id := "ops", name := "Operations" }]
  applications := [{ id := some "agent", name := "Agent", teamId := "ops" }]
  channels :=
    [{ id := some "a", name := "Short", applicationId := "agent", architecture := .amd64 },
     { id := some "a:b", name := "Long", applicationId := "agent", architecture := .amd64 }]
  packages :=
    [{ id := some "c", applicationId := "agent", version := "1.0.0", architecture := .amd64,
       kind := .generic, url := "https://packages/c" },
     { id := some "b:c", applicationId := "agent", version := "2.0.0", architecture := .amd64,
       kind := .generic, url := "https://packages/bc", channelsBlacklist := ["a"] }]
  floors := [{ channelId := "a:b", packageId := "c", reason := "bridge" }]

-- The package is taken for a floor of a channel that has none, and the manifest is refused.
theorem apply_not_repeatable :
    let after := ((ExceptT.run sharedKey.apply).run {}).2
    sharedKey.Identified ∧ ({} : Engine).store.Sound ∧
      sharedKey.apply.Yields {} { created := 7 } after ∧ after.store.channelFloors "a" = [] ∧
      ((ExceptT.run sharedKey.apply).run after).1 =
        .error { entry := "package b:c", error := .packageIsFloor } := by
  intro after
  exact ⟨⟨by decide, ⟨by decide, by decide⟩, ⟨by decide, by decide⟩, ⟨by decide, by decide⟩,
      ⟨by decide, by decide⟩, by decide⟩, Store.sound_empty, Prod.ext (by decide +kernel) rfl,
    by decide +kernel, by decide +kernel⟩

end Manifest

end FleetRollout

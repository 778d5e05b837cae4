import FleetRollout.Proofs.Convergence
import FleetRollout.Proofs.Origin

set_option autoImplicit false

/-!
Applying a manifest to a catalog that has some of its entries already. Each is updated in its
place and keeps the time it was created at, with one exception: a floor is written anew, and with
it its time.
-/

namespace FleetRollout

namespace Store

variable {store : Store} {kind : Kind} {id : String}

theorem map_get_insert {α : Type} (read : α → Origin) (table : Table α) (key : String) (value : α) :
    ((table.insert key value).get? id).map read =
      if id = key then some (read value) else (table.get? id).map read := by
  rw [Table.get_insert]
  by_cases same : key = id
  · rw [if_pos same, if_pos same.symm, Option.map_some]
  · rw [if_neg same, if_neg (Ne.symm same)]

theorem origin?_putTeam {team : Team} : (store.putTeam team).origin? kind id =
    if kind = .team ∧ id = team.id then some team.origin else store.origin? kind id := by
  cases kind <;> simp [origin?, putTeam, map_get_insert]

theorem origin?_putApplication {application : Application} :
    (store.putApplication application).origin? kind id =
      if kind = .application ∧ id = application.id then some application.origin
      else store.origin? kind id := by
  cases kind <;> simp [origin?, putApplication, map_get_insert]

theorem origin?_putChannel {channel : Channel} : (store.putChannel channel).origin? kind id =
    if kind = .channel ∧ id = channel.id then some channel.origin else store.origin? kind id := by
  cases kind <;> simp [origin?, putChannel, map_get_insert]

theorem origin?_putPackage {package : Package} : (store.putPackage package).origin? kind id =
    if kind = .package ∧ id = package.id then some package.origin else store.origin? kind id := by
  cases kind <;> simp [origin?, putPackage, map_get_insert]

theorem origin?_putGroup {group : Group} : (store.putGroup group).origin? kind id =
    if kind = .group ∧ id = group.id then some group.origin else store.origin? kind id := by
  cases kind <;> simp [origin?, putGroup, map_get_insert]

theorem origin?_withActivity {activity : List ActivityEntry} :
    origin? { store with activity } kind id = store.origin? kind id := by
  cases kind <;> rfl

end Store

namespace Engine

open FleetRollout.Action

variable {engine between after : Engine}

def IssuedBetween (before after : Engine) (id : String) : Prop :=
  ∃ number, before.nextId ≤ number ∧ number < after.nextId ∧ id = Identifier.numbered number

/--
What was stored is stored, with the origin it had, unless its id was generated once more. The
listed floors have the present time, and the others are as they were.
-/
structure KeepsTimes (redated : List String) (before after : Engine) : Prop where
  now : after.now = before.now
  nextId : before.nextId ≤ after.nextId
  origins : ∀ kind id origin, ¬ IssuedBetween before after id →
    before.store.origin? kind id = some origin → after.store.origin? kind id = some origin
  kept : ∀ key, key ∉ redated → after.store.floors.get? key = before.store.floors.get? key
  redated : ∀ key ∈ redated, ∃ floor,
    after.store.floors.get? key = some floor ∧ floor.createdAt = before.now

theorem KeepsTimes.refl (engine : Engine) : KeepsTimes [] engine engine :=
  ⟨rfl, le_rfl, fun _ _ _ _ stored => stored, fun _ _ => rfl, by simp⟩

theorem KeepsTimes.trans {first second : List String} (head : KeepsTimes first engine between)
    (tail : KeepsTimes second between after) : KeepsTimes (first ++ second) engine after where
  now := tail.now.trans head.now
  nextId := head.nextId.trans tail.nextId
  origins kind id origin apart stored := by
    have early : ¬ IssuedBetween engine between id := fun ⟨number, since, till, same⟩ =>
      apart ⟨number, since, till.trans_le tail.nextId, same⟩
    have late : ¬ IssuedBetween between after id := fun ⟨number, since, till, same⟩ =>
      apart ⟨number, head.nextId.trans since, till, same⟩
    exact tail.origins kind id origin late (head.origins kind id origin early stored)
  kept key absent := by
    obtain ⟨notFirst, notSecond⟩ := not_or.mp (mt List.mem_append.mpr absent)
    rw [tail.kept key notSecond, head.kept key notFirst]
  redated key member := by
    -- A floor that was written twice is as the second write left it; the clock stood still.
    by_cases last : key ∈ second
    · rw [← head.now]
      exact tail.redated key last
    · rw [tail.kept key last]
      exact head.redated key ((List.mem_append.mp member).resolve_right last)

-- One entry of the kind is written, under the id that is given or a new one.
structure Puts (kind : Kind) (given : Option String) (origin : Origin) (before after : Engine) :
    Prop where
  now : after.now = before.now
  nextId : after.nextId = before.nextIdAfter given
  floors : after.store.floors = before.store.floors
  origins : ∀ other key, after.store.origin? other key =
    if other = kind ∧ key = before.idFor given then some origin
    else before.store.origin? other key

theorem Puts.keepsTimes {kind : Kind} {given : Option String} {origin : Origin}
    (puts : Puts kind given origin engine after)
    (own : ∀ id ∈ given, ∀ was, engine.store.origin? kind id = some was → was = origin) :
    KeepsTimes [] engine after where
  now := puts.now
  nextId := by
    rw [puts.nextId]
    cases given with
    | some _ => exact le_rfl
    | none => exact Nat.le_succ _
  origins other key was apart stored := by
    rw [puts.origins]
    split
    next same =>
      obtain ⟨rfl, rfl⟩ := same
      cases given with
      | some id => rw [own id rfl was stored]
      -- What was stored under an id that is generated now is not spoken of.
      | none => exact absurd ⟨engine.nextId, le_rfl, puts.nextId ▸ Nat.lt_succ_self _, rfl⟩ apart
    next => exact stored
  kept _ _ := by rw [puts.floors]
  redated := by simp

theorem Puts.filling {kind : Kind} {given : Option String} {origin : Origin}
    (puts : Puts kind given origin engine after)
    (free : ∀ id ∈ given, engine.store.origin? kind id = none) : KeepsTimes [] engine after :=
  puts.keepsTimes fun id own was stored => by simp [free id own] at stored

theorem Puts.replacing {kind : Kind} {id : String} {origin : Origin}
    (puts : Puts kind (some id) origin engine after)
    (stored : engine.store.origin? kind id = some origin) : KeepsTimes [] engine after := by
  refine puts.keepsTimes fun other own was found => ?_
  obtain rfl := Option.mem_some_iff.mp own
  exact Option.some.inj (found.symm.trans stored)

theorem createTeam_puts {id : Option String} {name : String} {answer : Team}
    (created : (createTeam id name).perform engine = (.ok answer, after)) :
    Puts .team id answer.origin engine after := by
  obtain ⟨rfl, rfl⟩ := createTeam_answers.mp created
  exact ⟨rfl, rfl, rfl, fun _ _ => Store.origin?_putTeam⟩

theorem createApplication_puts {new : NewApplication} {answer : Application}
    (created : (createApplication new).perform engine = (.ok answer, after)) :
    Puts .application new.id answer.origin engine after := by
  obtain ⟨-, rfl, rfl⟩ := createApplication_answers.mp created
  exact ⟨rfl, rfl, rfl, fun _ _ => Store.origin?_putApplication⟩

theorem createChannel_puts {new : NewChannel} {answer : Channel}
    (created : (createChannel new).perform engine = (.ok answer, after)) :
    Puts .channel new.id answer.origin engine after := by
  obtain ⟨-, -, rfl, rfl⟩ := createChannel_answers.mp created
  exact ⟨rfl, rfl, rfl, fun _ _ => Store.origin?_putChannel⟩

theorem createPackage_puts {new : NewPackage} {answer : Package}
    (created : (createPackage new).perform engine = (.ok answer, after)) :
    Puts .package new.id answer.origin engine after := by
  obtain ⟨-, -, -, rfl, rfl⟩ := createPackage_answers.mp created
  exact ⟨rfl, rfl, rfl, fun _ _ => Store.origin?_putPackage⟩

theorem createGroup_puts {new : NewGroup} {answer : Group}
    (created : (createGroup new).perform engine = (.ok answer, after)) :
    Puts .group new.id answer.origin engine after := by
  obtain ⟨-, -, -, rfl, rfl⟩ := createGroup_answers.mp created
  exact ⟨rfl, rfl, rfl, fun _ _ => Store.origin?_putGroup⟩

theorem updateTeam_keepsTimes {team answer : Team}
    (updated : (updateTeam team).perform engine = (.ok answer, after)) :
    KeepsTimes [] engine after := by
  obtain ⟨existing, found, rfl, rfl⟩ := updateTeam_ok.mp updated
  refine Puts.replacing ⟨rfl, rfl, rfl, fun _ _ => Store.origin?_putTeam⟩ ?_
  simp [Store.origin?, found, Team.origin]

theorem updateApplication_keepsTimes {application answer : Application}
    (updated : (updateApplication application).perform engine = (.ok answer, after)) :
    KeepsTimes [] engine after := by
  obtain ⟨existing, found, -, rfl, rfl⟩ := updateApplication_ok.mp updated
  refine Puts.replacing ⟨rfl, rfl, rfl, fun _ _ => Store.origin?_putApplication⟩ ?_
  simp [Store.origin?, found, Application.origin]

theorem updateChannel_keepsTimes {channel answer : Channel}
    (updated : (updateChannel channel).perform engine = (.ok answer, after)) :
    KeepsTimes [] engine after := by
  obtain ⟨existing, _, found, application, architecture, -, rfl, rfl⟩ := updateChannel_ok updated
  refine Puts.replacing ⟨rfl, rfl, rfl, fun _ _ =>
    Store.origin?_withActivity.trans Store.origin?_putChannel⟩ ?_
  simp [Store.origin?, found, Channel.origin, application, architecture]

theorem updatePackage_keepsTimes {package answer : Package}
    (updated : (updatePackage package).perform engine = (.ok answer, after)) :
    KeepsTimes [] engine after := by
  obtain ⟨existing, found, application, -, -, -, -, rfl, rfl⟩ := updatePackage_ok.mp updated
  refine Puts.replacing ⟨rfl, rfl, rfl, fun _ _ => Store.origin?_putPackage⟩ ?_
  simp [Store.origin?, found, Package.origin, application]

theorem updateGroup_keepsTimes {group answer : Group}
    (updated : (updateGroup group).perform engine = (.ok answer, after)) :
    KeepsTimes [] engine after := by
  obtain ⟨existing, found, application, -, -, rfl, rfl⟩ := updateGroup_ok.mp updated
  refine Puts.replacing ⟨rfl, rfl, rfl, fun _ _ => Store.origin?_putGroup⟩ ?_
  simp [Store.origin?, found, Group.origin, application]

theorem addFloor_keepsTimes {channelId packageId reason : String} {answer : Floor}
    (added : (addFloor channelId packageId reason).perform engine = (.ok answer, after)) :
    KeepsTimes [Floor.keyOf channelId packageId] engine after := by
  obtain ⟨_, _, -, -, -, -, -, -, rfl, rfl⟩ := addFloor_ok.mp added
  -- Unlike an update, this does not look for the floor it replaces.
  have row (key : String) := Table.get_insert engine.store.floors
    (Floor.keyOf channelId packageId) key { channelId, packageId, reason, createdAt := engine.now }
  refine ⟨rfl, le_rfl, fun _ _ _ _ stored => stored, fun key absent => ?_, fun key member => ?_⟩
  · exact (row key).trans (if_neg fun same => absent (List.mem_singleton.mpr same.symm))
  · obtain rfl := List.mem_singleton.mp member
    exact ⟨_, (row _).trans (if_pos rfl), rfl⟩

end Engine

namespace Manifest

open Applying Engine

variable {engine after : Engine}

theorem unfound {α : Type} {table : Table α} {given : Option String} (read : α → Origin)
    (missing : existing? table given = none) : ∀ id ∈ given, (table.get? id).map read = none := by
  rintro id rfl
  exact Option.map_eq_none_iff.mpr missing

theorem applyTeam_keepsTimes {spec : TeamSpec} {existed : Bool}
    (applied : (applyTeam spec).Yields engine existed after) : KeepsTimes [] engine after := by
  simp only [applyTeam, yields_currentStore] at applied
  cases found : engine.store.teams.get? spec.id with
  | none =>
    simp only [found, yields_edit] at applied
    obtain ⟨_, created, -⟩ := applied
    exact (createTeam_puts created).filling (unfound Team.origin found)
  | some existing =>
    simp only [found] at applied
    split at applied
    next =>
      obtain ⟨-, rfl⟩ := yields_pure.mp applied
      exact .refl _
    next =>
      obtain ⟨_, updated, -⟩ := yields_edit.mp applied
      exact updateTeam_keepsTimes updated

theorem applyApplication_keepsTimes {spec : NewApplication} {existed : Bool}
    (applied : (applyApplication spec).Yields engine existed after) :
    KeepsTimes [] engine after := by
  simp only [applyApplication, yields_currentStore] at applied
  cases found : existing? engine.store.applications spec.id with
  | none =>
    simp only [found, yields_edit] at applied
    obtain ⟨_, created, -⟩ := applied
    exact (createApplication_puts created).filling (unfound Application.origin found)
  | some existing =>
    simp only [found, yields_edit] at applied
    obtain ⟨_, updated, -⟩ := applied
    exact updateApplication_keepsTimes updated

theorem applyChannel_keepsTimes {spec : NewChannel} {answer : Option String × Bool}
    (applied : (applyChannel spec).Yields engine answer after) : KeepsTimes [] engine after := by
  simp only [applyChannel, yields_currentStore] at applied
  cases found : existing? engine.store.channels spec.id with
  | none =>
    simp only [found, yields_edit] at applied
    obtain ⟨_, created, -⟩ := applied
    exact (createChannel_puts created).filling (unfound Channel.origin found)
  | some existing =>
    simp only [found, yields_edit] at applied
    obtain ⟨_, updated, -⟩ := applied
    exact updateChannel_keepsTimes updated

theorem applyPackage_keepsTimes {spec : NewPackage} {existed : Bool}
    (applied : (applyPackage spec).Yields engine existed after) : KeepsTimes [] engine after := by
  simp only [applyPackage, yields_currentStore] at applied
  cases found : existing? engine.store.packages spec.id with
  | none =>
    simp only [found, yields_edit] at applied
    obtain ⟨_, created, -⟩ := applied
    exact (createPackage_puts created).filling (unfound Package.origin found)
  | some existing =>
    simp only [found, yields_edit] at applied
    obtain ⟨_, updated, -⟩ := applied
    exact updatePackage_keepsTimes updated

theorem applyGroup_keepsTimes {spec : NewGroup} {existed : Bool}
    (applied : (applyGroup spec).Yields engine existed after) : KeepsTimes [] engine after := by
  simp only [applyGroup, yields_currentStore] at applied
  cases found : existing? engine.store.groups spec.id with
  | none =>
    simp only [found, yields_edit] at applied
    obtain ⟨_, created, -⟩ := applied
    exact (createGroup_puts created).filling (unfound Group.origin found)
  | some existing =>
    simp only [found, yields_edit] at applied
    obtain ⟨_, updated, -⟩ := applied
    exact updateGroup_keepsTimes updated

theorem applyTarget_keepsTimes {spec : NewChannel} {id : Option String} {answer : Unit}
    (applied : (applyTarget spec id).Yields engine answer after) : KeepsTimes [] engine after := by
  unfold applyTarget at applied
  split at applied
  next id target _ =>
    simp only [yields_currentStore] at applied
    split at applied
    next =>
      obtain ⟨-, rfl⟩ := yields_pure.mp applied
      exact .refl _
    next channel _ =>
      split at applied
      next =>
        obtain ⟨-, rfl⟩ := yields_pure.mp applied
        exact .refl _
      next =>
        obtain ⟨_, updated, -⟩ := yields_edit.mp applied
        exact updateChannel_keepsTimes updated
  next =>
    obtain ⟨-, rfl⟩ := yields_pure.mp applied
    exact .refl _

theorem applyFloor_keepsTimes {spec : FloorSpec} {existed : Bool}
    (applied : (applyFloor spec).Yields engine existed after) :
    KeepsTimes [spec.key] engine after := by
  rw [applyFloor, yields_currentStore] at applied
  obtain ⟨_, added, -⟩ := yields_edit.mp applied
  exact addFloor_keepsTimes added

theorem keepsTimes_of_mapM {σ β : Type} {f : σ → Applying β} {keys : σ → List String}
    (step : ∀ spec engine answer after, (f spec).Yields engine answer after →
      KeepsTimes (keys spec) engine after)
    {specs : List σ} {answers : List β} (applied : Yields (specs.mapM f) engine answers after) :
    KeepsTimes (specs.flatMap keys) engine after := by
  induction specs generalizing engine answers with
  | nil =>
    obtain ⟨-, rfl⟩ := yields_pure.mp applied
    exact .refl _
  | cons head rest ih =>
    obtain ⟨_, _, _, first, others, -⟩ := yields_mapM_cons.mp applied
    exact (step _ _ _ _ first).trans (ih others)

theorem keepsTimes_of_mapM_nil {σ β : Type} {f : σ → Applying β}
    (step : ∀ spec engine answer after, (f spec).Yields engine answer after →
      KeepsTimes [] engine after)
    {specs : List σ} {answers : List β} (applied : Yields (specs.mapM f) engine answers after) :
    KeepsTimes [] engine after := by
  have all := keepsTimes_of_mapM step applied
  rwa [List.flatMap_eq_nil_iff.mpr fun _ _ => rfl] at all

theorem apply_keepsTimes {manifest : Manifest} {summary : ApplySummary}
    (applied : manifest.apply.Yields engine summary after) :
    KeepsTimes (manifest.floors.map FloorSpec.key) engine after := by
  simp only [apply, yields_bind, yields_pure] at applied
  obtain ⟨_, _, first, _, _, second, _, _, third, _, _, fourth, _, _, fifth, _, _, sixth, _, _,
    seventh, -, rfl⟩ := applied
  obtain ⟨_, fifth⟩ := yields_forM.mp fifth
  have teams := keepsTimes_of_mapM_nil (fun _ _ _ _ => applyTeam_keepsTimes) first
  have applications := keepsTimes_of_mapM_nil (fun _ _ _ _ => applyApplication_keepsTimes) second
  have channels := keepsTimes_of_mapM_nil (fun _ _ _ _ => applyChannel_keepsTimes) third
  have packages := keepsTimes_of_mapM_nil (fun _ _ _ _ => applyPackage_keepsTimes) fourth
  have targets := keepsTimes_of_mapM_nil (fun _ _ _ _ => applyTarget_keepsTimes) fifth
  have floors := keepsTimes_of_mapM (fun _ _ _ _ => applyFloor_keepsTimes) sixth
  have groups := keepsTimes_of_mapM_nil (fun _ _ _ _ => applyGroup_keepsTimes) seventh
  -- Only one of the passes writes floors.
  rw [List.map_eq_flatMap]
  simpa using teams.trans <| applications.trans <| channels.trans <| packages.trans <|
    targets.trans <| floors.trans groups

/--
A manifest that is applied leaves every entry that was stored with the time it was created at, with
its application, and a channel with its architecture, if no id is generated that was taken. The
floors it lists get the present time, also those that were there; all others stay as they are.
-/
theorem apply_keeps_creation {manifest : Manifest} {summary : ApplySummary}
    (applied : manifest.apply.Yields engine summary after) :
    (∀ kind id origin, ¬ IssuedBetween engine after id →
      engine.store.origin? kind id = some origin → after.store.origin? kind id = some origin) ∧
    (∀ key, key ∉ manifest.floors.map FloorSpec.key →
      after.store.floors.get? key = engine.store.floors.get? key) ∧
    ∀ key ∈ manifest.floors.map FloorSpec.key, ∃ floor,
      after.store.floors.get? key = some floor ∧ floor.createdAt = engine.now :=
  have keeps := apply_keepsTimes applied
  ⟨keeps.origins, keeps.kept, keeps.redated⟩

theorem yields_of_ok {α : Type} {action : Applying α} {answer : α}
    (answered : ((ExceptT.run action).run engine).1 = .ok answer) :
    action.Yields engine answer ((ExceptT.run action).run engine).2 :=
  Prod.ext answered rfl

def fleetApplied : Engine :=
  ((ExceptT.run smallFleet.apply).run {}).2

def fleetReapplied : Engine :=
  ((ExceptT.run smallFleet.apply).run (fleetApplied.advance 3600)).2

theorem yields_fleetApplied : smallFleet.apply.Yields {} { created := 8 } fleetApplied := by
  unfold fleetApplied
  exact yields_of_ok (by decide +kernel)

theorem yields_fleetReapplied :
    smallFleet.apply.Yields (fleetApplied.advance 3600) { updated := 8 } fleetReapplied := by
  unfold fleetReapplied
  exact yields_of_ok (by decide +kernel)

theorem apply_keeps_creation_fleetReapplied :
    smallFleet.apply.Yields (fleetApplied.advance 3600) { updated := 8 } fleetReapplied ∧
      (∀ kind id origin, fleetApplied.store.origin? kind id = some origin →
        fleetReapplied.store.origin? kind id = some origin) ∧
      fleetApplied.store.origin? .group "fleet" =
        some { createdAt := 0, applicationId := some "agent" } := by
  obtain ⟨origins, -, -⟩ := apply_keeps_creation yields_fleetReapplied
  refine ⟨yields_fleetReapplied, fun kind id origin stored => origins kind id origin ?_ stored,
    by decide +kernel⟩
  -- All specs of the fleet carry ids, so that none is generated.
  rintro ⟨number, since, till, -⟩
  have same : fleetReapplied.nextId = (fleetApplied.advance 3600).nextId := by decide +kernel
  omega

-- The floor is an hour younger after the fleet is applied once more.
theorem floor_creation_not_kept :
    ¬ ∀ (manifest : Manifest) (engine first second : Engine) (seconds : Nat)
        (created updated : ApplySummary),
      manifest.apply.Yields engine created first →
      manifest.apply.Yields (first.advance seconds) updated second →
      ∀ key floor, first.store.floors.get? key = some floor → ∃ kept,
        second.store.floors.get? key = some kept ∧ kept.createdAt = floor.createdAt := by
  intro keeps
  obtain ⟨kept, stored, same⟩ := keeps smallFleet {} fleetApplied fleetReapplied 3600 _ _
    yields_fleetApplied yields_fleetReapplied (Floor.keyOf "stable" "bridge")
    { channelId := "stable", packageId := "bridge", reason := "bridge", createdAt := 0 }
    (by decide +kernel)
  have younger : (fleetReapplied.store.floors.get? (Floor.keyOf "stable" "bridge")).map
      Floor.createdAt = some 3600 := by decide +kernel
  rw [stored, Option.map_some, same] at younger
  exact absurd younger (by decide)

end Manifest

end FleetRollout

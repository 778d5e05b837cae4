import FleetRollout.Proofs.Edits
import FleetRollout.Proofs.Faults

set_option autoImplicit false

/-!
Entries that are saved as they are stored. An update checks all references of its entry again. For
channels and groups they are good in every state, so the update is made and changes nothing. A
package may have become one that would not be let in: the deletion of a channel does not take it off
blacklists, and a floor of another pair may have got the key of a pair that the package shuts out.
-/

namespace FleetRollout

open Store FleetRollout.Action

theorem ReachableBy.reachable {Allowed : Engine → Operation → Prop} {engine : Engine}
    (reached : ReachableBy Allowed engine) : Reachable engine := by
  induction reached with
  | start engine empty => exact .start engine empty
  | step operation _ _ ih => exact ih.step operation trivial

namespace Store

/-- Every group has a track that stands for itself. -/
def Tracked (store : Store) : Prop :=
  store.groups.Every fun group => Engine.trackOr group.id group.track = group.track

/-- The channels of the blacklist are there, and no floor has the key of such a pair. -/
def Upholds (store : Store) (package : Package) : Prop :=
  ∀ channelId ∈ package.channelsBlacklist,
    store.HasChannel package.applicationId channelId ∧ store.floor? channelId package.id = none

variable {store after : Store}

theorem tracked_of_map (tracked : store.Tracked)
    (same : ∀ id, (after.groups.get? id).map (fun group : Group => (group.id, group.track)) =
      (store.groups.get? id).map fun group => (group.id, group.track)) : after.Tracked :=
  Table.Every.of_map (fun group : Group => (group.id, group.track))
    (fun named => Engine.trackOr named.1 named.2 = named.2) tracked same

theorem SameCatalog.tracked (same : SameCatalog store after) (tracked : store.Tracked) :
    after.Tracked := by
  refine tracked_of_map tracked fun id => ?_
  have kept := congrArg (Option.map fun group : Group => (group.id, group.track)) (same.groups id)
  rw [Option.map_map, Option.map_map] at kept
  exact kept

theorem putChannel_stored {channel : Channel}
    (stored : store.channels.get? channel.id = some channel) :
    store.putChannel channel = store := by
  rw [putChannel, Table.insert_of_get stored]

theorem putPackage_stored {package : Package}
    (stored : store.packages.get? package.id = some package) :
    store.putPackage package = store := by
  rw [putPackage, Table.insert_of_get stored]

theorem putGroup_stored {group : Group} (stored : store.groups.get? group.id = some group) :
    store.putGroup group = store := by
  rw [putGroup, Table.insert_of_get stored]

theorem Integrity.mayShut_iff (integrity : store.Integrity) {package : Package}
    (stored : store.packages.get? package.id = some package) {channelId : String}
    (listed : channelId ∈ package.channelsBlacklist) :
    store.MayShut package.applicationId package.id channelId ↔
      store.HasChannel package.applicationId channelId ∧
        store.floor? channelId package.id = none := by
  have blacklisted : package.isBlacklistedFor channelId = true := by
    simpa [Package.isBlacklistedFor] using listed
  have elsewhere := (integrity.exclusive stored blacklisted).1
  constructor
  · rintro ⟨⟨channel, found, own, -⟩, unfloored⟩
    exact ⟨⟨channel, found, own⟩, unfloored⟩
  · rintro ⟨⟨channel, found, own⟩, unfloored⟩
    exact ⟨⟨channel, found, own, elsewhere channel found⟩, unfloored⟩

end Store

theorem Change.tracked {scope : Scope} {store after : Store} (change : Change scope store after)
    (keyed : store.Keyed) (tracked : store.Tracked) : after.Tracked := by
  cases change with
  | groupCreated _ group _ _ _ _ _ track | groupUpdated _ group _ _ _ _ _ _ _ _ track =>
    exact Table.Every.insert tracked track group.id
  | groupGone _ id => exact Table.Every.erase tracked id
  | channelUpdated channel _ _ _ _ _ calm =>
    have written : (store.putChannel channel).Tracked := tracked
    exact calm.noted.catalog.tracked written
  | channelGone id channel =>
    exact tracked_of_map tracked (map_withoutChannel _ (fun _ => rfl) keyed.groups channel id)
  | packageGone id package =>
    rw [withoutPackage_eq]
    exact tracked
  | _ => exact tracked

theorem Reachable.tracked {engine : Engine} (reached : Reachable engine) :
    engine.store.Tracked := by
  induction reached with
  | start engine empty =>
    rw [empty]
    exact Table.every_empty
  | @step engine operation reached _ ih =>
    cases serves : operation.isRequest with
    | true =>
      have same := (Operation.run_serves Engine.sameCatalog_keptByStages.parts serves engine).store
      exact same.tracked ih
    | false => exact (Operation.run_changes serves engine).tracked reached.keyed ih

namespace Engine

variable {engine : Engine}

theorem updateChannel_stored (integrity : engine.store.Integrity) {channel : Channel}
    (stored : engine.store.channels.get? channel.id = some channel) :
    (updateChannel channel).perform engine = (.ok channel, engine) := by
  refine (updateChannel_sameTarget_ok fun existing found => ?_).mpr
    ⟨channel, stored, rfl, rfl, integrity.targets channel.id channel stored, rfl, ?_⟩
  · obtain rfl := Option.some.inj (stored.symm.trans found)
    rfl
  · rw [putChannel_stored stored]

theorem updateGroup_stored (integrity : engine.store.Integrity) (readable : engine.store.Readable)
    (tracked : engine.store.Tracked) {group : Group}
    (stored : engine.store.groups.get? group.id = some group) :
    (updateGroup group).perform engine =
      (.ok group, { engine with directory := engine.directory.forgetTracks }) := by
  have track : trackOr group.id group.track = group.track := tracked group.id group stored
  refine updateGroup_ok.mpr ⟨group, stored, rfl, integrity.groups group.id group stored,
    readable.zones group.id group stored, ?_, ?_⟩
  · rw [track]
  · rw [putGroup_stored stored]

theorem updatePackage_stored_iff (integrity : engine.store.Integrity)
    (readable : engine.store.Readable) {package : Package}
    (stored : engine.store.packages.get? package.id = some package) {answer : Package}
    {after : Engine} :
    (updatePackage package).perform engine = (.ok answer, after) ↔
      engine.store.Upholds package ∧ answer = package ∧ after = engine := by
  obtain ⟨targeting, floors⟩ := integrity.references stored
  rw [updatePackage_ok]
  constructor
  · rintro ⟨existing, found, -, -, blacklist, -, -, rfl, rfl⟩
    obtain rfl := Option.some.inj (stored.symm.trans found)
    refine ⟨fun channelId listed => (integrity.mayShut_iff stored listed).mp
      (blacklist channelId listed), rfl, ?_⟩
    rw [putPackage_stored stored]
  · rintro ⟨upholds, rfl, rfl⟩
    refine ⟨answer, stored, rfl, readable.versions answer.id answer stored, fun channelId listed =>
      (integrity.mayShut_iff stored listed).mpr (upholds channelId listed), targeting, floors, rfl,
      ?_⟩
    rw [putPackage_stored stored]

end Engine

/--
Whatever was done, if every new entry got an id of its own: to save a channel or a group as it is
stored succeeds and changes no table and no log, and to save a package does so exactly if the
channels of its blacklist are still there and no floor has the key of one of them and the package.
-/
theorem stored_entries_resaved {engine : Engine} (reached : ReachableFresh engine) :
    (∀ id channel, engine.store.channels.get? id = some channel →
      (Engine.updateChannel channel).perform engine = (.ok channel, engine)) ∧
    (∀ id group, engine.store.groups.get? id = some group →
      (Engine.updateGroup group).perform engine =
        (.ok group, { engine with directory := engine.directory.forgetTracks })) ∧
    ∀ id package, engine.store.packages.get? id = some package → ∀ answer after,
      (Engine.updatePackage package).perform engine = (.ok answer, after) ↔
        engine.store.Upholds package ∧ answer = package ∧ after = engine := by
  have keyed := reached.keyed
  have integrity := reached.integrity
  have readable := reached.reachable.readable
  refine ⟨fun id channel stored => ?_, fun id group stored => ?_, fun id package stored _ _ => ?_⟩
  · obtain rfl := keyed.channels id channel stored
    exact Engine.updateChannel_stored integrity stored
  · obtain rfl := keyed.groups id group stored
    exact Engine.updateGroup_stored integrity readable reached.reachable.tracked stored
  · obtain rfl := keyed.packages id package stored
    exact Engine.updatePackage_stored_iff integrity readable stored

def Package.shutOut : Package :=
  { id := "trial", applicationId := "agent", version := "4.0.0", architecture := .amd64
    kind := .generic, url := "https://packages/trial", filename := "", description := ""
    size := 0, hash := "", action := none, extraFiles := [], channelsBlacklist := ["legacy"]
    createdAt := 0 }

def Operation.catalogWithBlacklist : List Operation :=
  smallCatalog ++
    [ .createChannel
        { id := some "legacy", name := "Legacy", applicationId := "agent", architecture := .amd64
          packageId := some "bridge" },
      .createPackage
        { id := some "trial", applicationId := "agent", version := "4.0.0", architecture := .amd64
          kind := .generic, url := "https://packages/trial", channelsBlacklist := ["legacy"] } ]

theorem stored_entries_resaved_packageGone :
    let engine := Operation.runAll {} (Operation.catalogWithBlacklist ++ [.deletePackage "bridge"])
    ReachableFresh engine ∧ engine.store.floors.values = [] ∧
      (∀ channel ∈ engine.store.channels.values,
        (Engine.updateChannel channel).perform engine = (.ok channel, engine)) ∧
      engine.store.channels.values.map (fun channel => (channel.id, channel.packageId)) =
        [("legacy", none), ("stable", some "latest")] ∧
      (∀ group ∈ engine.store.groups.values, (Engine.updateGroup group).perform engine =
        (.ok group, { engine with directory := engine.directory.forgetTracks })) ∧
      engine.store.groups.values.map (·.id) = ["fleet"] ∧
      engine.store.packages.get? "trial" = some .shutOut ∧
      (Engine.updatePackage .shutOut).perform engine = (.ok .shutOut, engine) := by
  intro engine
  have reached : ReachableFresh engine := (ReachableBy.start {} rfl).runAll (by decide +kernel)
  obtain ⟨channels, groups, packages⟩ := stored_entries_resaved reached
  have stored : engine.store.packages.get? "trial" = some .shutOut := by decide +kernel
  have upholds : engine.store.Upholds .shutOut := by
    intro channelId listed
    obtain rfl := List.mem_singleton.mp listed
    have found : (engine.store.channels.get? "legacy").isSome = true := by decide +kernel
    obtain ⟨channel, found⟩ := Option.isSome_iff_exists.mp found
    refine ⟨⟨channel, found, ?_⟩, by decide +kernel⟩
    have own : (engine.store.channels.get? "legacy").all (·.applicationId = "agent") = true := by
      decide +kernel
    change channel.applicationId = "agent"
    simpa [found] using own
  refine ⟨reached, by decide +kernel, fun channel member => ?_, by decide +kernel,
    fun group member => ?_, by decide +kernel, stored,
    (packages "trial" .shutOut stored _ _).mpr ⟨upholds, rfl, rfl⟩⟩
  · obtain ⟨id, found⟩ := Table.mem_values.mp member
    exact channels id channel found
  · obtain ⟨id, found⟩ := Table.mem_values.mp member
    exact groups id group found

-- A floor whose key is also that of a package and a channel it is shut out of.
def Operation.sharedFloorKey : List Operation :=
  [ .createTeam (some "ops") "Operations",
    .createApplication { id := some "agent", name := "Agent", teamId := "ops" },
    .createChannel
      { id := some "legacy", name := "Short", applicationId := "agent", architecture := .amd64 },
    .createChannel
      { id := some "legacy:trial", name := "Long", applicationId := "agent"
        architecture := .amd64 },
    .createPackage
      { id := some "bridge", applicationId := "agent", version := "2.0.0", architecture := .amd64
        kind := .generic, url := "https://packages/bridge" },
    .createPackage
      { id := some "trial:bridge", applicationId := "agent", version := "4.0.0"
        architecture := .amd64, kind := .generic, url := "https://packages/trial"
        channelsBlacklist := ["legacy"] },
    .addFloor "legacy:trial" "bridge" "new file format" ]

-- A channel of the blacklist was deleted, or the floor of another pair is taken for one of it.
theorem stored_package_not_resaved :
    let deleted := Operation.runAll {} (Operation.catalogWithBlacklist ++ [.deleteChannel "legacy"])
    let shared := Operation.runAll {} Operation.sharedFloorKey
    let package : Package := { Package.shutOut with id := "trial:bridge" }
    (ReachableFresh deleted ∧ deleted.store.packages.get? "trial" = some .shutOut ∧
      ((Engine.updatePackage .shutOut).perform deleted).1 = .error (.invalidChannel "legacy")) ∧
    ReachableFresh shared ∧ shared.store.packages.get? "trial:bridge" = some package ∧
      shared.store.channelFloors "legacy" = [] ∧
      ((Engine.updatePackage package).perform shared).1 = .error .packageIsFloor := by
  intro deleted shared package
  exact ⟨⟨(ReachableBy.start {} rfl).runAll (by decide +kernel), by decide +kernel,
      by decide +kernel⟩,
    (ReachableBy.start {} rfl).runAll (by decide +kernel), by decide +kernel, by decide +kernel,
    by decide +kernel⟩

end FleetRollout

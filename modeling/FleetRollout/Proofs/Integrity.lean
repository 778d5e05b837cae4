import FleetRollout.Proofs.Change
import FleetRollout.Proofs.Floors

set_option autoImplicit false

/-!
References of the catalog. In every state that is reached with fresh ids, what a channel, a floor
or a group refers to is stored and fits: the same application, the same architecture, and no
package on a channel it is blacklisted for. Each relation is checked from the side that is written;
deletions find what they have to clean up by the relations themselves.
-/

namespace FleetRollout

open Store FleetRollout.Action

namespace Store

structure Integrity (store : Store) : Prop where
  targets : ∀ id channel, store.channels.get? id = some channel →
    ∀ packageId ∈ channel.packageId,
      store.Serves id channel.applicationId channel.architecture packageId
  floors : ∀ key floor, store.floors.get? key = some floor →
    ∃ channel, store.channels.get? floor.channelId = some channel ∧
      store.Serves floor.channelId channel.applicationId channel.architecture floor.packageId
  groups : ∀ id group, store.groups.get? id = some group →
    ∀ channelId ∈ group.channelId, store.HasChannel group.applicationId channelId

theorem integrity_empty : Integrity Store.empty := by
  constructor <;> intro key entry found <;> simp [Store.empty] at found

variable {store after : Store}

theorem Integrity.of_sameCatalog (integrity : store.Integrity) (same : SameCatalog store after) :
    after.Integrity where
  targets id channel found packageId targeted := by
    rw [same.channels] at found
    simpa only [Serves, same.packages] using integrity.targets id channel found packageId targeted
  floors key floor found := by
    rw [same.floors] at found
    simpa only [Serves, same.packages, same.channels] using integrity.floors key floor found
  groups id group found channelId attached := by
    obtain ⟨earlier, stored, setup⟩ := same.group_before found
    obtain ⟨-, application, channel⟩ := Group.same_of_setup setup
    rw [← application]
    rw [← channel] at attached
    simpa only [HasChannel, same.channels] using
      integrity.groups id earlier stored channelId attached

theorem Integrity.putChannel (integrity : store.Integrity) (channel : Channel)
    (replaces : ∀ existing, store.channels.get? channel.id = some existing →
      channel.applicationId = existing.applicationId ∧ channel.architecture = existing.architecture)
    (target : ∀ packageId ∈ channel.packageId,
      store.Serves channel.id channel.applicationId channel.architecture packageId) :
    (store.putChannel channel).Integrity where
  targets id stored found packageId targeted := by
    simp only [Store.putChannel, Table.get_insert] at found
    split at found
    next same =>
      obtain rfl := Option.some.inj found
      exact same ▸ target packageId targeted
    next => exact integrity.targets id stored found packageId targeted
  floors key floor found := by
    obtain ⟨earlier, stored, serves⟩ := integrity.floors key floor found
    by_cases same : channel.id = floor.channelId
    · rw [← same] at stored
      obtain ⟨application, architecture⟩ := replaces earlier stored
      refine ⟨channel, ?_, ?_⟩
      · simp only [Store.putChannel, Table.get_insert, same, if_true]
      · rw [application, architecture]
        exact serves
    · refine ⟨earlier, ?_, serves⟩
      simpa only [Store.putChannel, Table.get_insert, same, if_false] using stored
  groups id group found channelId attached := by
    obtain ⟨earlier, stored, own⟩ := integrity.groups id group found channelId attached
    by_cases same : channel.id = channelId
    · rw [← same] at stored
      refine ⟨channel, ?_, (replaces earlier stored).1.trans own⟩
      simp only [Store.putChannel, Table.get_insert, same, if_true]
    · refine ⟨earlier, ?_, own⟩
      simpa only [Store.putChannel, Table.get_insert, same, if_false] using stored

theorem Integrity.putPackage (integrity : store.Integrity) (package : Package)
    (suits : ∀ channelId channel, store.channels.get? channelId = some channel →
      (channel.packageId = some package.id ∨ ∃ key floor, store.floors.get? key = some floor ∧
        floor.channelId = channelId ∧ floor.packageId = package.id) →
      package.applicationId = channel.applicationId ∧
        package.architecture = channel.architecture ∧
        package.isBlacklistedFor channelId = false) :
    (store.putPackage package).Integrity where
  targets id channel found packageId targeted := by
    obtain ⟨stored, known, fits⟩ := integrity.targets id channel found packageId targeted
    by_cases same : package.id = packageId
    · have relies : channel.packageId = some package.id := same ▸ Option.mem_def.mp targeted
      refine ⟨package, ?_, suits id channel found (.inl relies)⟩
      simp only [Store.putPackage, Table.get_insert, same, if_true]
    · refine ⟨stored, ?_, fits⟩
      simpa only [Store.putPackage, Table.get_insert, same, if_false] using known
  floors key floor found := by
    obtain ⟨channel, declared, stored, known, fits⟩ := integrity.floors key floor found
    refine ⟨channel, declared, ?_⟩
    by_cases same : package.id = floor.packageId
    · refine ⟨package, ?_, suits floor.channelId channel declared
        (.inr ⟨key, floor, found, rfl, same.symm⟩)⟩
      simp only [Store.putPackage, Table.get_insert, same, if_true]
    · refine ⟨stored, ?_, fits⟩
      simpa only [Store.putPackage, Table.get_insert, same, if_false] using known
  groups := integrity.groups

theorem Integrity.createPackage (integrity : store.Integrity) (package : Package)
    (free : store.packages.get? package.id = none) : (store.putPackage package).Integrity := by
  refine integrity.putPackage package fun channelId channel found relies => ?_
  exfalso
  rcases relies with targeted | ⟨key, floor, declared, -, same⟩
  · obtain ⟨_, known, -⟩ := integrity.targets channelId channel found package.id targeted
    simp [free] at known
  · obtain ⟨_, -, _, known, -⟩ := integrity.floors key floor declared
    simp [same, free] at known

theorem Integrity.updatePackage (integrity : store.Integrity) (keyed : store.Keyed)
    (package existing : Package) (found : store.packages.get? package.id = some existing)
    (application : package.applicationId = existing.applicationId)
    (blacklist : ∀ channelId ∈ package.channelsBlacklist,
      store.MayShut package.applicationId package.id channelId)
    (targeting : ∀ channel ∈ store.channelsOf package.applicationId,
      channel.packageId = some package.id → channel.architecture = package.architecture)
    (floors : ∀ floor ∈ store.floorsForPackage package.id, ∃ channel,
      store.channels.get? floor.channelId = some channel ∧
        channel.architecture = package.architecture) :
    (store.putPackage package).Integrity := by
  refine integrity.putPackage package fun channelId channel stored relies => ?_
  have openFor (shut : package.isBlacklistedFor channelId = true) :
      channel.packageId ≠ some package.id ∧ store.floor? channelId package.id = none := by
    obtain ⟨⟨_, known, -, elsewhere⟩, unfloored⟩ := blacklist channelId (by
      simpa [Package.isBlacklistedFor] using shut)
    obtain rfl := Option.some.inj (stored.symm.trans known)
    exact ⟨elsewhere, unfloored⟩
  -- What relies on the old package is of its application, so the checks have seen it.
  rcases relies with targeted | ⟨key, floor, declared, own, same⟩
  · obtain ⟨_, known, agrees, -⟩ := integrity.targets channelId channel stored package.id targeted
    obtain rfl := Option.some.inj (found.symm.trans known)
    refine ⟨application.trans agrees, (targeting channel ?_ targeted).symm, ?_⟩
    · exact Table.mem_valuesWhere.mpr ⟨⟨channelId, stored⟩, by simp [application, agrees]⟩
    · exact Bool.eq_false_iff.mpr fun shut => (openFor shut).1 targeted
  · obtain ⟨_, declares, _, known, agrees, -⟩ := integrity.floors key floor declared
    rw [own] at declares
    obtain rfl := Option.some.inj (stored.symm.trans declares)
    rw [same] at known
    obtain rfl := Option.some.inj (found.symm.trans known)
    obtain ⟨_, checked, architecture⟩ := floors floor
      (Table.mem_valuesWhere.mpr ⟨⟨key, declared⟩, by simp [same]⟩)
    rw [own] at checked
    obtain rfl := Option.some.inj (stored.symm.trans checked)
    refine ⟨application.trans agrees, architecture.symm, Bool.eq_false_iff.mpr fun shut => ?_⟩
    have lies : Floor.keyOf channelId package.id = key := by
      rw [← own, ← same]
      exact keyed.floors key floor declared
    have unfloored := (openFor shut).2
    rw [Store.floor?, lies, declared] at unfloored
    contradiction

theorem Integrity.putGroup (integrity : store.Integrity) (group : Group)
    (channel : ∀ channelId ∈ group.channelId, store.HasChannel group.applicationId channelId) :
    (store.putGroup group).Integrity where
  targets := integrity.targets
  floors := integrity.floors
  groups id stored found channelId attached := by
    simp only [Store.putGroup, Table.get_insert] at found
    split at found
    next =>
      obtain rfl := Option.some.inj found
      exact channel channelId attached
    next => exact integrity.groups id stored found channelId attached

theorem Integrity.deleteGroup (integrity : store.Integrity) (id : String) :
    (store.deleteGroup id).Integrity where
  targets := integrity.targets
  floors := integrity.floors
  groups key stored found channelId attached := by
    simp only [Store.deleteGroup, Table.get_erase] at found
    split at found
    next => simp at found
    next => exact integrity.groups key stored found channelId attached

theorem Integrity.putFloor (integrity : store.Integrity) (floor : Floor) {channel : Channel}
    (found : store.channels.get? floor.channelId = some channel)
    (serves : store.Serves floor.channelId channel.applicationId channel.architecture
      floor.packageId) : (store.putFloor floor).Integrity where
  targets := integrity.targets
  floors key stored declared := by
    simp only [Store.putFloor, Table.get_insert] at declared
    split at declared
    next =>
      obtain rfl := Option.some.inj declared
      exact ⟨channel, found, serves⟩
    next => exact integrity.floors key stored declared
  groups := integrity.groups

theorem Integrity.deleteFloor (integrity : store.Integrity) (channelId packageId : String) :
    (store.deleteFloor channelId packageId).Integrity where
  targets := integrity.targets
  floors key stored declared := by
    simp only [Store.deleteFloor, Table.get_erase] at declared
    split at declared
    next => simp at declared
    next => exact integrity.floors key stored declared
  groups := integrity.groups

section Deletions

variable (integrity : store.Integrity) (keyed : store.Keyed) {id : String}
include integrity keyed

theorem group_withoutChannel {channel : Channel} (found : store.channels.get? id = some channel)
    {key : String} {group : Group}
    (kept : (Engine.withoutChannel store channel id).groups.get? key = some group) :
    ∃ earlier, store.groups.get? key = some earlier ∧
      group.applicationId = earlier.applicationId ∧
      ∀ channelId ∈ group.channelId, earlier.channelId = some channelId ∧ channelId ≠ id := by
  rw [withoutChannel_eq] at kept
  rcases Table.get_foldl_insert kept with ⟨earlier, member, own, rfl⟩ | ⟨untouched, stored⟩
  · obtain ⟨⟨key', stored⟩, -⟩ := Table.mem_valuesWhere.mp (List.mem_of_mem_filter member)
    rw [← keyed.groups key' earlier stored, own] at stored
    exact ⟨earlier, stored, rfl, by simp⟩
  · refine ⟨group, stored, rfl, fun channelId attached => ⟨attached, ?_⟩⟩
    rintro rfl
    -- Such a group is one of the channel's application, so it was detached.
    obtain ⟨_, known, own⟩ := integrity.groups key group stored channelId attached
    obtain rfl := Option.some.inj (found.symm.trans known)
    have listed : group ∈ store.groupsOf channel.applicationId :=
      Table.mem_valuesWhere.mpr ⟨⟨key, stored⟩, by simp [own]⟩
    exact untouched group (List.mem_filter.mpr ⟨listed, by simpa using attached⟩)
      (keyed.groups key group stored)

theorem floor_withoutChannel {channel : Channel} {key : String} {floor : Floor}
    (kept : (Engine.withoutChannel store channel id).floors.get? key = some floor) :
    store.floors.get? key = some floor ∧ floor.channelId ≠ id := by
  rw [withoutChannel_eq] at kept
  simp only [Table.get_foldl_erase] at kept
  split at kept
  next => simp at kept
  next unlisted =>
    refine ⟨kept, fun same => unlisted ?_⟩
    -- The listing skips floors without a package; by the relation itself there are none.
    obtain ⟨_, _, package, known, -⟩ := integrity.floors key floor kept
    refine List.mem_map.mpr ⟨{ package, reason := floor.reason }, ?_, ?_⟩
    · exact mem_channelFloors.mpr ⟨floor, Table.mem_values.mpr ⟨key, kept⟩, same, known, rfl⟩
    · rw [keyed.packages floor.packageId package known, ← same]
      exact keyed.floors key floor kept

theorem Integrity.withoutChannel {channel : Channel}
    (found : store.channels.get? id = some channel) :
    (Engine.withoutChannel store channel id).Integrity where
  targets key stored kept packageId targeted := by
    rw [withoutChannel_eq] at kept ⊢
    simp only [Table.get_erase] at kept
    split at kept
    next => simp at kept
    next => exact integrity.targets key stored kept packageId targeted
  floors key floor kept := by
    obtain ⟨declared, elsewhere⟩ := floor_withoutChannel integrity keyed kept
    obtain ⟨stored, known, serves⟩ := integrity.floors key floor declared
    rw [withoutChannel_eq]
    refine ⟨stored, ?_, serves⟩
    simpa only [Table.get_erase, Ne.symm elsewhere, if_false] using known
  groups key group kept channelId attached := by
    obtain ⟨earlier, stored, application, stays⟩ := group_withoutChannel integrity keyed found kept
    obtain ⟨attachedBefore, elsewhere⟩ := stays channelId attached
    obtain ⟨other, known, own⟩ := integrity.groups key earlier stored channelId attachedBefore
    rw [withoutChannel_eq]
    refine ⟨other, ?_, own.trans application.symm⟩
    simpa only [Table.get_erase, Ne.symm elsewhere, if_false] using known

theorem channel_withoutPackage {package : Package} (found : store.packages.get? id = some package)
    {key : String} {channel : Channel}
    (kept : (Engine.withoutPackage store package id).channels.get? key = some channel) :
    ∃ earlier, store.channels.get? key = some earlier ∧
      channel.applicationId = earlier.applicationId ∧
      channel.architecture = earlier.architecture ∧
      ∀ packageId ∈ channel.packageId, earlier.packageId = some packageId ∧ packageId ≠ id := by
  rw [withoutPackage_eq] at kept
  rcases Table.get_foldl_insert kept with ⟨earlier, member, own, rfl⟩ | ⟨untouched, stored⟩
  · obtain ⟨⟨key', stored⟩, -⟩ := Table.mem_valuesWhere.mp (List.mem_of_mem_filter member)
    rw [← keyed.channels key' earlier stored, own] at stored
    exact ⟨earlier, stored, rfl, rfl, by simp⟩
  · refine ⟨channel, stored, rfl, rfl, fun packageId targeted => ⟨targeted, ?_⟩⟩
    rintro rfl
    obtain ⟨_, known, own, -⟩ := integrity.targets key channel stored packageId targeted
    obtain rfl := Option.some.inj (found.symm.trans known)
    have listed : channel ∈ store.channelsOf package.applicationId :=
      Table.mem_valuesWhere.mpr ⟨⟨key, stored⟩, by simp [own]⟩
    exact untouched channel (List.mem_filter.mpr ⟨listed, by simpa using targeted⟩)
      (keyed.channels key channel stored)

theorem channel_survives {package : Package} (found : store.packages.get? id = some package)
    {key : String} {earlier : Channel} (stored : store.channels.get? key = some earlier) :
    ∃ channel, (Engine.withoutPackage store package id).channels.get? key = some channel ∧
      channel.applicationId = earlier.applicationId ∧
      channel.architecture = earlier.architecture := by
  have survives : ((Engine.withoutPackage store package id).channels.get? key).isSome = true := by
    rw [withoutPackage_eq]
    exact Table.isSome_foldl_insert (by rw [stored]; rfl)
  obtain ⟨channel, kept⟩ := Option.isSome_iff_exists.mp survives
  obtain ⟨other, known, application, architecture, -⟩ :=
    channel_withoutPackage integrity keyed found kept
  obtain rfl := Option.some.inj (stored.symm.trans known)
  exact ⟨channel, kept, application, architecture⟩

omit integrity in
theorem floor_withoutPackage {package : Package} {key : String} {floor : Floor}
    (kept : (Engine.withoutPackage store package id).floors.get? key = some floor) :
    store.floors.get? key = some floor ∧ floor.packageId ≠ id := by
  rw [withoutPackage_eq] at kept
  simp only [Table.get_foldl_erase] at kept
  split at kept
  next => simp at kept
  next unlisted =>
    refine ⟨kept, fun same => unlisted ?_⟩
    refine List.mem_map.mpr ⟨floor, Table.mem_valuesWhere.mpr ⟨⟨key, kept⟩, by simp [same]⟩, ?_⟩
    rw [← same]
    exact keyed.floors key floor kept

theorem Integrity.withoutPackage {package : Package}
    (found : store.packages.get? id = some package) :
    (Engine.withoutPackage store package id).Integrity := by
  have serves {channelId applicationId : String} {architecture : Architecture} {packageId : String}
      (elsewhere : packageId ≠ id)
      (served : store.Serves channelId applicationId architecture packageId) :
      (Engine.withoutPackage store package id).Serves channelId applicationId architecture
        packageId := by
    obtain ⟨other, known, fits⟩ := served
    rw [withoutPackage_eq]
    refine ⟨other, ?_, fits⟩
    simpa only [Table.get_erase, Ne.symm elsewhere, if_false] using known
  refine ⟨?_, ?_, ?_⟩
  · intro key channel kept packageId targeted
    obtain ⟨earlier, stored, application, architecture, stays⟩ :=
      channel_withoutPackage integrity keyed found kept
    obtain ⟨targetedBefore, elsewhere⟩ := stays packageId targeted
    rw [application, architecture]
    exact serves elsewhere (integrity.targets key earlier stored packageId targetedBefore)
  · intro key floor kept
    obtain ⟨declared, elsewhere⟩ := floor_withoutPackage keyed kept
    obtain ⟨earlier, stored, served⟩ := integrity.floors key floor declared
    obtain ⟨channel, survives, application, architecture⟩ :=
      channel_survives integrity keyed found stored
    refine ⟨channel, survives, ?_⟩
    rw [application, architecture]
    exact serves elsewhere served
  · intro key group kept channelId attached
    have stored : store.groups.get? key = some group := by
      rw [withoutPackage_eq] at kept
      exact kept
    obtain ⟨earlier, known, own⟩ := integrity.groups key group stored channelId attached
    obtain ⟨channel, survives, application, -⟩ := channel_survives integrity keyed found known
    exact ⟨channel, survives, application.trans own⟩

end Deletions

end Store

theorem Change.integrity {scope : Scope} {store after : Store}
    (change : Change scope store after) (fresh : scope.fresh) (keyed : store.Keyed)
    (integrity : store.Integrity) : after.Integrity := by
  cases change with
  | unchanged => exact integrity
  | teamPut | applicationPut | applicationGone =>
    exact ⟨integrity.targets, integrity.floors, integrity.groups⟩
  | channelCreated _ channel free target =>
    exact integrity.putChannel channel (by simp [free fresh]) target
  | channelUpdated channel existing found application architecture target calm =>
    refine (integrity.putChannel channel ?_ target).of_sameCatalog calm.noted.catalog
    intro other known
    obtain rfl := Option.some.inj (found.symm.trans known)
    exact ⟨application, architecture⟩
  | channelGone id channel found => exact integrity.withoutChannel keyed found
  | packageCreated package free => exact integrity.createPackage package (free fresh)
  | packageUpdated package existing found application blacklist targeting floors =>
    exact integrity.updatePackage keyed package existing found application blacklist targeting
      floors
  | packageGone id package found => exact integrity.withoutPackage keyed found
  | groupCreated _ group _ channel | groupUpdated _ group _ _ _ channel =>
    exact integrity.putGroup group channel
  | groupGone _ id => exact integrity.deleteGroup id
  | floorAdded floor channel found serves => exact integrity.putFloor floor found serves
  | floorRemoved channelId packageId => exact integrity.deleteFloor channelId packageId

theorem Store.Integrity.exclusive {store : Store} (integrity : store.Integrity)
    {channelId packageId : String} {package : Package}
    (found : store.packages.get? packageId = some package)
    (blacklisted : package.isBlacklistedFor channelId = true) :
    (∀ channel, store.channels.get? channelId = some channel →
      channel.packageId ≠ some packageId) ∧
    ∀ floor ∈ store.floors.values,
      ¬ (floor.channelId = channelId ∧ floor.packageId = packageId) := by
  have shut {applicationId : String} {architecture : Architecture} :
      ¬ store.Serves channelId applicationId architecture packageId := by
    rintro ⟨_, known, _, _, permitted⟩
    obtain rfl := Option.some.inj (found.symm.trans known)
    rw [permitted] at blacklisted
    contradiction
  constructor
  · intro channel stored targeted
    exact shut (integrity.targets channelId channel stored packageId targeted)
  · rintro floor member ⟨rfl, rfl⟩
    obtain ⟨key, declared⟩ := Table.mem_values.mp member
    obtain ⟨_, _, served⟩ := integrity.floors key floor declared
    exact shut served

theorem ReachableFresh.integrity {engine : Engine} (reached : ReachableFresh engine) :
    engine.store.Integrity := by
  induction reached with
  | start engine empty =>
    rw [empty]
    exact integrity_empty
  | @step engine operation reached fresh ih =>
    cases serves : operation.isRequest with
    | true =>
      exact ih.of_sameCatalog
        (Operation.run_serves Engine.sameCatalog_keptByStages.parts serves engine).store
    | false => exact (Operation.run_changes serves engine).integrity fresh reached.keyed ih

/--
Whatever was done and in whichever order, all references of the catalog are good if every new
entry got an id of its own.
-/
theorem catalog_integrity {engine : Engine} (reached : ReachableFresh engine) :
    engine.store.Keyed ∧ engine.store.Integrity ∧
      ∀ channelId packageId package, engine.store.packages.get? packageId = some package →
        package.isBlacklistedFor channelId = true →
        (∀ channel, engine.store.channels.get? channelId = some channel →
          channel.packageId ≠ some packageId) ∧
        ∀ floor ∈ engine.store.floors.values,
          ¬ (floor.channelId = channelId ∧ floor.packageId = packageId) :=
  ⟨reached.keyed, reached.integrity, fun _ _ _ found blacklisted =>
    reached.integrity.exclusive found blacklisted⟩

theorem catalog_integrity_smallCatalog :
    ReachableFresh (Operation.runAll {} Operation.smallCatalog) ∧
      (Operation.runAll {} Operation.smallCatalog).store.floors.values.length = 1 ∧
      (Operation.runAll {} Operation.smallCatalog).store.Integrity :=
  have reached : ReachableFresh (Operation.runAll {} Operation.smallCatalog) :=
    (ReachableBy.start {} rfl).runAll (by decide +kernel)
  ⟨reached, by decide +kernel, (catalog_integrity reached).2.1⟩

end FleetRollout

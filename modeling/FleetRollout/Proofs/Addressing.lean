import FleetRollout.Proofs.Names
import Mathlib.Data.List.Induction

set_option autoImplicit false

/-!
What the names in a request lead to. A UUID is the id of an application whatever is stored; any
other name leads to the last application, by id, that has it as its id or as its product id. So an
application or a group answers to its own id only if the id is spelled as names are read, and if no
later application has the id of this one for its product id.
-/

namespace FleetRollout

open Store FleetRollout.Action Identifier

-- The application has that name, as its id or as its product id.
def Application.goesBy (application : Application) (name : String) : Bool :=
  application.id = name || application.productId = some name

namespace Store

/-- Of the applications that go by a name this is the last one by id. -/
structure LastNamed (store : Store) (name : String) (application : Application) : Prop where
  stored : store.applications.get? application.id = some application
  named : application.goesBy name = true
  last : ∀ other ∈ store.applications.values, other.goesBy name = true →
    other.id ≤ application.id

instance (store : Store) (name : String) (application : Application) :
    Decidable (store.LastNamed name application) :=
  decidable_of_iff
    (store.applications.get? application.id = some application ∧
      application.goesBy name = true ∧
        ∀ other ∈ store.applications.values, other.goesBy name = true →
          other.id ≤ application.id)
    ⟨fun ⟨stored, named, last⟩ => ⟨stored, named, last⟩,
      fun known => ⟨known.stored, known.named, known.last⟩⟩

/-- What a client writes for an application leads to that id. -/
def Names (store : Store) (external applicationId : String) : Prop :=
  canonicalUuid external = some applicationId ∨
    canonicalUuid external = none ∧
      ∃ application, store.LastNamed (bare external) application ∧ application.id = applicationId

theorem Names.stored_or_canonical {store : Store} {external applicationId : String}
    (names : store.Names external applicationId) :
    canonicalUuid external = some applicationId ∨
      ∃ application, store.applications.get? applicationId = some application := by
  rcases names with uuid | ⟨-, application, known, rfl⟩
  · exact .inl uuid
  · exact .inr ⟨application, known.stored⟩

end Store

namespace Directory

theorem applicationEntries_find (application : Application) (name : String) :
    List.find? (fun entry => entry.1 = name) (applicationEntries application) =
      if application.goesBy name then some (name, application.id) else none := by
  by_cases own : application.id = name
  · simp [applicationEntries, Application.goesBy, own]
  · cases named : application.productId with
    | none => simp [applicationEntries, Application.goesBy, own, named]
    | some productId =>
      by_cases same : productId = name <;>
        simp [applicationEntries, Application.goesBy, own, named, same]

theorem find_applicationIndex (store : Store) (name : String) :
    (applicationIndex store).find? name =
      (store.applications.values.reverse.find? fun application =>
        application.goesBy name).map Application.id := by
  unfold applicationIndex
  -- Each application is entered in front of those before it, and so is looked at before them.
  induction store.applications.values using List.reverseRecOn with
  | nil => rfl
  | append_singleton earlier application ih =>
    unfold Index.find? at ih ⊢
    rw [List.foldl_append, List.foldl_cons, List.foldl_nil, List.find?_append, Option.map_or, ih,
      applicationEntries_find, List.reverse_append, List.reverse_singleton, List.singleton_append,
      List.find?_cons]
    cases application.goesBy name <;> rfl

theorem find_applicationIndex_iff {store : Store}
    (keyed : store.applications.KeyedBy Application.id) {name applicationId : String} :
    (applicationIndex store).find? name = some applicationId ↔
      ∃ application, store.LastNamed name application ∧ application.id = applicationId := by
  rw [find_applicationIndex, Option.map_eq_some_iff]
  refine exists_congr fun application => and_congr_left fun _ => ?_
  rw [keyed.find_reverse_values]
  exact ⟨fun ⟨stored, named, last⟩ => ⟨stored, named, last⟩, fun known =>
    ⟨known.stored, known.named, known.last⟩⟩

end Directory

namespace Engine

variable {engine : Engine}

theorem resolveApplication_answers_iff (keyed : engine.store.Keyed)
    (finds : engine.FindsApplications) (error : EngineError) {external applicationId : String} :
    ((resolveApplication external error).perform engine).1 = .ok applicationId ↔
      engine.store.Names external applicationId := by
  have looked : ((resolveApplication external error).perform engine).1 = .ok applicationId ↔
      (engine.directory.findApplication engine.store external).1 = some applicationId := by
    rw [resolveApplication, perform_bind_ok (perform_findApplication external engine)]
    cases (engine.directory.findApplication engine.store external).1 <;> simp [Action.require]
  rw [looked, Directory.findApplication, Names]
  cases uuid : canonicalUuid external with
  | some id => simp
  | none =>
    have index : engine.directory.applicationsFor engine.store =
        Directory.applicationIndex engine.store := finds
    simp [index, Directory.find_applicationIndex_iff keyed.applications]

theorem resolveGroup_eq (application external : String) :
    resolveGroup application external = resolveNames application external >>= place := by
  simp only [resolveGroup, resolveNames, place, bind_assoc, pure_bind]

theorem resolveGroup_answers_iff (keyed : engine.store.Keyed)
    (finds : engine.FindsApplications) {application external applicationId : String}
    {group : Group} :
    ((resolveGroup application external).perform engine).1 = .ok (applicationId, group) ↔
      engine.store.Names application applicationId ∧
        engine.store.groups.get? (groupIdOf external) = some group ∧
          group.applicationId = applicationId := by
  rw [← resolveApplication_answers_iff keyed finds .invalidApplicationOrGroup,
    resolveGroup_eq, resolveNames]
  obtain ⟨directory, looked⟩ :=
    sameData_keptByLookups.resolveApplication application .invalidApplicationOrGroup engine
  rcases named : (resolveApplication application .invalidApplicationOrGroup).perform engine with
    ⟨error | id, between⟩
  · rw [perform_bind_error (perform_bind_error named _)]
    simp
  · rw [named] at looked
    obtain rfl : between = { engine with directory } := looked
    rw [perform_bind_ok (by rw [perform_bind_ok named, perform_pure])]
    generalize groupIdOf external = groupId
    constructor
    · intro answered
      obtain ⟨stored, own, rfl, -⟩ := place_ok.mp (perform_of_answer answered)
      exact ⟨rfl, stored, own⟩
    · rintro ⟨same, stored, own⟩
      obtain rfl : id = applicationId := Except.ok.inj same
      have placed : (place (id, groupId)).perform { engine with directory } =
          (.ok (id, group), { engine with directory }) := place_ok.mpr ⟨stored, own, rfl, rfl⟩
      rw [placed]

theorem names_own_iff {store : Store} {application : Application}
    (stored : store.applications.get? application.id = some application) :
    store.Names application.id application.id ↔
      canonicalUuid application.id = some application.id ∨
        canonicalUuid application.id = none ∧
          store.LastNamed (bare application.id) application := by
  rw [Names]
  refine or_congr_right (and_congr_right fun _ => ?_)
  constructor
  · rintro ⟨known, last, same⟩
    have found := last.stored
    rw [same, stored] at found
    obtain rfl : application = known := Option.some.inj found
    exact last
  · exact fun last => ⟨application, last, rfl⟩

theorem get_spelled_iff {store : Store} (keyed : store.groups.KeyedBy Group.id) {group : Group}
    (stored : store.groups.get? group.id = some group) (spelled : String) :
    store.groups.get? spelled = some group ↔ spelled = group.id := by
  constructor
  · intro found
    exact (keyed spelled group found).symm
  · rintro rfl
    exact stored

end Engine

/--
However the engine was used since nothing was looked up, a stored application and a group of it are
found by their own ids exactly if the application's id leads to it and the group's id is spelled as
it is looked up.
-/
theorem found_by_own_ids_iff {start : Engine} (keyed : start.store.Keyed)
    (cold : start.directory = {}) (operations : List Operation) {application : Application}
    {group : Group} :
    let engine := Operation.runAll start operations
    engine.store.applications.get? application.id = some application →
    engine.store.groups.get? group.id = some group → group.applicationId = application.id →
      (((Engine.resolveGroup application.id group.id).perform engine).1 =
          .ok (application.id, group) ↔
        (canonicalUuid application.id = some application.id ∨
          canonicalUuid application.id = none ∧
            engine.store.LastNamed (bare application.id) application) ∧
        Engine.groupIdOf group.id = group.id) := by
  intro engine stored storedGroup own
  have finds := Operation.runAll_findsApplications operations
    (Engine.finds_of_cold keyed cold).applications
  have keyedAfter : engine.store.Keyed := Operation.runAll_keyed operations keyed
  rw [Engine.resolveGroup_answers_iff keyedAfter finds, Engine.names_own_iff stored,
    Engine.get_spelled_iff keyedAfter.groups storedGroup]
  simp [own]

theorem found_by_own_ids_fleet :
    let engine := Operation.runAll {} Operation.smallCatalog
    let agent : Application :=
      { id := "agent", productId := none, name := "Agent", description := "", teamId := "ops"
        createdAt := 0 }
    let fleet : Group :=
      { id := "fleet", name := "Fleet", description := "", applicationId := "agent"
        channelId := some "stable", policy := {}, rolloutInProgress := false, track := "fleet"
        createdAt := 0 }
    Store.empty.Keyed ∧ engine.store.applications.get? "agent" = some agent ∧
      engine.store.groups.get? "fleet" = some fleet ∧
        ((Engine.resolveGroup "agent" "fleet").perform engine).1 = .ok ("agent", fleet) := by
  intro engine agent fleet
  have stored : engine.store.applications.get? agent.id = some agent := by decide +kernel
  have storedGroup : engine.store.groups.get? fleet.id = some fleet := by decide +kernel
  have led : canonicalUuid agent.id = none ∧ engine.store.LastNamed (bare agent.id) agent := by
    decide +kernel
  have spelled : Engine.groupIdOf fleet.id = fleet.id := by decide +kernel
  exact ⟨keyed_empty, stored, storedGroup,
    (found_by_own_ids_iff keyed_empty rfl Operation.smallCatalog stored storedGroup rfl).mpr
      ⟨.inr led, spelled⟩⟩

-- The later application has the id of the earlier one for its product id.
def Operation.shadowed : List Operation :=
  [ .createTeam (some "ops") "Operations",
    .createApplication { id := some "agent", name := "Agent", teamId := "ops" },
    .createApplication
      { id := some "beacon", productId := some "agent", name := "Beacon", teamId := "ops" },
    .createApplication { id := some "\x7bprobe\x7d", name := "Probe", teamId := "ops" },
    .createGroup { id := some "fleet", name := "Fleet", applicationId := "agent" },
    .createGroup { id := some "probes", name := "Probes", applicationId := "\x7bprobe\x7d" } ]

-- Neither an id that a later application goes by nor one that is spelled with braces is found.
theorem not_found_by_own_ids :
    let engine := Operation.runAll {} Operation.shadowed
    ((engine.store.applications.get? "agent").isSome = true ∧
      (engine.store.groups.get? "fleet").map Group.applicationId = some "agent" ∧
      ((Engine.resolveGroup "agent" "fleet").perform engine).1 =
        .error .invalidApplicationOrGroup) ∧
    ((engine.store.applications.get? "\x7bprobe\x7d").isSome = true ∧
      (engine.store.groups.get? "probes").map Group.applicationId = some "\x7bprobe\x7d" ∧
      ((Engine.resolveGroup "\x7bprobe\x7d" "probes").perform engine).1 =
        .error .invalidApplicationOrGroup) := by
  decide +kernel

end FleetRollout

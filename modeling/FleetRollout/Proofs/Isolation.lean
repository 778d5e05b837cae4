import FleetRollout.Proofs.Trace

set_option autoImplicit false

/-!
Whose installation a request changes. It is the one under the key of the instance and the
application that the request is made for. That key is put together from two ids with a colon
between them, and either may have colons of its own: then two installations can share a key, and a
request for the one reads and changes the other.
-/

namespace FleetRollout

open Store FleetRollout.Action

namespace Installation

/-- The id goes on from the other one with a colon. -/
def Extends (applicationId other : String) : Prop :=
  ∃ rest, applicationId = other ++ ":" ++ rest

theorem not_extends_self (applicationId : String) : ¬ Extends applicationId applicationId := by
  rintro ⟨rest, same⟩
  have lengths := congrArg String.length same
  simp only [String.length_append] at lengths
  have colon : ":".length = 1 := rfl
  omega

theorem extends_of_key {shorter longer instanceId otherInstance : String} {middle : List Char}
    (goesOn : longer.toList = shorter.toList ++ middle)
    (key : ":".toList ++ instanceId.toList = middle ++ (":".toList ++ otherInstance.toList)) :
    instanceId = otherInstance ∧ shorter = longer ∨ Extends longer shorter := by
  have colon : ":".toList = [':'] := rfl
  rw [colon] at key
  cases middle with
  | nil =>
    refine .inl ⟨String.toList_inj.mp ?_, String.toList_inj.mp ?_⟩
    · exact List.append_cancel_left key
    · rw [goesOn, List.append_nil]
  | cons first rest =>
    obtain ⟨rfl, -⟩ := List.cons.inj key
    refine .inr ⟨String.ofList rest, String.toList_inj.mp ?_⟩
    rw [goesOn, String.toList_append, String.toList_append, colon, String.toList_ofList,
      List.append_assoc, List.singleton_append]

theorem keyOf_inj {instanceId applicationId otherInstance otherApplication : String}
    (same : keyOf instanceId applicationId = keyOf otherInstance otherApplication) :
    (instanceId = otherInstance ∧ applicationId = otherApplication) ∨
      Extends applicationId otherApplication ∨ Extends otherApplication applicationId := by
  have chars := congrArg String.toList same
  simp only [keyOf, String.toList_append, List.append_assoc] at chars
  -- One of the two application ids is a prefix of the other; what is left begins with the colon.
  rcases List.append_eq_append_iff.mp chars with ⟨middle, goesOn, rest⟩ | ⟨middle, goesOn, rest⟩
  · rcases extends_of_key goesOn rest with equal | longer
    · exact .inl equal
    · exact .inr (.inr longer)
  · rcases extends_of_key goesOn rest with ⟨sameInstance, sameApplication⟩ | longer
    · exact .inl ⟨sameInstance.symm, sameApplication.symm⟩
    · exact .inr (.inl longer)

end Installation

namespace Store

/-- The installation under the key is left alone, and rows stay under their own keys. -/
def LeavesAlone (key : String) (before after : Store) : Prop :=
  before.Keyed → after.Keyed ∧ after.installations.get? key = before.installations.get? key

instance (key : String) : IsPreorder Store (LeavesAlone key) where
  refl _ keyed := ⟨keyed, rfl⟩
  trans _ _ _ head tail keyed :=
    ⟨(tail (head keyed).1).1, (tail (head keyed).1).2.trans (head keyed).2⟩

theorem leavesAlone_rewriteRow {before after : Store} {key other : String}
    {row changed : Installation} {time : Nat} {errorCode : Option String}
    (noted : Noted (before.rewriteRow other row changed time errorCode) after)
    (apart : other ≠ key) :
    after.installations.get? key = before.installations.get? key := by
  rw [noted.fleet.installations, rewriteRow, Table.get_insert, if_neg apart]

end Store

namespace CheckIn

variable {key instanceId applicationId : String} {group : Group}

theorem register_leavesAlone {request : Registration}
    (apart : Installation.keyOf request.instanceId applicationId ≠ key) (now : Nat)
    (groupId : String) :
    Keeps (LeavesAlone key) (register now request applicationId groupId) := by
  intro store keyed
  refine ⟨keyed_register now request applicationId groupId store keyed, ?_⟩
  rcases register_cases now request applicationId groupId store with
    ⟨_, -, refused⟩ | ⟨_, _, -, -, accepted⟩
  · rw [refused]
  · rw [accepted, recordCheckIn_installations, Table.get_insert]
    exact if_neg apart

theorem applyEvent_leavesAlone (apart : Installation.keyOf instanceId applicationId ≠ key)
    (now : Nat) (event : ProgressEvent) :
    Keeps (LeavesAlone key) (applyEvent now applicationId group instanceId event) := by
  intro store keyed
  refine ⟨keyed_applyEvent now applicationId group instanceId event store keyed, ?_⟩
  rcases applyEvent_cases now applicationId group instanceId event store with
    unchanged | ⟨_, _, _, -, -, -, -, -, noted, -⟩
  · rw [unchanged]
  · exact leavesAlone_rewriteRow noted apart

theorem Decision.leavesAlone {config : EngineConfig} {now : Nat} {row : Installation}
    {mode : DeliveryMode} {store after : Store} {result : Except EngineError UpdatePlan}
    (decision : Decision config now group row mode store result after) (apart : row.key ≠ key) :
    after.installations.get? key = store.installations.get? key := by
  cases decision with
  | refused calm => rw [calm.noted.fleet.installations]
  | redelivered => rfl
  | closed _ _ _ noted | granted _ _ _ _ _ noted => exact leavesAlone_rewriteRow noted apart
  | held _ _ _ calm => exact leavesAlone_rewriteRow calm.noted apart

theorem decide_leavesAlone (apart : Installation.keyOf instanceId applicationId ≠ key)
    (config : EngineConfig) (now : Nat) (mode : DeliveryMode) :
    Keeps (LeavesAlone key) (decide config now applicationId group instanceId mode) := by
  intro store keyed
  refine ⟨keyed_decide config now applicationId group instanceId mode store keyed, ?_⟩
  cases found : store.installation? instanceId applicationId with
  | none =>
    unfold decide
    rw [perform_bind_ok (perform_get store), found]
    rfl
  | some row =>
    have own := keyed.installations _ row found
    exact (decide_cases config now applicationId group instanceId mode found own).leavesAlone
      (own ▸ apart)

end CheckIn

namespace Engine

variable {key instanceId applicationId : String} {group : Group}

def attend (request : CheckInRequest) (applicationId : String) (group : Group) :
    Action Engine CheckInResponse := do
  let _ ← onStore
    (CheckIn.register (← get).now (registrationOf request applicationId group) applicationId
      group.id)
  let events ← request.events.mapM (acknowledge applicationId group request.instanceId)
  conclude request applicationId group events

theorem checkIn_attend (request : CheckInRequest) :
    checkIn request = (do
      let (applicationId, group) ← locate request
      attend request applicationId group) := by
  simp only [checkIn, attend, locate, conclude, modeOf, registrationOf, bind_assoc, pure_bind]

theorem attend_leavesAlone {request : CheckInRequest}
    (apart : Installation.keyOf request.instanceId applicationId ≠ key) :
    Keeps (Over (LeavesAlone key)) (attend request applicationId group) :=
  keeps_bind keeps_get fun _ =>
    keeps_bind (keeps_onStore (CheckIn.register_leavesAlone apart _ _)) fun _ =>
      keeps_bind (keeps_reading.events (fun now event =>
        keeps_onStore (CheckIn.applyEvent_leavesAlone apart now event)) request.events) fun acks =>
          keeps_reading.conclude (fun config now _ =>
            keeps_onStore (CheckIn.decide_leavesAlone apart config now _)) acks

theorem located_leavesAlone {α : Type} {locate : Action Engine (String × Group)}
    {next : String × Group → Action Engine α} (keeps : Keeps SameData locate) (engine : Engine)
    (each : ∀ applicationId group, (locate.perform engine).1 = .ok (applicationId, group) →
      Keeps (Over (LeavesAlone key)) (next (applicationId, group))) :
    Over (LeavesAlone key) engine ((locate >>= next).perform engine).2 := by
  have same := over_of_sameData (R := LeavesAlone key) keeps engine
  rw [perform_bind]
  rcases found : locate.perform engine with ⟨error | ⟨applicationId, group⟩, between⟩
  · rw [found] at same
    exact same
  · rw [found] at same
    exact trans_of (Over (LeavesAlone key)) same
      (each applicationId group (by rw [found]) between)

section Located

-- Whatever application is found, the instance's installation of it lies under another key.
def Apart (locate : Action Engine (String × Group)) (engine : Engine) (instanceId key : String) :
    Prop :=
  ∀ applicationId group, (locate.perform engine).1 = .ok (applicationId, group) →
    Installation.keyOf instanceId applicationId ≠ key

variable {engine : Engine}

theorem registerInstance_leavesAlone {request : Registration}
    (apart : Apart (resolveGroup request.applicationId request.groupId) engine
      request.instanceId key) :
    Over (LeavesAlone key) engine ((registerInstance request).perform engine).2 := by
  unfold registerInstance
  refine located_leavesAlone (sameData_keptByLookups.resolveGroup _ _) engine
    fun applicationId group found => ?_
  exact keeps_bind keeps_get fun _ =>
    keeps_onStore (CheckIn.register_leavesAlone (apart applicationId group found) _ _)

theorem updatePlan_leavesAlone {request : Registration} (mode : DeliveryMode)
    (apart : Apart (resolveGroup request.applicationId request.groupId) engine
      request.instanceId key) :
    Over (LeavesAlone key) engine ((updatePlan request mode).perform engine).2 := by
  unfold updatePlan
  refine located_leavesAlone (sameData_keptByLookups.resolveGroup _ _) engine
    fun applicationId group found => ?_
  have own := apart applicationId group found
  exact keeps_bind keeps_get fun _ =>
    keeps_bind (keeps_onStore (CheckIn.register_leavesAlone own _ _)) fun _ =>
      keeps_onStore (CheckIn.decide_leavesAlone own _ _ mode)

theorem registerEvent_leavesAlone {report : EventReport}
    (apart : Apart (resolveGroup report.applicationId report.groupId) engine
      report.instanceId key) :
    Over (LeavesAlone key) engine ((registerEvent report).perform engine).2 := by
  unfold registerEvent
  refine (inspects_check _ _).then_leads (refl_of (Over (LeavesAlone key)) engine) fun _ _ => ?_
  refine located_leavesAlone (sameData_keptByLookups.resolveGroup _ _) engine
    fun applicationId group found => ?_
  exact keeps_bind keeps_get fun _ =>
    keeps_onStore (CheckIn.applyEvent_leavesAlone (apart applicationId group found) _ report.event)

theorem checkIn_leavesAlone {request : CheckInRequest}
    (apart : Apart (locate request) engine request.instanceId key) :
    Over (LeavesAlone key) engine ((checkIn request).perform engine).2 := by
  rw [checkIn_attend]
  exact located_leavesAlone (sameData_keptByLookups.locate request) engine
    fun applicationId group found => attend_leavesAlone (apart applicationId group found)

end Located

end Engine

namespace Operation

-- The action by which a request finds the application and the group it is made for.
def locator : Operation → Action Engine (String × Group)
  | .registerInstance request | .updatePlan request _ | .nextPackage request =>
      Engine.resolveGroup request.applicationId request.groupId
  | .registerEvent report => Engine.resolveGroup report.applicationId report.groupId
  | .checkIn request => Engine.locate request
  | _ => throw .invalidApplicationOrGroup

theorem located_stored {operation : Operation} {engine : Engine} (keyed : engine.store.Keyed)
    {applicationId : String} {group : Group}
    (located : (operation.locator.perform engine).1 = .ok (applicationId, group)) :
    engine.store.groups.get? group.id = some group := by
  have place : Engine.Located engine applicationId group := by
    cases operation with
    | registerInstance | updatePlan | nextPackage | registerEvent =>
      exact Engine.resolveGroup_ok (perform_of_answer located)
    | checkIn => exact Engine.locate_ok (perform_of_answer located)
    | _ => cases located
  obtain ⟨asked, stored⟩ := place.stored
  rwa [keyed.groups asked group stored]

def instanceId? : Operation → Option String
  | .registerInstance request | .updatePlan request _ | .nextPackage request =>
      some request.instanceId
  | .registerEvent report => some report.instanceId
  | .checkIn request => some request.instanceId
  | _ => none

/-- The request is made for that instance of that application. -/
def IsFor (operation : Operation) (engine : Engine) (instanceId applicationId : String) : Prop :=
  operation.instanceId? = some instanceId ∧
    ∃ group, (operation.locator.perform engine).1 = .ok (applicationId, group)

theorem run_leavesAlone {operation : Operation} (serves : operation.isRequest = true)
    {engine : Engine} {key : String}
    (apart : ∀ instanceId applicationId, operation.IsFor engine instanceId applicationId →
      Installation.keyOf instanceId applicationId ≠ key) :
    Engine.Over (LeavesAlone key) engine (operation.run engine) := by
  cases operation with
  | registerInstance request =>
    rw [run]
    exact Engine.registerInstance_leavesAlone fun _ group found => apart _ _ ⟨rfl, group, found⟩
  | updatePlan request mode =>
    rw [run]
    exact Engine.updatePlan_leavesAlone mode fun _ group found => apart _ _ ⟨rfl, group, found⟩
  | nextPackage request =>
    rw [run_nextPackage, run]
    exact Engine.updatePlan_leavesAlone .single fun _ group found => apart _ _ ⟨rfl, group, found⟩
  | registerEvent report =>
    rw [run]
    exact Engine.registerEvent_leavesAlone fun _ group found => apart _ _ ⟨rfl, group, found⟩
  | checkIn request =>
    rw [run]
    exact Engine.checkIn_leavesAlone fun _ group found => apart _ _ ⟨rfl, group, found⟩
  | _ => simp [isRequest] at serves

/--
A request for an instance of an application leaves every other installation alone, unless the ids
of the two applications extend one another with a colon.
-/
theorem request_isolated {engine : Engine} (reached : Reachable engine) {operation : Operation}
    (serves : operation.isRequest = true) {instanceId applicationId : String}
    (other : ¬ operation.IsFor engine instanceId applicationId)
    (unlike : ∀ served ownApplication, operation.IsFor engine served ownApplication →
      ¬ Installation.Extends applicationId ownApplication ∧
        ¬ Installation.Extends ownApplication applicationId) :
    (operation.run engine).store.installation? instanceId applicationId =
      engine.store.installation? instanceId applicationId := by
  refine ((run_leavesAlone serves fun served ownApplication own same => ?_).store
    reached.keyed).2
  obtain ⟨apart, alsoApart⟩ := unlike served ownApplication own
  rcases Installation.keyOf_inj same with ⟨rfl, rfl⟩ | longer | longer
  · exact other own
  · exact alsoApart longer
  · exact apart longer

theorem request_isolated_neighbours :
    let engine := runAll (runAll {} smallCatalog) [.updatePlan .firstContact .single]
    let request := updatePlan { Registration.firstContact with instanceId := "other" } .single
    (request.run engine).store.installation? "host" "agent" =
        engine.store.installation? "host" "agent" ∧
      (engine.store.installation? "host" "agent").map (·.status) = some .updateGranted := by
  intro engine request
  have reached : Reachable engine :=
    ((ReachableBy.start {} rfl).runAll (by decide +kernel)).runAll (by decide +kernel)
  have located : ((request.locator.perform engine).1.toOption).map Prod.fst = some "agent" := by
    decide +kernel
  refine ⟨request_isolated reached rfl (by simp [IsFor, instanceId?, request]) ?_,
    by decide +kernel⟩
  rintro served ownApplication ⟨-, group, found⟩
  rw [found] at located
  obtain rfl := Option.some.inj located
  exact ⟨Installation.not_extends_self _, Installation.not_extends_self _⟩

-- The id of the one application is that of the other with a colon and more.
def sharedKey : List Operation :=
  [ .createTeam (some "ops") "Operations",
    .createApplication { id := some "a", name := "Short", teamId := "ops" },
    .createApplication { id := some "a:b", name := "Long", teamId := "ops" },
    .createGroup { id := some "short", name := "Short", applicationId := "a" },
    .createGroup { id := some "long", name := "Long", applicationId := "a:b" },
    .registerInstance
      { instanceId := "c", ip := "10.0.0.1", version := "1.0.0", applicationId := "a:b"
        groupId := "long" } ]

-- An instance of the one application takes over the installation of the other.
theorem request_not_isolated :
    let engine := runAll {} sharedKey
    let request := registerInstance
      { instanceId := "b:c", ip := "10.0.0.2", version := "9.0.0", applicationId := "a"
        groupId := "short" }
    Reachable engine ∧ request.isRequest = true ∧ ¬ request.IsFor engine "c" "a:b" ∧
      (engine.store.installation? "c" "a:b").map (fun row => (row.groupId, row.version)) =
        some ("long", "1.0.0") ∧
      ((request.run engine).store.installation? "c" "a:b").map
          (fun row => (row.groupId, row.version)) = some ("short", "9.0.0") := by
  intro engine request
  exact ⟨(ReachableBy.start {} rfl).runAll (by decide +kernel), rfl,
    by simp [IsFor, instanceId?, request], by decide +kernel, by decide +kernel⟩

end Operation

end FleetRollout

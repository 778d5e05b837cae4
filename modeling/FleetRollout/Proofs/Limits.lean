import FleetRollout.Proofs.Trace

set_option autoImplicit false

/-!
The limits of a group: its policy but for the switch that requests may turn off. Nobody but an
administrator who works on the group's own record changes them, and whoever is admitted to an
update finds the counters below them.
-/

namespace FleetRollout

open Store FleetRollout.Action

def Group.limits (group : Group) : Policy :=
  { group.policy with updatesEnabled := false }

def Store.limitsOf (store : Store) (groupId : String) : Option Policy :=
  (store.groups.get? groupId).map Group.limits

namespace Operation

def isOnGroups : Operation → Bool
  | .createGroup _ | .updateGroup _ | .deleteGroup _ => true
  | _ => false

/-- The operation creates, updates or deletes the record of the group. -/
def rewritesGroup (groupId : String) (engine : Engine) (operation : Operation) : Bool :=
  operation.isOnGroups &&
    (operation.run engine).store.groups.get? groupId != engine.store.groups.get? groupId

end Operation

namespace Store

variable {store after : Store}

theorem SameCatalog.limitsOf (same : SameCatalog store after) (groupId : String) :
    after.limitsOf groupId = store.limitsOf groupId := by
  have setups := congrArg (Option.map Group.limits) (same.groups groupId)
  rwa [Option.map_map, Option.map_map] at setups

end Store

theorem Change.limitsOf {scope : Scope} {store after : Store} (change : Change scope store after)
    (keyed : store.Keyed) (unedited : ¬ scope.editsGroups) (unmade : ¬ scope.makesGroups)
    (groupId : String) : after.limitsOf groupId = store.limitsOf groupId := by
  cases change with
  | channelUpdated _ _ _ _ _ _ calm => exact calm.noted.catalog.limitsOf groupId
  | channelGone id channel =>
    exact map_withoutChannel Group.limits (fun _ => rfl) keyed.groups channel id groupId
  | packageGone id package =>
    rw [withoutPackage_eq]
    rfl
  | groupCreated made => exact absurd made unmade
  | groupUpdated edited => exact absurd edited unedited
  | groupGone made => exact absurd made unmade
  | _ => rfl

def Engine.SameLimits (groupId : String) (before after : Engine) : Prop :=
  after.store.limitsOf groupId = before.store.limitsOf groupId

instance (groupId : String) : IsPreorder Engine (Engine.SameLimits groupId) where
  refl _ := rfl
  trans _ _ _ head tail := Eq.trans tail head

namespace Operation

variable {groupId : String}

theorem request_sameLimits {operation : Operation} (serves : operation.isRequest = true)
    (engine : Engine) : Engine.SameLimits groupId engine (operation.run engine) :=
  (run_serves Engine.sameCatalog_keptByStages.parts serves engine).store.limitsOf groupId

theorem run_sameLimits {engine : Engine} (keyed : engine.store.Keyed) {operation : Operation}
    (spared : operation.rewritesGroup groupId engine = false) :
    Engine.SameLimits groupId engine (operation.run engine) := by
  cases serves : operation.isRequest with
  | true => exact request_sameLimits serves engine
  | false =>
    cases onGroups : operation.isOnGroups with
    | true =>
      refine congrArg (Option.map Group.limits) ?_
      simpa [rewritesGroup, onGroups] using spared
    | false =>
      refine (run_changes serves engine).limitsOf keyed ?_ ?_ groupId
      · cases operation <;> simp_all [isOnGroups, scope, editsGroups]
      · cases operation <;> simp_all [isOnGroups, scope, makesGroups]

theorem trace_sameLimits {start : Engine} (reached : Reachable start) {operations : List Operation}
    (spared : AllowedRun (fun engine operation => operation.rewritesGroup groupId engine = false)
      start operations) :
    ∀ step ∈ trace start operations,
      Engine.SameLimits groupId start step.before ∧ Engine.SameLimits groupId start step.after := by
  induction operations generalizing start with
  | nil => simp [trace]
  | cons operation rest ih =>
    have kept := run_sameLimits reached.keyed spared.1
    intro step member
    rcases List.mem_append.mp member with during | later
    · exact forall_moments (refl_of (Engine.SameLimits groupId) start) kept
        (fun other serves => request_sameLimits serves start) step during
    · obtain ⟨before, after⟩ := ih (reached.step operation trivial) spared.2 step later
      exact ⟨trans_of (Engine.SameLimits groupId) kept before,
        trans_of (Engine.SameLimits groupId) kept after⟩

end Operation

/-- Grants are counted, and the count is bounded by the updates allowed per period. -/
structure Policy.Counts (policy : Policy) : Prop where
  needed : policy.needsCounters = true
  bounds : 1 ≤ policy.maxUpdatesPerPeriod ∨ policy.safeMode = false

theorem Policy.Counts.limit_le {policy : Policy} (counts : policy.Counts)
    (counters : UpdateCounters) : policy.limit counters ≤ policy.maxUpdatesPerPeriod := by
  unfold Policy.limit
  split
  next first =>
    rcases counts.bounds with positive | unguarded
    · exact positive
    · simp [unguarded] at first
  next => exact Nat.le_refl _

theorem Policy.Counts.below {policy : Policy} (counts : policy.Counts) {counters : UpdateCounters}
    (admitted : policy.refusal? counters = none) :
    counters.grantedInPeriod < policy.maxUpdatesPerPeriod ∧
      counters.inProgress < policy.maxUpdatesPerPeriod := by
  have most := counts.limit_le counters
  simp only [Policy.refusal?] at admitted
  split_ifs at admitted with period running late
  omega

/-- An update is in progress that was granted at most that long ago. -/
def Installation.isRunning (row : Installation) (timeoutSeconds now : Nat) : Bool :=
  row.inProgress && row.grantedAt.any (now - · ≤ timeoutSeconds)

theorem CounterQuery.isRunning_eq (query : CounterQuery) (row : Installation) :
    query.isRunning row = row.isRunning query.timeoutSeconds query.now := by
  have onTime (time : Nat) :
      (!query.isLate time) = decide (query.now - time ≤ query.timeoutSeconds) := by
    rw [Bool.eq_iff_iff]
    simp [CounterQuery.isLate]
  simp only [CounterQuery.isRunning, onTime, Installation.isRunning]

def Installation.isOf (row : Installation) (groupId : String) : Bool :=
  !Identifier.isSynthetic row.instanceId && row.groupId == groupId

namespace Store

theorem countP_fleet (store : Store) (groupId : String) (keep : Installation → Bool) :
    (store.fleet groupId).countP keep =
      store.installations.values.countP fun row => keep row && row.isOf groupId := by
  rw [fleet, List.countP_filter, installationsOf, Table.valuesWhere, List.countP_filter]
  exact congrFun (congrArg List.countP (funext fun row => Bool.and_assoc _ _ _)) _

-- How many of the fleet had their last grant at that time or later.
def grantedSince (store : Store) (groupId : String) (time : Nat) : Nat :=
  (store.fleet groupId).countP fun row => row.grantedAt.any (time ≤ ·)

def running (store : Store) (groupId : String) (timeoutSeconds now : Nat) : Nat :=
  (store.fleet groupId).countP fun row => row.isRunning timeoutSeconds now

theorem updateCounters_running (store : Store) (group : Group) (version : String) (now : Nat) :
    (store.updateCounters (group.counterQuery version now)).inProgress =
      store.running group.id group.policy.timeoutSeconds now := by
  unfold running
  simp only [updateCounters, funext (CounterQuery.isRunning_eq _), Group.counterQuery]

end Store

/-- The policy of the group as it is stored admits an update now. -/
def Engine.Admits (groupId : String) (engine : Engine) : Prop :=
  ∃ group version, engine.store.groups.get? groupId = some group ∧
    (enforcePolicy group version engine.now).perform engine.store = (.ok (), engine.store)

theorem Engine.Admits.below {engine : Engine} {limits : Policy} {groupId : String}
    (admits : engine.Admits groupId) (keyed : engine.store.Keyed)
    (same : engine.store.limitsOf groupId = some limits) (counts : limits.Counts) :
    engine.store.grantedSince groupId (engine.now - limits.periodSeconds) <
        limits.maxUpdatesPerPeriod ∧
      engine.store.running groupId limits.timeoutSeconds engine.now <
        limits.maxUpdatesPerPeriod := by
  obtain ⟨group, version, stored, admitted⟩ := admits
  obtain rfl : group.id = groupId := keyed.groups _ group stored
  rw [limitsOf, stored, Option.map_some, Option.some.injEq] at same
  subst same
  have below := counts.below ((enforcePolicy_ok.mp admitted).2.2 counts.needed)
  rwa [updateCounters_running] at below

theorem CheckIn.Asks.admits {engine : Engine} {row : Installation} {group : Group}
    {channel : Channel} {target : Package} (asks : Asks engine.store row group channel target)
    (admitted : (enforcePolicy group target.version engine.now).perform engine.store =
      (.ok (), engine.store)) : engine.Admits row.groupId :=
  ⟨group, target.version, asks.stored, admitted⟩

def Group.oneByOne : Group :=
  { id := "fleet"
    name := "Fleet"
    description := ""
    applicationId := "agent"
    channelId := some "stable"
    policy := { safeMode := false, maxUpdatesPerPeriod := 1 }
    rolloutInProgress := false
    track := "fleet"
    createdAt := 0 }

def Operation.limitedCatalog : List Operation :=
  smallCatalog ++ [.updateGroup .oneByOne]

end FleetRollout

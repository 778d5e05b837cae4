import FleetRollout.Proofs.Path

set_option autoImplicit false

/-!
Safe mode. As long as no attempt at a group's target has ended, at most one instance of its fleet
was granted the target, in whatever order requests come in and however long they take. The instance
that was granted it stays under way, and as such it is counted as running or as timed out; either
count is enough for the policy to refuse everyone else.
-/

namespace FleetRollout

open Store FleetRollout.Action

namespace Version

-- As the counters compare: a target that can be read by its triple, another one by its text.
def meets (target version : String) : Bool :=
  match parse? target with
  | none => version == target
  | some target =>
      match parse? version with
      | some version => version.sameTriple target
      | none => false

theorem meets_self (target : String) : meets target target = true := by
  unfold meets
  cases parse? target with
  | none => exact beq_self_eq_true target
  | some version => exact (sameTriple_iff version version).mpr ⟨rfl, rfl, rfl⟩

theorem meets_eq {target version : String} (met : meets target version = true) (other : String) :
    meets version other = meets target other := by
  unfold meets at met ⊢
  cases wanted : parse? target with
  | none =>
    simp only [wanted] at met
    rw [eq_of_beq met, wanted]
  | some target =>
    cases found : parse? version with
    | none => simp [wanted, found] at met
    | some version =>
      simp only [wanted, found] at met ⊢
      cases parse? other with
      | none => rfl
      | some other =>
        rw [Bool.eq_iff_iff]
        constructor
        · intro same
          exact sameTriple_trans same met
        · intro same
          exact sameTriple_trans same (by rwa [sameTriple_comm])

end Version

def Installation.isTowards (row : Installation) (target : String) : Bool :=
  row.countedTarget.any (Version.meets target)

theorem CounterQuery.countsTowards_eq (query : CounterQuery) (row : Installation) :
    query.countsTowards row = row.isTowards query.version := rfl

theorem Installation.isTowards_eq {target version : String}
    (met : Version.meets target version = true) (row : Installation) :
    row.isTowards version = row.isTowards target := by
  unfold isTowards
  rw [funext (Version.meets_eq met)]

/-- It was granted the target, and the attempt is under way. -/
structure Installation.IsTrying (row : Installation) (target : String) : Prop where
  towards : row.isTowards target = true
  inFlight : row.status.isInFlight = true
  inProgress : row.inProgress = true
  granted : row.grantedAt.isSome = true

theorem Installation.IsTrying.seen {row : Installation} {target : String} {sighting : Sighting}
    (trying : row.IsTrying target) (remains : (row.seen sighting).groupId = row.groupId) :
    (row.seen sighting).IsTrying target := by
  unfold Installation.seen at remains ⊢
  split
  next => exact ⟨trying.towards, trying.inFlight, trying.inProgress, trying.granted⟩
  next left => exact absurd remains.symm (by simp [left])

namespace Store

/-- How often installations of the fleet were granted an update, as history tells. -/
def grantsIn (store : Store) (groupId : String) : Nat :=
  store.history.countP fun entry =>
    entry.groupId = groupId && entry.status = .updateGranted &&
      !Identifier.isSynthetic entry.instanceId

/-- Some attempt of the fleet at the target ended, well or badly. -/
def isAttempted (store : Store) (groupId target : String) : Bool :=
  (store.fleet groupId).any fun row => row.isTowards target && row.status.isTerminal

/-- The group is in safe mode, and its channel has no target but that one. -/
def isGuarded (store : Store) (groupId target : String) : Bool :=
  (store.groups.get? groupId).all fun group =>
    group.policy.safeMode && (CheckIn.groupTarget? store group).all fun (_, package) =>
      Version.meets target package.version

/-- No installation of the fleet left its group. -/
def keepsFleet (groupId : String) (before after : Store) : Bool :=
  (before.fleet groupId).all fun row =>
    (after.installations.get? row.key).any fun current => current.groupId = groupId

end Store

theorem Policy.refusal_none {policy : Policy} {counters : UpdateCounters}
    (safe : policy.safeMode = true) (first : counters.attempted = 0)
    (admitted : policy.refusal? counters = none) :
    counters.inProgress = 0 ∧ counters.timedOut = 0 := by
  have limit : policy.limit counters = 1 := by simp [Policy.limit, safe, first]
  simp only [Policy.refusal?, limit, safe, Bool.true_and, decide_eq_true_eq] at admitted
  split_ifs at admitted with period running late
  omega

section Refusal

variable {store : Store} {group : Group} {target version : String} {now : Nat} {row : Installation}

theorem attempted_eq_zero (met : Version.meets target version = true)
    (unended : store.isAttempted group.id target = false) :
    (store.updateCounters (group.counterQuery version now)).attempted = 0 := by
  refine List.countP_eq_zero.mpr fun row member => ?_
  have going := List.any_eq_false.mp unended row member
  rwa [CounterQuery.isAttempt, CounterQuery.countsTowards_eq, Group.counterQuery,
    row.isTowards_eq met]

theorem counted_of_isTrying (member : row ∈ store.fleet group.id) (trying : row.IsTrying target) :
    0 < (store.updateCounters (group.counterQuery version now)).inProgress ∨
      0 < (store.updateCounters (group.counterQuery version now)).timedOut := by
  obtain ⟨time, granted⟩ := Option.isSome_iff_exists.mp trying.granted
  cases late : (group.counterQuery version now).isLate time with
  | false =>
    refine .inl (List.countP_pos_iff.mpr ⟨row, member, ?_⟩)
    simp [CounterQuery.isRunning, trying.inProgress, granted, late]
  | true =>
    refine .inr (List.countP_pos_iff.mpr ⟨row, member, ?_⟩)
    simp [CounterQuery.isTimedOut, trying.inProgress, granted, late]

theorem not_admitted (safe : group.policy.safeMode = true)
    (met : Version.meets target version = true)
    (unended : store.isAttempted group.id target = false)
    (member : row ∈ store.fleet group.id) (trying : row.IsTrying target) :
    (enforcePolicy group version now).perform store ≠ (.ok (), store) := by
  intro admitted
  have counts : group.policy.needsCounters = true := by simp [Policy.needsCounters, safe]
  obtain ⟨onTime, late⟩ := Policy.refusal_none safe (attempted_eq_zero met unended)
    ((enforcePolicy_ok.mp admitted).2.2 counts)
  rcases counted_of_isTrying member trying with running | timedOut
  · exact running.ne' onTime
  · exact timedOut.ne' late

end Refusal

namespace Store

-- At most one grant beyond those, and then by an installation that is trying or has ended.
def OneAhead (groupId target : String) (grants : Nat) (store : Store) : Prop :=
  store.grantsIn groupId ≤ grants ∨
    store.grantsIn groupId ≤ grants + 1 ∧
      ∃ row ∈ store.fleet groupId,
        row.IsTrying target ∨ row.isTowards target = true ∧ row.status.isTerminal = true

section Step

variable {before after : Store} {groupId target : String} {row : Installation}

theorem SameFleet.grantsIn (same : SameFleet before after) :
    after.grantsIn groupId = before.grantsIn groupId := by
  rw [Store.grantsIn, Store.grantsIn, same.history]

theorem grantsIn_rewriteRow (key : String) (row changed : Installation) (time : Nat)
    (errorCode : Option String) :
    (before.rewriteRow key row changed time errorCode).grantsIn groupId =
      before.grantsIn groupId +
        if row.status ≠ changed.status ∧ changed.groupId = groupId ∧
            changed.status = .updateGranted ∧ Identifier.isSynthetic changed.instanceId = false
        then 1 else 0 := by
  unfold grantsIn rewriteRow
  by_cases same : row.status = changed.status
  · simp [same]
  · simp [same, List.countP_append, List.countP_singleton, Installation.historyEntry, and_assoc]

theorem Keyed.mem_fleet_insert (keyed : before.Keyed) (afterKeyed : after.Keyed) {key : String}
    {changed : Installation}
    (written : after.installations = before.installations.insert key changed)
    (member : row ∈ before.fleet groupId) (other : key ≠ row.key) : row ∈ after.fleet groupId := by
  obtain ⟨found, place⟩ := keyed.mem_fleet.mp member
  refine afterKeyed.mem_fleet.mpr ⟨?_, place⟩
  rwa [written, Table.get_insert, if_neg other]

theorem FleetStep.grants (step : FleetStep before after) (afterKeyed : after.Keyed)
    (groupId : String) :
    after.grantsIn groupId = before.grantsIn groupId ∨
    after.grantsIn groupId = before.grantsIn groupId + 1 ∧
      ∃ group channel target now, before.groups.get? groupId = some group ∧
        CheckIn.groupTarget? before group = some (channel, target) ∧
        (enforcePolicy group target.version now).perform before = (.ok (), before) ∧
        ∃ row ∈ after.fleet groupId, row.IsTrying target.version := by
  cases step with
  | same fleet => exact .inl fleet.grantsIn
  | sighted sighting installations history =>
    exact .inl (by rw [grantsIn, history, grantsIn])
  | moved row next time errorCode found ungranted leads fleet =>
    refine .inl ?_
    rw [fleet.grantsIn, grantsIn_rewriteRow, if_neg, Nat.add_zero]
    rintro ⟨-, -, granted, -⟩
    exact ungranted granted
  | granted row group channel target version now found stored targeted idle admitted fleet =>
    rw [fleet.grantsIn, grantsIn_rewriteRow]
    split
    next counted =>
      obtain ⟨-, member, -, real⟩ := counted
      refine .inr ⟨rfl, group, channel, target, now, ?_, targeted, admitted,
        row.granted (row.grantOf version target.version now), ?_, ?_⟩
      · rw [← member]
        exact stored
      · refine afterKeyed.mem_fleet.mpr ⟨?_, member, real⟩
        rw [fleet.installations, rewriteRow, Table.get_insert, if_pos (row.granted_key _).symm]
      · exact
          { towards := Version.meets_self target.version
            inFlight := rfl
            inProgress := rfl
            granted := rfl }
    next => exact .inl (Nat.add_zero _)

theorem FleetStep.trying (step : FleetStep before after) (keyed : before.Keyed)
    (afterKeyed : after.Keyed) (stays : keepsFleet groupId before after = true)
    (member : row ∈ before.fleet groupId) (trying : row.IsTrying target) :
    ∃ later ∈ after.fleet groupId,
      later.IsTrying target ∨ later.isTowards target = true ∧ later.status.isTerminal = true := by
  obtain ⟨found, place⟩ := keyed.mem_fleet.mp member
  cases step with
  | same fleet =>
    refine ⟨row, afterKeyed.mem_fleet.mpr ⟨?_, place⟩, .inl trying⟩
    rwa [fleet.installations]
  | sighted sighting installations history =>
    by_cases own : Installation.keyOf sighting.instanceId sighting.applicationId = row.key
    case neg =>
      exact ⟨row, keyed.mem_fleet_insert afterKeyed installations member own, .inl trying⟩
    case pos =>
      have seen : before.sighted sighting = row.seen sighting := by
        rw [Store.sighted, installation?, own, found]
      have current : after.installations.get? row.key = some (row.seen sighting) := by
        rw [installations, Table.get_insert, if_pos own, seen]
      -- Only a sighting in another group would end the attempt without a trace.
      have remains : (row.seen sighting).groupId = groupId := by
        have kept := List.all_eq_true.mp stays row member
        simpa [current] using kept
      refine ⟨row.seen sighting, afterKeyed.mem_fleet.mpr ⟨?_, remains, ?_⟩,
        .inl (trying.seen (remains.trans place.1.symm))⟩
      · rwa [row.seen_key]
      · rw [row.seen_instanceId]
        exact place.2
  | moved other next time errorCode stored ungranted leads fleet =>
    have written : after.installations = before.installations.insert other.key (other.moved next) :=
      fleet.installations
    by_cases own : other.key = row.key
    case neg => exact ⟨row, keyed.mem_fleet_insert afterKeyed written member own, .inl trying⟩
    case pos =>
      rw [own, found] at stored
      obtain rfl := Option.some.inj stored
      refine ⟨row.moved next, afterKeyed.mem_fleet.mpr ⟨?_, place⟩, ?_⟩
      · rw [written, Table.get_insert, if_pos (row.moved_key next).symm]
      -- Events move it along or end it, and a hold is for those that are idle.
      · rcases leads with inFlight | ended | idle
        · exact .inl ⟨trying.towards, inFlight, inFlight, trying.granted⟩
        · exact .inr ⟨trying.towards, ended⟩
        · exact absurd trying.inFlight (by simp [idle])
  | granted other _ _ _ _ _ stored _ _ idle _ fleet =>
    by_cases own : other.key = row.key
    case neg =>
      exact ⟨row, keyed.mem_fleet_insert afterKeyed fleet.installations member own, .inl trying⟩
    case pos =>
      rw [own, found] at stored
      obtain rfl := Option.some.inj stored
      exact absurd trying.inFlight (by simp [idle])

theorem isGuarded_iff {store : Store} :
    store.isGuarded groupId target = true ↔ ∀ group, store.groups.get? groupId = some group →
      group.policy.safeMode = true ∧
        ∀ channel package, CheckIn.groupTarget? store group = some (channel, package) →
          Version.meets target package.version = true := by
  simp [isGuarded, Option.all_eq_true]

theorem OneAhead.step {grants : Nat} (ahead : OneAhead groupId target grants before)
    (keyed : before.Keyed) (afterKeyed : after.Keyed) (step : FleetStep before after)
    (guarded : before.isGuarded groupId target = true)
    (stays : keepsFleet groupId before after = true)
    (unended : before.isAttempted groupId target = false) :
    OneAhead groupId target grants after := by
  -- Nobody has ended, so whoever was granted the one update is still trying.
  have going : before.grantsIn groupId ≤ grants ∨ before.grantsIn groupId ≤ grants + 1 ∧
      ∃ row ∈ before.fleet groupId, row.IsTrying target := by
    rcases ahead with unused | ⟨one, row, member, trying | ended⟩
    · exact .inl unused
    · exact .inr ⟨one, row, member, trying⟩
    · exact absurd ((Bool.and_eq_true _ _).mpr ended) (List.any_eq_false.mp unended row member)
  rcases step.grants afterKeyed groupId with
    quiet | ⟨counted, group, channel, package, now, stored, targeted, admitted, row, member, trying⟩
  · rcases going with unused | ⟨one, row, member, trying⟩
    · exact .inl (quiet.trans_le unused)
    · exact .inr ⟨quiet.trans_le one, step.trying keyed afterKeyed stays member trying⟩
  · obtain ⟨safe, targets⟩ := isGuarded_iff.mp guarded group stored
    have met := targets channel package targeted
    rcases going with unused | ⟨-, other, present, busy⟩
    · exact .inr ⟨by omega, row, member, .inl { trying with
        towards := (row.isTowards_eq met).symm.trans trying.towards }⟩
    · have own : group.id = groupId := keyed.groups _ group stored
      subst own
      exact absurd admitted (not_admitted safe met unended present busy)

end Step

end Store

theorem isChain_last {α : Type} {R : α → α → Prop} {walk front : List α} {before after : α}
    (chain : walk.IsChain R) (upTo : front ++ [before] ++ [after] <+: walk) : R before after := by
  obtain ⟨rest, rfl⟩ := upTo
  rw [List.append_assoc, List.append_assoc] at chain
  exact (List.isChain_cons_cons.mp (List.isChain_split.mp chain).2).1

theorem holds_upTo {α : Type} {P Q : α → Prop} {first last : α} {rest front : List α}
    (chain : (first :: rest).IsChain fun before after => Q before → P before → P after)
    (begins : P first) (upTo : front ++ [last] <+: first :: rest)
    (still : ∀ state ∈ front, Q state) : P last := by
  induction front generalizing first rest with
  | nil =>
    obtain rfl : last = first := by simpa using upTo
    exact begins
  | cons state others ih =>
    obtain ⟨rfl, onward⟩ := List.cons_prefix_cons.mp upTo
    obtain ⟨holds, others⟩ := List.forall_mem_cons.mp still
    cases rest with
    | nil => simp at onward
    | cons next rest =>
      obtain ⟨step, chain⟩ := List.isChain_cons_cons.mp chain
      exact ih chain (step holds begins) onward others

section Run

variable {start : Engine} {operations : List Operation} {groupId target : String}

theorem oneAhead_path (reached : Reachable start)
    (guarded : ∀ moment ∈ Operation.path start operations,
      moment.store.isGuarded groupId target = true)
    (stays : (Operation.path start operations).IsChain fun before after =>
      keepsFleet groupId before.store after.store = true)
    {front : List Engine} {moment : Engine}
    (upTo : front ++ [moment] <+: Operation.path start operations)
    (unended : ∀ earlier ∈ front, earlier.store.isAttempted groupId target = false) :
    OneAhead groupId target (start.store.grantsIn groupId) moment.store := by
  -- From the start of the path on; each moment follows from the one right before it.
  induction front using List.reverseRecOn generalizing moment with
  | nil =>
    obtain ⟨rest, head⟩ := Operation.path_head start operations
    rw [head] at upTo
    obtain rfl : moment = start := by simpa using upTo
    exact .inl le_rfl
  | append_singleton earlier before ih =>
    have shorter : earlier ++ [before] <+: Operation.path start operations :=
      (List.prefix_append _ _).trans upTo
    have beforeOn := shorter.subset (List.mem_append_right earlier (List.mem_singleton_self before))
    have momentOn := upTo.subset (List.mem_append_right _ (List.mem_singleton_self moment))
    have step := isChain_last (Operation.isChain_path reached operations) upTo
    have kept := isChain_last stays upTo
    exact (ih shorter fun state member => unended state (List.mem_append_left _ member)).step
      (Operation.reachable_path reached beforeOn).keyed
      (Operation.reachable_path reached momentOn).keyed
      step (guarded before beforeOn) kept
      (unended before (List.mem_append_right earlier (List.mem_singleton_self before)))

/--
While the group stays in safe mode with one target and nobody leaves its fleet, at most one grant is
made before an attempt at the target has ended.
-/
theorem canary_goes_alone (reached : Reachable start)
    (guarded : ∀ moment ∈ Operation.path start operations,
      moment.store.isGuarded groupId target = true)
    (stays : (Operation.path start operations).IsChain fun before after =>
      keepsFleet groupId before.store after.store = true)
    {front : List Engine} {moment : Engine}
    (upTo : front ++ [moment] <+: Operation.path start operations)
    (unended : ∀ earlier ∈ front, earlier.store.isAttempted groupId target = false) :
    moment.store.grantsIn groupId ≤ start.store.grantsIn groupId + 1 := by
  rcases oneAhead_path reached guarded stays upTo unended with unused | ⟨one, -⟩
  · exact unused.trans (Nat.le_succ _)
  · exact one

end Run

-- One instance is granted the small catalog's target and is slow; another one asks meanwhile.
def Operation.slowCanary : List Operation :=
  [ .updatePlan .firstContact .single,
    .checkIn
      { instanceId := "host", ip := "10.0.0.1", version := "1.0.0", applicationId := "agent"
        track := "fleet", architecture := "amd64", events := [{ kind := 13, result := 1 }] },
    .advance 7200,
    .updatePlan { Registration.firstContact with instanceId := "other" } .single ]

theorem canary_goes_alone_slowCanary :
    let start := Operation.runAll {} Operation.smallCatalog
    let last := Operation.runAll start Operation.slowCanary
    last.store.grantsIn "fleet" ≤ start.store.grantsIn "fleet" + 1 ∧
      (last.store.installation? "host" "agent").map (·.status) = some .downloading ∧
      (last.store.installation? "other" "agent").map (·.status) = some .onHold := by
  intro start last
  have reached : Reachable start := (ReachableBy.start {} rfl).runAll (by decide +kernel)
  have guarded : ∀ moment ∈ Operation.path start Operation.slowCanary,
      moment.store.isGuarded "fleet" "3.0.0" = true := by decide +kernel
  have stays : (Operation.path start Operation.slowCanary).IsChain fun before after =>
      keepsFleet "fleet" before.store after.store = true := by decide +kernel
  have upTo : (Operation.path start Operation.slowCanary).dropLast ++ [last] <+:
      Operation.path start Operation.slowCanary :=
    ⟨[], by rw [List.append_nil, Operation.path_dropLast]⟩
  have unended : ∀ earlier ∈ (Operation.path start Operation.slowCanary).dropLast,
      earlier.store.isAttempted "fleet" "3.0.0" = false := by decide +kernel
  exact ⟨canary_goes_alone reached guarded stays upTo unended, by decide +kernel,
    by decide +kernel⟩

end FleetRollout

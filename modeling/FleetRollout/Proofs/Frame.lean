import FleetRollout.Proofs.Action
import FleetRollout.Proofs.Table
import FleetRollout.Rollout.Journal

set_option autoImplicit false

/-!
What stays the same while a client is served. Requests of clients never change the catalog, but
for the rollout flag and the updates switch of a group; the journal and the policy change no
installation either. The flag is only touched where a rollout starts or settles.
-/

namespace FleetRollout

-- A group but for the flag and the switch that requests of clients may change.
def Group.setup (group : Group) : Group :=
  { group with
    rolloutInProgress := false
    policy := { group.policy with updatesEnabled := false } }

theorem Group.same_of_setup {left right : Group} (setup : left.setup = right.setup) :
    left.id = right.id ∧ left.applicationId = right.applicationId ∧
      left.channelId = right.channelId := by
  simp only [Group.setup, Group.mk.injEq] at setup
  exact ⟨setup.1, setup.2.2.2.1, setup.2.2.2.2.1⟩

theorem Group.eq_of_setup {left right : Group} (setup : left.setup = right.setup) :
    left =
      { right with
        rolloutInProgress := left.rolloutInProgress
        policy := { right.policy with updatesEnabled := left.policy.updatesEnabled } } := by
  obtain ⟨_, _, _, _, _, ⟨⟩, _, _, _⟩ := left
  obtain ⟨_, _, _, _, _, ⟨⟩, _, _, _⟩ := right
  simp_all [Group.setup]

namespace Store

structure SameCatalog (before after : Store) : Prop where
  teams : after.teams = before.teams
  applications : after.applications = before.applications
  channels : after.channels = before.channels
  packages : after.packages = before.packages
  floors : after.floors = before.floors
  groups : ∀ id, (after.groups.get? id).map Group.setup = (before.groups.get? id).map Group.setup

structure SameFleet (before after : Store) : Prop where
  instances : after.instances = before.instances
  installations : after.installations = before.installations
  history : after.history = before.history

/-- Nothing was written but activity, rollout flags and update switches. -/
structure Noted (before after : Store) : Prop where
  catalog : SameCatalog before after
  fleet : SameFleet before after

def flagOf (store : Store) (groupId : String) : Bool :=
  (store.groups.get? groupId).any (·.rolloutInProgress)

def Unfinished (before after : Store) : Prop :=
  ∃ entries, after.activity = before.activity ++ entries ∧
    ∀ entry ∈ entries, entry.kind ≠ .rolloutFinished

structure SameRollouts (before after : Store) : Prop where
  flags : ∀ groupId, after.flagOf groupId = before.flagOf groupId
  log : Unfinished before after

/-- Nothing was written but update switches and activity that ends no rollout. -/
structure Calm (before after : Store) : Prop where
  noted : Noted before after
  rollouts : SameRollouts before after

instance : IsPreorder Store SameCatalog where
  refl _ := ⟨rfl, rfl, rfl, rfl, rfl, fun _ => rfl⟩
  trans _ _ _ head tail :=
    ⟨tail.teams.trans head.teams, tail.applications.trans head.applications,
      tail.channels.trans head.channels, tail.packages.trans head.packages,
      tail.floors.trans head.floors, fun id => (tail.groups id).trans (head.groups id)⟩

instance : IsPreorder Store SameFleet where
  refl _ := ⟨rfl, rfl, rfl⟩
  trans _ _ _ head tail :=
    ⟨tail.instances.trans head.instances, tail.installations.trans head.installations,
      tail.history.trans head.history⟩

instance : IsPreorder Store Noted where
  refl store := ⟨refl_of SameCatalog store, refl_of SameFleet store⟩
  trans _ _ _ head tail :=
    ⟨trans_of SameCatalog head.catalog tail.catalog, trans_of SameFleet head.fleet tail.fleet⟩

instance : IsPreorder Store Unfinished where
  refl _ := ⟨[], (List.append_nil _).symm, by simp⟩
  trans := by
    rintro _ _ _ ⟨earlier, first, early⟩ ⟨later, second, late⟩
    refine ⟨earlier ++ later, by rw [second, first, List.append_assoc], ?_⟩
    intro entry member
    exact (List.mem_append.mp member).elim (early entry) (late entry)

instance : IsPreorder Store SameRollouts where
  refl store := ⟨fun _ => rfl, refl_of Unfinished store⟩
  trans _ _ _ head tail :=
    ⟨fun groupId => (tail.flags groupId).trans (head.flags groupId),
      trans_of Unfinished head.log tail.log⟩

instance : IsPreorder Store Calm where
  refl store := ⟨refl_of Noted store, refl_of SameRollouts store⟩
  trans _ _ _ head tail :=
    ⟨trans_of Noted head.noted tail.noted, trans_of SameRollouts head.rollouts tail.rollouts⟩

theorem SameCatalog.refl (store : Store) : SameCatalog store store := refl_of SameCatalog store

theorem Calm.refl (store : Store) : Calm store store := refl_of Calm store

variable {before between after : Store}

theorem SameCatalog.trans (head : SameCatalog before between) (tail : SameCatalog between after) :
    SameCatalog before after := trans_of SameCatalog head tail

theorem SameCatalog.group_before (same : SameCatalog before after) {id : String} {group : Group}
    (found : after.groups.get? id = some group) :
    ∃ earlier, before.groups.get? id = some earlier ∧ earlier.setup = group.setup := by
  have agreed := same.groups id
  rw [found, Option.map_some] at agreed
  exact Option.map_eq_some_iff.mp agreed.symm

theorem SameCatalog.group_after (same : SameCatalog before after) {id : String} {group : Group}
    (found : before.groups.get? id = some group) :
    ∃ later, after.groups.get? id = some later ∧ later.setup = group.setup := by
  have agreed := same.groups id
  rw [found, Option.map_some] at agreed
  exact Option.map_eq_some_iff.mp agreed

theorem recordActivity_noted (store : Store) (entry : ActivityEntry) :
    Noted store (store.recordActivity entry) :=
  ⟨⟨rfl, rfl, rfl, rfl, rfl, fun _ => rfl⟩, ⟨rfl, rfl, rfl⟩⟩

theorem recordActivity_calm (store : Store) {entry : ActivityEntry}
    (other : entry.kind ≠ .rolloutFinished) : Calm store (store.recordActivity entry) :=
  ⟨recordActivity_noted store entry, fun _ => rfl, [entry], rfl, by simpa using other⟩

theorem changeGroup_ok {store after : Store} {id : String} {change : Group → Group}
    (changed : store.changeGroup id change = .ok after) :
    ∃ group, store.groups.get? id = some group ∧
      after = { store with groups := store.groups.insert id (change group) } := by
  unfold changeGroup at changed
  cases found : store.groups.get? id with
  | none => simp [found] at changed
  | some group =>
    simp only [found, Except.ok.injEq] at changed
    exact ⟨group, rfl, changed.symm⟩

theorem changeGroup_noted {store after : Store} {id : String} {change : Group → Group}
    (setup : ∀ group, (change group).setup = group.setup)
    (changed : store.changeGroup id change = .ok after) : Noted store after := by
  obtain ⟨group, found, rfl⟩ := changeGroup_ok changed
  refine ⟨⟨rfl, rfl, rfl, rfl, rfl, fun other => ?_⟩, ⟨rfl, rfl, rfl⟩⟩
  dsimp only
  rw [Table.get_insert]
  split
  next same => simp [← same, found, setup]
  next => rfl

theorem changeGroup_calm {store after : Store} {id : String} {change : Group → Group}
    (setup : ∀ group, (change group).setup = group.setup)
    (flag : ∀ group, (change group).rolloutInProgress = group.rolloutInProgress)
    (changed : store.changeGroup id change = .ok after) : Calm store after := by
  refine ⟨changeGroup_noted setup changed, fun other => ?_, ?_⟩
  · obtain ⟨group, found, rfl⟩ := changeGroup_ok changed
    rw [flagOf, flagOf, Table.get_insert]
    split
    next same => simp [← same, found, flag]
    next => rfl
  · obtain ⟨group, -, rfl⟩ := changeGroup_ok changed
    exact ⟨[], (List.append_nil _).symm, by simp⟩

end Store

open Store FleetRollout.Action

theorem keeps_commitOnly {R : Store → Store → Prop} [IsPreorder Store R]
    {change : Store → Except StoreError Store}
    (kept : ∀ store after, change store = .ok after → R store after) :
    Keeps R (commitOnly change) := by
  refine keeps_commit fun store answer after changed => ?_
  cases result : change store with
  | error error => simp [result, Except.map] at changed
  | ok written =>
    simp only [result, Except.map, Except.ok.injEq, Prod.mk.injEq] at changed
    obtain ⟨-, rfl⟩ := changed
    exact kept store written result

theorem noted_of_calm {α : Type} {notes : Action Store α} (keeps : Keeps Calm notes) :
    Keeps Noted notes :=
  keeps.imp fun _ _ calm => calm.noted

namespace Journal

theorem keeps_setRollout (id : String) (inProgress : Bool) :
    Keeps Noted (commitOnly fun store => store.setRollout id inProgress) :=
  keeps_commitOnly fun _ _ => changeGroup_noted fun _ => rfl

theorem keeps_record {entry : ActivityEntry} (other : entry.kind ≠ .rolloutFinished) :
    Keeps Calm (record entry) :=
  fun store => recordActivity_calm store other

theorem perform_recordOnce (window : Nat) (entry : ActivityEntry) (store : Store) :
    ∃ isNew entries, (recordOnce window entry).perform store =
        (.ok isNew, { store with activity := store.activity ++ entries }) ∧
      ∀ logged ∈ entries, logged = entry := by
  unfold recordOnce
  rw [perform_bind_ok (perform_get store)]
  split
  · exact ⟨false, [], by rw [List.append_nil]; rfl, by simp⟩
  · exact ⟨true, [entry], rfl, by simp⟩

theorem keeps_recordOnce (window : Nat) {entry : ActivityEntry}
    (other : entry.kind ≠ .rolloutFinished) : Keeps Calm (recordOnce window entry) := by
  intro store
  obtain ⟨isNew, entries, logged, own⟩ := perform_recordOnce window entry store
  rw [logged]
  refine ⟨⟨⟨rfl, rfl, rfl, rfl, rfl, fun _ => rfl⟩, ⟨rfl, rfl, rfl⟩⟩,
    fun _ => rfl, entries, rfl, ?_⟩
  intro entry member
  rwa [own entry member]

theorem keeps_packageNotFound (window : Nat) (group : Group) (now : Nat) :
    Keeps Calm (packageNotFound window group now) :=
  keeps_bind (keeps_recordOnce window (by simp [Group.milestone])) fun _ => keeps_pure _

theorem keeps_rolloutFailed (group : Group) (version : String) (now : Nat) :
    Keeps Calm (rolloutFailed group version now) :=
  keeps_record (by simp [Group.milestone])

theorem keeps_instanceUpdateFailed (group : Group) (instanceId version : String) (now : Nat) :
    Keeps Calm (instanceUpdateFailed group instanceId version now) :=
  keeps_record (by simp [Group.milestone])

theorem keeps_rolloutStarted (window : Nat) (group : Group) (version : String) (now : Nat) :
    Keeps Noted (rolloutStarted window group version now) := by
  have logged :
      Keeps Calm (recordOnce window (group.milestone .rolloutStarted .info version now)) :=
    keeps_recordOnce window (by simp [Group.milestone])
  refine keeps_bind (noted_of_calm logged) fun _ => ?_
  split
  · exact keeps_pure _
  · exact keeps_setRollout group.id true

theorem keeps_settleRollout (group : Group) (version : String) (now : Nat) :
    Keeps Noted (settleRollout group version now) := by
  refine keeps_bind keeps_get fun store => ?_
  split
  · exact keeps_bind (keeps_setRollout group.id false) fun _ =>
      keeps_bind (fun store => recordActivity_noted store _) fun _ => keeps_pure true
  · exact keeps_pure false

theorem perform_changeGroup {store : Store} {id : String} {group : Group}
    (found : store.groups.get? id = some group) (change : Group → Group) :
    (commitOnly fun store => store.changeGroup id change).perform store =
      (.ok (), { store with groups := store.groups.insert id (change group) }) := by
  rw [commitOnly, perform_commit, changeGroup, found]
  rfl

theorem perform_setRollout {store : Store} {id : String} {group : Group}
    (found : store.groups.get? id = some group) (inProgress : Bool) :
    (commitOnly fun store => store.setRollout id inProgress).perform store =
      (.ok (),
        { store with
          groups := store.groups.insert id { group with rolloutInProgress := inProgress } }) :=
  perform_changeGroup found _

-- A group that is passed as it is stored has its flag set, and no other one has.
theorem rolloutStarted_flags {store : Store} {group : Group}
    (stored : store.groups.get? group.id = some group) (window : Nat) (version : String)
    (now : Nat) :
    ((rolloutStarted window group version now).perform store).2.flagOf group.id = true ∧
      (∀ id ≠ group.id, ((rolloutStarted window group version now).perform store).2.flagOf id =
        store.flagOf id) ∧
      Unfinished store ((rolloutStarted window group version now).perform store).2 := by
  obtain ⟨isNew, entries, logged, own⟩ :=
    perform_recordOnce window (group.milestone .rolloutStarted .info version now) store
  have log (groups : Table Group) :
      Unfinished store { store with groups, activity := store.activity ++ entries } := by
    refine ⟨entries, rfl, fun entry member => ?_⟩
    rw [own entry member]
    simp [Group.milestone]
  rw [rolloutStarted, perform_bind_ok logged]
  cases running : group.rolloutInProgress with
  | true =>
    refine ⟨?_, fun _ _ => rfl, log store.groups⟩
    simpa [flagOf, stored] using running
  | false =>
    have known : { store with activity := store.activity ++ entries }.groups.get? group.id =
        some group := stored
    rw [if_neg Bool.false_ne_true, perform_setRollout known]
    refine ⟨?_, fun id other => ?_, log _⟩
    · rw [flagOf, Table.get_insert, if_pos rfl]
      rfl
    · rw [flagOf, Table.get_insert, if_neg (Ne.symm other)]
      rfl

-- A group that is passed as it is stored has its rollout closed, if that is settled.
theorem settleRollout_state {store : Store} {group : Group}
    (stored : store.groups.get? group.id = some group) (version : String) (now : Nat) :
    ((settleRollout group version now).perform store).2 =
      if group.rolloutInProgress && isSettled store group version now then
        { store with
          groups := store.groups.insert group.id { group with rolloutInProgress := false }
          activity := store.activity ++ [group.milestone .rolloutFinished .success version now] }
      else store := by
  unfold settleRollout
  rw [perform_bind_ok (perform_get store)]
  split
  · rw [perform_bind_ok (perform_setRollout stored false)]
    rfl
  · rfl

end Journal

theorem keeps_enforcePolicy (group : Group) (version : String) (now : Nat) :
    Keeps Calm (enforcePolicy group version now) := by
  refine keeps_bind (keeps_ofExcept _) fun isOpen => ?_
  split
  · split
    · refine keeps_bind keeps_get fun store => ?_
      split
      · exact keeps_pure ()
      · have switched : Keeps Calm (commitOnly fun store => store.disableUpdates group.id) :=
          keeps_commitOnly fun _ _ => changeGroup_calm (fun _ => rfl) fun _ => rfl
        exact keeps_bind switched fun _ => keeps_throw _
      · exact keeps_throw _
    · exact keeps_pure ()
  · exact keeps_throw _

theorem enforcePolicy_ok {group : Group} {version : String} {now : Nat} {store after : Store}
    {answer : Unit} :
    (enforcePolicy group version now).perform store = (.ok answer, after) ↔
      after = store ∧ group.policy.isOpen now = .ok true ∧
        (group.policy.needsCounters = true →
          group.policy.refusal? (store.updateCounters (group.counterQuery version now)) =
            none) := by
  unfold enforcePolicy
  rw [bind_ok]
  simp only [perform_ofExcept, Prod.mk.injEq]
  constructor
  · rintro ⟨isOpen, between, ⟨opened, rfl⟩, admitted⟩
    cases isOpen with
    | false => simp at admitted
    | true =>
      cases counts : group.policy.needsCounters with
      | false =>
        simp only [counts, if_true, Bool.false_eq_true, if_false, perform_pure,
          Prod.mk.injEq] at admitted
        exact ⟨admitted.2.symm, opened, by simp⟩
      | true =>
        simp only [counts, if_true, bind_ok, perform_get, Prod.mk.injEq,
          Except.ok.injEq] at admitted
        obtain ⟨_, _, ⟨rfl, rfl⟩, admitted⟩ := admitted
        cases refused : group.policy.refusal?
            (store.updateCounters (group.counterQuery version now)) with
        | none =>
          simp only [refused, perform_pure, Prod.mk.injEq] at admitted
          exact ⟨admitted.2.symm, opened, fun _ => rfl⟩
        | some denial =>
          cases denial <;> simp [refused, bind_ok] at admitted
  · rintro ⟨rfl, opened, admitted⟩
    refine ⟨true, after, ⟨opened, rfl⟩, ?_⟩
    cases counts : group.policy.needsCounters with
    | false => simp
    | true => simp [bind_ok, admitted counts]

end FleetRollout

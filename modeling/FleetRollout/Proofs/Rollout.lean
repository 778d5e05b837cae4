import FleetRollout.Proofs.Operation

set_option autoImplicit false

/-!
How the stages of a request treat the rollout of a group. A grant sets its flag; a completed update
may clear it, and does so together with an entry in the log, once nobody is on the way any more to
the target of the group's channel.
-/

namespace FleetRollout

open Store FleetRollout.Action

namespace Store

def targetOf (store : Store) (groupId : String) : Option String :=
  (store.groups.get? groupId).bind fun group =>
    (CheckIn.groupTarget? store group).map (·.2.version)

-- The group is stored as it is known, but for its flag and its switch.
def Knows (store : Store) (group : Group) : Prop :=
  (store.groups.get? group.id).map Group.setup = some group.setup

/-- The rollout of a version was closed, with an entry that says so. -/
structure Settled (group : Group) (version : String) (now : Nat) (before after : Store) : Prop where
  found : before.groups.get? group.id = some group
  running : group.rolloutInProgress = true
  aimed : before.targetOf group.id = some version
  closes : Journal.isSettled after group version now = true
  groups : after.groups = before.groups.insert group.id { group with rolloutInProgress := false }
  activity : after.activity =
    before.activity ++ [group.milestone .rolloutFinished .success version now]

inductive Settling (groupId : String) (now : Nat) (before after : Store) : Prop where
  | same (rollouts : SameRollouts before after)
  | settled {group : Group} {version : String} (own : group.id = groupId)
      (settled : Settled group version now before after)

variable {store after : Store} {group : Group} {groupId : String} {now : Nat}

theorem Settling.of_rewriteRow {key : String} {row changed : Installation} {time : Nat}
    {errorCode : Option String}
    (settling : Settling groupId now (store.rewriteRow key row changed time errorCode) after) :
    Settling groupId now store after := by
  cases settling with
  | same rollouts => exact .same ⟨rollouts.flags, rollouts.log⟩
  | settled own settled =>
    exact .settled own ⟨settled.found, settled.running, settled.aimed, settled.closes,
      settled.groups, settled.activity⟩

theorem recordCheckIn_sameRollouts (store : Store) (machine : Option Instance)
    (sighting : Sighting) : SameRollouts store (store.recordCheckIn machine sighting).2 := by
  cases machine <;> exact ⟨fun _ => rfl, (refl_of SameRollouts store).log⟩

theorem Knows.of_stored (stored : store.groups.get? group.id = some group) : store.Knows group := by
  rw [Knows, stored]
  rfl

theorem SameCatalog.knows (same : SameCatalog store after) (knows : store.Knows group) :
    after.Knows group :=
  (same.groups group.id).trans knows

theorem Knows.targetOf (knows : store.Knows group) {channel : Channel} {target : Package}
    (targeted : CheckIn.groupTarget? store group = some (channel, target)) :
    store.targetOf group.id = some target.version := by
  obtain ⟨current, stored, setup⟩ := Option.map_eq_some_iff.mp knows
  have sameTarget := CheckIn.groupTarget_congr (SameCatalog.refl store) setup
  rw [Store.targetOf, stored, Option.bind_some, sameTarget, targeted, Option.map_some]

end Store

namespace CheckIn

theorem settleGroup_settling (store : Store) (keyed : store.groups.KeyedBy Group.id)
    {groupId version : String} (aimed : store.targetOf groupId = some version) (now : Nat) :
    Settling groupId now store ((settleGroup groupId version now).perform store).2 := by
  cases found : store.groups.get? groupId with
  | none => simp [targetOf, found] at aimed
  | some group =>
    obtain rfl := keyed groupId group found
    rw [settleGroup, perform_bind_ok (perform_requireGroup found), perform_bind_answer,
      Journal.settleRollout_state found]
    split
    next closes =>
      obtain ⟨running, idle⟩ := (Bool.and_eq_true _ _).mp closes
      exact .settled rfl ⟨found, running, aimed, idle, rfl, rfl⟩
    next => exact .same (refl_of SameRollouts store)

theorem afterEvent_settling (store : Store) {group : Group}
    (keyed : store.groups.KeyedBy Group.id) (knows : store.Knows group) (now : Nat)
    (instanceId : String) (row : Installation) (next : Status) :
    Settling group.id now store ((afterEvent now group instanceId row next).perform store).2 := by
  -- Only an update that is complete may close the rollout.
  cases next
  case complete =>
    unfold afterEvent
    rw [perform_bind_ok (perform_get store)]
    cases targeted : groupTarget? store group with
    | none => exact .same (refl_of SameRollouts store)
    | some pair => exact settleGroup_settling store keyed (knows.targetOf targeted) now
  case error =>
    exact .same (Journal.keeps_instanceUpdateFailed group instanceId _ now store).rollouts
  all_goals exact .same (refl_of SameRollouts store)

end CheckIn

end FleetRollout

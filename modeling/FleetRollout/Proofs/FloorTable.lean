import FleetRollout.Proofs.Edits
import FleetRollout.Proofs.Isolation
import FleetRollout.Proofs.PlanShape
import FleetRollout.Proofs.Refusal

set_option autoImplicit false

/-!
The floors as a table over pairs of a channel and a package. A floor lies under a key that is put
together from the two ids with a colon between them, so two pairs can share one. What a listing
tells of a pair was decided by the last edit under its key; that is the last edit of the pair
itself unless the id of another channel goes on from this one's with a colon, or the other way.
-/

namespace FleetRollout

open Store FleetRollout.Action

theorem Floor.keyOf_inj {channelId packageId otherChannel otherPackage : String}
    (same : keyOf channelId packageId = keyOf otherChannel otherPackage) :
    (channelId = otherChannel ∧ packageId = otherPackage) ∨
      Installation.Extends channelId otherChannel ∨
        Installation.Extends otherChannel channelId := by
  rcases Installation.keyOf_inj same with ⟨package, channel⟩ | longer
  · exact .inl ⟨channel, package⟩
  · exact .inr longer

namespace Store

theorem floor_putFloor (store : Store) (floor : Floor) (channelId packageId : String) :
    (store.putFloor floor).floor? channelId packageId =
      if Floor.keyOf floor.channelId floor.packageId = Floor.keyOf channelId packageId then
        some floor
      else store.floor? channelId packageId :=
  Table.get_insert _ _ _ _

theorem floor_deleteFloor (store : Store) (channel package channelId packageId : String) :
    (store.deleteFloor channel package).floor? channelId packageId =
      if Floor.keyOf channel package = Floor.keyOf channelId packageId then none
      else store.floor? channelId packageId :=
  Table.get_erase _ _ _

end Store

-- What an operator sees of a floor: a listing of the channel with the package in it.
def Engine.listsFloor (engine : Engine) (channelId packageId : String) : Bool :=
  match ((Engine.listFloors channelId).perform engine).1 with
  | .ok floors => floors.any (·.package.id == packageId)
  | .error _ => false

namespace Engine

variable {engine : Engine}

theorem listFloors_answer (engine : Engine) (channelId : String) :
    ((listFloors channelId).perform engine).1 =
      if engine.store.channels.contains channelId then .ok (engine.store.channelFloors channelId)
      else .error (.invalidChannel channelId) := by
  unfold Table.contains
  cases found : engine.store.channels.get? channelId with
  | none => simp [listFloors, requireChannel, Action.require, perform_bind, readStore, found]
  | some channel =>
    rw [listFloors, perform_bind_ok (requireChannel_ok.mpr ⟨found, rfl⟩)]
    rfl

theorem listsFloor_eq (keyed : engine.store.Keyed) (channelId packageId : String) :
    engine.listsFloor channelId packageId =
      (engine.store.channels.contains channelId && engine.store.packages.contains packageId &&
        (engine.store.floor? channelId packageId).any fun floor =>
          floor.channelId == channelId && floor.packageId == packageId) := by
  unfold listsFloor
  rw [listFloors_answer]
  cases engine.store.channels.contains channelId with
  | false => rfl
  | true =>
    rw [if_pos rfl, Bool.true_and, Bool.eq_iff_iff]
    simp only [List.any_eq_true, beq_iff_eq, Bool.and_eq_true, Option.any_eq_true]
    constructor
    · rintro ⟨resolved, listed, rfl⟩
      obtain ⟨floor, stored, own, found, -⟩ := mem_channelFloors.mp listed
      have named : resolved.package.id = floor.packageId := keyed.packages _ _ found
      -- A listed row lies under the key of its own two ids, and they are those of the pair.
      have present := keyed.floors.mem_values.mp stored
      rw [Floor.key, own, ← named] at present
      refine ⟨?_, floor, present, own, named.symm⟩
      rw [Table.contains, named, found]
      rfl
    · rintro ⟨present, floor, found, own, named⟩
      obtain ⟨package, stored⟩ := Option.isSome_iff_exists.mp present
      refine ⟨⟨package, floor.reason⟩, mem_channelFloors.mpr ⟨floor, ?_, own, ?_, rfl⟩, ?_⟩
      · exact Table.mem_values.mpr ⟨_, found⟩
      · rwa [named]
      · exact keyed.packages _ _ stored

theorem listsFloor_addFloor (reached : Reachable engine)
    (channel package reason channelId packageId : String) :
    ((addFloor channel package reason).perform engine).2.listsFloor channelId packageId =
      if ((addFloor channel package reason).perform engine).1.isOk ∧
          Floor.keyOf channel package = Floor.keyOf channelId packageId then
        (channel, package) == (channelId, packageId)
      else engine.listsFloor channelId packageId := by
  have keyed : ((addFloor channel package reason).perform engine).2.store.Keyed :=
    (reached.step (.addFloor channel package reason) trivial).keyed
  rcases answered : (addFloor channel package reason).perform engine with ⟨error | floor, after⟩
  · have refused : ((addFloor channel package reason).perform engine).1 = .error error := by
      rw [answered]
    -- All checks come before the write.
    have unchanged := retracts_addFloor (R := Eq) channel package reason engine error refused
    rw [answered] at unchanged
    obtain rfl : engine = after := unchanged
    simp [Except.isOk, Except.toBool]
  · rw [answered] at keyed
    obtain ⟨_, _, stored, found, -, -, -, -, rfl, rfl⟩ := addFloor_ok.mp answered
    dsimp only at keyed ⊢
    rw [listsFloor_eq keyed, listsFloor_eq reached.keyed, floor_putFloor]
    by_cases same : Floor.keyOf channel package = Floor.keyOf channelId packageId
    · rw [if_pos same, if_pos ⟨rfl, same⟩]
      -- The new row took the place under the key, but it is listed by its own ids.
      by_cases own : (channel, package) = (channelId, packageId)
      · cases own
        simp [putFloor, Table.contains, stored, found]
      · have apart : (channel == channelId && package == packageId) = false := by simpa using own
        rw [Option.any_some, apart, Bool.and_false, beq_false_of_ne own]
    · simp [same, Floor.key, putFloor]

theorem listsFloor_removeFloor (reached : Reachable engine)
    (channel package channelId packageId : String) :
    ((removeFloor channel package).perform engine).2.listsFloor channelId packageId =
      if Floor.keyOf channel package = Floor.keyOf channelId packageId then false
      else engine.listsFloor channelId packageId := by
  have keyed : ((removeFloor channel package).perform engine).2.store.Keyed :=
    (reached.step (.removeFloor channel package) trivial).keyed
  have changed : ((removeFloor channel package).perform engine).2.store =
    engine.store.deleteFloor channel package := rfl
  rw [listsFloor_eq keyed, listsFloor_eq reached.keyed, changed, floor_deleteFloor]
  by_cases same : Floor.keyOf channel package = Floor.keyOf channelId packageId <;>
    simp [same, deleteFloor]

end Engine

namespace Operation

def floorPair? : Operation → Option (String × String)
  | .addFloor channelId packageId _ | .removeFloor channelId packageId =>
      some (channelId, packageId)
  | _ => none

def isAddition : Operation → Bool
  | .addFloor _ _ _ => true
  | _ => false

def edits (channelId packageId : String) (operation : Operation) : Bool :=
  operation.floorPair? == some (channelId, packageId)

def editsKey (key : String) (operation : Operation) : Bool :=
  operation.floorPair?.any fun pair => Floor.keyOf pair.1 pair.2 == key

-- What was refused has changed nothing, so only these count as edits.
def succeeding (engine : Engine) : List Operation → List Operation
  | [] => []
  | operation :: rest =>
      let later := succeeding (operation.run engine) rest
      if (operation.action.perform engine).1.isOk then operation :: later else later

theorem listsFloor_run {engine : Engine} (reached : Reachable engine) {operation : Operation}
    (onFloor : operation.floorPair?.isSome) (channelId packageId : String) :
    (operation.run engine).listsFloor channelId packageId =
      if (operation.action.perform engine).1.isOk = true ∧
          operation.editsKey (Floor.keyOf channelId packageId) = true then
        operation.isAddition && operation.edits channelId packageId
      else engine.listsFloor channelId packageId := by
  cases operation with
  | addFloor channel package reason =>
    refine (Engine.listsFloor_addFloor reached channel package reason channelId packageId).trans ?_
    exact if_congr (and_congr_right fun _ => by simp [editsKey, floorPair?])
      (by simp [isAddition, edits, floorPair?]) rfl
  | removeFloor channel package =>
    refine (Engine.listsFloor_removeFloor reached channel package channelId packageId).trans ?_
    exact if_congr ((and_iff_right rfl).symm.trans (and_congr_right fun _ => by
      simp [editsKey, floorPair?])) rfl rfl
  | _ => cases onFloor

theorem lastOf_cons {α : Type} (counts verdict : α → Bool) (before : Bool) (first : α)
    (rest : List α) :
    ((first :: rest).filter counts).getLast?.elim before verdict =
      (rest.filter counts).getLast?.elim (if counts first then verdict first else before)
        verdict := by
  by_cases counted : counts first = true
  · rw [List.filter_cons_of_pos counted, List.getLast?_cons, if_pos counted]
    cases (rest.filter counts).getLast? <;> rfl
  · rw [List.filter_cons_of_neg counted, if_neg counted]

theorem listsFloor_runAll {engine : Engine} (reached : Reachable engine)
    {operations : List Operation} (onFloors : ∀ operation ∈ operations, operation.floorPair?.isSome)
    (channelId packageId : String) :
    (runAll engine operations).listsFloor channelId packageId =
      ((succeeding engine operations).filter
          (editsKey (Floor.keyOf channelId packageId))).getLast?.elim
        (engine.listsFloor channelId packageId)
        (fun last => last.isAddition && last.edits channelId packageId) := by
  -- From the front: the first operation makes the state that the rest starts from.
  induction operations generalizing engine with
  | nil => rfl
  | cons operation rest ih =>
    obtain ⟨onFloor, others⟩ := List.forall_mem_cons.mp onFloors
    have step := listsFloor_run reached onFloor channelId packageId
    have later := ih (reached.step operation trivial) others
    unfold succeeding
    by_cases granted : (operation.action.perform engine).1.isOk = true
    · simp only [granted, true_and] at step
      rw [if_pos granted, lastOf_cons, ← step]
      exact later
    · rw [if_neg fun both => granted both.1] at step
      rw [if_neg granted, ← step]
      exact later

theorem mem_of_mem_succeeding {engine : Engine} {operations : List Operation}
    {operation : Operation} (done : operation ∈ succeeding engine operations) :
    operation ∈ operations := by
  induction operations generalizing engine with
  | nil => exact done
  | cons first rest ih =>
    unfold succeeding at done
    split at done
    · exact List.mem_cons.mpr ((List.mem_cons.mp done).imp_right ih)
    · exact List.mem_cons_of_mem first (ih done)

theorem editsKey_eq_edits {operation : Operation} {channelId packageId : String}
    (apart : ∀ pair ∈ operation.floorPair?,
      ¬ Installation.Extends channelId pair.1 ∧ ¬ Installation.Extends pair.1 channelId) :
    operation.editsKey (Floor.keyOf channelId packageId) = operation.edits channelId packageId := by
  unfold editsKey edits
  cases edited : operation.floorPair? with
  | none => rfl
  | some pair =>
    obtain ⟨not_longer, not_shorter⟩ := apart pair edited
    rw [Option.any_some, Bool.eq_iff_iff, beq_iff_eq, beq_iff_eq, Option.some.injEq, Prod.ext_iff]
    constructor
    · intro same
      rcases Floor.keyOf_inj same with own | shorter | longer
      · exact own
      · exact absurd shorter not_shorter
      · exact absurd longer not_longer
    · rintro ⟨channel, package⟩
      rw [channel, package]

end Operation

/--
The last edit under a pair's key decides whether the pair is listed, and an edit of another pair
that shares the key takes it away. While no channel's id goes on from this one's with a colon, nor
the other way, that is the last edit of the pair itself.
-/
theorem floors_last_edit {engine : Engine} (reached : Reachable engine)
    {operations : List Operation} (onFloors : ∀ operation ∈ operations, operation.floorPair?.isSome)
    (channelId packageId : String) :
    let done := Operation.succeeding engine operations
    let listed := (Operation.runAll engine operations).listsFloor channelId packageId
    listed =
      (done.filter (·.editsKey (Floor.keyOf channelId packageId))).getLast?.elim
        (engine.listsFloor channelId packageId)
        (fun last => last.isAddition && last.edits channelId packageId) ∧
    ((∀ operation ∈ operations, ∀ pair ∈ operation.floorPair?,
        ¬ Installation.Extends channelId pair.1 ∧ ¬ Installation.Extends pair.1 channelId) →
      listed = (done.filter (·.edits channelId packageId)).getLast?.elim
        (engine.listsFloor channelId packageId) Operation.isAddition) := by
  intro done listed
  have decided : listed = _ := Operation.listsFloor_runAll reached onFloors channelId packageId
  refine ⟨decided, fun apart => ?_⟩
  have own : done.filter (·.editsKey (Floor.keyOf channelId packageId)) =
      done.filter (·.edits channelId packageId) :=
    List.filter_congr fun operation member =>
      Operation.editsKey_eq_edits (apart operation (Operation.mem_of_mem_succeeding member))
  rw [decided, own]
  cases last : (done.filter (·.edits channelId packageId)).getLast? with
  | none => rfl
  | some operation =>
    have edits := (List.mem_filter.mp (List.mem_of_getLast? last)).2
    rw [Option.elim_some, Option.elim_some, edits, Bool.and_true]

-- Two channels and two packages whose ids can be joined to one key in two ways.
def Operation.joinedIds : List Operation :=
  let package (id version : String) : NewPackage :=
    { id := some id, applicationId := "agent", version, architecture := .amd64, kind := .generic
      url := "https://packages/" ++ id }
  let channel (id : String) : NewChannel :=
    { id := some id, name := id, applicationId := "agent", architecture := .amd64 }
  [ .createTeam (some "ops") "Operations",
    .createApplication { id := some "agent", name := "Agent", teamId := "ops" },
    .createPackage (package "b:c" "1.0.0"),
    .createPackage (package "c" "2.0.0"),
    .createChannel (channel "a"),
    .createChannel (channel "a:b") ]

theorem floors_last_edit_joinedIds :
    let engine := Operation.runAll {} Operation.joinedIds
    let crossed : List Operation :=
      [.addFloor "a:b" "c" "bridge", .addFloor "a" "c" "bridge", .removeFloor "a" "b:c"]
    let apart : List Operation :=
      [.addFloor "a:b" "c" "bridge", .addFloor "a:b" "b:c" "bridge", .removeFloor "a:b" "c"]
    Reachable engine ∧
      (∀ operation ∈ crossed ++ apart, operation.floorPair?.isSome) ∧
      (Operation.runAll engine crossed).listsFloor "a:b" "c" = false ∧
      (Operation.runAll engine crossed).listsFloor "a" "c" = true ∧
      (Operation.runAll engine apart).listsFloor "a:b" "c" = false ∧
      (Operation.runAll engine apart).listsFloor "a:b" "b:c" = true := by
  intro engine crossed apart
  have reached : Reachable engine := Operation.reachable_runAll (.start {} rfl) _
  have onFloors : ∀ operation ∈ crossed ++ apart, operation.floorPair?.isSome := by decide
  obtain ⟨crossed_onFloors, apart_onFloors⟩ := List.forall_mem_append.mp onFloors
  have one_channel : ∀ operation ∈ apart, ∀ pair ∈ operation.floorPair?,
      ¬ Installation.Extends "a:b" pair.1 ∧ ¬ Installation.Extends pair.1 "a:b" := by
    intro operation member pair edited
    have channel : pair.1 = "a:b" := by
      have all : ∀ operation ∈ apart, ∀ pair ∈ operation.floorPair?, pair.1 = "a:b" := by decide
      exact all operation member pair edited
    rw [channel]
    exact ⟨Installation.not_extends_self _, Installation.not_extends_self _⟩
  have on_crossed := floors_last_edit reached crossed_onFloors
  have on_apart (packageId : String) :=
    (floors_last_edit reached apart_onFloors "a:b" packageId).2 one_channel
  refine ⟨reached, onFloors, ?_, ?_, ?_, ?_⟩
  · exact (on_crossed "a:b" "c").1.trans (by decide +kernel)
  · exact (on_crossed "a" "c").1.trans (by decide +kernel)
  · exact (on_apart "c").trans (by decide +kernel)
  · exact (on_apart "b:c").trans (by decide +kernel)

-- The last edit of a pair itself need not decide: another pair's edit can take its place.
theorem floors_not_by_pair :
    ¬ ∀ engine : Engine, Reachable engine → ∀ operations : List Operation,
      (∀ operation ∈ operations, operation.floorPair?.isSome) → ∀ channelId packageId : String,
        (Operation.runAll engine operations).listsFloor channelId packageId =
          ((Operation.succeeding engine operations).filter
              (·.edits channelId packageId)).getLast?.elim
            (engine.listsFloor channelId packageId) Operation.isAddition := by
  intro law
  have listed := law (Operation.runAll {} Operation.joinedIds)
    (Operation.reachable_runAll (.start {} rfl) _)
    [.addFloor "a" "b:c" "bridge", .addFloor "a:b" "c" "bridge"] (by decide) "a" "b:c"
  revert listed
  decide +kernel

end FleetRollout

import FleetRollout.Engine.Catalog
import FleetRollout.Proofs.Action

set_option autoImplicit false

/-!
What holds of every way to write to the engine, and of whatever is composed of actions of which it
holds, holds of all administration of the catalog. Where an id may have to be generated for a new
entry, it has to hold of that too.
-/

namespace FleetRollout

open Store FleetRollout.Action

namespace Engine

structure HoldsOfEdits (Q : {α : Type} → Action Engine α → Prop) : Prop
    extends ComposesReading Q where
  write (change : Store → Store) : Q (Engine.write change)
  onStore {α : Type} (action : Action Store α) : Q (Engine.onStore action)
  forgetApplications : Q Engine.forgetApplications
  forgetTracks : Q Engine.forgetTracks
  reopen : Q (modify Engine.reopen)
  setNow (now : Nat) : Q (modify fun engine => engine.setNow now)
  advance (seconds : Nat) : Q (modify fun engine => engine.advance seconds)

structure HoldsOfWrites (Q : {α : Type} → Action Engine α → Prop) : Prop
    extends HoldsOfEdits Q where
  idOrNew (given : Option String) : Q (Engine.idOrNew given)

section Administration

variable {Q : {α : Type} → Action Engine α → Prop} (edits : HoldsOfEdits Q)
include edits

theorem HoldsOfEdits.createTeam {id : Option String} (named : Q (Engine.idOrNew id))
    (name : String) : Q (Engine.createTeam id name) :=
  edits.bind named fun _ => edits.reads (fun _ _ _ => rfl) fun _ =>
    edits.bind (edits.write _) fun _ => edits.pure _

theorem HoldsOfEdits.updateTeam (team : Team) : Q (Engine.updateTeam team) :=
  edits.bind (edits.stored _ _) fun _ => edits.bind (edits.write _) fun _ => edits.pure _

theorem HoldsOfEdits.createApplication {new : NewApplication} (named : Q (Engine.idOrNew new.id)) :
    Q (Engine.createApplication new) :=
  edits.bind (edits.stored _ _) fun _ => edits.bind named fun _ =>
    edits.reads (fun _ _ _ => rfl) fun _ => edits.bind (edits.write _) fun _ =>
      edits.bind edits.forgetApplications fun _ => edits.pure _

theorem HoldsOfEdits.updateApplication (application : Application) :
    Q (Engine.updateApplication application) :=
  edits.bind (edits.stored _ _) fun _ => edits.bind (edits.stored _ _) fun _ =>
    edits.bind (edits.write _) fun _ => edits.bind edits.forgetApplications fun _ =>
      edits.pure _

theorem HoldsOfEdits.deleteApplication (id : String) : Q (Engine.deleteApplication id) :=
  edits.bind edits.readStore fun _ => edits.bind (edits.write _) fun _ =>
    edits.bind edits.forgetApplications fun _ => edits.bind edits.forgetTracks fun _ =>
      edits.pure _

theorem HoldsOfEdits.checkTarget (channelId applicationId : String) (architecture : Architecture)
    (packageId : String) :
    Q (Engine.checkTarget channelId applicationId architecture packageId) :=
  edits.bind (edits.stored _ _) fun _ => edits.bind (edits.check _ _) fun _ =>
    edits.bind (edits.check _ _) fun _ => edits.bind (edits.check _ _) fun _ => edits.pure _

theorem HoldsOfEdits.checkTarget? (channelId applicationId : String) (architecture : Architecture)
    (packageId : Option String) :
    Q (Engine.checkTarget? channelId applicationId architecture packageId) := by
  cases packageId with
  | none => exact edits.pure none
  | some packageId => exact edits.bind (edits.checkTarget _ _ _ _) fun _ => edits.pure _

theorem HoldsOfEdits.createChannel {new : NewChannel} (named : Q (Engine.idOrNew new.id)) :
    Q (Engine.createChannel new) :=
  edits.bind (edits.stored _ _) fun _ => edits.bind named fun _ =>
    edits.bind (edits.checkTarget? _ _ _ _) fun _ => edits.reads (fun _ _ _ => rfl) fun _ =>
      edits.bind (edits.write _) fun _ => edits.pure _

theorem HoldsOfEdits.updateChannel (channel : Channel) : Q (Engine.updateChannel channel) := by
  refine edits.bind (edits.stored _ _) fun _ => edits.bind (edits.check _ _) fun _ =>
    edits.bind (edits.check _ _) fun _ => edits.bind (edits.checkTarget? _ _ _ _) fun target =>
      edits.bind (edits.write _) fun _ => ?_
  cases target with
  | none => exact edits.pure _
  | some package =>
    simp only
    split
    · exact edits.pure _
    · exact edits.reads (fun _ _ _ => rfl) fun _ =>
        edits.bind (edits.onStore _) fun _ => edits.pure _

theorem HoldsOfEdits.deleteChannel (id : String) : Q (Engine.deleteChannel id) := by
  refine edits.bind edits.readStore fun store => ?_
  split
  · exact edits.pure _
  · exact edits.bind (edits.write _) fun _ => edits.bind edits.forgetTracks fun _ =>
      edits.pure _

theorem HoldsOfEdits.checkBlacklist (package : Package) : Q (Engine.checkBlacklist package) :=
  edits.forM (fun _ => edits.bind (edits.stored _ _) fun _ =>
    edits.bind (edits.check _ _) fun _ => edits.bind (edits.check _ _) fun _ =>
      edits.bind edits.readStore fun _ => edits.check _ _) _

theorem HoldsOfEdits.checkReferences (package : Package) :
    Q (Engine.checkReferences package) := by
  have targeting (channel : Channel) : Q (checkTargeting package channel) := by
    unfold checkTargeting
    split
    · exact edits.check _ _
    · exact edits.pure _
  have floorUse (floor : Floor) : Q (checkFloorUse package floor) :=
    edits.bind (edits.stored _ _) fun _ => edits.check _ _
  exact edits.bind edits.readStore fun _ => edits.bind (edits.forM targeting _) fun _ =>
    edits.bind edits.readStore fun _ => edits.forM floorUse _

theorem HoldsOfEdits.createPackage {new : NewPackage} (named : Q (Engine.idOrNew new.id)) :
    Q (Engine.createPackage new) :=
  edits.bind (edits.stored _ _) fun _ => edits.bind (edits.check _ _) fun _ =>
    edits.bind named fun _ => edits.reads (fun _ _ _ => rfl) fun _ =>
      edits.bind (edits.checkBlacklist _) fun _ => edits.bind (edits.write _) fun _ =>
        edits.pure _

theorem HoldsOfEdits.updatePackage (package : Package) : Q (Engine.updatePackage package) :=
  edits.bind (edits.stored _ _) fun _ => edits.bind (edits.check _ _) fun _ =>
    edits.bind (edits.check _ _) fun _ => edits.bind (edits.checkBlacklist _) fun _ =>
      edits.bind (edits.checkReferences _) fun _ => edits.bind (edits.write _) fun _ =>
        edits.pure _

theorem HoldsOfEdits.deletePackage (id : String) : Q (Engine.deletePackage id) := by
  refine edits.bind edits.readStore fun store => ?_
  split
  · exact edits.pure _
  · exact edits.bind (edits.write _) fun _ => edits.pure _

theorem HoldsOfEdits.checkGroupReferences (applicationId : String) (channelId : Option String)
    (policy : Policy) : Q (Engine.checkGroupReferences applicationId channelId policy) := by
  have zone : Q (do let _ ← Action.ofExcept (zoneOf policy.timezone)) :=
    edits.bind (edits.ofExcept _) fun _ => edits.pure _
  cases channelId with
  | none => exact zone
  | some channelId =>
    exact edits.bind (edits.stored _ _) fun _ => edits.bind (edits.check _ _) fun _ => zone

theorem HoldsOfEdits.createGroup {new : NewGroup} (named : Q (Engine.idOrNew new.id)) :
    Q (Engine.createGroup new) :=
  edits.bind (edits.stored _ _) fun _ => edits.bind (edits.checkGroupReferences _ _ _) fun _ =>
    edits.bind named fun _ => edits.reads (fun _ _ _ => rfl) fun _ =>
      edits.bind (edits.write _) fun _ => edits.bind edits.forgetTracks fun _ =>
        edits.pure _

theorem HoldsOfEdits.updateGroup (group : Group) : Q (Engine.updateGroup group) :=
  edits.bind (edits.stored _ _) fun _ => edits.bind (edits.check _ _) fun _ =>
    edits.bind (edits.checkGroupReferences _ _ _) fun _ => edits.bind (edits.write _) fun _ =>
      edits.bind edits.forgetTracks fun _ => edits.pure _

theorem HoldsOfEdits.deleteGroup (id : String) : Q (Engine.deleteGroup id) :=
  edits.bind edits.readStore fun _ => edits.bind (edits.write _) fun _ =>
    edits.bind edits.forgetTracks fun _ => edits.pure _

theorem HoldsOfEdits.addFloor (channelId packageId reason : String) :
    Q (Engine.addFloor channelId packageId reason) :=
  edits.bind (edits.stored _ _) fun _ => edits.bind (edits.stored _ _) fun _ =>
    edits.bind (edits.check _ _) fun _ => edits.bind (edits.check _ _) fun _ =>
      edits.bind (edits.check _ _) fun _ => edits.bind (edits.check _ _) fun _ =>
        edits.reads (fun _ _ _ => rfl) fun _ => edits.bind (edits.write _) fun _ =>
          edits.pure _

theorem HoldsOfEdits.removeFloor (channelId packageId : String) :
    Q (Engine.removeFloor channelId packageId) :=
  edits.bind edits.readStore fun _ => edits.bind (edits.write _) fun _ => edits.pure _

end Administration

end Engine

end FleetRollout

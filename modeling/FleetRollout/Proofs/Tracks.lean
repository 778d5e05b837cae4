import FleetRollout.Proofs.Action
import FleetRollout.Proofs.Sorting
import Mathlib.Data.Prod.Lex
import Mathlib.Data.String.Basic

set_option autoImplicit false

/-!
Which group a track leads to, when nothing is remembered: the newest of those groups of the
application that carry the track and follow a channel of the architecture. The index that is
searched holds one entry a group, in the order of their age, and is searched from its end.
-/

namespace FleetRollout

open Store FleetRollout.Action Identifier

namespace Store

variable {store : Store} {key : TrackKey}

end Store

def Group.age (group : Group) : ℕ ×ₗ String :=
  toLex (group.createdAt, group.id)

namespace Directory

variable {store : Store} {key : TrackKey}

theorem isOlder_iff (left right : Group) : isOlder left right = true ↔ left.age ≤ right.age := by
  simp [isOlder, Group.age, Prod.Lex.toLex_le_toLex]

end Directory

end FleetRollout

set_option autoImplicit false

namespace FleetRollout.Sorting

variable {α : Type}

def insertBy (mayPrecede : α → α → Bool) (element : α) : List α → List α
  | [] => [element]
  | head :: rest =>
      if mayPrecede element head then element :: head :: rest
      else head :: insertBy mayPrecede element rest

-- Elements that are equal in the order keep the order they came in.
def sortBy (mayPrecede : α → α → Bool) : List α → List α
  | [] => []
  | head :: rest => insertBy mayPrecede head (sortBy mayPrecede rest)

theorem insertBy_perm (mayPrecede : α → α → Bool) (element : α) (elements : List α) :
    (insertBy mayPrecede element elements).Perm (element :: elements) := by
  induction elements with
  | nil => exact List.Perm.refl _
  | cons head rest ih =>
    unfold insertBy
    split
    · exact List.Perm.refl _
    · exact (List.Perm.cons head ih).trans (List.Perm.swap element head rest)

theorem sortBy_perm (mayPrecede : α → α → Bool) (elements : List α) :
    (sortBy mayPrecede elements).Perm elements := by
  induction elements with
  | nil => exact List.Perm.refl _
  | cons head rest ih =>
    exact (insertBy_perm mayPrecede head (sortBy mayPrecede rest)).trans (List.Perm.cons head ih)

end FleetRollout.Sorting

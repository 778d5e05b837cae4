import FleetRollout.Store.Sorting
import Mathlib.Data.List.Sort

set_option autoImplicit false

/-!
What sorting yields: the same elements in ascending order, those on a level in the order they came.
-/

namespace FleetRollout.Sorting

variable {α : Type}

theorem sortBy_eq_insertionSort (mayPrecede : α → α → Bool) (elements : List α) :
    sortBy mayPrecede elements =
      elements.insertionSort fun left right => mayPrecede left right = true := by
  induction elements with
  | nil => rfl
  | cons head rest ih =>
    rw [List.insertionSort_cons, ← ih, sortBy]
    generalize sortBy mayPrecede rest = sorted
    induction sorted with
    | nil => rfl
    | cons first others inner => simp [insertBy, List.orderedInsert_cons, inner]

theorem map_sortBy {β : Type} (mayPrecede : β → β → Bool) (f : α → β) (elements : List α) :
    (sortBy (fun left right => mayPrecede (f left) (f right)) elements).map f =
      sortBy mayPrecede (elements.map f) := by
  rw [sortBy_eq_insertionSort, sortBy_eq_insertionSort]
  exact List.map_insertionSort _ _ f elements fun _ _ _ _ => Iff.rfl

theorem mem_sortBy (mayPrecede : α → α → Bool) {element : α} {elements : List α} :
    element ∈ sortBy mayPrecede elements ↔ element ∈ elements :=
  (sortBy_perm mayPrecede elements).mem_iff

section Ranked

variable {β : Type} [LinearOrder β] {rank : α → β} {mayPrecede : α → α → Bool}

-- Lower in rank, or level and in front already.
def Ascends (rank : α → β) (InFront : α → α → Prop) (earlier later : α) : Prop :=
  rank earlier < rank later ∨ rank earlier = rank later ∧ InFront earlier later

variable (ranked : ∀ left right, mayPrecede left right = true ↔ rank left ≤ rank right)
include ranked

theorem insertBy_ascends {InFront : α → α → Prop} {element : α} {sorted : List α}
    (front : ∀ other ∈ sorted, InFront element other)
    (ascending : sorted.Pairwise (Ascends rank InFront)) :
    (insertBy mayPrecede element sorted).Pairwise (Ascends rank InFront) := by
  induction sorted with
  | nil => simp [insertBy]
  | cons head rest ih =>
    obtain ⟨least, others⟩ := List.pairwise_cons.mp ascending
    unfold insertBy
    split
    next below =>
      -- What comes behind the head is no lower than the head, and so no lower than the element.
      refine List.pairwise_cons.mpr ⟨fun other member => ?_, ascending⟩
      have headed : rank head ≤ rank other := by
        rcases List.mem_cons.mp member with rfl | inside
        · exact le_refl _
        · exact (least other inside).elim le_of_lt fun level => level.1.le
      rcases (((ranked _ _).mp below).trans headed).lt_or_eq with lower | level
      · exact .inl lower
      · exact .inr ⟨level, front other member⟩
    next above =>
      rw [ranked, not_le] at above
      have behind := ih (fun other inside => front other (List.mem_cons_of_mem head inside)) others
      refine List.pairwise_cons.mpr ⟨fun other member => ?_, behind⟩
      have placed := (insertBy_perm mayPrecede element rest).mem_iff.mp member
      rcases List.mem_cons.mp placed with rfl | inside
      · exact .inl above
      · exact least other inside

theorem sortBy_ascends {InFront : α → α → Prop} {elements : List α}
    (placed : elements.Pairwise InFront) :
    (sortBy mayPrecede elements).Pairwise (Ascends rank InFront) := by
  induction elements with
  | nil => exact List.Pairwise.nil
  | cons head rest ih =>
    obtain ⟨front, others⟩ := List.pairwise_cons.mp placed
    refine insertBy_ascends ranked (fun other member => front other ?_) (ih others)
    exact (mem_sortBy mayPrecede).mp member

theorem sortBy_ranked (elements : List α) :
    (sortBy mayPrecede elements).Pairwise fun earlier later => rank earlier ≤ rank later := by
  have anyhow : elements.Pairwise fun _ _ => True := List.pairwise_of_forall fun _ _ => trivial
  exact (sortBy_ascends ranked anyhow).imp fun ascends =>
    ascends.elim le_of_lt fun level => level.1.le

end Ranked

theorem find_reverse_last {Before : α → α → Prop} {elements : List α}
    (ordered : elements.Pairwise Before) {sought : α → Bool} {last : α}
    (found : elements.reverse.find? sought = some last) :
    ∀ other ∈ elements, sought other = true → other = last ∨ Before other last := by
  obtain ⟨-, passed, ahead, split, skipped⟩ := List.find?_eq_some_iff_append.mp found
  have descending : (passed ++ last :: ahead).Pairwise fun later earlier => Before earlier later :=
    split ▸ List.pairwise_reverse.mpr ordered
  intro other member wanted
  have placed : other ∈ passed ++ last :: ahead := by rwa [← split, List.mem_reverse]
  rcases List.mem_append.mp placed with skippedOver | rest
  · have unwanted := skipped other skippedOver
    simp [wanted] at unwanted
  · rcases List.mem_cons.mp rest with rfl | inside
    · exact .inl rfl
    · exact .inr ((List.pairwise_cons.mp (List.pairwise_append.mp descending).2.1).1 other inside)

end FleetRollout.Sorting

set_option autoImplicit false

namespace FleetRollout

namespace Rows

variable {α : Type}

abbrev Ordered (rows : List (String × α)) : Prop :=
  rows.Pairwise fun earlier later => earlier.1 < later.1

def find? (key : String) : List (String × α) → Option α
  | [] => none
  | (present, value) :: rest => if present = key then some value else find? key rest

def insert (key : String) (value : α) : List (String × α) → List (String × α)
  | [] => [(key, value)]
  | (present, old) :: rest =>
      if key < present then (key, value) :: (present, old) :: rest
      else if present < key then (present, old) :: insert key value rest
      else (key, value) :: rest

def erase (key : String) (rows : List (String × α)) : List (String × α) :=
  rows.filter fun row => row.1 != key

theorem mem_insert {key : String} {value : α} {rows : List (String × α)} {row : String × α}
    (member : row ∈ insert key value rows) : row = (key, value) ∨ row ∈ rows := by
  induction rows with
  | nil => simpa [insert] using member
  | cons head rest ih =>
    obtain ⟨present, old⟩ := head
    unfold insert at member
    split at member
    · simpa using member
    · split at member
      · rcases List.mem_cons.mp member with same | inside
        · simp [same]
        · rcases ih inside with same | inside <;> simp [*]
      · rcases List.mem_cons.mp member with same | inside <;> simp [*]

theorem ordered_insert (key : String) (value : α) {rows : List (String × α)}
    (ordered : Ordered rows) : Ordered (insert key value rows) := by
  induction rows with
  | nil => simp [insert]
  | cons head rest ih =>
    obtain ⟨present, old⟩ := head
    obtain ⟨least, others⟩ := List.pairwise_cons.mp ordered
    unfold insert
    split
    next before =>
      refine List.pairwise_cons.mpr ⟨?_, ordered⟩
      intro row member
      rcases List.mem_cons.mp member with same | inside
      · simpa [same] using before
      · exact String.lt_trans before (least row inside)
    next notBefore =>
      split
      next after =>
        refine List.pairwise_cons.mpr ⟨?_, ih others⟩
        intro row member
        rcases mem_insert member with same | inside
        · simpa [same] using after
        · exact least row inside
      next notAfter =>
        have same : present = key := String.le_antisymm (String.not_lt.mp notBefore)
          (String.not_lt.mp notAfter)
        refine List.pairwise_cons.mpr ⟨?_, others⟩
        intro row inside
        simpa [same] using least row inside

theorem ordered_erase (key : String) {rows : List (String × α)} (ordered : Ordered rows) :
    Ordered (erase key rows) :=
  List.Pairwise.filter _ ordered

theorem find_insert (key other : String) (value : α) (rows : List (String × α)) :
    find? other (insert key value rows) = if key = other then some value else find? other rows := by
  induction rows with
  | nil => rfl
  | cons head rest ih =>
    obtain ⟨present, old⟩ := head
    unfold insert
    split
    next => rfl
    next notBefore =>
      split
      next after =>
        have distinct : present ≠ key := fun same => String.lt_irrefl key (same ▸ after)
        by_cases found : present = other
        next =>
          subst found
          simp [find?, Ne.symm distinct]
        next => simpa [find?, found] using ih
      next notAfter =>
        have same : present = key := String.le_antisymm (String.not_lt.mp notBefore)
          (String.not_lt.mp notAfter)
        by_cases found : key = other <;> simp [find?, same, found]

theorem find_erase (key other : String) (rows : List (String × α)) :
    find? other (erase key rows) = if key = other then none else find? other rows := by
  induction rows with
  | nil => simp [erase, find?]
  | cons head rest ih =>
    obtain ⟨present, old⟩ := head
    simp only [erase] at ih
    by_cases erased : present = key
    next => by_cases found : key = other <;> simp_all [erase, find?]
    next =>
      by_cases found : present = other
      next =>
        subst found
        simp [erase, find?, erased, Ne.symm erased]
      next => simpa [erase, find?, found, erased] using ih

end Rows

-- Texts are ordered by code point, so a table is listed in the byte order of its keys.
structure Table (α : Type) where
  rows : List (String × α)
  ordered : Rows.Ordered rows

namespace Table

variable {α : Type}

def empty : Table α := ⟨[], List.Pairwise.nil⟩

instance : Inhabited (Table α) := ⟨empty⟩

def get? (table : Table α) (key : String) : Option α :=
  Rows.find? key table.rows

def contains (table : Table α) (key : String) : Bool :=
  (table.get? key).isSome

def insert (table : Table α) (key : String) (value : α) : Table α :=
  ⟨Rows.insert key value table.rows, Rows.ordered_insert key value table.ordered⟩

def erase (table : Table α) (key : String) : Table α :=
  ⟨Rows.erase key table.rows, Rows.ordered_erase key table.ordered⟩

theorem get_insert (table : Table α) (key other : String) (value : α) :
    (table.insert key value).get? other = if key = other then some value else table.get? other :=
  Rows.find_insert key other value table.rows

theorem get_erase (table : Table α) (key other : String) :
    (table.erase key).get? other = if key = other then none else table.get? other :=
  Rows.find_erase key other table.rows

def values (table : Table α) : List α :=
  table.rows.map (·.2)

def valuesWhere (table : Table α) (keep : α → Bool) : List α :=
  table.values.filter keep

end Table

end FleetRollout

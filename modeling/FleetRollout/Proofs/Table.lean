import FleetRollout.Proofs.Sorting
import FleetRollout.Store.Table
import Mathlib.Data.List.Nodup
import Mathlib.Data.List.Sort

set_option autoImplicit false

/-!
Tables seen through their lookups. A listing holds what some key finds; in a table whose rows lie
under keys of their own, a row is found under that key and no key is listed twice.
-/

namespace FleetRollout

namespace Rows

variable {α : Type}

theorem find_eq_some_iff {key : String} {value : α} {rows : List (String × α)}
    (ordered : Ordered rows) : find? key rows = some value ↔ (key, value) ∈ rows := by
  induction rows with
  | nil => simp [find?]
  | cons head rest ih =>
    obtain ⟨present, old⟩ := head
    obtain ⟨least, others⟩ := List.pairwise_cons.mp ordered
    by_cases found : present = key
    · -- The head's key is the least one, so no later row lies under it.
      have absent (other : α) : (key, other) ∉ rest := fun member =>
        String.lt_irrefl key (found ▸ least _ member)
      simp [find?, found, absent, eq_comm]
    · simp [find?, found, ih others, Ne.symm found]

theorem countP_insert (keep : α → Bool) (key : String) (value : α) {rows : List (String × α)}
    (ordered : Ordered rows) :
    ((insert key value rows).map (·.2)).countP keep + (find? key rows).toList.countP keep =
      (rows.map (·.2)).countP keep + [value].countP keep := by
  induction rows with
  | nil => simp [insert, find?]
  | cons head rest ih =>
    obtain ⟨present, old⟩ := head
    obtain ⟨least, others⟩ := List.pairwise_cons.mp ordered
    unfold insert
    split
    next before =>
      have absent : find? key ((present, old) :: rest) = none := by
        refine Option.eq_none_iff_forall_ne_some.mpr fun other found => ?_
        rcases List.mem_cons.mp ((find_eq_some_iff ordered).mp found) with same | inside
        · exact String.lt_irrefl key ((Prod.mk.inj same).1 ▸ before)
        · exact String.lt_irrefl key (String.lt_trans before (least _ inside))
      simp only [absent, List.map_cons, List.countP_cons, Option.toList_none, List.countP_nil]
      omega
    next notBefore =>
      split
      next after =>
        have distinct : present ≠ key := fun same => String.lt_irrefl key (same ▸ after)
        have others := ih others
        simp only [find?, distinct, if_false, List.map_cons, List.countP_cons] at others ⊢
        omega
      next notAfter =>
        have same : present = key := String.le_antisymm (String.not_lt.mp notBefore)
          (String.not_lt.mp notAfter)
        simp only [find?, same, if_true, Option.toList_some, List.map_cons, List.countP_cons,
          List.countP_nil]
        omega

end Rows

namespace Table

variable {α β γ : Type}

theorem get_eq_some_iff {table : Table α} {key : String} {value : α} :
    table.get? key = some value ↔ (key, value) ∈ table.rows :=
  Rows.find_eq_some_iff table.ordered

@[simp]
theorem get_empty (key : String) : (empty : Table α).get? key = none := rfl

theorem get_eq_none_of_contains {table : Table α} {key : String}
    (missing : table.contains key = false) : table.get? key = none := by
  simpa [contains] using missing

theorem mem_values {table : Table α} {value : α} :
    value ∈ table.values ↔ ∃ key, table.get? key = some value := by
  simp [values, get_eq_some_iff]

theorem mem_valuesWhere {table : Table α} {keep : α → Bool} {value : α} :
    value ∈ table.valuesWhere keep ↔ (∃ key, table.get? key = some value) ∧ keep value = true := by
  rw [valuesWhere, List.mem_filter, mem_values]

theorem countP_values_insert (keep : α → Bool) (table : Table α) (key : String) (value : α) :
    (table.insert key value).values.countP keep + (table.get? key).toList.countP keep =
      table.values.countP keep + [value].countP keep :=
  Rows.countP_insert keep key value table.ordered

def keys (table : Table α) : List String :=
  table.rows.map (·.1)

theorem mem_keys {table : Table α} {key : String} :
    key ∈ table.keys ↔ (table.get? key).isSome = true := by
  simp [keys, Option.isSome_iff_exists, get_eq_some_iff]

theorem nodup_keys (table : Table α) : table.keys.Nodup := by
  refine List.pairwise_map.mpr (table.ordered.imp ?_)
  intro earlier later before same
  exact String.lt_irrefl _ (same ▸ before)

theorem filterMap_keys {table : Table α} {give : String → Option β} {key : String}
    (others : ∀ other ≠ key, give other = none) (present : (table.get? key).isSome = true) :
    table.keys.filterMap give = (give key).toList := by
  have nodup := table.nodup_keys
  have member := mem_keys.mpr present
  generalize table.keys = keys at nodup member
  induction keys with
  | nil => cases member
  | cons head rest ih =>
    obtain ⟨fresh, nodup⟩ := List.nodup_cons.mp nodup
    by_cases same : head = key
    · subst same
      have none_left : rest.filterMap give = [] := by
        refine List.filterMap_eq_nil_iff.mpr fun other inside => others other ?_
        rintro rfl
        exact fresh inside
      cases given : give head <;> simp [given, none_left]
    · rw [List.filterMap_cons_none (others head same)]
      exact ih nodup (List.mem_of_ne_of_mem (Ne.symm same) member)

theorem map_rows_congr {read : α → γ} {table other : Table α}
    (same : ∀ key, (table.get? key).map read = (other.get? key).map read) :
    table.rows.map (fun row => (row.1, read row.2)) =
      other.rows.map fun row => (row.1, read row.2) := by
  have ordered (table : Table α) :
      (table.rows.map fun row => (row.1, read row.2)).Pairwise fun earlier later =>
        earlier.1 < later.1 :=
    List.pairwise_map.mpr table.ordered
  have listed (table : Table α) (key : String) (value : γ) :
      (key, value) ∈ table.rows.map (fun row => (row.1, read row.2)) ↔
        (table.get? key).map read = some value := by
    simp [get_eq_some_iff]
  have : Std.Irrefl fun earlier later : String × γ => earlier.1 < later.1 :=
    ⟨fun row => String.lt_irrefl row.1⟩
  have : Std.Antisymm fun earlier later : String × γ => earlier.1 < later.1 :=
    ⟨fun _ _ before after => absurd (String.lt_trans before after) (String.lt_irrefl _)⟩
  -- Both are in the order of the keys, so it is enough that they have the same members.
  refine (ordered table).eq_of_mem_iff (ordered other) fun (key, value) => ?_
  rw [listed, listed, same]

theorem map_values_congr {read : α → γ} {table other : Table α}
    (same : ∀ key, (table.get? key).map read = (other.get? key).map read) :
    table.values.map read = other.values.map read := by
  simpa [values, Function.comp_def] using congrArg (List.map Prod.snd) (map_rows_congr same)

theorem ext_get {table other : Table α} (same : ∀ key, table.get? key = other.get? key) :
    table = other := by
  have rows : table.rows = other.rows := by
    have mapped : ∀ key, (table.get? key).map id = (other.get? key).map id := by
      simpa using same
    simpa using map_rows_congr mapped
  obtain ⟨_, _⟩ := table
  congr

@[simp]
theorem insert_insert (table : Table α) (key : String) (value later : α) :
    (table.insert key value).insert key later = table.insert key later := by
  refine ext_get fun other => ?_
  simp only [get_insert]
  split <;> rfl

theorem insert_of_get {table : Table α} {key : String} {value : α}
    (stored : table.get? key = some value) : table.insert key value = table := by
  refine ext_get fun other => ?_
  rw [get_insert]
  split
  next same => rw [← same, stored]
  next => rfl

-- Every row lies under the key that is read off the row itself.
def KeyedBy (keyOf : α → String) (table : Table α) : Prop :=
  ∀ key value, table.get? key = some value → keyOf value = key

variable {keyOf : α → String} {table : Table α}

theorem keyedBy_empty : (empty : Table α).KeyedBy keyOf := by
  intro key value found
  simp at found

theorem KeyedBy.insert (keyed : table.KeyedBy keyOf) {key : String} {value : α}
    (own : keyOf value = key) : (table.insert key value).KeyedBy keyOf := by
  intro other stored found
  rw [get_insert] at found
  split at found
  next same => simp_all
  next => exact keyed other stored found

theorem KeyedBy.erase (keyed : table.KeyedBy keyOf) (key : String) :
    (table.erase key).KeyedBy keyOf := by
  intro other stored found
  rw [get_erase] at found
  split at found
  next => simp at found
  next => exact keyed other stored found

theorem KeyedBy.mem_values (keyed : table.KeyedBy keyOf) {value : α} :
    value ∈ table.values ↔ table.get? (keyOf value) = some value := by
  rw [Table.mem_values]
  constructor
  · rintro ⟨key, found⟩
    rwa [keyed key value found]
  · intro found
    exact ⟨_, found⟩

theorem KeyedBy.find_valuesWhere (keyed : table.KeyedBy keyOf) (keep : α → Bool) (key : String) :
    (table.valuesWhere keep).find? (fun value => keyOf value == key) =
      (table.get? key).filter keep := by
  have listed {value : α} : value ∈ table.valuesWhere keep ∧ keyOf value = key ↔
      (table.get? key).filter keep = some value := by
    rw [mem_valuesWhere, Option.filter_eq_some_iff]
    constructor
    · rintro ⟨⟨⟨own, found⟩, kept⟩, rfl⟩
      rw [keyed own value found]
      exact ⟨found, kept⟩
    · rintro ⟨found, kept⟩
      exact ⟨⟨⟨key, found⟩, kept⟩, keyed key value found⟩
  cases wanted : (table.get? key).filter keep with
  | none =>
    refine List.find?_eq_none.mpr fun value member own => ?_
    simp [listed.mp ⟨member, eq_of_beq own⟩] at wanted
  | some value =>
    obtain ⟨member, own⟩ := listed.mpr wanted
    cases found : (table.valuesWhere keep).find? (fun value => keyOf value == key) with
    | none => simpa [own] using List.find?_eq_none.mp found value member
    | some other =>
      have same := listed.mp ⟨List.mem_of_find?_eq_some found,
        eq_of_beq (List.find?_some (p := fun value => keyOf value == key) found)⟩
      exact same.symm.trans wanted

theorem KeyedBy.pairwise_values (keyed : table.KeyedBy keyOf) :
    table.values.Pairwise fun earlier later => keyOf earlier < keyOf later := by
  refine List.pairwise_map.mpr (table.ordered.imp_of_mem ?_)
  intro earlier later first second before
  rwa [keyed _ _ (get_eq_some_iff.mpr first), keyed _ _ (get_eq_some_iff.mpr second)]

theorem KeyedBy.find_reverse_values (keyed : table.KeyedBy keyOf) {keep : α → Bool} {value : α} :
    table.values.reverse.find? keep = some value ↔
      table.get? (keyOf value) = some value ∧ keep value = true ∧
        ∀ other ∈ table.values, keep other = true → keyOf other ≤ keyOf value := by
  have listed {value : α} (found : table.values.reverse.find? keep = some value) :
      value ∈ table.values :=
    List.mem_reverse.mp (List.mem_of_find?_eq_some found)
  have greatest {value : α} (found : table.values.reverse.find? keep = some value) :
      ∀ other ∈ table.values, keep other = true → keyOf other ≤ keyOf value := by
    intro other member kept
    rcases Sorting.find_reverse_last keyed.pairwise_values found other member kept with rfl | before
    · exact String.le_refl _
    · exact Std.le_of_lt before
  constructor
  · intro found
    exact ⟨keyed.mem_values.mp (listed found), List.find?_some found, greatest found⟩
  · rintro ⟨stored, kept, most⟩
    have member := keyed.mem_values.mpr stored
    cases found : table.values.reverse.find? keep with
    | none => exact absurd kept (List.find?_eq_none.mp found value (List.mem_reverse.mpr member))
    | some other =>
      -- Both are greatest among the rows that are kept, and no two rows share a key.
      have same : keyOf other = keyOf value :=
        String.le_antisymm (most other (listed found) (List.find?_some found))
          (greatest found value member kept)
      have row := keyed.mem_values.mp (listed found)
      rw [same, stored] at row
      exact row.symm

def Every (P : α → Prop) (table : Table α) : Prop :=
  ∀ key value, table.get? key = some value → P value

section Every

variable {P : α → Prop}

theorem every_empty : (empty : Table α).Every P := by
  intro key value found
  simp at found

theorem Every.insert (every : table.Every P) {value : α} (holds : P value) (key : String) :
    (table.insert key value).Every P := by
  intro other stored found
  rw [get_insert] at found
  split at found
  next => exact Option.some.inj found ▸ holds
  next => exact every other stored found

theorem Every.erase (every : table.Every P) (key : String) : (table.erase key).Every P := by
  intro other stored found
  rw [get_erase] at found
  split at found
  next => simp at found
  next => exact every other stored found

theorem Every.of_map (read : α → γ) (Q : γ → Prop)
    (every : table.Every fun value => Q (read value)) {other : Table α}
    (same : ∀ key, (other.get? key).map read = (table.get? key).map read) :
    other.Every fun value => Q (read value) := by
  intro key value found
  have agreed := same key
  rw [found, Option.map_some] at agreed
  obtain ⟨stored, known, sameRead⟩ := Option.map_eq_some_iff.mp agreed.symm
  exact sameRead ▸ every key stored known

end Every

theorem get_foldl_erase (keyOf : β → String) (elements : List β) (table : Table α) (key : String) :
    (elements.foldl (fun table element => table.erase (keyOf element)) table).get? key =
      if key ∈ elements.map keyOf then none else table.get? key := by
  induction elements generalizing table with
  | nil => simp
  | cons head rest ih =>
    rw [List.foldl_cons, ih, get_erase]
    by_cases later : key ∈ rest.map keyOf
    · simp [later]
    · by_cases same : keyOf head = key <;> simp [later, same, Ne.symm]

theorem get_foldl_insert {keyOf : β → String} {valueOf : β → α} {elements : List β}
    {table : Table α} {key : String} {value : α}
    (found : (elements.foldl (fun table element =>
      table.insert (keyOf element) (valueOf element)) table).get? key = some value) :
    (∃ element ∈ elements, keyOf element = key ∧ valueOf element = value) ∨
      (∀ element ∈ elements, keyOf element ≠ key) ∧ table.get? key = some value := by
  induction elements generalizing table with
  | nil => exact .inr ⟨by simp, found⟩
  | cons head rest ih =>
    rcases ih found with ⟨element, member, own, written⟩ | ⟨untouched, before⟩
    · exact .inl ⟨element, List.mem_cons_of_mem head member, own, written⟩
    · rw [get_insert] at before
      split at before
      next same => exact .inl ⟨head, List.mem_cons_self, same, by simpa using before⟩
      next other =>
        refine .inr ⟨?_, before⟩
        intro element member
        rcases List.mem_cons.mp member with rfl | inside
        · exact other
        · exact untouched element inside

theorem isSome_foldl_insert {keysOf : β → String} {valueOf : β → α} {elements : List β}
    {table : Table α} {key : String} (found : (table.get? key).isSome = true) :
    ((elements.foldl (fun table element =>
      table.insert (keysOf element) (valueOf element)) table).get? key).isSome = true := by
  induction elements generalizing table with
  | nil => exact found
  | cons head rest ih =>
    refine ih ?_
    rw [get_insert]
    split
    · rfl
    · exact found

theorem KeyedBy.map_foldl_rewrite (keyed : table.KeyedBy keyOf) {change : α → α} {read : α → γ}
    (unread : ∀ value, read (change value) = read value) {elements : List α}
    (listed : ∀ element ∈ elements, element ∈ table.values) (key : String) :
    ((elements.foldl (fun table element => table.insert (keyOf element) (change element))
      table).get? key).map read = (table.get? key).map read := by
  cases written : (elements.foldl (fun table element =>
      table.insert (keyOf element) (change element)) table).get? key with
  | none =>
    cases stored : table.get? key with
    | none => rfl
    | some value =>
      have remains : ((elements.foldl (fun table element =>
          table.insert (keyOf element) (change element)) table).get? key).isSome = true :=
        isSome_foldl_insert (Option.isSome_of_eq_some stored)
      simp [written] at remains
  | some changed =>
    -- What is found was rewritten, or it is not among the elements.
    rcases get_foldl_insert written with ⟨element, member, rfl, rfl⟩ | ⟨-, stored⟩
    · rw [keyed.mem_values.mp (listed element member)]
      exact congrArg some (unread element)
    · rw [stored]

theorem KeyedBy.foldl_erase (keyed : table.KeyedBy keyOf) (keysOf : β → String)
    (elements : List β) :
    (elements.foldl (fun table element => table.erase (keysOf element)) table).KeyedBy keyOf := by
  induction elements generalizing table with
  | nil => exact keyed
  | cons head rest ih => exact ih (keyed.erase (keysOf head))

theorem KeyedBy.foldl_insert (keyed : table.KeyedBy keyOf) (keysOf : β → String) (valueOf : β → α)
    (own : ∀ element, keyOf (valueOf element) = keysOf element) (elements : List β) :
    (elements.foldl (fun table element => table.insert (keysOf element) (valueOf element))
      table).KeyedBy keyOf := by
  induction elements generalizing table with
  | nil => exact keyed
  | cons head rest ih => exact ih (keyed.insert (own head))

end Table

end FleetRollout

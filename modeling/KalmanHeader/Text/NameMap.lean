import KalmanHeader.Text.NameSet

/-!
# Maps from names

A map from names to values is kept as a list of entries whose keys strictly
increase. Equal maps are equal values, whatever order their entries were added
in.
-/

namespace KalmanHeader

/-- A finite map from names to values. -/
structure NameMap (α : Type) where
  entries : List (String × α)
  increasing : (entries.map Prod.fst).Pairwise (· < ·)

namespace NameMap

variable {α β : Type}

/-- Two maps with the same entries are the same map. -/
@[ext] theorem ext {left right : NameMap α} (equal : left.entries = right.entries) :
    left = right := by
  cases left
  cases right
  cases equal
  rfl

instance [DecidableEq α] : DecidableEq (NameMap α) := fun left right =>
  decidable_of_iff (left.entries = right.entries) ⟨ext, fun equal => equal ▸ rfl⟩

/-- No keys are in order. -/
theorem increasing_nil : (([] : List (String × α)).map Prod.fst).Pairwise (· < ·) :=
  .nil

/-- The map without entries. -/
def empty : NameMap α := ⟨[], increasing_nil⟩

/-- The keys in increasing order. -/
def keys (map : NameMap α) : NameSet :=
  ⟨map.entries.map Prod.fst, map.increasing⟩

/-- The value of a key. -/
def find? (map : NameMap α) (name : String) : Option α :=
  map.entries.lookup name

/-- Whether a name is a key. -/
def contains (map : NameMap α) (name : String) : Bool :=
  (map.find? name).isSome

/-- A name with a value is a key. -/
theorem mem_keys_of_find?_eq_some {map : NameMap α} {name : String} {value : α}
    (found : map.find? name = some value) : name ∈ map.keys.toList := by
  obtain ⟨before, after, equal, _⟩ := List.lookup_eq_some_iff.1 found
  simp [keys, equal]

/-- A name with a value is contained. -/
theorem contains_of_find?_eq_some {map : NameMap α} {name : String} {value : α}
    (found : map.find? name = some value) : map.contains name = true := by
  rw [contains, found]
  rfl

/-- A name that is not contained has no value. -/
theorem contains_eq_false_iff {map : NameMap α} {name : String} :
    map.contains name = false ↔ map.find? name = none := by
  rw [contains, Option.isSome_eq_false_iff, Option.isNone_iff_eq_none]

/-- The number of entries. -/
def size (map : NameMap α) : Nat :=
  map.entries.length

/-- The entries with the value of `name` added or replaced. -/
def insertSorted (name : String) (value : α) : List (String × α) → List (String × α)
  | [] => [(name, value)]
  | head :: tail =>
    if name < head.1 then (name, value) :: head :: tail
    else if name = head.1 then (name, value) :: tail
    else head :: insertSorted name value tail

/-- Inserting an entry inserts its key. -/
theorem keys_insertSorted (name : String) (value : α) (entries : List (String × α)) :
    (insertSorted name value entries).map Prod.fst =
      NameSet.insertSorted name (entries.map Prod.fst) := by
  induction entries with
  | nil => rfl
  | cons head tail ih =>
    simp only [insertSorted, NameSet.insertSorted, List.map_cons]
    split
    · rfl
    · split
      · rename_i equal
        simp [equal]
      · simp [ih]

/-- A name is looked for in the first entry and then in the others. -/
theorem lookup_cons_eq (entry : String × α) (entries : List (String × α)) (name : String) :
    (entry :: entries).lookup name = if name = entry.1 then some entry.2 else entries.lookup name := by
  rw [List.lookup_cons]
  by_cases same : name = entry.1
  · rw [if_pos same, beq_iff_eq.2 same]
  · rw [if_neg same, beq_eq_false_iff_ne.2 same]

/-- Inserting an entry sets the value of its name and of no other. -/
theorem lookup_insertSorted (name other : String) (value : α) (entries : List (String × α)) :
    (insertSorted name value entries).lookup other =
      if other = name then some value else entries.lookup other := by
  induction entries with
  | nil => rw [insertSorted, lookup_cons_eq]
  | cons head tail ih =>
    rw [insertSorted]
    split
    · rw [lookup_cons_eq]
    · split
      · rename_i equal
        simp only [lookup_cons_eq, equal]
        split <;> rfl
      · rename_i different
        simp only [lookup_cons_eq, ih]
        split
        · rename_i found
          rw [if_neg fun same => different (same.symm.trans found)]
        · rfl

/-- The map with the value of `name` added or replaced. -/
def insert (map : NameMap α) (name : String) (value : α) : NameMap α where
  entries := insertSorted name value map.entries
  increasing := by
    rw [keys_insertSorted]
    exact NameSet.insertSorted_increasing map.increasing

/-- Inserting sets the value of a name and of no other. -/
@[simp] theorem find?_insert (map : NameMap α) (name other : String) (value : α) :
    (map.insert name value).find? other = if other = name then some value else map.find? other :=
  lookup_insertSorted name other value map.entries

/-- The empty map has no values. -/
@[simp] theorem find?_empty (name : String) : (empty : NameMap α).find? name = none :=
  rfl

/-- The map of a list of entries. Of two entries with one key the later counts. -/
def ofList (entries : List (String × α)) : NameMap α :=
  entries.foldl (fun map entry => map.insert entry.1 entry.2) empty

end NameMap

end KalmanHeader

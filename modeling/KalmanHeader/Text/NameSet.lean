/-!
# Sets of names

A set of names is kept as a strictly increasing list, so that equal sets are
equal values and their members always come in the same order: that of the code
points of the names.
-/

namespace KalmanHeader

/-- A finite set of names. -/
structure NameSet where
  toList : List String
  increasing : toList.Pairwise (· < ·)

namespace NameSet

/-- Two sets with the same members in order are the same set. -/
@[ext] theorem ext {left right : NameSet} (equal : left.toList = right.toList) :
    left = right := by
  cases left
  cases right
  cases equal
  rfl

instance : DecidableEq NameSet := fun left right =>
  decidable_of_iff (left.toList = right.toList) ⟨ext, fun equal => equal ▸ rfl⟩

instance : Membership String NameSet where
  mem names name := name ∈ names.toList

instance (name : String) (names : NameSet) : Decidable (name ∈ names) :=
  inferInstanceAs (Decidable (name ∈ names.toList))

/-- Membership is membership in the list. -/
theorem mem_toList {name : String} {names : NameSet} : name ∈ names.toList ↔ name ∈ names :=
  Iff.rfl

/-- The set without members. -/
def empty : NameSet := ⟨[], .nil⟩

/-- The increasing list `names` with `name` at its place. -/
def insertSorted (name : String) : List String → List String
  | [] => [name]
  | head :: tail =>
    if name < head then name :: head :: tail
    else if name = head then head :: tail
    else head :: insertSorted name tail

/-- Inserting adds the name and nothing else. -/
theorem mem_insertSorted {name other : String} {names : List String} :
    other ∈ insertSorted name names ↔ other = name ∨ other ∈ names := by
  induction names with
  | nil => simp [insertSorted]
  | cons head tail ih =>
    unfold insertSorted
    split
    · simp
    · split
      · rename_i equal
        subst equal
        simp
      · simp only [List.mem_cons, ih]
        constructor
        · rintro (h | h | h) <;> simp [h]
        · rintro (h | h | h) <;> simp [h]

/-- Of two different names one comes first. -/
theorem lt_of_not_lt_of_ne {left right : String} (notLess : ¬left < right)
    (different : left ≠ right) : right < left := by
  rcases String.le_total left right with order | order
  · exact absurd (String.le_antisymm order (String.not_lt.1 notLess)) different
  · exact Decidable.byContradiction fun notGreater =>
      different (String.le_antisymm (String.not_lt.1 notGreater) order)

/-- Inserting keeps the list strictly increasing. -/
theorem insertSorted_increasing {name : String} {names : List String}
    (increasing : names.Pairwise (· < ·)) : (insertSorted name names).Pairwise (· < ·) := by
  induction names with
  | nil => simp [insertSorted]
  | cons head tail ih =>
    rw [List.pairwise_cons] at increasing
    unfold insertSorted
    split
    · rename_i less
      refine .cons (fun other member => ?_) (.cons increasing.1 increasing.2)
      rcases List.mem_cons.1 member with rfl | member
      · exact less
      · exact String.lt_trans less (increasing.1 other member)
    · split
      · exact .cons increasing.1 increasing.2
      · rename_i notLess different
        refine .cons (fun other member => ?_) (ih increasing.2)
        rcases mem_insertSorted.1 member with rfl | member
        · exact lt_of_not_lt_of_ne notLess different
        · exact increasing.1 other member

/-- The set with `name` added. -/
def insert (names : NameSet) (name : String) : NameSet :=
  ⟨insertSorted name names.toList, insertSorted_increasing names.increasing⟩

/-- Inserting adds the name and nothing else. -/
@[simp] theorem mem_insert {names : NameSet} {name other : String} :
    other ∈ names.insert name ↔ other = name ∨ other ∈ names :=
  mem_insertSorted

/-- The set of the names of a list. -/
def ofList (names : List String) : NameSet :=
  names.foldl insert empty

/-- The members that satisfy a condition. -/
def filter (names : NameSet) (keep : String → Bool) : NameSet :=
  ⟨names.toList.filter keep, names.increasing.filter keep⟩

/-- Filtering keeps the members that satisfy the condition. -/
@[simp] theorem mem_filter {names : NameSet} {keep : String → Bool} {name : String} :
    name ∈ names.filter keep ↔ name ∈ names ∧ keep name = true :=
  List.mem_filter

/-- The empty set has no member. -/
@[simp] theorem not_mem_empty {name : String} : name ∉ empty :=
  List.not_mem_nil

end NameSet

end KalmanHeader

import KalmanHeader.Expr.Basic
import KalmanHeader.Text.NameMap

/-!
# Named constants

Constants give names to expressions, which may name further constants. A
constant is used by some expressions when its name can be reached from their
symbols through the values of constants already reached; the others are unused,
which is no error.
-/

namespace KalmanHeader

/-- Names with the expressions that they stand for. -/
abbrev Constants (ν : Type) := NameMap (Expr ν)

namespace Constants

variable {ν : Type}

/-- How many keys are not among the names `seen`. -/
def unseenCount (constants : Constants ν) (seen : List String) : Nat :=
  constants.keys.toList.countP fun key => !seen.contains key

/-- Seeing a further key leaves fewer unseen. -/
theorem unseenCount_lt {constants : Constants ν} {seen seen' : List String} {key : String}
    (isKey : key ∈ constants.keys.toList) (unseen : key ∉ seen) (now : key ∈ seen')
    (still : ∀ name ∈ seen, name ∈ seen') :
    constants.unseenCount seen' < constants.unseenCount seen := by
  have fewer : ∀ names : List String,
      (names.countP fun key => !seen'.contains key) ≤
        names.countP fun key => !seen.contains key := by
    intro names
    refine List.countP_mono_left fun name _ absent => ?_
    simp only [List.contains_eq_mem, Bool.not_eq_true', decide_eq_false_iff_not] at absent ⊢
    exact fun member => absent (still name member)
  unfold unseenCount
  generalize constants.keys.toList = names at isKey
  obtain ⟨before, after, rfl⟩ := List.append_of_mem isKey
  have left := fewer before
  have right := fewer after
  have here : (!seen'.contains key) = false := by simp [now]
  have there : (!seen.contains key) = true := by simp [unseen]
  simp only [List.countP_append, List.countP_cons, here, there]
  simp only [if_true, Bool.false_eq_true, if_false]
  omega

/-- The keys that can be reached from the names `pending`, besides those already
`seen`: a key leads to the symbols of its value. -/
def reachFrom (constants : Constants ν) (seen : NameSet) (pending : List String) : NameSet :=
  match pending with
  | [] => seen
  | name :: pending' =>
    match _found : constants.find? name with
    | none => constants.reachFrom seen pending'
    | some value =>
      if _known : name ∈ seen.toList then constants.reachFrom seen pending'
      else constants.reachFrom (seen.insert name) (value.symbols.toList ++ pending')
termination_by (constants.unseenCount seen.toList, pending.length)
decreasing_by
  · exact .right _ (by simp)
  · exact .right _ (by simp)
  · exact .left _ _ (unseenCount_lt (NameMap.mem_keys_of_find?_eq_some _found) _known
      (NameSet.mem_insert.2 (.inl rfl)) fun _ member => NameSet.mem_insert.2 (.inr member))

/-- The keys that cannot be reached from the symbols of `exprs`. -/
def unusedKeys (constants : Constants ν) (exprs : List (Expr ν)) : NameSet :=
  let used := constants.reachFrom .empty (Expr.symbolsOfAll exprs).toList
  constants.keys.filter fun key => !decide (key ∈ used)

end Constants

end KalmanHeader

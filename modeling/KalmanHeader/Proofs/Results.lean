import Mathlib.Logic.Unique

/-!
# Results of steps

A step that builds on another one has a result exactly when the other one has, so what a
result comes from is found step by step. A step for each item of a list has a result when all
of them have. The library says what a step after a result is and what it is after an error;
here both are read backwards, from the result of the whole.
-/

namespace KalmanHeader

variable {α β ε ε' : Type}

/-- A step after a result succeeds when both do. -/
theorem bind_eq_ok {first : Except ε α} {next : α → Except ε β} {result : β} :
    first >>= next = .ok result ↔ ∃ value, first = .ok value ∧ next value = .ok result := by
  cases first with
  | error error => exact ⟨nofun, nofun⟩
  | ok value =>
    simp only [Except.ok.injEq, exists_eq_left']
    exact Iff.rfl

/-- What comes after a check succeeds when the check does. -/
theorem check_bind_eq_ok {check : Except ε Unit} {next : Unit → Except ε β} {result : β} :
    check >>= next = .ok result ↔ check = .ok () ∧ next () = .ok result :=
  bind_eq_ok.trans Unique.exists_iff

/-- Putting an error in other words changes no result. -/
theorem mapError_eq_ok {first : Except ε α} {reword : ε → ε'} {result : α} :
    first.mapError reword = .ok result ↔ first = .ok result := by
  cases first with
  | error error => exact ⟨nofun, nofun⟩
  | ok value =>
    change Except.ok value = .ok result ↔ _
    rw [Except.ok.injEq, Except.ok.injEq]

/-- Changing a result changes no error. -/
theorem map_eq_ok {first : Except ε α} {change : α → β} {result : β} :
    first.map change = .ok result ↔ ∃ value, first = .ok value ∧ change value = result := by
  have bind : first.map change = first >>= fun value => pure (change value) :=
    map_eq_pure_bind change first
  simp only [bind, bind_eq_ok, pure, Except.pure, Except.ok.injEq]

/-- Items that are all read give the list of what they are read as. -/
theorem mapM_eq_some {read : α → Option β} {value : α → β} {items : List α}
    (known : ∀ item ∈ items, read item = some (value item)) :
    items.mapM read = some (items.map value) := by
  induction items with
  | nil => rfl
  | cons first others ih =>
    obtain ⟨head, tail⟩ := List.forall_mem_cons.1 known
    rw [List.mapM_cons, head, ih tail]
    rfl

/-- What items are read as has the property that each of them gives it. -/
theorem forall_mem_of_mapM {read : α → Option β} {property : β → Prop} {items : List α}
    {values : List β} (each : ∀ item ∈ items, ∀ value, read item = some value → property value)
    (found : items.mapM read = some values) : ∀ value ∈ values, property value := by
  induction items generalizing values with
  | nil =>
    cases found
    exact List.forall_mem_nil _
  | cons first others ih =>
    obtain ⟨head, tail⟩ := List.forall_mem_cons.1 each
    rw [List.mapM_cons] at found
    obtain ⟨value, same, found⟩ := Option.bind_eq_some_iff.1 found
    obtain ⟨rest, further, found⟩ := Option.bind_eq_some_iff.1 found
    cases found
    exact List.forall_mem_cons.2 ⟨head value same, ih tail further⟩

end KalmanHeader

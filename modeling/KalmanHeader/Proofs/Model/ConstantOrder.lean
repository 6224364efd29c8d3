import KalmanHeader.Model.Header
import KalmanHeader.Proofs.Model.FirstFault
import KalmanHeader.Proofs.Text.NameMap

/-!
# The order of the constants

The constants of a model are read one after another, and the map of what they are read as
does not depend on the order. Which error comes first does: where several constants do not
parse, the one that is named is the first in the order. So two orders give the same outcome
exactly when it makes no difference which of them that is: the constants are not reached, or
at most one of them does not parse.
-/

namespace KalmanHeader

namespace Formula

variable {formula : Formula} {place : Place} {error : SpecError}

/-- What parses is read, wherever it stands. -/
theorem exists_toExpr_iff (place : Place) :
    (∃ expr, formula.toExpr place = .ok expr) ↔ formula.Parses :=
  (settles_toExpr place formula).exists_ok_iff.trans List.forall_mem_singleton

/-- A formula fails with the error of its text, at the place where it stands. -/
theorem exists_of_toExpr_eq_error (failed : formula.toExpr place = .error error) :
    ∃ source cause, formula = .text source ∧ Expr.parse source = .error cause ∧
      error = .invalidExpression place cause := by
  cases formula with
  | number value => contradiction
  | text source =>
    rw [toExpr] at failed
    cases parsed : Expr.parse source with
    | ok expr =>
      rw [parsed] at failed
      contradiction
    | error cause =>
      rw [parsed] at failed
      exact ⟨source, cause, rfl, parsed, (Except.error.inj failed).symm⟩

variable {constants : Constants Float} {entries entries' : List (String × Formula)}

/-- Whether an error is that of a constant that does not parse. -/
def IsConstantFault (entries : List (String × Formula)) (error : SpecError) : Prop :=
  ∃ name source cause, (name, .text source) ∈ entries ∧ Expr.parse source = .error cause ∧
    error = .invalidExpression (.constant name) cause

/-- Constants fail with the error of one of them. -/
theorem isConstantFault_of_toConstants (failed : toConstants constants entries = .error error) :
    IsConstantFault entries error := by
  induction entries generalizing constants with
  | nil => contradiction
  | cons entry entries ih =>
    rw [toConstants_cons] at failed
    cases read : entry.2.toExpr (.constant entry.1) with
    | error fault =>
      rw [read] at failed
      obtain ⟨source, cause, same, parsed, rfl⟩ := exists_of_toExpr_eq_error read
      refine ⟨entry.1, source, cause, ?_, parsed, (Except.error.inj failed).symm⟩
      exact same ▸ List.mem_cons_self
    | ok expr =>
      rw [read] at failed
      obtain ⟨name, source, cause, member, fault⟩ := ih failed
      exact ⟨name, source, cause, List.mem_cons_of_mem _ member, fault⟩

/-- A constant that does not parse is the one that is named if it comes first. -/
theorem exists_toConstants_of_head (constants : Constants Float) {entry : String × Formula}
    (entries : List (String × Formula)) (fails : ¬entry.2.Parses) :
    ∃ cause, toConstants constants (entry :: entries) =
      .error (.invalidExpression (.constant entry.1) cause) := by
  rw [toConstants_cons]
  cases read : entry.2.toExpr (.constant entry.1) with
  | ok expr => exact absurd ((exists_toExpr_iff _).1 ⟨expr, read⟩) fails
  | error fault =>
    obtain ⟨source, cause, _, _, rfl⟩ := exists_of_toExpr_eq_error read
    exact ⟨cause, rfl⟩

/-- Whether at most one of some constants does not parse. -/
def AtMostOneFails (entries : List (String × Formula)) : Prop :=
  ∀ entry ∈ entries, ∀ entry' ∈ entries, ¬entry.2.Parses → ¬entry'.2.Parses → entry = entry'

/-- At most one of fewer constants does not parse either. -/
theorem AtMostOneFails.subset (single : AtMostOneFails entries) (fewer : entries' ⊆ entries) :
    AtMostOneFails entries' :=
  fun entry member entry' member' => single entry (fewer member) entry' (fewer member')

/-- Two neighbours can be read in either order, unless both of them fail. -/
theorem toConstants_swap {entry entry' : String × Formula} (different : entry.1 ≠ entry'.1)
    (either : entry.2.Parses ∨ entry'.2.Parses) :
    toConstants constants (entry :: entry' :: entries) =
      toConstants constants (entry' :: entry :: entries) := by
  simp only [toConstants_cons]
  cases read : entry.2.toExpr (.constant entry.1) with
  | ok expr =>
    cases read' : entry'.2.toExpr (.constant entry'.1) with
    | ok expr' =>
      exact congrArg (toConstants · entries) (NameMap.insert_comm different constants expr expr')
    | error fault' => rfl
  | error fault =>
    have fails : ¬entry.2.Parses := fun parses => by
      obtain ⟨expr, found⟩ := (exists_toExpr_iff (.constant entry.1)).2 parses
      exact nomatch read.symm.trans found
    obtain ⟨expr', read'⟩ := (exists_toExpr_iff (.constant entry'.1)).2 (either.resolve_left fails)
    rw [read']
    rfl

/-- The order of the constants makes no difference where at most one of them fails, since one
order is had from any other by swapping neighbours. -/
theorem toConstants_perm (order : entries.Perm entries')
    (distinct : (entries.map Prod.fst).Nodup) (single : AtMostOneFails entries) :
    toConstants constants entries = toConstants constants entries' := by
  induction order generalizing constants with
  | nil => rfl
  | cons entry order ih =>
    rw [toConstants_cons, toConstants_cons]
    exact bind_congr fun expr =>
      ih (List.nodup_cons.1 distinct).2 (single.subset (List.subset_cons_self _ _))
  | swap entry entry' entries =>
    have different : entry'.1 ≠ entry.1 := fun same =>
      (List.nodup_cons.1 distinct).1 (same ▸ List.mem_cons_self)
    have member : entry ∈ entry' :: entry :: entries := List.mem_cons_of_mem _ List.mem_cons_self
    refine toConstants_swap different (or_iff_not_and_not.2 fun ⟨fails', fails⟩ => different ?_)
    exact congrArg Prod.fst (single entry' List.mem_cons_self entry member fails' fails)
  | trans order order' ih ih' =>
    exact (ih distinct single).trans
      (ih' ((order.map Prod.fst).nodup_iff.1 distinct) (single.subset order.symm.subset))

end Formula

namespace FilterModel

variable {model : FilterModel} {entries entries' : List (String × Formula)}

/-- The header of a model, where the constants are read in the order of `entries`. -/
def composeInOrder (model : FilterModel) (entries : List (String × Formula)) :
    Except GenerationError GeneratedHeader := do
  let spec ← (model.toSpecInOrder entries).mapError .spec
  (spec.compose model.headerOptions model.fileName).mapError .header

/-- A model is composed in the order of the names of its constants. -/
theorem composeInOrder_entries (model : FilterModel) :
    model.composeInOrder model.constants.entries = model.compose :=
  rfl

/-- The model without its constants and further arrays. -/
def bare (model : FilterModel) : FilterModel :=
  { model with constants := .empty, post := [] }

/-- What is read first is the filter itself, then the constants, then the further arrays. -/
theorem toSpecInOrder_eq (model : FilterModel) (entries : List (String × Formula)) :
    model.toSpecInOrder entries =
      model.bare.toSpec >>= fun spec => Formula.toConstants .empty entries >>= fun constants =>
        (PostEntry.toExprArrays model.post).map fun post => { spec with constants, post } := by
  unfold toSpec toSpecInOrder
  simp only [bind_assoc]
  rfl

/-- The filter itself is described exactly when its checks pass. -/
theorem exists_bare_iff :
    (∃ spec, model.bare.toSpec = .ok spec) ↔ ∀ check ∈ model.filterChecks, check.Passes := by
  have checks : model.bare.checks [] = model.filterChecks := by
    rw [FilterModel.checks]
    exact (List.append_nil _).trans (List.append_nil _)
  exact checks ▸ (model.bare.settles_toSpecInOrder []).exists_ok_iff

/-- Orders in which the constants are read as the same give the same header. -/
theorem composeInOrder_congr
    (same : Formula.toConstants .empty entries = Formula.toConstants .empty entries') :
    model.composeInOrder entries = model.composeInOrder entries' := by
  rw [composeInOrder, composeInOrder, toSpecInOrder_eq, toSpecInOrder_eq, same]

/-- Where the filter itself is at fault, the constants are not reached. -/
theorem composeInOrder_of_faulty (faulty : ∃ check ∈ model.filterChecks, ¬check.Passes) :
    model.composeInOrder entries = model.composeInOrder entries' := by
  rw [composeInOrder, composeInOrder, toSpecInOrder_eq, toSpecInOrder_eq]
  cases described : model.bare.toSpec with
  | error error => rfl
  | ok spec =>
    obtain ⟨check, member, fails⟩ := faulty
    exact absurd (exists_bare_iff.1 ⟨spec, described⟩ check member) fails

/-- Where nothing is wrong with the filter itself, an error of the constants is the error of
the model. -/
theorem composeInOrder_of_failed {fault : SpecError}
    (passes : ∀ check ∈ model.filterChecks, check.Passes)
    (failed : Formula.toConstants .empty entries = .error fault) :
    model.composeInOrder entries = .error (.spec fault) := by
  obtain ⟨spec, described⟩ := exists_bare_iff.2 passes
  rw [composeInOrder, toSpecInOrder_eq, described, failed]
  rfl

/-- Where the order of the constants makes no difference, and nothing is wrong with the filter
itself, at most one of them does not parse: each could be the first. -/
theorem atMostOneFails_of_orderFree (passes : ∀ check ∈ model.filterChecks, check.Passes)
    (free : ∀ entries entries', entries.Perm model.constants.entries →
      entries'.Perm model.constants.entries →
        model.composeInOrder entries = model.composeInOrder entries') :
    Formula.AtMostOneFails model.constants.entries := by
  intro entry member entry' member' fails fails'
  -- Each of the two comes first in an order of its own.
  obtain ⟨cause, failed⟩ :=
    Formula.exists_toConstants_of_head .empty (model.constants.entries.erase entry) fails
  obtain ⟨cause', failed'⟩ :=
    Formula.exists_toConstants_of_head .empty (model.constants.entries.erase entry') fails'
  have same := free _ _ (List.perm_cons_erase member).symm (List.perm_cons_erase member').symm
  rw [composeInOrder_of_failed passes failed, composeInOrder_of_failed passes failed'] at same
  refine List.inj_on_of_nodup_map model.constants.nodup_keys member member' ?_
  injection same with same
  injection same with same
  injection same with place
  exact Place.constant.inj place

/-- If the constants have several faults, every order of them gives an error that is one of
these faults. -/
theorem exists_fault_of_several (passes : ∀ check ∈ model.filterChecks, check.Passes)
    (several : ¬Formula.AtMostOneFails model.constants.entries)
    (order : entries.Perm model.constants.entries) :
    ∃ fault, model.composeInOrder entries = .error (.spec fault) ∧
      Formula.IsConstantFault model.constants.entries fault := by
  cases read : Formula.toConstants .empty entries with
  | ok constants =>
    have parses : ∀ entry ∈ entries, entry.2.Parses := fun entry member =>
      (settles_toConstants .empty entries).exists_ok_iff.1 ⟨constants, read⟩
        (.parses ("constants." ++ entry.1) entry.2) (List.mem_map_of_mem member)
    exact absurd (fun entry member _ _ fails _ =>
      absurd (parses entry (order.mem_iff.2 member)) fails) several
  | error fault =>
    obtain ⟨name, source, cause, member, found⟩ := Formula.isConstantFault_of_toConstants read
    exact ⟨fault, composeInOrder_of_failed passes read,
      name, source, cause, order.mem_iff.1 member, found⟩

/-- Where at most one constant does not parse, any two orders give the same outcome. -/
theorem composeInOrder_of_single (single : Formula.AtMostOneFails model.constants.entries)
    (order : entries.Perm model.constants.entries)
    (order' : entries'.Perm model.constants.entries) :
    model.composeInOrder entries = model.composeInOrder entries' :=
  composeInOrder_congr (Formula.toConstants_perm (order.trans order'.symm)
    ((order.map Prod.fst).nodup_iff.2 model.constants.nodup_keys) (single.subset order.subset))

/-- The order in which the constants of a model are read makes no difference exactly when it
does not decide which of them is at fault: either something is wrong with the filter itself, which
is read before them, or at most one of them does not parse. And that is all that it decides:
where two orders differ, both report a constant that does not parse. -/
theorem composeInOrder_orderFree_iff (model : FilterModel) :
    ((∀ entries entries', entries.Perm model.constants.entries →
        entries'.Perm model.constants.entries →
          model.composeInOrder entries = model.composeInOrder entries') ↔
      (∃ check ∈ model.filterChecks, ¬check.Passes) ∨
        Formula.AtMostOneFails model.constants.entries) ∧
    ∀ entries entries', entries.Perm model.constants.entries →
      entries'.Perm model.constants.entries →
        model.composeInOrder entries = model.composeInOrder entries' ∨
          ∃ fault fault', model.composeInOrder entries = .error (.spec fault) ∧
            model.composeInOrder entries' = .error (.spec fault') ∧
              Formula.IsConstantFault model.constants.entries fault ∧
                Formula.IsConstantFault model.constants.entries fault' := by
  by_cases faulty : ∃ check ∈ model.filterChecks, ¬check.Passes
  · have same : ∀ entries entries',
        model.composeInOrder entries = model.composeInOrder entries' :=
      fun _ _ => composeInOrder_of_faulty faulty
    exact ⟨⟨fun _ => .inl faulty, fun _ entries entries' _ _ => same entries entries'⟩,
      fun entries entries' _ _ => .inl (same entries entries')⟩
  · have passes : ∀ check ∈ model.filterChecks, check.Passes := by simpa using faulty
    refine ⟨⟨fun free => .inr (atMostOneFails_of_orderFree passes free), ?_⟩, ?_⟩
    · rintro (found | single) entries entries' order order'
      · exact absurd found faulty
      · exact composeInOrder_of_single single order order'
    · intro entries entries' order order'
      by_cases single : Formula.AtMostOneFails model.constants.entries
      · exact .inl (composeInOrder_of_single single order order')
      · obtain ⟨fault, failed, isFault⟩ := exists_fault_of_several passes single order
        obtain ⟨fault', failed', isFault'⟩ := exists_fault_of_several passes single order'
        exact .inr ⟨fault, fault', failed, failed', isFault, isFault'⟩

/-- A filter with two constants whose texts end too early. -/
def twiceUnfinished : FilterModel :=
  { blank with
    schema := "1.0", name := "m", state := ["x"], transition := [.text "x"]
    observation := [.text "x"], constants := .ofList [("a", .text "1 +"), ("b", .text "1 +")] }

/-- What is wrong with one of these constants. -/
def unfinished (name : String) : SpecError :=
  .invalidExpression (.constant name) (.parse ⟨2, none, ["number", "identifier", "'('"]⟩)

/-- Each of these constants is the one that is reported in one of their two orders, and the
texts of the errors differ. -/
theorem twiceUnfinished_order_matters :
    twiceUnfinished.constants.entries.reverse.Perm twiceUnfinished.constants.entries ∧
      twiceUnfinished.composeInOrder twiceUnfinished.constants.entries =
        .error (.spec (unfinished "a")) ∧
      twiceUnfinished.composeInOrder twiceUnfinished.constants.entries.reverse =
        .error (.spec (unfinished "b")) ∧
      (unfinished "a").message ≠ (unfinished "b").message := by
  have passes : ∀ check ∈ twiceUnfinished.filterChecks, check.Passes := by decide +kernel
  exact ⟨List.reverse_perm _, composeInOrder_of_failed passes (by decide +kernel),
    composeInOrder_of_failed passes (by decide +kernel), by decide +kernel⟩

end FilterModel

end KalmanHeader

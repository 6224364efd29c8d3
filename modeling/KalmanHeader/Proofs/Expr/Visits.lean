import KalmanHeader.Expr.MapSymbols

/-!
# The visits of a visitor

A visitor of an expression sees the symbols at its leaves one after another from left to
right, and after the first of them that it fails on it sees no more. What it puts in place
of a symbol it never sees, since the places are those of the expression that it came with.
-/

namespace KalmanHeader.Expr

variable {ν σ ε α β : Type}

/-- The symbols at the leaves of an expression, from left to right. -/
def leaves : Expr ν → List String
  | .literal _ => []
  | .symbol name => [name]
  | .neg operand => operand.leaves
  | .binary _ left right => left.leaves ++ right.leaves
  | .call _ argument => argument.leaves

/-- The symbols at the leaves are those that occur. -/
theorem mem_leaves {name : String} {expr : Expr ν} :
    name ∈ expr.leaves ↔ expr.contains name := by
  induction expr with
  | literal value => simp [leaves, contains]
  | symbol found => rw [leaves, contains, List.mem_singleton, beq_iff_eq, eq_comm]
  | neg operand ih | call function operand ih => exact ih
  | binary operation left right ihLeft ihRight =>
    rw [leaves, contains, List.mem_append, Bool.or_eq_true, ihLeft, ihRight]

/-- The expression with the symbol at each leaf replaced by the answer for it, or kept where
the answer is nothing. The answers are those for the leaves from left to right. -/
def replaceLeaves : Expr ν → List (Option (Expr ν)) → Expr ν
  | .literal value, _ => .literal value
  | .symbol name, answers => answers.head?.join.getD (.symbol name)
  | .neg operand, answers => .neg (operand.replaceLeaves answers)
  | .binary operation left right, answers =>
    .binary operation (left.replaceLeaves (answers.take left.leaves.length))
      (right.replaceLeaves (answers.drop left.leaves.length))
  | .call function argument, answers => .call function (argument.replaceLeaves answers)

section Outcome

/-- The result of a computation that begins in `state`, and the state in which it ends. -/
def outcome (computation : ExceptT ε (StateM σ) α) (state : σ) : Except ε α × σ :=
  (computation.run.run state).run

variable {computation : ExceptT ε (StateM σ) α} {next : α → ExceptT ε (StateM σ) β}
  {state state' : σ}

/-- What comes after a value begins where that ended. -/
theorem outcome_bind_ok {value : α} (first : outcome computation state = (.ok value, state')) :
    outcome (computation >>= next) state = outcome (next value) state' := by
  have ran : computation.run.run state = pure (.ok value, state') := first
  rw [outcome, ExceptT.run_bind, StateT.run_bind, ran]
  rfl

/-- Nothing comes after a failure. -/
theorem outcome_bind_error {failure : ε}
    (first : outcome computation state = (.error failure, state')) :
    outcome (computation >>= next) state = (.error failure, state') := by
  have ran : computation.run.run state = pure (.error failure, state') := first
  rw [outcome, ExceptT.run_bind, StateT.run_bind, ran]
  rfl

end Outcome

/-- A visitor that keeps a state, also when it fails on a symbol. -/
abbrev Visitor (ν σ ε : Type) :=
  String → ExceptT ε (StateM σ) (Option (Expr ν))

namespace Visitor

/-- Whether a visitor that is shown `names` one after another from a state on sees `seen` of
them, with a certain result, and ends in a certain state. The result are its answers, or the
failure on the name that it sees last. -/
inductive Sees (visit : Visitor ν σ ε) : σ → List String → List String →
    Except ε (List (Option (Expr ν))) → σ → Prop
  | none (state : σ) : Sees visit state [] [] (.ok []) state
  | failure {state state' : σ} {name : String} {failure : ε} (names : List String) :
    outcome (visit name) state = (.error failure, state') →
      Sees visit state (name :: names) [name] (.error failure) state'
  | answer {state middle state' : σ} {name : String} {answer : Option (Expr ν)}
    {names seen : List String} {result : Except ε (List (Option (Expr ν)))} :
    outcome (visit name) state = (.ok answer, middle) →
      Sees visit middle names seen result state' →
      Sees visit state (name :: names) (name :: seen) (result.map (answer :: ·)) state'

variable {visit : Visitor ν σ ε} {state middle state' state'' : σ}
  {names names' seen seen' : List String}
  {answers : List (Option (Expr ν))} {result result' : Except ε (List (Option (Expr ν)))}

/-- What a visitor sees, answers and ends in is determined by the names and the state. -/
theorem Sees.unique (sees : visit.Sees state names seen result state')
    (sees' : visit.Sees state names seen' result' state'') :
    seen = seen' ∧ result = result' ∧ state' = state'' := by
  induction sees generalizing seen' result' with
  | none state =>
    cases sees'
    exact ⟨rfl, rfl, rfl⟩
  | failure names failed =>
    cases sees' with
    | failure _ failed' =>
      cases failed.symm.trans failed'
      exact ⟨rfl, rfl, rfl⟩
    | answer answered _ => cases failed.symm.trans answered
  | answer answered _ ih =>
    cases sees' with
    | failure _ failed => cases answered.symm.trans failed
    | answer answered' more =>
      cases answered.symm.trans answered'
      obtain ⟨rfl, rfl, rfl⟩ := ih more
      exact ⟨rfl, rfl, rfl⟩

/-- A visitor that answers has seen all the names and given an answer for each. -/
theorem Sees.length_eq (sees : visit.Sees state names seen result state')
    (answered : result = .ok answers) : seen = names ∧ answers.length = names.length := by
  induction sees generalizing answers with
  | none state =>
    cases answered
    exact ⟨rfl, rfl⟩
  | failure names failed => contradiction
  | @answer _ _ _ _ _ _ _ result _ _ ih =>
    cases result with
    | error failure => contradiction
    | ok others =>
      obtain ⟨rfl, lengths⟩ := ih rfl
      cases answered
      exact ⟨rfl, congrArg (· + 1) lengths⟩

/-- After a failure no further names are seen. -/
theorem Sees.append_error {failure : ε}
    (sees : visit.Sees state names seen (.error failure) state') (names' : List String) :
    visit.Sees state (names ++ names') seen (.error failure) state' := by
  generalize same : Except.error failure = result at sees
  induction sees with
  | none state => contradiction
  | failure names failed =>
    cases same
    exact .failure _ failed
  | @answer _ _ _ _ _ _ _ result answered _ ih =>
    cases result with
    | ok others => contradiction
    | error failure' =>
      cases same
      exact .answer answered (ih rfl)

/-- Where all names are answered, further names are seen after them. -/
theorem Sees.append_ok (sees : visit.Sees state names seen (.ok answers) middle)
    (more : visit.Sees middle names' seen' result state') :
    visit.Sees state (names ++ names') (seen ++ seen') (result.map (answers ++ ·)) state' := by
  generalize same : Except.ok answers = found at sees
  induction sees generalizing answers with
  | none state =>
    cases same
    cases result <;> exact more
  | failure names failed => contradiction
  | @answer _ _ _ _ answer _ _ found answered _ ih =>
    cases found with
    | error failure => contradiction
    | ok others =>
      cases same
      have further := Sees.answer answered (ih more rfl)
      cases result <;> exact further

/-- The visitor that also writes down each symbol it is shown. -/
def logging (visit : Visitor ν σ ε) : Visitor ν (σ × List String) ε := fun name =>
  ExceptT.mk fun (state, log) =>
    let (answer, state') := outcome (visit name) state
    (answer, state', log ++ [name])

/-- A symbol is written down whatever the visitor makes of it. -/
theorem outcome_logging {name : String} {log : List String} :
    outcome (visit.logging name) (state, log) =
      ((outcome (visit name) state).1, (outcome (visit name) state).2, log ++ [name]) :=
  rfl

/-- What is written down is what is seen. -/
theorem Sees.logging (sees : visit.Sees state names seen result state') (log : List String) :
    visit.logging.Sees (state, log) names seen result (state', log ++ seen) := by
  induction sees generalizing log with
  | none state =>
    rw [List.append_nil]
    exact .none _
  | failure names failed =>
    refine .failure names ?_
    rw [outcome_logging, failed]
  | @answer _ _ _ name _ _ seen _ answered _ ih =>
    have more := ih (log ++ [name])
    rw [List.append_assoc, List.singleton_append] at more
    refine .answer ?_ more
    rw [outcome_logging, answered]

end Visitor

/-- Replacing the symbols of an expression shows a visitor the symbols at its leaves and has
the result that follows from the answers. -/
theorem exists_sees_leaves (visit : Visitor ν σ ε) (expr : Expr ν) (state : σ) :
    ∃ seen result state', visit.Sees state expr.leaves seen result state' ∧
      outcome (expr.mapSymbolsM visit) state = (result.map expr.replaceLeaves, state') := by
  induction expr generalizing state with
  | literal value => exact ⟨[], _, state, .none state, rfl⟩
  | symbol name =>
    cases visited : outcome (visit name) state with
    | mk answer state' =>
      cases answer with
      | error failure =>
        exact ⟨[name], _, state', .failure [] visited, outcome_bind_error visited⟩
      | ok answer =>
        exact ⟨[name], _, state', .answer visited (.none state'), outcome_bind_ok visited⟩
  | neg operand ih | call function operand ih =>
    obtain ⟨seen, result, state', sees, visited⟩ := ih state
    refine ⟨seen, result, state', sees, ?_⟩
    cases result with
    | error failure => exact outcome_bind_error visited
    | ok answers => exact outcome_bind_ok visited
  | binary operation left right ihLeft ihRight =>
    -- The right operand is visited in the state that the left one leaves, if that has no failure.
    obtain ⟨seen, result, middle, sees, visited⟩ := ihLeft state
    cases result with
    | error failure =>
      exact ⟨seen, _, middle, sees.append_error _, outcome_bind_error visited⟩
    | ok answers =>
      obtain ⟨seen', result', state', sees', visited'⟩ := ihRight middle
      refine ⟨seen ++ seen', _, state', sees.append_ok sees', ?_⟩
      rw [mapSymbolsM, outcome_bind_ok visited]
      cases result' with
      | error failure => exact outcome_bind_error visited'
      | ok answers' =>
        rw [outcome_bind_ok visited']
        have lengths := (sees.length_eq rfl).2
        have split : (binary operation left right).replaceLeaves (answers ++ answers') =
            .binary operation (left.replaceLeaves answers) (right.replaceLeaves answers') := by
          rw [replaceLeaves, ← lengths, List.take_left, List.drop_left]
        exact congrArg (fun expr => (Except.ok expr, state')) split.symm

/-- A visitor of an expression, whatever its state, sees the symbols at the leaves from left to
right, each as often as it occurs, up to the first that it fails on, and none besides: what it
writes down if it also keeps a list is what it sees. A failure of it is the result. Otherwise
it has answered at every leaf, and the result is the expression with these answers there. -/
theorem mapSymbolsM_visits (visit : Visitor ν σ ε) (expr : Expr ν) (state : σ) :
    ∃ seen result state', visit.Sees state expr.leaves seen result state' ∧
      outcome (expr.mapSymbolsM visit) state = (result.map expr.replaceLeaves, state') ∧
      outcome (expr.mapSymbolsM visit.logging) (state, []) =
        (result.map expr.replaceLeaves, state', seen) ∧
      ∀ answers, result = .ok answers →
        seen = expr.leaves ∧ answers.length = expr.leaves.length := by
  obtain ⟨seen, result, state', sees, visited⟩ := exists_sees_leaves visit expr state
  obtain ⟨_, _, _, logs, logged⟩ := exists_sees_leaves visit.logging expr (state, [])
  obtain ⟨-, rfl, rfl⟩ := (sees.logging []).unique logs
  exact ⟨seen, result, state', sees, visited, logged, fun _ => sees.length_eq⟩

/-- A visitor that numbers the symbols it sees, keeps `b` and puts its number in place of any
other. -/
def numbering : Visitor Nat Nat String := fun name => do
  let number ← get
  set (number + 1)
  return if name = "b" then none else some (.literal number)

/-- A sum of a symbol and a product that it occurs in once more. -/
def repeated : Expr Nat :=
  .add (.symbol "a") (.mul (.symbol "b") (.symbol "a"))

/-- The second `a` gets another number than the first, since `b` is seen between them. -/
theorem mapSymbolsM_visits_of_numbering :
    outcome (repeated.mapSymbolsM numbering.logging) (0, []) =
        (.ok (.add (.literal 0) (.mul (.symbol "b") (.literal 2))), 3, ["a", "b", "a"]) ∧
      ∃ answers, numbering.Sees 0 ["a", "b", "a"] ["a", "b", "a"] (.ok answers) 3 ∧
        answers.length = 3 := by
  have run : outcome (repeated.mapSymbolsM numbering.logging) (0, []) =
      (.ok (.add (.literal 0) (.mul (.symbol "b") (.literal 2))), 3, ["a", "b", "a"]) := rfl
  obtain ⟨seen, result, state', sees, -, logged, answered⟩ :=
    mapSymbolsM_visits numbering repeated 0
  rw [run, Prod.mk.injEq, Prod.mk.injEq] at logged
  obtain ⟨results, rfl, -⟩ := logged
  cases result with
  | error failure => cases results
  | ok answers =>
    obtain ⟨rfl, lengths⟩ := answered answers rfl
    exact ⟨run, answers, sees, lengths⟩

end KalmanHeader.Expr

import Mathlib.Control.Monad.Basic
import KalmanHeader.Header.Compose
import KalmanHeader.Proofs.Calculus.Stability
import KalmanHeader.Proofs.Results
import KalmanHeader.Proofs.Text.CharacterClass

/-!
# What a composed header stands on

A header is composed exactly when every check passes. Each check is turned into what
it says about the description, so that nothing about a composed header needs the
order in which the checks come.
-/

namespace KalmanHeader

section Names

/-- Names are claimed when those that are checked are identifiers, no two are the same
and none is taken. -/
theorem DeclaredName.claim_eq_ok {taken : List String} {declared : List DeclaredName} :
    claim taken declared = .ok () ↔
      (∀ entry ∈ declared, entry.isUnchecked → C.isIdentifier entry.name) ∧
        (declared.map name).Nodup ∧ ∀ entry ∈ declared, entry.name ∉ taken := by
  induction declared generalizing taken with
  | nil => simp [claim]
  | cons first others ih =>
    rw [claim]
    simp only [List.forall_mem_cons, List.map_cons, List.nodup_cons, List.mem_map, not_exists,
      not_and]
    split
    · rename_i refused
      obtain ⟨isUnchecked, noIdentifier⟩ := Bool.and_eq_true_iff.1 refused
      refine ⟨nofun, fun ⟨⟨identifier, _⟩, _⟩ => ?_⟩
      rw [identifier isUnchecked] at noIdentifier
      contradiction
    · rename_i accepted
      have identifier : first.isUnchecked → C.isIdentifier first.name := by
        intro isUnchecked
        rw [isUnchecked, Bool.true_and, Bool.not_eq_true', Bool.not_eq_false] at accepted
        exact accepted
      split
      · rename_i known
        exact ⟨nofun, fun ⟨_, _, free, _⟩ => absurd (List.contains_iff_mem.1 known) free⟩
      · rename_i unknown
        have free : first.name ∉ taken := fun member => unknown (List.contains_iff_mem.2 member)
        rw [ih]
        constructor
        · rintro ⟨identifiers, distinct, others⟩
          refine ⟨⟨identifier, identifiers⟩, ⟨?_, distinct⟩, free, ?_⟩
          · exact fun entry member same => others entry member (same ▸ List.mem_cons_self)
          · exact fun entry member found => others entry member (List.mem_cons_of_mem _ found)
        · rintro ⟨⟨_, identifiers⟩, ⟨different, distinct⟩, _, others⟩
          refine ⟨identifiers, distinct, fun entry member => ?_⟩
          rw [List.mem_cons, not_or]
          exact ⟨different entry member, others entry member⟩

/-- An expression that is nothing but a symbol. -/
theorem Expr.symbol?_eq_some {ν : Type} {expr : Expr ν} {name : String} :
    expr.symbol? = some name ↔ expr = .symbol name := by
  cases expr with
  | symbol found => exact ⟨fun same => congrArg _ (Option.some.inj same), fun same =>
      congrArg _ (Expr.symbol.inj same)⟩
  | literal | neg | binary | call => exact ⟨nofun, nofun⟩

/-- Symbols are targets, and nothing else is. -/
theorem Jacobian.targetsFrom_eq_ok {ν : Type} {index : Nat} {exprs : List (Expr ν)}
    {names : List String} : targetsFrom index exprs = .ok names ↔ exprs = names.map .symbol := by
  induction exprs generalizing index names with
  | nil => cases names <;> simp [targetsFrom]
  | cons first others ih =>
    rw [targetsFrom]
    cases symbol : first.symbol? with
    | none =>
      refine ⟨nofun, fun symbols => ?_⟩
      obtain ⟨name, names, rfl, rfl, _⟩ := List.map_eq_cons_iff.1 symbols.symm
      contradiction
    | some name =>
      obtain rfl := Expr.symbol?_eq_some.1 symbol
      rw [map_eq_ok]
      constructor
      · rintro ⟨others', found, rfl⟩
        rw [ih.1 found, List.map_cons]
      · intro symbols
        obtain ⟨name', names, rfl, same, rest⟩ := List.map_eq_cons_iff.1 symbols.symm
        exact ⟨names, ih.2 rest.symm, by rw [Expr.symbol.inj same]⟩

/-- The names of a state are those of symbols that differ from each other and from those
seen before. -/
theorem HeaderSpec.stateNamesFrom_eq_ok {index : Nat} {seen names : List String}
    {exprs : List (Expr Float)} :
    stateNamesFrom index seen exprs = .ok names ↔
      exprs = names.map .symbol ∧ names.Nodup ∧ ∀ name ∈ names, name ∉ seen := by
  induction exprs generalizing index seen names with
  | nil => cases names <;> simp [stateNamesFrom]
  | cons first others ih =>
    rw [stateNamesFrom]
    cases symbol : first.symbol? with
    | none =>
      refine ⟨nofun, fun ⟨symbols, _⟩ => ?_⟩
      obtain ⟨name, names, rfl, rfl, _⟩ := List.map_eq_cons_iff.1 symbols.symm
      contradiction
    | some name =>
      obtain rfl := Expr.symbol?_eq_some.1 symbol
      simp only [List.contains_eq_mem, decide_eq_true_eq]
      split
      · rename_i known
        refine ⟨nofun, fun ⟨symbols, _, free⟩ => ?_⟩
        obtain ⟨name', names, rfl, same, _⟩ := List.map_eq_cons_iff.1 symbols.symm
        obtain rfl := Expr.symbol.inj same
        exact absurd known (free _ List.mem_cons_self)
      · rename_i unknown
        rw [map_eq_ok]
        constructor
        · rintro ⟨names, found, rfl⟩
          obtain ⟨symbols, distinct, free⟩ := ih.1 found
          rw [symbols, List.map_cons, List.nodup_cons]
          refine ⟨rfl, ⟨fun member => free _ member List.mem_cons_self, distinct⟩, ?_⟩
          exact List.forall_mem_cons.2
            ⟨unknown, fun other member found => free other member (List.mem_cons_of_mem _ found)⟩
        · rintro ⟨symbols, distinct, free⟩
          obtain ⟨name', names, rfl, same, rest⟩ := List.map_eq_cons_iff.1 symbols.symm
          obtain rfl := Expr.symbol.inj same
          obtain ⟨absent, distinct⟩ := List.nodup_cons.1 distinct
          refine ⟨names, ih.2 ⟨rest.symm, distinct, fun other member => ?_⟩, rfl⟩
          rw [List.mem_cons, not_or]
          exact ⟨fun same => absent (same ▸ member), free other (List.mem_cons_of_mem _ member)⟩

end Names

section Options

variable {options : HeaderOptions}

/-- A name passes its check when it is an identifier. -/
theorem checkIdentifier_eq_ok {name : String} :
    checkIdentifier name = .ok () ↔ C.isIdentifier name := by
  unfold checkIdentifier
  split
  · rename_i identifier
    exact ⟨fun _ => identifier, fun _ => rfl⟩
  · rename_i noIdentifier
    exact ⟨nofun, fun identifier => absurd identifier noIdentifier⟩

/-- Options pass their check when every name is an identifier and the library header can
be included. -/
theorem HeaderOptions.check_eq_ok :
    options.check = .ok () ↔
      C.isIdentifier options.functionName ∧ C.isIdentifier options.stateMacro ∧
        C.isIdentifier options.observationMacro ∧
        (∀ guard ∈ options.guard, C.isIdentifier guard) ∧ isIncludable options.libraryInclude := by
  have included : (if (!isIncludable options.libraryInclude) = true then
      throw (.invalidIdentifier options.libraryInclude) else pure () : Except HeaderError Unit) =
        .ok () ↔ isIncludable options.libraryInclude := by
    cases isIncludable options.libraryInclude with
    | true => exact ⟨fun _ => rfl, fun _ => rfl⟩
    | false => exact ⟨nofun, nofun⟩
  unfold check
  cases options.guard with
  | none =>
    simp only [check_bind_eq_ok, checkIdentifier_eq_ok, included]
    simp
  | some guard =>
    simp only [check_bind_eq_ok, checkIdentifier_eq_ok, included]
    simp

/-- A character of a derived include guard is part of a word. -/
theorem C.isWordPart_guardCharacter (character : Char) :
    Text.isWordPart (guardCharacter character) := by
  unfold guardCharacter
  split
  · rename_i alphanumeric
    exact Text.isWordPart_toUpper alphanumeric
  · decide

/-- An include guard that is derived from the name of a file is a word. -/
theorem C.isWord_guardOfFileName (fileName : String) : isWord (guardOfFileName fileName).toList := by
  have parts : ∀ character ∈ fileName.toList.map guardCharacter, Text.isWordPart character := by
    simp only [List.forall_mem_map]
    exact fun character _ => isWordPart_guardCharacter character
  unfold guardOfFileName
  split
  · decide
  · rename_i first rest characters
    rw [characters] at parts
    obtain ⟨part, others⟩ := List.forall_mem_cons.1 parts
    have rest : rest.all Text.isWordPart = true := List.all_eq_true.2 others
    split
    · rw [String.toList_ofList, isWord, List.all_cons, part, rest]
      rfl
    · rename_i noDigit
      rw [String.toList_ofList, isWord, rest, Bool.and_true]
      exact (Text.isWordPart_iff.1 part).resolve_right fun digit =>
        noDigit (Char.isDigit_iff_toNat.2 digit)

/-- The include guard is a word where the options pass their check. -/
theorem HeaderOptions.isWord_guardFor (checked : options.check = .ok ()) (fileName : String) :
    C.isWord (options.guardFor fileName).toList := by
  obtain ⟨_, _, _, identifier, _⟩ := check_eq_ok.1 checked
  unfold guardFor
  cases chosen : options.guard with
  | none => exact C.isWord_guardOfFileName fileName
  | some guard => exact (Bool.and_eq_true_iff.1 (identifier guard chosen)).1

end Options

section Layouts

variable {spec : HeaderSpec} {options : HeaderOptions} {fileName : String}

namespace HeaderSpec

/-- A Jacobian passes its check when it is not supplied or has the right shape. -/
theorem checkShape_eq_ok {name : String} {expected : Nat × Nat}
    {supplied : Option (Grid (Expr Float))} :
    checkShape name expected supplied = .ok () ↔ ∀ grid ∈ supplied, grid.shape = expected := by
  cases supplied with
  | none => simp [checkShape]
  | some grid =>
    simp only [checkShape, Option.mem_some_iff, forall_eq']
    split
    · rename_i same
      exact ⟨fun _ => same, fun _ => rfl⟩
    · rename_i different
      exact ⟨nofun, fun same => absurd same different⟩

/-- The arrays of a filter fit together when there is a transition for each entry of the
state and the supplied Jacobians have a row for each output and a column for each entry
of the state. -/
theorem checkDimensions_eq_ok :
    spec.checkDimensions = .ok () ↔
      spec.transition.length = spec.state.length ∧
        (∀ grid ∈ spec.transitionJacobian, grid.shape = (spec.state.length, spec.state.length)) ∧
        ∀ grid ∈ spec.observationJacobian,
          grid.shape = (spec.observation.length, spec.state.length) := by
  unfold checkDimensions
  by_cases fitting : spec.transition.length = spec.state.length
  · simp only [fitting, ne_eq, not_true_eq_false, if_false, true_and]
    rw [← @checkShape_eq_ok "F", ← @checkShape_eq_ok "H"]
    exact check_bind_eq_ok
  · simp only [fitting, ne_eq, not_false_eq_true, if_true, false_and, iff_false]
    exact nofun

/-- The Jacobian that is supplied, or else the partial derivatives of `outputs` by the
symbols of the state. -/
def jacobianBy (state : List String) (supplied : Option (Grid (Expr Float)))
    (outputs : List (Expr Float)) : Grid (Expr Float) :=
  supplied.getD (.tabulate outputs state fun output name => output.diff name)

/-- Where the state is made of symbols there always is a Jacobian. -/
theorem jacobianOr_of_state {state : List String} (symbols : spec.state = state.map .symbol)
    (supplied : Option (Grid (Expr Float))) (outputs : List (Expr Float)) :
    spec.jacobianOr supplied outputs = .ok (jacobianBy state supplied outputs) := by
  cases supplied with
  | some grid => rfl
  | none =>
    have targets : Jacobian.targets spec.state = .ok state := Jacobian.targetsFrom_eq_ok.2 symbols
    rw [jacobianOr, jacobian_of_targets targets]
    rfl

/-- A description without constants has a layout when its state is made of different
symbols and its names can be claimed. -/
theorem layout_eq_ok {layout : HeaderLayout} :
    spec.layout options fileName = .ok layout ↔
      ∃ state, spec.stateNames = .ok state ∧
        DeclaredName.claim reservedNames
          (DeclaredName.all options (options.guardFor fileName) (spec.post.map Prod.fst)
            (spec.parameters state).toList) = .ok () ∧
        layout = {
          fileName, options, state
          guard := options.guardFor fileName
          parameters := spec.parameters state
          observationCount := spec.observation.length
          outputs := spec.outputs (jacobianBy state spec.transitionJacobian spec.transition)
            (jacobianBy state spec.observationJacobian spec.observation) } := by
  unfold HeaderSpec.layout
  simp only [bind_eq_ok]
  constructor
  · rintro ⟨state, named, ⟨⟩, claimed, F, supplied, H, supplied', composed⟩
    have symbols := (stateNamesFrom_eq_ok.1 named).1
    rw [jacobianOr_of_state symbols] at supplied supplied'
    obtain rfl := Except.ok.inj supplied
    obtain rfl := Except.ok.inj supplied'
    exact ⟨state, named, claimed, (Except.ok.inj composed).symm⟩
  · rintro ⟨state, named, claimed, rfl⟩
    have symbols := (stateNamesFrom_eq_ok.1 named).1
    exact ⟨state, named, (), claimed, _, jacobianOr_of_state symbols _ _, _,
      jacobianOr_of_state symbols _ _, rfl⟩

/-- Where the constants are resolved, composing goes on with what they are substituted
in. -/
theorem compose_of_resolved {substitution : Substitution Float}
    (resolved : Substitution.ofConstants spec.constants = .ok substitution) :
    spec.compose options fileName = do
      options.check
      spec.checkDimensions
      let layout ← (spec.substituted substitution).layout options fileName
      return layout.generate := by
  unfold compose
  rw [resolved]
  rfl

/-- A header is composed when the options and the dimensions are right, no constant is
needed for its own value and the description with the constants substituted has a
layout. -/
theorem compose_eq_ok {header : GeneratedHeader} :
    spec.compose options fileName = .ok header ↔
      options.check = .ok () ∧ spec.checkDimensions = .ok () ∧
        ∃ substitution layout, Substitution.ofConstants spec.constants = .ok substitution ∧
          (spec.substituted substitution).layout options fileName = .ok layout ∧
          header = layout.generate := by
  unfold compose
  simp only [bind_eq_ok, mapError_eq_ok]
  constructor
  · rintro ⟨⟨⟩, checked, ⟨⟩, fitting, substitution, resolved, layout, laidOut, composed⟩
    exact ⟨checked, fitting, substitution, layout, resolved, laidOut, (Except.ok.inj composed).symm⟩
  · rintro ⟨checked, fitting, substitution, layout, resolved, laidOut, rfl⟩
    exact ⟨(), checked, (), fitting, substitution, resolved, layout, laidOut, rfl⟩

/-- A header is composed once the state is known and the names can be claimed. -/
theorem exists_compose_of_claim {substitution : Substitution Float} {state : List String}
    (checked : options.check = .ok ()) (fitting : spec.checkDimensions = .ok ())
    (resolved : Substitution.ofConstants spec.constants = .ok substitution)
    (named : (spec.substituted substitution).stateNames = .ok state)
    (claimed : DeclaredName.claim reservedNames
      (DeclaredName.all options (options.guardFor fileName)
        ((spec.substituted substitution).post.map Prod.fst)
        ((spec.substituted substitution).parameters state).toList) = .ok ()) :
    ∃ header, spec.compose options fileName = .ok header ∧
      header.parameters = ((spec.substituted substitution).parameters state).toList := by
  have laidOut := layout_eq_ok.2 ⟨state, named, claimed, rfl⟩
  exact ⟨_, compose_eq_ok.2 ⟨checked, fitting, substitution, _, resolved, laidOut, rfl⟩, rfl⟩

end HeaderSpec

end Layouts

end KalmanHeader

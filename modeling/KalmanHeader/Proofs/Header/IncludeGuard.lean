import KalmanHeader.Proofs.C.Identifier
import KalmanHeader.Proofs.Header.Banner

/-!
# Include guards that are derived

Without a guard of its own a header takes one from the name of its file, and that guard is
not checked like the other names: it is only compared with them. Nothing is lost by this.
Whatever no word may hold becomes an underscore, a first digit gets one in front and an empty
name has a fixed guard, so every derived guard is a word. Its letters are in upper case, and
every keyword has a letter in lower case. So a header is composed with a derived guard exactly
as it is with options that ask for the same guard, which is checked then.
-/

namespace KalmanHeader

namespace C

section Guards

/-- A character of a derived guard is no letter in lower case. -/
theorem isLower_guardCharacter (character : Char) : (guardCharacter character).isLower = false := by
  unfold guardCharacter
  split
  case isTrue alphanumeric => exact Text.isLower_toUpper alphanumeric
  case isFalse => rfl

/-- No letter of a derived guard is in lower case. -/
theorem any_isLower_guardOfFileName (fileName : String) :
    (guardOfFileName fileName).toList.any Char.isLower = false := by
  have upper : (fileName.toList.map guardCharacter).any Char.isLower = false := by
    simp only [List.any_map, List.any_eq_false, Function.comp_apply, isLower_guardCharacter]
    exact fun _ _ => Bool.false_ne_true
  unfold guardOfFileName
  split
  · decide
  · rename_i first rest characters
    rw [characters] at upper
    split
    · rw [String.toList_ofList, List.any_cons, upper]
      rfl
    · rwa [String.toList_ofList]

/-- Every keyword has a letter in lower case. -/
theorem any_isLower_of_mem_keywords : ∀ keyword ∈ keywords, keyword.toList.any Char.isLower := by
  decide

/-- No derived guard is a keyword. -/
theorem guardOfFileName_notMem_keywords (fileName : String) :
    guardOfFileName fileName ∉ keywords := by
  intro member
  have lower := any_isLower_of_mem_keywords _ member
  rw [any_isLower_guardOfFileName] at lower
  contradiction

/-- A derived guard passes as an identifier. -/
theorem isIdentifier_guardOfFileName (fileName : String) :
    isIdentifier (guardOfFileName fileName) := by
  have free : keywords.contains (guardOfFileName fileName) = false := by
    rw [List.contains_eq_mem, decide_eq_false_iff_not]
    exact guardOfFileName_notMem_keywords fileName
  rw [isIdentifier, isWord_guardOfFileName, free]
  rfl

example :
    ["", "3d.h", "é", "while"].map guardOfFileName = ["EKF_MODEL_H", "_3D_H", "_", "WHILE"] := by
  decide

end Guards

end C

namespace DeclaredName

variable {taken taken' : List String} {declared front back : List DeclaredName}
  {entry : DeclaredName}

/-- How claims end depends on the names that are taken, not on their order. -/
theorem claim_congr
    (same : ∀ entry ∈ declared, taken.contains entry.name = taken'.contains entry.name) :
    claim taken declared = claim taken' declared := by
  induction declared generalizing taken taken' with
  | nil => rfl
  | cons first others ih =>
    obtain ⟨head, tail⟩ := List.forall_mem_cons.1 same
    have rest : claim (first.name :: taken) others = claim (first.name :: taken') others := by
      refine ih fun entry member => ?_
      rw [List.contains_cons, List.contains_cons, tail entry member]
    rw [claim, claim, head, rest]

/-- A name that does not have to be an identifier any more is claimed without a trace when no
other name is the same. -/
theorem claim_without (accepted : entry.isUnchecked = false) (free : entry.name ∉ taken)
    (apart : ∀ other ∈ front ++ back, other.name ≠ entry.name) :
    claim taken (front ++ entry :: back) = claim taken (front ++ back) := by
  induction front generalizing taken with
  | nil =>
    have unknown : taken.contains entry.name = false := by
      rw [List.contains_eq_mem, decide_eq_false_iff_not]
      exact free
    -- That the name is taken now is only seen by names that are different.
    have others : claim (entry.name :: taken) back = claim taken back := by
      refine claim_congr fun other member => ?_
      rw [List.contains_cons, beq_eq_false_iff_ne.2 (apart other member), Bool.false_or]
    rw [List.nil_append, List.nil_append, claim, accepted, Bool.false_and, unknown, others]
    rfl
  | cons first others ih =>
    obtain ⟨different, apart⟩ := List.forall_mem_cons.1 apart
    have still : entry.name ∉ first.name :: taken := by
      rw [List.mem_cons, not_or]
      exact ⟨different.symm, free⟩
    rw [List.cons_append, List.cons_append, claim, claim, ih still apart]

end DeclaredName

namespace HeaderOptions

variable {options : HeaderOptions} {arrays parameters : List String} {guard : String}

/-- Whether `guard` is none of the other names of a header. -/
def IsFreeGuard (options : HeaderOptions) (arrays parameters : List String) (guard : String) :
    Prop :=
  guard ∉ reservedNames ++ [options.functionName, options.stateMacro, options.observationMacro] ++
    arrays ++ arrays.map outputName ++ parameters

instance : Decidable (options.IsFreeGuard arrays parameters guard) :=
  inferInstanceAs (Decidable (_ ∉ _))

/-- Every guard is declared among the same names, as one that does not have to be an identifier
any more. A free guard differs from all of them. -/
theorem exists_all_eq (options : HeaderOptions) (arrays parameters : List String) :
    ∃ front back, ∀ guard,
      DeclaredName.all options guard arrays parameters = front ++ ⟨guard, false⟩ :: back ∧
        (options.IsFreeGuard arrays parameters guard →
          ∀ entry ∈ front ++ back, entry.name ≠ guard) := by
  refine ⟨[_, _, _], (arrays.flatMap fun name => [⟨name, true⟩, ⟨outputName name, false⟩]) ++
    parameters.map fun name => ⟨name, true⟩, fun guard => ⟨rfl, fun free => ?_⟩⟩
  simp only [IsFreeGuard, List.mem_append, List.mem_cons, List.not_mem_nil, or_false, not_or]
    at free
  obtain ⟨⟨⟨⟨_, function, state, observation⟩, array⟩, output⟩, parameter⟩ := free
  simp only [List.forall_mem_append, List.forall_mem_cons, List.forall_mem_flatMap,
    List.forall_mem_map]
  refine ⟨⟨Ne.symm function, Ne.symm state, Ne.symm observation, nofun⟩,
    fun name member => ⟨?_, ?_, nofun⟩, fun name member => ?_⟩
  · exact ne_of_mem_of_not_mem member array
  · exact ne_of_mem_of_not_mem (List.mem_map_of_mem member) output
  · exact ne_of_mem_of_not_mem member parameter

/-- Free guards are claimed alike, whether or not they are identifiers. -/
theorem claim_all_eq {other : String} (free : options.IsFreeGuard arrays parameters guard)
    (otherFree : options.IsFreeGuard arrays parameters other) :
    DeclaredName.claim reservedNames (DeclaredName.all options guard arrays parameters) =
      DeclaredName.claim reservedNames (DeclaredName.all options other arrays parameters) := by
  obtain ⟨front, back, split⟩ := exists_all_eq options arrays parameters
  have without : ∀ name, options.IsFreeGuard arrays parameters name →
      DeclaredName.claim reservedNames (DeclaredName.all options name arrays parameters) =
        DeclaredName.claim reservedNames (front ++ back) := by
    intro name free
    obtain ⟨declared, apart⟩ := split name
    have unreserved : name ∉ reservedNames := by
      simp only [IsFreeGuard, List.append_assoc, List.mem_append, not_or] at free
      exact free.1
    rw [declared]
    exact DeclaredName.claim_without rfl unreserved (apart free)
  rw [without guard free, without other otherFree]

/-- Options that ask for a guard pass their check like those that leave it to be derived, when
the guard is an identifier. -/
theorem check_guard (options : HeaderOptions) (identifier : C.isIdentifier guard) :
    { options with guard := some guard }.check = { options with guard := none }.check := by
  simp only [check, checkIdentifier_eq_ok.2 identifier]
  rfl

end HeaderOptions

namespace HeaderSpec

/-- A header with a derived guard is the header for options that ask for this guard. -/
theorem compose_guard (spec : HeaderSpec) (options : HeaderOptions) (fileName : String) :
    spec.compose { options with guard := none } fileName =
      spec.compose { options with guard := some (C.guardOfFileName fileName) } fileName := by
  have checked := options.check_guard (C.isIdentifier_guardOfFileName fileName)
  unfold compose layout
  -- Past the check the guard is the same, and the text takes nothing but names from the options.
  simp only [checked, bind_assoc, pure_bind]
  rfl

/-- A derived guard is an identifier whatever the name of the file is: a word that is no
keyword. No check asks for that, since a guard is claimed like any other that is free, and
asking for it would not change what is composed. -/
theorem derivedGuard_needs_no_check (spec : HeaderSpec) (options : HeaderOptions)
    (fileName : String) :
    C.isIdentifier (C.guardOfFileName fileName) ∧ C.IsIdentifier (C.guardOfFileName fileName) ∧
      (∀ arrays parameters other,
        options.IsFreeGuard arrays parameters (C.guardOfFileName fileName) →
          options.IsFreeGuard arrays parameters other →
            DeclaredName.claim reservedNames
                (DeclaredName.all options (C.guardOfFileName fileName) arrays parameters) =
              DeclaredName.claim reservedNames
                (DeclaredName.all options other arrays parameters)) ∧
      spec.compose { options with guard := none } fileName =
        spec.compose { options with guard := some (C.guardOfFileName fileName) } fileName := by
  have identifier := C.isIdentifier_guardOfFileName fileName
  refine ⟨identifier, C.isIdentifier_iff.1 identifier, fun arrays parameters other => ?_, ?_⟩
  · exact HeaderOptions.claim_all_eq
  · exact spec.compose_guard options fileName

/-- A name that starts with a digit, goes on with a letter beyond ASCII and is no identifier
itself. A point at rest has the same header with its guard, derived or asked for. -/
theorem derivedGuard_needs_no_check_of_resting :
    ¬C.isIdentifier "3d-é.h" ∧ C.IsIdentifier "_3D___H" ∧
      DeclaredName.claim reservedNames (DeclaredName.all .standard "_3D___H" ["q"] ["dt"]) =
        DeclaredName.claim reservedNames (DeclaredName.all .standard "3d-é.h" ["q"] ["dt"]) ∧
      ∃ header, resting.compose .standard "3d-é.h" = .ok header ∧
        resting.compose { HeaderOptions.standard with guard := some "_3D___H" } "3d-é.h" =
          .ok header := by
  obtain ⟨_, identifier, claimed, composed⟩ :=
    derivedGuard_needs_no_check resting .standard "3d-é.h"
  have derived : C.guardOfFileName "3d-é.h" = "_3D___H" := by decide
  rw [derived] at identifier claimed composed
  obtain ⟨header, succeeds⟩ := @exists_compose_resting "3d-é.h" (by decide)
  refine ⟨by decide, identifier, claimed _ _ _ (by decide) (by decide), header, succeeds, ?_⟩
  exact composed.symm.trans succeeds

end HeaderSpec

end KalmanHeader

import KalmanHeader.Proofs.Constants.Union

/-!
# Constants that are used

The walk for used constants goes from the symbols of some expressions along the references
between keys, also where these lead in a circle. Its invariant is that whatever a seen key
refers to is seen as well or still pending; when nothing is pending any more, the seen keys
are closed under references, and these are the keys that can be reached. Expanding the
expressions never meets another key, so those that are unused can be dropped.
-/

namespace KalmanHeader

open KalmanHeader.Expr Relation

variable {ν : Type}

namespace Constants

variable {constants : Constants ν} {exprs : List (Expr ν)} {expr expanded : Expr ν}
  {seen : NameSet} {pending : List String} {key name : String} {keep : String → Bool}

/-- Whether `key` is a key that is a symbol of some of the expressions, or that is reached from
one through the values of keys. -/
def Uses (constants : Constants ν) (exprs : List (Expr ν)) (key : String) : Prop :=
  constants.contains key ∧
    ∃ expr ∈ exprs, ∃ name, expr.contains name ∧ ReflTransGen constants.RefersTo name key

/-- The constants besides those with the given names. -/
def without (constants : Constants ν) (names : NameSet) : Constants ν :=
  constants.filter fun key => !decide (key ∈ names)

section Steps

variable {first : String} {others : List String} {value : Expr ν}

/-- A pending name that is no key leads nowhere. -/
theorem reachFrom_of_absent (absent : constants.find? first = none) :
    constants.reachFrom seen (first :: others) = constants.reachFrom seen others := by
  rw [reachFrom]
  split
  · rfl
  · rename_i found
    rw [absent] at found
    contradiction

/-- A pending key that is seen already is passed over. -/
theorem reachFrom_of_known (known : first ∈ seen) :
    constants.reachFrom seen (first :: others) = constants.reachFrom seen others := by
  rw [reachFrom]
  split
  · rfl
  · exact dif_pos known

/-- Any other pending key is seen, and the symbols of its value are pending. -/
theorem reachFrom_of_find? (unknown : first ∉ seen) (found : constants.find? first = some value) :
    constants.reachFrom seen (first :: others) =
      constants.reachFrom (seen.insert first) (value.symbols.toList ++ others) := by
  rw [reachFrom]
  split
  · rename_i absent
    rw [absent] at found
    contradiction
  · rename_i found'
    obtain rfl := Option.some.inj (found.symm.trans found')
    exact dif_neg unknown

end Steps

section Walk

/-- Whether what a seen key refers to is seen as well or still pending. -/
def IsExpanded (constants : Constants ν) (seen : NameSet) (pending : List String) : Prop :=
  ∀ key ∈ seen, ∀ other, constants.RefersTo key other → other ∈ seen ∨ other ∈ pending

/-- What reaches a key is a key. -/
theorem contains_of_reflTransGen (reaches : ReflTransGen constants.RefersTo name key)
    (isKey : constants.contains key) : constants.contains name := by
  obtain rfl | ⟨_, ⟨_, value, found, _⟩, _⟩ := reaches.cases_head
  · exact isKey
  · exact NameMap.contains_of_find?_eq_some found

/-- The walk only sees keys that are reached from pending names. -/
theorem reached_of_mem_reachFrom (member : key ∈ constants.reachFrom seen pending) :
    key ∈ seen ∨
      constants.contains key ∧ ∃ name ∈ pending, ReflTransGen constants.RefersTo name key := by
  have later : ∀ (first : String) (others : List String),
      (∃ name ∈ others, ReflTransGen constants.RefersTo name key) →
        ∃ name ∈ first :: others, ReflTransGen constants.RefersTo name key :=
    fun _ _ ⟨name, found, reaches⟩ => ⟨name, List.mem_cons_of_mem _ found, reaches⟩
  induction seen, pending using reachFrom.induct constants with
  | case1 seen =>
    rw [reachFrom] at member
    exact .inl member
  | case2 seen first others absent ih =>
    rw [reachFrom_of_absent absent] at member
    exact (ih member).imp_right (.imp_right (later first others))
  | case3 seen first others value found known ih =>
    rw [reachFrom_of_known known] at member
    exact (ih member).imp_right (.imp_right (later first others))
  | case4 seen first others value found unknown ih =>
    rw [reachFrom_of_find? unknown found] at member
    rcases ih member with here | ⟨isKey, name, place, reaches⟩
    · rcases NameSet.mem_insert.1 here with rfl | before
      · exact .inr ⟨NameMap.contains_of_find?_eq_some found, key, List.mem_cons_self, .refl⟩
      · exact .inl before
    · refine .inr ⟨isKey, ?_⟩
      rcases List.mem_append.1 place with inner | outer
      · have occurs := mem_symbols.1 inner
        have reference : constants.RefersTo first name :=
          ⟨contains_of_reflTransGen reaches isKey, value, found, occurs⟩
        exact ⟨first, List.mem_cons_self, reaches.head reference⟩
      · exact later first others ⟨name, outer, reaches⟩

/-- The walk ends with nothing pending: it has seen the keys that were pending, besides those
seen before, and all that these refer to. -/
theorem isExpanded_reachFrom (expanded : constants.IsExpanded seen pending) :
    constants.IsExpanded (constants.reachFrom seen pending) [] ∧
      (∀ key ∈ seen, key ∈ constants.reachFrom seen pending) ∧
      ∀ key ∈ pending, constants.contains key → key ∈ constants.reachFrom seen pending := by
  induction seen, pending using reachFrom.induct constants with
  | case1 seen =>
    rw [reachFrom]
    exact ⟨expanded, fun _ member => member, nofun⟩
  | case2 seen first others absent ih =>
    rw [reachFrom_of_absent absent]
    obtain ⟨closed, before, found⟩ := ih fun key member other reference => by
      refine (expanded key member other reference).imp_right fun place => ?_
      refine (List.mem_cons.1 place).resolve_left fun same => ?_
      rw [same, RefersTo, NameMap.contains_eq_false_iff.2 absent] at reference
      exact Bool.false_ne_true reference.1
    refine ⟨closed, before, List.forall_mem_cons.2 ⟨fun isKey => ?_, found⟩⟩
    rw [NameMap.contains_eq_false_iff.2 absent] at isKey
    contradiction
  | case3 seen first others value present known ih =>
    rw [reachFrom_of_known known]
    obtain ⟨closed, before, found⟩ := ih fun key member other reference => by
      rcases expanded key member other reference with here | place
      · exact .inl here
      · rcases List.mem_cons.1 place with rfl | place
        · exact .inl known
        · exact .inr place
    exact ⟨closed, before, List.forall_mem_cons.2 ⟨fun _ => before first known, found⟩⟩
  | case4 seen first others value present unknown ih =>
    rw [reachFrom_of_find? unknown present]
    obtain ⟨closed, before, found⟩ := ih fun key member other reference => by
      rw [List.mem_append, NameSet.mem_insert]
      rcases NameSet.mem_insert.1 member with rfl | member
      · obtain ⟨_, value', present', occurs⟩ := reference
        obtain rfl := Option.some.inj (present.symm.trans present')
        exact .inr (.inl (mem_symbols.2 occurs))
      · rcases expanded key member other reference with here | place
        · exact .inl (.inr here)
        · rcases List.mem_cons.1 place with rfl | place
          · exact .inl (.inl rfl)
          · exact .inr (.inr place)
    refine ⟨closed, fun key member => before key (NameSet.mem_insert.2 (.inr member)), ?_⟩
    refine List.forall_mem_cons.2 ⟨fun _ => before first (NameSet.mem_insert.2 (.inl rfl)), ?_⟩
    exact fun key place => found key (List.mem_append.2 (.inr place))

/-- From the start, the walk sees the keys that are reached from the pending names. -/
theorem mem_reachFrom_empty :
    key ∈ constants.reachFrom .empty pending ↔
      constants.contains key ∧ ∃ name ∈ pending, ReflTransGen constants.RefersTo name key := by
  constructor
  · exact fun member => (reached_of_mem_reachFrom member).resolve_left NameSet.not_mem_empty
  · rintro ⟨isKey, name, place, reaches⟩
    obtain ⟨closed, _, found⟩ := @isExpanded_reachFrom _ constants .empty pending
      fun _ member => absurd member NameSet.not_mem_empty
    have start := found name place (contains_of_reflTransGen reaches isKey)
    clear isKey
    induction reaches with
    | refl => exact start
    | tail _ reference ih =>
      exact (closed _ ih _ reference).resolve_right List.not_mem_nil

/-- The unused keys are those that are not used. -/
theorem mem_unusedKeys :
    key ∈ constants.unusedKeys exprs ↔ constants.contains key ∧ ¬constants.Uses exprs key := by
  have isKey : key ∈ constants.keys ↔ constants.contains key :=
    ⟨NameMap.contains_of_mem_keys, fun isKey => by
      obtain ⟨value, found⟩ := Option.isSome_iff_exists.1 isKey
      exact NameMap.mem_keys_of_find?_eq_some found⟩
  have start : (∃ name ∈ (symbolsOfAll exprs).toList, ReflTransGen constants.RefersTo name key) ↔
      ∃ expr ∈ exprs, ∃ name, expr.contains name ∧ ReflTransGen constants.RefersTo name key := by
    constructor
    · rintro ⟨name, place, reaches⟩
      obtain ⟨expr, member, occurs⟩ := mem_symbolsOfAll.1 place
      exact ⟨expr, member, name, occurs, reaches⟩
    · rintro ⟨expr, member, name, occurs, reaches⟩
      exact ⟨name, mem_symbolsOfAll.2 ⟨expr, member, occurs⟩, reaches⟩
  rw [unusedKeys, NameSet.mem_filter, isKey, Bool.not_eq_true', decide_eq_false_iff_not,
    mem_reachFrom_empty, start]
  rfl

end Walk

section Dropping

/-- References between kept keys are references. -/
theorem refersTo_of_filter {other : String}
    (reference : RefersTo (constants.filter keep) name other) : constants.RefersTo name other := by
  obtain ⟨isKey, value, found, occurs⟩ := reference
  have source : ∀ {name value}, (constants.filter keep).find? name = some value →
      constants.find? name = some value := by
    intro name value found
    rw [NameMap.find?_filter] at found
    split at found
    · exact found
    · contradiction
  obtain ⟨value', found'⟩ := Option.isSome_iff_exists.1 isKey
  exact ⟨NameMap.contains_of_find?_eq_some (source found'), value, source found, occurs⟩

/-- Without some of its keys, a map without a circle has none. -/
theorem IsAcyclic.filter (acyclic : constants.IsAcyclic) (keep : String → Bool) :
    IsAcyclic (constants.filter keep) :=
  fun name cycle => acyclic name (TransGen.mono (fun _ _ => refersTo_of_filter) name name cycle)

/-- Where the kept keys are closed under references, an expression whose keys are kept stands
for the same as before. -/
theorem Expands.filter
    (closed : ∀ name other, keep name → constants.RefersTo name other → keep other)
    (expands : constants.Expands expr expanded)
    (kept : expr.SymbolsIn fun name => constants.contains name → keep name) :
    Expands (constants.filter keep) expr expanded := by
  induction expands with
  | literal value => exact .literal value
  | free absent =>
    refine .free ?_
    rw [NameMap.find?_filter, absent]
    split <;> rfl
  | @key name value _ found _ ih =>
    have isKey := NameMap.contains_of_find?_eq_some found
    have isKept : keep name := kept name (beq_self_eq_true name) isKey
    refine .key ?_ (ih fun other occurs isKey' =>
      closed name other isKept ⟨isKey', value, found, occurs⟩)
    rw [NameMap.find?_filter, if_pos isKept, found]
  | neg _ ih => exact .neg (ih kept)
  | binary _ _ ihLeft ihRight =>
    obtain ⟨keptLeft, keptRight⟩ := symbolsIn_binary.1 kept
    exact .binary (ihLeft keptLeft) (ihRight keptRight)
  | call _ ih => exact .call (ih kept)

/-- What a used key refers to is used. -/
theorem Uses.refersTo {other : String} (used : constants.Uses exprs name)
    (reference : constants.RefersTo name other) : constants.Uses exprs other := by
  obtain ⟨_, expr, member, start, occurs, reaches⟩ := used
  exact ⟨reference.1, expr, member, start, occurs, reaches.tail reference⟩

/-- Some of the expressions stand for the same without the unused keys. -/
theorem Expands.without_unusedKeys (member : expr ∈ exprs)
    (expands : constants.Expands expr expanded) :
    (constants.without (constants.unusedKeys exprs)).Expands expr expanded := by
  have isKept : ∀ {name}, (!decide (name ∈ constants.unusedKeys exprs)) = true ↔
      (constants.contains name → constants.Uses exprs name) := by
    intro name
    rw [Bool.not_eq_true', decide_eq_false_iff_not, mem_unusedKeys, not_and, not_not]
  refine expands.filter (fun name other kept reference => ?_) fun name occurs isKey => ?_
  · have ⟨_, _, found, _⟩ := reference
    have used := isKept.1 kept (NameMap.contains_of_find?_eq_some found)
    exact isKept.2 fun _ => used.refersTo reference
  · exact isKept.2 fun _ => ⟨isKey, expr, member, name, occurs, .refl⟩

/-- The unused keys come in increasing order and are exactly the keys that are not reached from
the symbols of the expressions, also where keys refer to each other in a circle. Where none do,
the expressions can be substituted without them to the same effect. -/
theorem unusedKeys_exact (constants : Constants ν) (exprs : List (Expr ν)) :
    (constants.unusedKeys exprs).toList.Pairwise (· < ·) ∧
      (∀ key, key ∈ constants.unusedKeys exprs ↔
        constants.contains key ∧ ¬constants.Uses exprs key) ∧
      (constants.IsAcyclic → ∃ results, substitute constants exprs = .ok results ∧
        substitute (constants.without (constants.unusedKeys exprs)) exprs = .ok results) := by
  refine ⟨NameSet.increasing _, fun key => mem_unusedKeys, fun acyclic => ?_⟩
  obtain ⟨substitution, resolved⟩ := Substitution.exists_ofConstants acyclic
  obtain ⟨fewer, resolved'⟩ := Substitution.exists_ofConstants
    (acyclic.filter fun key => !decide (key ∈ constants.unusedKeys exprs))
  refine ⟨_, substitute_of_resolved resolved exprs, ?_⟩
  rw [without, substitute_of_resolved resolved' exprs]
  refine congrArg Except.ok (List.map_congr_left fun expr member => ?_)
  exact (Substitution.expands_apply resolved' expr).unique
    ((Substitution.expands_apply resolved expr).without_unusedKeys member)

end Dropping

/-- Constants of which two are used through another one. The others refer to it, or are
referred to by unused ones. -/
def layered : Constants Float :=
  .ofList [("a", .add (.symbol "b") (.literal 1)), ("b", .symbol "d"),
    ("c", .mul (.symbol "a") (.symbol "e")), ("d", .literal 3), ("e", .symbol "y")]

/-- The walk from one of them sees the keys that it leads to. -/
theorem reachFrom_layered :
    layered.reachFrom .empty ["a", "x"] = ((NameSet.empty.insert "a").insert "b").insert "d" :=
  calc
    _ = layered.reachFrom (NameSet.empty.insert "a") ["b", "x"] :=
      reachFrom_of_find? List.not_mem_nil (rfl : layered.find? "a" = some _)
    _ = layered.reachFrom ((NameSet.empty.insert "a").insert "b") ["d", "x"] :=
      reachFrom_of_find? (by decide) (rfl : layered.find? "b" = some _)
    _ = layered.reachFrom (((NameSet.empty.insert "a").insert "b").insert "d") ["x"] :=
      reachFrom_of_find? (by decide) (rfl : layered.find? "d" = some _)
    _ = layered.reachFrom _ [] := reachFrom_of_absent rfl
    _ = _ := by rw [reachFrom]

/-- The walk in a circle ends at a key that is seen already. -/
theorem reachFrom_circular :
    Substitution.circular.reachFrom .empty ["d"] = (NameSet.empty.insert "d").insert "c" :=
  calc
    _ = Substitution.circular.reachFrom (NameSet.empty.insert "d") ["c"] :=
      reachFrom_of_find? List.not_mem_nil (rfl : Substitution.circular.find? "d" = some _)
    _ = Substitution.circular.reachFrom ((NameSet.empty.insert "d").insert "c") ["d"] :=
      reachFrom_of_find? (by decide) (rfl : Substitution.circular.find? "c" = some _)
    _ = Substitution.circular.reachFrom _ [] := reachFrom_of_known (by decide)
    _ = _ := by rw [reachFrom]

/-- A key that refers to a used one need not be used itself, also where that one is part of a
circle, and what is left without the unused keys is enough. -/
theorem unusedKeys_exact_of_layered :
    layered.IsAcyclic ∧
      (layered.unusedKeys [.mul (.symbol "a") (.symbol "x")]).toList = ["c", "e"] ∧
      ¬layered.Uses [.mul (.symbol "a") (.symbol "x")] "e" ∧
      substitute (layered.without (layered.unusedKeys [.mul (.symbol "a") (.symbol "x")]))
          [.mul (.symbol "a") (.symbol "x")] =
        .ok [.mul (.add (.literal 3) (.literal 1)) (.symbol "x")] ∧
      ¬Substitution.circular.Uses [.symbol "d"] "b" := by
  have resolved : Substitution.ofConstants layered = .ok ⟨[("a", .add (.literal 3) (.literal 1)),
      ("b", .literal 3), ("c", .mul (.add (.literal 3) (.literal 1)) (.symbol "y")),
      ("d", .literal 3), ("e", .symbol "y")]⟩ := by
    with_unfolding_all rfl
  have acyclic := Substitution.isAcyclic_of_ofConstants resolved
  have unused : (layered.unusedKeys [.mul (.symbol "a") (.symbol "x")]).toList = ["c", "e"] := by
    have symbols : (symbolsOfAll [(.mul (.symbol "a") (.symbol "x") : Expr Float)]).toList =
        ["a", "x"] := rfl
    rw [unusedKeys, symbols, reachFrom_layered]
    decide
  have unused' : (Substitution.circular.unusedKeys [.symbol "d"]).toList = ["a", "b", "e"] := by
    have symbols : (symbolsOfAll [(.symbol "d" : Expr Float)]).toList = ["d"] := rfl
    rw [unusedKeys, symbols, reachFrom_circular]
    decide
  obtain ⟨_, exact, harmless⟩ := unusedKeys_exact layered [.mul (.symbol "a") (.symbol "x")]
  obtain ⟨_, exactly, _⟩ := unusedKeys_exact Substitution.circular [.symbol "d"]
  obtain ⟨results, substituted, fewer⟩ := harmless acyclic
  refine ⟨acyclic, unused, ((exact "e").1 ?_).2, ?_, ((exactly "b").1 ?_).2⟩
  · rw [← NameSet.mem_toList, unused]
    decide
  · rw [fewer, ← substituted]
    exact substitute_of_resolved resolved _
  · rw [← NameSet.mem_toList, unused']
    decide

end Constants

end KalmanHeader

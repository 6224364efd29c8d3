import KalmanHeader.Proofs.Constants.Expansion

/-!
# Resolving constants

Resolving walks along the references and keeps what it finds. The invariant of the
walk is that every value that is kept is the expansion of its name; the walk fails only
where the keys on the way lead back to one of them. So all keys are resolved exactly
when no key reaches itself.
-/

namespace KalmanHeader

namespace Constants

variable {ν α β : Type} {constants : Constants ν} {resolved : NameMap (Expr ν)}
  {visiting keys : List String} {key : String} {value : Expr ν}

/-- Whether each value that is kept is the expansion of its name. -/
def Sound (constants : Constants ν) (resolved : NameMap (Expr ν)) : Prop :=
  ∀ name value, resolved.find? name = some value → constants.Expands (.symbol name) value

/-- Whether each name of some values also is a name of others. -/
def Retained (resolved resolved' : NameMap (Expr ν)) : Prop :=
  ∀ name, resolved.contains name → resolved'.contains name

/-- Nothing is kept at first. -/
theorem sound_empty : constants.Sound .empty :=
  fun _ _ found => absurd found.symm (Option.some_ne_none _)

/-- Keeping the expansion of a name is sound. -/
theorem Sound.insert (sound : constants.Sound resolved)
    (expands : constants.Expands (.symbol key) value) :
    constants.Sound (resolved.insert key value) := by
  intro name kept found
  rw [NameMap.find?_insert] at found
  split at found
  · rename_i same
    rw [same, ← Option.some.inj found]
    exact expands
  · exact sound name kept found

/-- A name that is kept stays kept when another one is. -/
theorem retained_insert : Retained resolved (resolved.insert key value) := by
  intro name kept
  rw [NameMap.contains, NameMap.find?_insert]
  split
  · rfl
  · exact kept

section Walk

/-- Whether a walk that began with the values `resolved` ended well: it only added
expansions and its result is as required, or else it failed at a key that reaches
itself. -/
def EndsWell (constants : Constants ν) (resolved : NameMap (Expr ν))
    (required : α → NameMap (Expr ν) → Prop) :
    Except CyclicConstant (α × NameMap (Expr ν)) → Prop
  | .ok (result, resolved') =>
    constants.Sound resolved' ∧ Retained resolved resolved' ∧ required result resolved'
  | .error cycle => constants.Reaches cycle.name cycle.name

/-- Whether a walk from the values `resolved` on ends well. -/
def Ensures (constants : Constants ν) (resolved : NameMap (Expr ν)) (walk : Resolving ν α)
    (required : α → NameMap (Expr ν) → Prop) : Prop :=
  constants.EndsWell resolved required (walk.run resolved)

variable {walk : Resolving ν α} {next : α → Resolving ν β}
  {required : α → NameMap (Expr ν) → Prop} {required' : β → NameMap (Expr ν) → Prop}

/-- A walk that does nothing ensures what holds already. -/
theorem ensures_pure {result : α} (sound : constants.Sound resolved)
    (holds : required result resolved) : constants.Ensures resolved (pure result) required :=
  ⟨sound, fun _ kept => kept, holds⟩

/-- One walk after the other. -/
theorem Ensures.bind (first : constants.Ensures resolved walk required)
    (second : ∀ result resolved', constants.Sound resolved' → Retained resolved resolved' →
      required result resolved' → constants.Ensures resolved' (next result) required') :
    constants.Ensures resolved (walk >>= next) required' := by
  unfold Ensures at first ⊢
  rw [StateT.run_bind]
  cases ran : walk.run resolved with
  | error cycle =>
    rw [ran] at first
    exact first
  | ok outcome =>
    obtain ⟨result, resolved'⟩ := outcome
    rw [ran] at first
    obtain ⟨sound, retained, holds⟩ := first
    have after := second result resolved' sound retained holds
    change constants.EndsWell resolved required' ((next result).run resolved')
    unfold Ensures at after
    cases ran' : (next result).run resolved' with
    | error cycle =>
      rw [ran'] at after
      exact after
    | ok outcome =>
      rw [ran'] at after
      obtain ⟨sound', retained', holds'⟩ := after
      exact ⟨sound', fun name kept => retained' name (retained name kept), holds'⟩

/-- What a walk ensures may be said in other words, also with the names that it retains. -/
theorem Ensures.imp {required' : α → NameMap (Expr ν) → Prop}
    (ensures : constants.Ensures resolved walk required)
    (weaker : ∀ result resolved', Retained resolved resolved' → required result resolved' →
      required' result resolved') : constants.Ensures resolved walk required' := by
  unfold Ensures at ensures ⊢
  cases ran : walk.run resolved with
  | error cycle =>
    rw [ran] at ensures
    exact ensures
  | ok outcome =>
    rw [ran] at ensures
    obtain ⟨sound, retained, holds⟩ := ensures
    exact ⟨sound, retained, weaker _ _ retained holds⟩

/-- Changing the result of a walk. -/
theorem Ensures.map {change : α → β} (first : constants.Ensures resolved walk required)
    (second : ∀ result resolved', required result resolved' → required' (change result) resolved') :
    constants.Ensures resolved (change <$> walk) required' := by
  rw [map_eq_pure_bind]
  exact first.bind fun result resolved' sound _ holds =>
    ensures_pure sound (second result resolved' holds)

/-- A visitor that expands each symbol of an expression expands the expression. -/
theorem ensures_mapSymbolsM {expr : Expr ν} {visit : String → Resolving ν (Option (Expr ν))}
    (visited : ∀ name, expr.contains name → ∀ resolved, constants.Sound resolved →
      constants.Ensures resolved (visit name) fun replacement _ =>
        constants.Expands (.symbol name) (replacement.getD (.symbol name)))
    (sound : constants.Sound resolved) :
    constants.Ensures resolved (expr.mapSymbolsM visit) fun expanded _ =>
      constants.Expands expr expanded := by
  induction expr generalizing resolved with
  | literal value => exact ensures_pure sound (.literal value)
  | symbol name =>
    refine (visited name (beq_self_eq_true name) resolved sound).bind ?_
    exact fun replacement resolved' sound' _ expands => ensures_pure sound' expands
  | neg operand ih =>
    refine (ih visited sound).bind fun operand' resolved' sound' _ expands => ?_
    exact ensures_pure sound' (.neg expands)
  | binary operation left right ihLeft ihRight =>
    have inLeft := fun name found => visited name (Bool.or_eq_true_iff.2 (.inl found))
    have inRight := fun name found => visited name (Bool.or_eq_true_iff.2 (.inr found))
    refine (ihLeft inLeft sound).bind fun left' resolved' sound' _ expandsLeft => ?_
    refine (ihRight inRight sound').bind fun right' resolved'' sound'' _ expandsRight => ?_
    exact ensures_pure sound'' (.binary expandsLeft expandsRight)
  | call function argument ih =>
    refine (ih visited sound).bind fun argument' resolved' sound' _ expands => ?_
    exact ensures_pure sound' (.call expands)

end Walk

section Steps

/-- A value that is kept is the result. -/
theorem resolve_of_kept (kept : resolved.find? key = some value) :
    (constants.resolve visiting key).run resolved = .ok (value, resolved) := by
  rw [resolve, StateT.run_bind, StateT.run_get, pure_bind, kept]
  rfl

/-- A key on the way to its own value is a cycle. -/
theorem resolve_of_cycle (missing : resolved.find? key = none) (cycle : key ∈ visiting) :
    (constants.resolve visiting key).run resolved = .error ⟨key⟩ := by
  rw [resolve, StateT.run_bind, StateT.run_get, pure_bind, missing, dif_pos cycle]
  rfl

/-- A name that is no key stands for itself. -/
theorem resolve_of_absent (missing : resolved.find? key = none) (fresh : key ∉ visiting)
    (absent : constants.find? key = none) :
    (constants.resolve visiting key).run resolved = .ok (.symbol key, resolved) := by
  rw [resolve, StateT.run_bind, StateT.run_get, pure_bind, missing]
  dsimp only
  rw [dif_neg fresh]
  split
  · rfl
  · rename_i present
    rw [absent] at present
    contradiction

/-- Any other key is resolved through its value and kept. -/
theorem resolve_of_find? (missing : resolved.find? key = none) (fresh : key ∉ visiting)
    (found : constants.find? key = some value) :
    (constants.resolve visiting key).run resolved = (do
      let expanded ← value.mapSymbolsM fun name =>
        if constants.contains name then some <$> constants.resolve (key :: visiting) name
        else pure none
      modify (·.insert key expanded)
      return expanded : Resolving ν (Expr ν)).run resolved := by
  rw [resolve, StateT.run_bind, StateT.run_get, pure_bind, missing]
  dsimp only
  rw [dif_neg fresh]
  split
  · rename_i absent
    rw [absent] at found
    contradiction
  · rename_i present
    obtain rfl := Option.some.inj (found.symm.trans present)
    rfl

end Steps

section Invariant

/-- Keeping the expansion of a key. -/
theorem ensures_keep (sound : constants.Sound resolved)
    (expands : constants.Expands (.symbol key) value) :
    constants.Ensures resolved (do modify (·.insert key value); return value)
      fun value resolved' =>
        constants.Expands (.symbol key) value ∧ (constants.contains key → resolved'.contains key) := by
  refine ⟨sound.insert expands, retained_insert, expands, fun _ => ?_⟩
  rw [NameMap.contains, NameMap.find?_insert, if_pos rfl]
  rfl

/-- Resolving a name that all keys on the way reach expands it, and a key is kept
afterwards. -/
theorem ensures_resolve (visiting : List String) (key : String)
    (leading : ∀ visited ∈ visiting, constants.Reaches visited key)
    (sound : constants.Sound resolved) :
    constants.Ensures resolved (constants.resolve visiting key) fun value resolved' =>
      constants.Expands (.symbol key) value ∧ (constants.contains key → resolved'.contains key) := by
  -- The induction is on the keys that are not on the way yet.
  induction visiting, key using resolve.induct constants generalizing resolved with
  | case1 visiting key ih =>
    unfold Ensures
    cases kept : resolved.find? key with
    | some value =>
      rw [resolve_of_kept kept]
      exact ⟨sound, fun _ known => known, sound key value kept, fun _ =>
        NameMap.contains_of_find?_eq_some kept⟩
    | none =>
      by_cases cycle : key ∈ visiting
      · rw [resolve_of_cycle kept cycle]
        exact leading key cycle
      · cases found : constants.find? key with
        | none =>
          rw [resolve_of_absent kept cycle found]
          refine ⟨sound, fun _ known => known, .free found, fun isKey => ?_⟩
          rw [NameMap.contains_eq_false_iff.2 found] at isKey
          contradiction
        | some raw =>
          rw [resolve_of_find? kept cycle found]
          refine (ensures_mapSymbolsM (fun name occurs resolved' sound' => ?_) sound).bind
            fun expanded resolved' sound' _ expands => ?_
          · split
            · rename_i isKey'
              have reference : constants.RefersTo key name := ⟨isKey', raw, found, occurs⟩
              have leading' : ∀ visited ∈ key :: visiting, constants.Reaches visited name :=
                List.forall_mem_cons.2 ⟨.single reference, fun visited member =>
                  (leading visited member).tail reference⟩
              exact (ih cycle raw found name leading' sound').map fun _ _ holds => holds.1
            · rename_i noKey
              exact ensures_pure sound'
                (.free (NameMap.contains_eq_false_iff.1 (Bool.eq_false_iff.2 noKey)))
          · exact ensures_keep sound' (.key found expands)

/-- Resolving keys one after another keeps the value of each. -/
theorem ensures_resolveAll (keys : List String) (sound : constants.Sound resolved) :
    constants.Ensures resolved (constants.resolveAll keys) fun _ resolved' =>
      ∀ key ∈ keys, constants.contains key → resolved'.contains key := by
  induction keys generalizing resolved with
  | nil => exact ensures_pure sound (List.forall_mem_nil _)
  | cons key keys ih =>
    have first : constants.Ensures resolved (discard (constants.resolve [] key)) fun _ resolved' =>
        constants.contains key → resolved'.contains key :=
      (ensures_resolve [] key (List.forall_mem_nil _) sound).map fun _ _ holds => holds.2
    change constants.Ensures resolved
      (discard (constants.resolve [] key) >>= fun _ => constants.resolveAll keys) _
    refine first.bind fun _ resolved' sound' _ kept => ?_
    refine (ih sound').imp fun _ resolved'' retained others => ?_
    exact List.forall_mem_cons.2 ⟨fun isKey => retained key (kept isKey), others⟩

end Invariant

end Constants

namespace Substitution

variable {ν : Type} {constants : Constants ν} {substitution : Substitution ν}

/-- Resolving all keys ends well, with the expansions as bindings or at a key that reaches
itself. -/
theorem endsWell_ofConstants (constants : Constants ν) :
    match ofConstants constants with
    | .ok substitution => ∀ expr, constants.Expands expr (substitution.apply expr)
    | .error cycle => constants.Reaches cycle.name cycle.name := by
  have walk := Constants.ensures_resolveAll constants.keys.toList constants.sound_empty
  unfold Constants.Ensures at walk
  unfold ofConstants
  cases ran : (constants.resolveAll constants.keys.toList).run .empty with
  | error cycle =>
    rw [ran] at walk
    exact walk
  | ok outcome =>
    rw [ran] at walk
    obtain ⟨sound, _, complete⟩ := walk
    refine Constants.expands_mapSymbols fun name => ?_
    have binding : (Substitution.mk outcome.2.entries).find? name = outcome.2.find? name := rfl
    rw [binding]
    cases kept : outcome.2.find? name with
    | some value => exact sound name value kept
    | none =>
      cases found : constants.find? name with
      | none => exact .free found
      | some value =>
        have isKept := complete name (NameMap.mem_keys_of_find?_eq_some found)
          (NameMap.contains_of_find?_eq_some found)
        rw [NameMap.contains_eq_false_iff.2 kept] at isKept
        contradiction

/-- The substitution of constants expands every expression. -/
theorem expands_apply (resolved : ofConstants constants = .ok substitution) (expr : Expr ν) :
    constants.Expands expr (substitution.apply expr) := by
  have ended := endsWell_ofConstants constants
  rw [resolved] at ended
  exact ended expr

/-- An expression stands for what comes out when the constants are substituted. -/
theorem expands_iff (resolved : ofConstants constants = .ok substitution)
    {expr expanded : Expr ν} :
    constants.Expands expr expanded ↔ substitution.apply expr = expanded := by
  constructor
  · exact (expands_apply resolved expr).unique
  · rintro rfl
    exact expands_apply resolved expr

/-- No key reaches itself where the constants are resolved. -/
theorem isAcyclic_of_ofConstants (resolved : ofConstants constants = .ok substitution) :
    constants.IsAcyclic :=
  fun name => (expands_apply resolved (.symbol name)).not_reaches name (beq_self_eq_true name)

/-- The key that resolving fails at reaches itself. -/
theorem reaches_of_ofConstants {cycle : CyclicConstant}
    (failed : ofConstants constants = .error cycle) :
    constants.Reaches cycle.name cycle.name := by
  have ended := endsWell_ofConstants constants
  rw [failed] at ended
  exact ended

/-- Constants of which no key reaches itself are resolved. -/
theorem exists_ofConstants (acyclic : constants.IsAcyclic) :
    ∃ substitution, ofConstants constants = .ok substitution := by
  cases result : ofConstants constants with
  | ok substitution => exact ⟨substitution, rfl⟩
  | error cycle => exact absurd (reaches_of_ofConstants result) (acyclic cycle.name)

/-- Constants are resolved exactly when no key reaches itself, and what resolving fails at
otherwise is a key that does. -/
theorem ofConstants_succeeds_iff (constants : Constants ν) :
    ((∃ substitution, ofConstants constants = .ok substitution) ↔ constants.IsAcyclic) ∧
      ∀ cycle, ofConstants constants = .error cycle →
        constants.contains cycle.name ∧ constants.Reaches cycle.name cycle.name := by
  refine ⟨⟨?_, exists_ofConstants⟩, fun cycle failed => ?_⟩
  · rintro ⟨substitution, resolved⟩
    exact isAcyclic_of_ofConstants resolved
  · have reaches := reaches_of_ofConstants failed
    exact ⟨reaches.contains, reaches⟩

/-- Two constants that refer to each other, one of them through two others, and a further
one that refers to itself. -/
def circular : Constants Float :=
  .ofList [("a", .add (.symbol "b") (.symbol "c")), ("b", .symbol "d"),
    ("c", .mul (.symbol "d") (.literal 2)), ("d", .neg (.symbol "c")), ("e", .symbol "e")]

/-- Resolving circular constants fails within the first circle, not on the way to it. -/
theorem ofConstants_succeeds_iff_of_circular :
    ofConstants circular = .error ⟨"d"⟩ ∧ circular.contains "d" ∧ circular.Reaches "d" "d" := by
  have failed : ofConstants circular = .error ⟨"d"⟩ := by with_unfolding_all rfl
  exact ⟨failed, (ofConstants_succeeds_iff circular).2 ⟨"d"⟩ failed⟩

end Substitution

end KalmanHeader

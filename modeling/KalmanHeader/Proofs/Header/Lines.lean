import KalmanHeader.Proofs.Header.Reader

/-!
# The lines of a function

The reader finds the lines of a function where they stand between two lines that are
braces, and on a line that declares constants it finds their name and initializer.
-/

namespace KalmanHeader.Reader

variable {front : List Char} {lines back : List (List Char)}

section Search

variable {α : Type} [BEq α] [LawfulBEq α] {first : List α} {last : α}

/-- Nothing in a list without `last` is `last`. -/
theorem ne_of_absent (absent : last ∉ first) : ∀ entry ∈ first, (entry != last) = true := by
  intro entry member
  exact bne_iff_ne.2 fun same => absent (same ▸ member)

/-- What stands in front of the first `last` in a list. -/
theorem takeWhile_ne (absent : last ∉ first) (rest : List α) :
    (first ++ last :: rest).takeWhile (· != last) = first := by
  rw [List.takeWhile_append_of_pos (ne_of_absent absent), List.takeWhile_cons_of_neg (by simp),
    List.append_nil]

/-- A list from the first `last` on. -/
theorem dropWhile_ne (absent : last ∉ first) (rest : List α) :
    (first ++ last :: rest).dropWhile (· != last) = last :: rest := by
  rw [List.dropWhile_append_of_pos (ne_of_absent absent), List.dropWhile_cons_of_neg (by simp)]

/-- A list after the last `last` in it. -/
theorem reverse_takeWhile_ne (absent : last ∉ first) (front : List α) :
    ((front ++ last :: first).reverse.takeWhile (· != last)).reverse = first := by
  rw [List.reverse_append, List.reverse_cons, List.append_assoc, List.singleton_append,
    takeWhile_ne (mt List.mem_reverse.1 absent), List.reverse_reverse]

/-- What stands in front of the last `last` in a list. -/
theorem reverse_dropWhile_ne (absent : last ∉ first) (front : List α) :
    (((front ++ last :: first).reverse.dropWhile (· != last)).drop 1).reverse = front := by
  rw [List.reverse_append, List.reverse_cons, List.append_assoc, List.singleton_append,
    dropWhile_ne (mt List.mem_reverse.1 absent), List.drop_succ_cons, List.drop_zero,
    List.reverse_reverse]

end Search

/-- Lines one after another, each with its end. -/
def terminated (lines : List (List Char)) : List Char :=
  lines.flatMap (· ++ ['\n'])

/-- Lines are found again. -/
theorem splitOn_terminated {rest : List Char} (single : ∀ line ∈ lines, '\n' ∉ line) :
    (terminated lines ++ rest).splitOn '\n' = lines ++ rest.splitOn '\n' := by
  induction lines with
  | nil => rfl
  | cons first others ih =>
    obtain ⟨one, single⟩ := List.forall_mem_cons.1 single
    have start : terminated (first :: others) ++ rest =
        first ++ '\n' :: (terminated others ++ rest) := by
      simp [terminated]
    rw [start, List.splitOn_append_cons_self_of_not_mem one, ih single, List.cons_append]

/-- The lines of a text that ends with known lines. -/
theorem splitOn_of {text : String} (whole : text.toList = front ++ '\n' :: terminated lines)
    (single : ∀ line ∈ lines, '\n' ∉ line) :
    text.toList.splitOn '\n' = front.splitOn '\n' ++ (lines ++ [[]]) := by
  have after := @splitOn_terminated _ [] single
  rw [List.append_nil, List.splitOn_nil] at after
  rw [whole, List.splitOn_append_cons_self, after]

/-- The lines of the function stand between the last line that is an opening brace and
the first closing brace after it. -/
theorem bodyLines_of {text : String}
    (whole : text.toList = front ++ '\n' :: terminated (['\x7b'] :: (lines ++ ['\x7d'] :: back)))
    (single : ∀ line ∈ lines, '\n' ∉ line) (single' : ∀ line ∈ back, '\n' ∉ line)
    (opening : ['\x7b'] ∉ lines) (opening' : ['\x7b'] ∉ back) (closing : ['\x7d'] ∉ lines) :
    bodyLines text = lines := by
  have allSingle : ∀ line ∈ ['\x7b'] :: (lines ++ ['\x7d'] :: back), '\n' ∉ line := by
    simp only [List.forall_mem_cons, List.forall_mem_append]
    exact ⟨by decide, single, by decide, single'⟩
  -- The reader searches from the end, so it must not meet an opening brace on the way.
  have absent : ['\x7b'] ∉ lines ++ ['\x7d'] :: (back ++ [[]]) := by
    simp [opening, opening']
  rw [bodyLines, splitOn_of whole allSingle, List.cons_append, List.append_assoc, List.cons_append,
    reverse_takeWhile_ne absent, takeWhile_ne closing]

/-- The line that the function starts with stands before the last line that is an opening
brace. -/
theorem headLine_of {text : String} {head : List Char}
    (whole : text.toList = front ++ '\n' :: terminated (head :: ['\x7b'] :: lines))
    (single : '\n' ∉ head) (single' : ∀ line ∈ lines, '\n' ∉ line) (opening : ['\x7b'] ∉ lines) :
    headLine text = head := by
  have allSingle : ∀ line ∈ head :: ['\x7b'] :: lines, '\n' ∉ line := by
    simp only [List.forall_mem_cons]
    exact ⟨single, by decide, single'⟩
  have absent : ['\x7b'] ∉ (lines ++ [[]]).reverse := by
    simp [opening]
  rw [headLine, splitOn_of whole allSingle, List.reverse_append, List.cons_append, List.cons_append,
    List.reverse_cons, List.reverse_cons, List.append_assoc, List.append_assoc,
    List.singleton_append, dropWhile_ne absent]
  rfl

/-- The name and the initializer of a line that declares constants. -/
theorem declaration?_of {name between initializer rest : List Char} (named : '[' ∉ name)
    (noBrace : '\x7b' ∉ name ++ '[' :: between) (inner : '\x7d' ∉ initializer) :
    declaration? (declarationStart ++
        (name ++ '[' :: (between ++ '\x7b' :: (initializer ++ '\x7d' :: rest)))) =
      some (String.ofList name, initializer) := by
  have start : declarationStart.isPrefixOf (declarationStart ++
      (name ++ '[' :: (between ++ '\x7b' :: (initializer ++ '\x7d' :: rest)))) = true :=
    List.isPrefixOf_iff_prefix.2 (List.prefix_append _ _)
  have fromBrace : (name ++ '[' :: (between ++ '\x7b' :: (initializer ++ '\x7d' :: rest))).dropWhile
      (· != '\x7b') = '\x7b' :: (initializer ++ '\x7d' :: rest) := by
    have found := dropWhile_ne noBrace (initializer ++ '\x7d' :: rest)
    rwa [List.append_assoc, List.cons_append] at found
  unfold declaration?
  rw [if_pos start]
  simp only [List.drop_left, takeWhile_ne named, fromBrace, List.drop_succ_cons, List.drop_zero,
    takeWhile_ne inner]

end KalmanHeader.Reader

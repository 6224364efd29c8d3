import Mathlib.Data.List.Infix
import KalmanHeader.Model.Header
import KalmanHeader.Proofs.Header.Success

/-!
# The comment in the first line

A header starts with a comment that mentions its file. The name of the file is not checked,
and C ends a comment at the first `*/`. So the comment ends where it is meant to exactly when
these characters do not follow each other in the name. Otherwise the rest of the name is read
as code.

The last name of a path has no slash in it, so this cannot happen to a header that is written
to a file. It can happen to one that is named for a model.
-/

namespace KalmanHeader

namespace Reader

/-- The end of a comment. -/
def commentEnd : List Char :=
  "*/".toList

/-- What follows the first end of a comment. -/
def afterComment? : List Char → Option (List Char)
  | [] => none
  | character :: rest =>
    if commentEnd.isPrefixOf (character :: rest) then some (rest.drop 1) else afterComment? rest

variable {character : Char} {front back after text : List Char}

/-- A comment ends in one of two texts unless the second starts with a slash. -/
theorem commentEnd_infix_append (apart : back.head? ≠ some '/') :
    commentEnd <:+: front ++ back ↔ commentEnd <:+: front ∨ commentEnd <:+: back := by
  constructor
  · intro ends
    obtain inFront | inBack | ⟨left, right, split, leftSuffix, rightPrefix⟩ :=
      List.infix_append_iff.1 ends
    · exact .inl inFront
    · exact .inr inBack
    -- Only a star that is followed by a slash would be split between the texts.
    · match left, right, split with
      | [], _, split => exact .inr (split ▸ rightPrefix.isInfix)
      | [_], _, rfl =>
        obtain ⟨rest, rfl⟩ := rightPrefix
        exact absurd rfl apart
      | [_, _], _, rfl => exact .inl leftSuffix.isInfix
  · rintro (ends | ends)
    · exact ends.trans List.infix_append_left
    · exact ends.trans List.infix_append_right

/-- The start of a comment does not end it. -/
theorem commentEnd_infix_opening :
    commentEnd <:+: "/* ".toList ++ text ↔ commentEnd <:+: text := by
  have opening : "/* ".toList = ['/', '*', ' '] := rfl
  simp [opening, commentEnd, List.infix_cons_iff]

/-- A text that has no end of a comment has none at its start, whatever follows. -/
theorem not_commentEnd_prefix (unended : ¬commentEnd <:+: character :: front) (after : List Char) :
    ¬commentEnd <+: character :: (front ++ (commentEnd ++ after)) := by
  intro starts
  match front with
  | [] =>
    obtain ⟨rest, split⟩ := starts
    exact absurd (List.cons.inj (List.cons.inj split).2).1 (by decide)
  | _ :: _ =>
    obtain ⟨rest, split⟩ := starts
    obtain ⟨rfl, tail⟩ := List.cons.inj split
    obtain ⟨rfl, _⟩ := List.cons.inj tail
    exact unended (List.prefix_append commentEnd _).isInfix

/-- The first end of a comment is the one with no other before it. -/
theorem afterComment?_eq_some_iff :
    afterComment? text = some after ↔
      ∃ front, text = front ++ (commentEnd ++ after) ∧ ¬commentEnd <:+: front := by
  constructor
  · intro found
    induction text with
    | nil => contradiction
    | cons character rest ih =>
      rw [afterComment?] at found
      split at found
      case isTrue ends =>
        obtain ⟨behind, split⟩ := List.isPrefixOf_iff_prefix.1 ends
        obtain ⟨rfl, rfl⟩ := List.cons.inj split
        obtain rfl : behind = after := Option.some.inj found
        exact ⟨[], rfl, by decide⟩
      case isFalse goesOn =>
        obtain ⟨front, rfl, unended⟩ := ih found
        refine ⟨character :: front, rfl, fun ends => ?_⟩
        obtain starts | inside := List.infix_cons_iff.1 ends
        · exact goesOn (List.isPrefixOf_iff_prefix.2 (starts.trans (List.prefix_append _ _)))
        · exact unended inside
  · rintro ⟨front, rfl, unended⟩
    induction front with
    | nil => rfl
    | cons character front ih =>
      have goesOn := not_commentEnd_prefix unended after
      rw [List.cons_append, afterComment?, if_neg (mt List.isPrefixOf_iff_prefix.1 goesOn)]
      exact ih fun ends => unended (List.infix_cons ends)

/-- Something follows the first end of a comment where there is one. -/
theorem exists_afterComment? (ends : commentEnd <:+: text) :
    ∃ after, afterComment? text = some after := by
  induction text with
  | nil => exact absurd ends (by decide)
  | cons character rest ih =>
    rw [afterComment?]
    split
    case isTrue => exact ⟨_, rfl⟩
    case isFalse goesOn =>
      exact ih ((List.infix_cons_iff.1 ends).resolve_left (mt List.isPrefixOf_iff_prefix.2 goesOn))

end Reader

open Reader

/-- What a banner says after the name of the file, up to its end. -/
def bannerEnding (fileName : String) : String :=
  if fileName.isEmpty then "Generated by ekfgen. Do not edit. "
  else ": generated by ekfgen. Do not edit. "

/-- A banner up to its end. -/
def bannerText (fileName : String) : List Char :=
  "/* ".toList ++ (fileName.toList ++ (bannerEnding fileName).toList)

/-- What comes after a banner: an empty line and the first line of the include guard. -/
def guardStart (guard : String) : List Char :=
  ("\n\n#ifndef " ++ guard ++ "\n").toList

/-- How the banner of a header is read. -/
structure BannerIsRead (text guard fileName : String) (code : List Char) : Prop where
  /-- The code comes after the banner. -/
  written : text.toList = bannerText fileName ++ (commentEnd ++ code)
  guarded : guardStart guard <+: code
  /-- It is what follows the first end of a comment exactly when the name of the file has
  none. -/
  closed_iff : afterComment? text.toList = some code ↔ ¬commentEnd <:+: fileName.toList
  /-- Otherwise the rest of the name is read as code, and the rest of the banner. -/
  escaped : commentEnd <:+: fileName.toList →
    ∃ after, afterComment? fileName.toList = some after ∧
      afterComment? text.toList =
        some (after ++ ((bannerEnding fileName).toList ++ (commentEnd ++ code)))

/-- Only the name of the file can end the comment before the end of the banner. -/
theorem commentEnd_infix_bannerText {fileName : String} :
    commentEnd <:+: bannerText fileName ↔ commentEnd <:+: fileName.toList := by
  have ending : (bannerEnding fileName).toList.head? ≠ some '/' ∧
      ¬commentEnd <:+: (bannerEnding fileName).toList := by
    unfold bannerEnding
    split <;> decide
  rw [bannerText, commentEnd_infix_opening, commentEnd_infix_append ending.1,
    or_iff_left ending.2]

namespace HeaderLayout

/-- The text of a layout is the banner, an empty line and the include guard, and more. -/
theorem exists_toList_text_banner (layout : HeaderLayout) : ∃ code,
    layout.text.toList = bannerText layout.fileName ++ (commentEnd ++ code) ∧
      guardStart layout.guard <+: code := by
  have banner : layout.banner.toList = bannerText layout.fileName ++ commentEnd := by
    unfold banner bannerText bannerEnding
    split
    case isTrue unnamed =>
      rw [String.isEmpty_iff.1 unnamed]
      rfl
    case isFalse =>
      have ending : ": generated by ekfgen. Do not edit. */".toList =
          ": generated by ekfgen. Do not edit. ".toList ++ commentEnd := by decide
      simp only [String.toList_append, ending, List.append_assoc]
  obtain ⟨rest, code⟩ : ∃ rest, layout.code.toList =
      "#ifndef ".toList ++ (layout.guard.toList ++ ('\n' :: rest)) := by
    have define : "\n#define ".toList = '\n' :: "#define ".toList := rfl
    -- The equation of so long a text is slow to derive, its definition is not.
    delta code
    simp only [String.toList_append, define, List.append_assoc, List.cons_append]
    exact ⟨_, rfl⟩
  refine ⟨"\n\n".toList ++ layout.code.toList, ?_, rest, ?_⟩
  · rw [text, String.toList_append, String.toList_append, banner, List.append_assoc,
      List.append_assoc]
  · have opening : "\n\n#ifndef ".toList = "\n\n".toList ++ "#ifndef ".toList := rfl
    have line : "\n".toList = ['\n'] := rfl
    simp only [guardStart, code, String.toList_append, opening, line, List.append_assoc,
      List.cons_append, List.nil_append]

/-- The banner of a layout. -/
theorem exists_bannerIsRead (layout : HeaderLayout) :
    ∃ code, BannerIsRead layout.text layout.guard layout.fileName code := by
  obtain ⟨code, written, guarded⟩ := layout.exists_toList_text_banner
  refine ⟨code, written, guarded, ?_, fun ends => ?_⟩
  · rw [← commentEnd_infix_bannerText, afterComment?_eq_some_iff]
    constructor
    · rintro ⟨front, split, unended⟩
      obtain rfl := List.append_cancel_right (written.symm.trans split)
      exact unended
    · exact fun unended => ⟨_, written, unended⟩
  · obtain ⟨after, found⟩ := exists_afterComment? ends
    obtain ⟨front, name, unended⟩ := afterComment?_eq_some_iff.1 found
    refine ⟨after, found, afterComment?_eq_some_iff.2 ⟨"/* ".toList ++ front, ?_,
      mt commentEnd_infix_opening.1 unended⟩⟩
    simp only [written, bannerText, name, List.append_assoc]

end HeaderLayout

namespace HeaderSpec

variable {spec : HeaderSpec} {options : HeaderOptions} {fileName : String}
  {header : GeneratedHeader}

/-- A header that is composed has a layout with the name of its file. -/
theorem exists_layout_of_compose (composed : spec.compose options fileName = .ok header) :
    ∃ layout : HeaderLayout, header = layout.generate ∧ layout.fileName = fileName ∧
      layout.guard = options.guardFor fileName := by
  obtain ⟨_, _, _, layout, _, laidOut, rfl⟩ := compose_eq_ok.1 composed
  obtain ⟨_, _, _, rfl⟩ := layout_eq_ok.1 laidOut
  exact ⟨_, rfl, rfl, rfl⟩

/-- The banner of a header ends at the first end of a comment exactly when the name of its
file has none. -/
theorem bannerIsRead_of_compose (composed : spec.compose options fileName = .ok header) :
    ∃ code, BannerIsRead header.text (options.guardFor fileName) fileName code := by
  obtain ⟨layout, rfl, rfl, guard⟩ := exists_layout_of_compose composed
  rw [← guard]
  exact layout.exists_bannerIsRead

/-- A point at rest that is observed as it is. -/
def resting : HeaderSpec where
  state := [.symbol "a"]
  transition := [.symbol "a"]
  observation := [.symbol "a"]
  transitionJacobian := none
  observationJacobian := none
  constants := .empty
  post := []

/-- A point at rest has a header in a file whose include guard can be defined. -/
theorem exists_compose_resting
    (claimed : DeclaredName.claim reservedNames
      (DeclaredName.all .standard (HeaderOptions.standard.guardFor fileName) [] []) = .ok ()) :
    ∃ header, resting.compose .standard fileName = .ok header := by
  have resolved : Substitution.ofConstants resting.constants = .ok ⟨[]⟩ := rfl
  have named : (resting.substituted ⟨[]⟩).stateNames = .ok ["a"] := rfl
  obtain ⟨header, composed, _⟩ :=
    exists_compose_of_claim (by decide) (by decide) resolved named claimed
  exact ⟨header, composed⟩

/-- With a plain name the banner is all of the first comment. -/
theorem bannerIsRead_of_compose_of_resting :
    ∃ header, resting.compose .standard "model.h" = .ok header ∧
      ∃ code, guardStart "MODEL_H" <+: code ∧ afterComment? header.text.toList = some code := by
  obtain ⟨header, composed⟩ := @exists_compose_resting "model.h" (by decide)
  obtain ⟨code, read⟩ := bannerIsRead_of_compose composed
  exact ⟨header, composed, code, read.guarded, read.closed_iff.2 (by decide)⟩

/-- A name can end the comment and go on in code, up to a comment that it starts itself. -/
theorem resting_escapes_banner :
    ∃ header, resting.compose .standard "*/int x;/*.h" = .ok header ∧
      (∃ rest, afterComment? header.text.toList = some ("int x;/*.h".toList ++ rest)) ∧
      ¬∃ code, guardStart (HeaderOptions.standard.guardFor "*/int x;/*.h") <+: code ∧
        afterComment? header.text.toList = some code := by
  obtain ⟨header, composed⟩ := @exists_compose_resting "*/int x;/*.h" (by decide)
  obtain ⟨layout, rfl, name, _⟩ := exists_layout_of_compose composed
  obtain ⟨code, read⟩ := layout.exists_bannerIsRead
  obtain ⟨after, found, escaped⟩ := read.escaped (name ▸ by decide)
  have rest : afterComment? "*/int x;/*.h".toList = some "int x;/*.h".toList := by decide
  rw [name] at found
  obtain rfl := Option.some.inj (found.symm.trans rest)
  refine ⟨_, composed, ⟨_, escaped⟩, ?_⟩
  rintro ⟨code', ⟨_, rfl⟩, closed⟩
  exact absurd (List.cons.inj (Option.some.inj (escaped.symm.trans closed))).1 (by decide)

end HeaderSpec

namespace FilterModel

variable {model : FilterModel} {header : GeneratedHeader}

/-- The banner of the header of a model ends at the first end of a comment exactly when the
name of the model has none. -/
theorem closed_iff_of_compose (composed : model.compose = .ok header) :
    ∃ code, guardStart (model.headerOptions.guardFor model.fileName) <+: code ∧
      (afterComment? header.text.toList = some code ↔ ¬commentEnd <:+: model.name.toList) := by
  unfold compose at composed
  simp only [bind_eq_ok, mapError_eq_ok] at composed
  obtain ⟨spec, _, composed⟩ := composed
  obtain ⟨layout, rfl, name, guard⟩ := HeaderSpec.exists_layout_of_compose composed
  obtain ⟨code, read⟩ := layout.exists_bannerIsRead
  have suffix : commentEnd <:+: model.fileName.toList ↔ commentEnd <:+: model.name.toList := by
    rw [fileName, String.toList_append, commentEnd_infix_append (by decide),
      or_iff_left (by decide)]
  exact ⟨code, guard ▸ read.guarded, by rw [← suffix, ← name]; exact read.closed_iff⟩

end FilterModel

namespace Path

/-- No part of a text between slashes has a slash in it. -/
theorem notMem_partsFrom {read rest : List Char} (apart : '/' ∉ read) :
    ∀ part ∈ partsFrom read rest, '/' ∉ part.toList := by
  induction rest generalizing read with
  | nil =>
    intro part member
    obtain rfl := List.mem_singleton.1 member
    rwa [String.toList_ofList, List.mem_reverse]
  | cons character rest ih =>
    rw [partsFrom]
    split
    case isTrue =>
      refine List.forall_mem_cons.2 ⟨?_, ih List.not_mem_nil⟩
      rwa [String.toList_ofList, List.mem_reverse]
    case isFalse other =>
      exact ih fun member => (List.mem_cons.1 member).elim (fun slash => other slash.symm) apart

/-- A step into a directory is named as in the text. -/
theorem eq_of_step? {part name : String} (step : step? part = some (.into name)) :
    part = name := by
  unfold step? at step
  split at step
  · contradiction
  · split at step
    · exact nomatch step
    · exact Step.into.inj (Option.some.inj step)

/-- The last name of a path has no slash in it. -/
theorem notMem_fileName? {text name : String} (last : (Path.ofText text).fileName? = some name) :
    '/' ∉ name.toList := by
  have into : .into name ∈ (Path.ofText text).steps := by
    unfold fileName? at last
    split at last
    case h_1 _ found =>
      obtain rfl := Option.some.inj last
      exact List.mem_of_getLast? found
    case h_2 => contradiction
  obtain ⟨part, member, step⟩ := List.mem_filterMap.1 into
  obtain rfl := eq_of_step? step
  exact notMem_partsFrom List.not_mem_nil part member

end Path

namespace HeaderSpec

variable {spec : HeaderSpec} {options : HeaderOptions} {mark text : String}
  {header : GeneratedHeader} {replacement : Replacement}

/-- The banner of a header that is written to a file ends at the first end of a comment. -/
theorem afterComment?_of_writing
    (written : spec.writing options mark (.ofText text) = .ok (header, replacement)) :
    ∃ code, guardStart (options.guardFor ((Path.ofText text).fileName?.getD "")) <+: code ∧
      afterComment? header.text.toList = some code := by
  obtain ⟨header, composed, same⟩ := map_eq_ok.1 written
  obtain ⟨rfl, rfl⟩ := Prod.mk.inj same
  obtain ⟨layout, rfl, name, guard⟩ := exists_layout_of_compose composed
  obtain ⟨code, read⟩ := layout.exists_bannerIsRead
  refine ⟨code, guard ▸ read.guarded, read.closed_iff.2 fun ends => ?_⟩
  have slash : '/' ∈ layout.fileName.toList := ends.subset (by decide)
  rw [name] at slash
  cases last : (Path.ofText text).fileName? with
  | none =>
    rw [last] at slash
    contradiction
  | some name =>
    rw [last] at slash
    exact Path.notMem_fileName? last slash

end HeaderSpec

end KalmanHeader

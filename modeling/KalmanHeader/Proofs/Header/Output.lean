import KalmanHeader.Header.Output
import KalmanHeader.Proofs.Disk.Replacement
import KalmanHeader.Proofs.Header.ReadBack

/-!
# Headers are written as a whole

A header is composed before the disk is touched, and then replaces its file as a whole.
Whichever operations fail, and whatever they leave of the files that they work on, the file
holds the complete text of the header if writing succeeds, and nothing on the disk has
changed if it does not.
-/

namespace KalmanHeader.HeaderSpec

variable {spec : HeaderSpec} {options : HeaderOptions} {mark : String} {path : Path}
  {faults : FaultPattern} {disk disk' : Disk} {header : GeneratedHeader}

/-- The operations on files that are tried when a header is written. -/
def tried (spec : HeaderSpec) (options : HeaderOptions) (mark : String) (path : Path)
    (faults : FaultPattern) (disk : Disk) : List FileOperation :=
  match spec.writing options mark path with
  | .error _ => []
  | .ok (_, replacement) => replacement.tried faults disk

/-- Whether writing a header gives all of it or nothing. -/
structure WritesAllOrNothing (spec : HeaderSpec) (options : HeaderOptions) (mark : String)
    (path : Path) (faults : FaultPattern) (disk : Disk) : Prop where
  /-- The header is what is composed, and its text is what its file holds. -/
  written : ∀ header disk', spec.output options mark path faults disk = (.ok header, disk') →
    spec.compose options (path.fileName?.getD "") = .ok header ∧
      disk.Receives disk' path header.text
  /-- An error leaves the file, and everything else, as it was. -/
  unchanged : ∀ error disk', spec.output options mark path faults disk = (.error error, disk') →
    disk'.read? path = disk.read? path ∧ ∀ route, disk'.entry? route = disk.entry? route
  /-- No temporary file is left. -/
  unused : Replacement.IsUnused (spec.output options mark path faults disk).2 mark path
  /-- The disk only changes by the operations that are tried. -/
  after : (spec.output options mark path faults disk).2 =
    disk.after faults (spec.tried options mark path faults disk)
  /-- None is tried for a description without a header. -/
  idle : ∀ error, spec.compose options (path.fileName?.getD "") = .error error →
    spec.output options mark path faults disk = (.error (.header error), disk) ∧
      spec.tried options mark path faults disk = []
  /-- A header is written when there is room for both files and no operation fails. -/
  succeeds : ∀ header, spec.compose options (path.fileName?.getD "") = .ok header →
    ∀ route, disk.place? (Replacement.temporaryFor mark path) = some route →
      ∀ target, disk.place? path = some target → disk.entry? target ≠ some .directory →
        (∀ operation, faults operation = none) →
          (spec.output options mark path faults disk).1 = .ok header

/-- Where no header is composed nothing is tried. -/
theorem output_of_error {error : HeaderError}
    (refused : spec.compose options (path.fileName?.getD "") = .error error) :
    spec.output options mark path faults disk = (.error (.header error), disk) ∧
      spec.tried options mark path faults disk = [] := by
  have writing : spec.writing options mark path = .error error := by
    rw [HeaderSpec.writing, refused]
    rfl
  rw [output, tried, writing]
  exact ⟨rfl, rfl⟩

/-- A composed header replaces the file at the path. -/
theorem output_of_ok (composed : spec.compose options (path.fileName?.getD "") = .ok header) :
    spec.tried options mark path faults disk =
        (Replacement.ofText mark path header.text).tried faults disk ∧
      spec.output options mark path faults disk =
        match (Replacement.ofText mark path header.text).run faults disk with
        | (true, disk') => (.ok header, disk')
        | (false, disk') => (.error .unwritable, disk') := by
  have writing : spec.writing options mark path =
      .ok (header, .ofText mark path header.text) := by
    rw [HeaderSpec.writing, composed]
    rfl
  rw [output, tried, writing]
  exact ⟨rfl, rfl⟩

/-- A description without a header leaves the disk alone. -/
theorem writesAllOrNothing_of_error {error : HeaderError}
    (unused : Replacement.IsUnused disk mark path)
    (refused : spec.compose options (path.fileName?.getD "") = .error error) :
    spec.WritesAllOrNothing options mark path faults disk := by
  obtain ⟨output, tried⟩ := @output_of_error _ _ mark _ faults disk _ refused
  constructor
  case written =>
    intro header disk' written
    exact nomatch output.symm.trans written
  case unchanged =>
    intro error' disk' failed
    obtain rfl : disk = disk' := congrArg Prod.snd (output.symm.trans failed)
    exact ⟨rfl, fun _ => rfl⟩
  case unused => rwa [output]
  case after =>
    rw [output, tried]
    rfl
  case idle =>
    intro error' refused'
    obtain rfl := Except.error.inj (refused.symm.trans refused')
    exact ⟨output, tried⟩
  case succeeds => exact fun header composed => nomatch refused.symm.trans composed

/-- A header that is composed is written as a whole or not at all. -/
theorem writesAllOrNothing_of_ok (unused : Replacement.IsUnused disk mark path)
    (composed : spec.compose options (path.fileName?.getD "") = .ok header) :
    spec.WritesAllOrNothing options mark path faults disk := by
  obtain ⟨tried, output⟩ := @output_of_ok _ _ mark _ faults disk _ composed
  have replaced := Replacement.run_ofText unused faults header.text
  have after := (Replacement.ofText mark path header.text).after_tried faults disk
  have same : ∀ {header'}, spec.compose options (path.fileName?.getD "") = .ok header' →
      header' = header := fun composed' => Except.ok.inj (composed'.symm.trans composed)
  cases ran : (Replacement.ofText mark path header.text).run faults disk with
  | mk made disk' =>
    rw [ran] at output replaced after
    rw [← tried] at after
    cases made with
    | true =>
      constructor
      case written =>
        intro header' disk'' written
        obtain ⟨⟨⟩, rfl⟩ := Prod.mk.inj (output.symm.trans written)
        exact ⟨composed, replaced⟩
      case unchanged =>
        intro error disk'' failed
        exact nomatch output.symm.trans failed
      case unused =>
        rw [output]
        exact unused.of_receives replaced
      case after => rw [output, after]
      case idle => exact fun error refused => nomatch composed.symm.trans refused
      case succeeds =>
        intro header' composed' _ _ _ _ _ _
        rw [output, same composed']
    | false =>
      constructor
      case written =>
        intro header' disk'' written
        exact nomatch output.symm.trans written
      case unchanged =>
        intro error disk'' failed
        obtain rfl : disk' = disk'' := congrArg Prod.snd (output.symm.trans failed)
        exact ⟨Disk.read?_congr replaced path, replaced⟩
      case unused =>
        rw [output]
        exact unused.of_entry?_eq replaced
      case after => rw [output, after]
      case idle => exact fun error refused => nomatch composed.symm.trans refused
      case succeeds =>
        intro header' _ route located target targeted noDirectory faultless
        have made := Replacement.run_ofText_made unused header.text located targeted
          noDirectory fun operation _ => faultless operation
        rw [ran] at made
        contradiction

/-- Writing a header gives all of it or nothing, wherever its temporary file is not in the way
of others. -/
theorem output_allOrNothing (spec : HeaderSpec) (options : HeaderOptions) (faults : FaultPattern)
    (unused : Replacement.IsUnused disk mark path) :
    spec.WritesAllOrNothing options mark path faults disk := by
  cases composed : spec.compose options (path.fileName?.getD "") with
  | error error => exact writesAllOrNothing_of_error unused composed
  | ok header => exact writesAllOrNothing_of_ok unused composed

/-- A directory with a header from before and another file. -/
def shelf : Disk :=
  ⟨[(["out"], .directory), (["out", "model.h"], .file "old"), (["out", "notes"], .file "kept")]⟩

/-- The path of that header. -/
def shelved : Path :=
  .ofText "out/model.h"

/-- Writing succeeds, but syncing fails and leaves a part of the text. -/
def syncFault : FaultPattern
  | .sync _ => some (some "half")
  | _ => none

/-- The header of uniform motion replaces the one from before, and leaves it in place when its
text cannot be synced. -/
theorem output_allOrNothing_of_uniformMotion :
    Replacement.IsUnused shelf "7" shelved ∧
      (∃ header disk',
        uniformMotion.output .standard "7" shelved .none shelf = (.ok header, disk') ∧
        disk'.read? shelved = some header.text ∧
        disk'.entry? ["out", "notes"] = some (.file "kept")) ∧
      ∃ disk', uniformMotion.output .standard "7" shelved syncFault shelf =
          (.error .unwritable, disk') ∧ disk'.read? shelved = some "old" ∧
        disk'.entry? ["out", ".model.h.7.tmp"] = none := by
  have located : shelf.place? (Replacement.temporaryFor "7" shelved) =
      some ["out", ".model.h.7.tmp"] := by decide
  have targeted : shelf.place? shelved = some ["out", "model.h"] := by decide
  have unused : Replacement.IsUnused shelf "7" shelved := by
    intro route located'
    obtain rfl := Option.some.inj (located.symm.trans located')
    decide
  obtain ⟨header, composed⟩ := exists_compose_uniformMotion
  refine ⟨unused, ?_, ?_⟩
  · have writes := output_allOrNothing uniformMotion .standard .none unused
    have succeeded := writes.succeeds header composed _ located _ targeted (by decide) fun _ => rfl
    obtain ⟨_, receives⟩ := writes.written header _ (Prod.ext succeeded rfl)
    obtain ⟨route, targeted', besides⟩ := receives.besides
    obtain rfl := Option.some.inj (targeted.symm.trans targeted')
    exact ⟨header, _, Prod.ext succeeded rfl, receives.read, besides.elsewhere _ (by decide)⟩
  · have writes := output_allOrNothing uniformMotion .standard syncFault unused
    have stopped : ∀ text, ((Replacement.ofText "7" shelved text).run syncFault shelf).1 = false :=
      fun _ => rfl
    have failed : (uniformMotion.output .standard "7" shelved syncFault shelf).1 =
        .error .unwritable := by
      have output := (@output_of_ok _ _ "7" shelved syncFault shelf _ composed).2
      have stopped := stopped header.text
      rw [output]
      cases ran : (Replacement.ofText "7" shelved header.text).run syncFault shelf with
      | mk made disk' =>
        rw [ran] at stopped
        obtain rfl : made = false := stopped
        rfl
    obtain ⟨same, others⟩ := writes.unchanged .unwritable _ (Prod.ext failed rfl)
    exact ⟨_, Prod.ext failed rfl, same.trans (by decide), (others _).trans (by decide)⟩

end KalmanHeader.HeaderSpec

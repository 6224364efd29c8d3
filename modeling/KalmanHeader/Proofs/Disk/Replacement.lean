import KalmanHeader.Proofs.Disk.Entries

/-!
# Files are replaced as a whole

The text that replaces a file is first written to a temporary file beside it, and whatever
goes wrong there only harms the temporary file. The file itself changes by renaming alone,
which needs all earlier operations to have succeeded. So a replacement puts the complete
text in place of the file, or it leaves all of the disk as it was, once the temporary file
is removed.
-/

namespace KalmanHeader

variable {disk disk' : Disk} {path : Path} {faults : FaultPattern}

namespace Path

variable {name : String}

/-- A file beside another one has the name that is asked for. -/
theorem fileName?_sibling (path : Path) (name : String) :
    (path.sibling name).fileName? = some name := by
  simp [sibling, fileName?]

/-- A file beside another one is in the same directory. -/
theorem dropLast_steps_sibling {other : String} (named : path.fileName? = some other)
    (name : String) : (path.sibling name).steps.dropLast = path.steps.dropLast := by
  simp [sibling, named]

end Path

namespace Disk

/-- A file beside another one is at another place. -/
theorem place?_sibling_ne {route route' : Route} {name : String}
    (located : disk.place? path = some route)
    (located' : disk.place? (path.sibling name) = some route')
    (different : path.fileName? ≠ some name) :
    route' ≠ route := by
  obtain ⟨directory, other, named, entered, rfl⟩ := exists_of_place?_eq_some located
  obtain ⟨directory', name', named', entered', rfl⟩ := exists_of_place?_eq_some located'
  obtain rfl : name = name' := Option.some.inj ((path.fileName?_sibling name).symm.trans named')
  rw [path.dropLast_steps_sibling named, entered] at entered'
  obtain rfl := Option.some.inj entered'
  intro same
  obtain rfl : name = other := by simpa using same
  exact different named

section Preparation

variable {temporary : Path} {route : Route} {text : String}

/-- The operations that write a text to a file of its own. -/
def preparation (temporary : Path) (text : String) : List FileOperation :=
  [.create temporary, .write temporary text, .sync temporary]

/-- Preparing a temporary file only works on that file. -/
theorem worksOn_preparation (temporary : Path) (text : String) :
    ∀ operation ∈ preparation temporary text, operation.WorksOn temporary := by
  simp [preparation, FileOperation.WorksOn]

/-- Operations succeed when the first and then the others do. -/
theorem performAll_cons_eq_true {operation : FileOperation} {operations : List FileOperation} :
    disk.performAll faults (operation :: operations) = (true, disk') ↔
      ∃ disk'', disk.perform faults operation = (true, disk'') ∧
        disk''.performAll faults operations = (true, disk') := by
  rw [performAll]
  cases disk.perform faults operation with
  | mk made disk'' => cases made <;> simp

/-- Operations one after the other stop where the first of them stop. -/
theorem performAll_append (first rest : List FileOperation) :
    disk.performAll faults (first ++ rest) =
      match disk.performAll faults first with
      | (true, disk') => disk'.performAll faults rest
      | (false, disk') => (false, disk') := by
  induction first generalizing disk with
  | nil => rfl
  | cons operation operations ih =>
    rw [List.cons_append, performAll, performAll]
    cases disk.perform faults operation with
    | mk made disk'' =>
      cases made with
      | true => exact ih
      | false => rfl

/-- A text that was written and synced is there. -/
theorem entry?_of_prepared (agrees : disk.AgreesBesides disk route)
    (located : disk.place? temporary = some route)
    (prepared : disk.performAll faults (preparation temporary text) = (true, disk')) :
    disk'.entry? route = some (.file text) := by
  obtain ⟨created, create, prepared⟩ := performAll_cons_eq_true.1 prepared
  obtain ⟨written, write, prepared⟩ := performAll_cons_eq_true.1 prepared
  obtain ⟨synced, sync, prepared⟩ := performAll_cons_eq_true.1 prepared
  obtain rfl : synced = disk' := congrArg Prod.snd prepared
  have besides : disk.AgreesBesides created route := by
    have works : (FileOperation.create temporary).WorksOn temporary := rfl
    have after := agrees.perform located faults works
    rwa [create] at after
  have located' := (besides.place?_eq temporary).trans located
  have named := ne_nil_of_place? located
  obtain rfl := eq_change_of_alter located' write
  have besides' := besides.set named text
  obtain rfl := eq_change_of_alter ((besides'.place?_eq temporary).trans located) sync
  rw [entry?_set named, if_pos rfl]

/-- A text is written to a file of its own where no directory is, unless there is a fault. -/
theorem performAll_preparation (agrees : disk.AgreesBesides disk route)
    (located : disk.place? temporary = some route)
    (faultless : ∀ operation ∈ preparation temporary text, faults operation = none) :
    (disk.performAll faults (preparation temporary text)).1 = true := by
  simp only [preparation, List.forall_mem_cons] at faultless
  obtain ⟨create, write, sync, _⟩ := faultless
  have named := ne_nil_of_place? located
  have isFile : ∀ (disk : Disk) (text : String), (disk.set route (.file text)).isFile route := by
    intro disk text
    exact isFile_iff.2 ⟨text, by rw [entry?_set named, if_pos rfl]⟩
  have created : disk.perform faults (.create temporary) = (true, disk.set route (.file "")) := by
    rw [perform, create]
    refine alter_of_possible located ?_ fun route => disk.set route (.file "")
    rw [isDirectory, decide_eq_false agrees.noDirectory]
    rfl
  generalize same : disk.set route (.file "") = disk₁ at created
  have besides : disk.AgreesBesides disk₁ route := same ▸ agrees.set named ""
  have written : disk₁.perform faults (.write temporary text) =
      (true, disk₁.set route (.file text)) := by
    rw [perform, write]
    refine alter_of_possible ((besides.place?_eq temporary).trans located) ?_
      fun route => disk₁.set route (.file text)
    exact same ▸ isFile disk ""
  generalize same' : disk₁.set route (.file text) = disk₂ at written
  have besides' : disk.AgreesBesides disk₂ route := same' ▸ besides.set named text
  have synced : disk₂.perform faults (.sync temporary) = (true, disk₂) := by
    rw [perform, sync]
    refine alter_of_possible ((besides'.place?_eq temporary).trans located) ?_ fun _ => disk₂
    exact same' ▸ isFile disk₁ text
  have all : disk.performAll faults (preparation temporary text) = (true, disk₂) :=
    performAll_cons_eq_true.2 ⟨disk₁, created, performAll_cons_eq_true.2
      ⟨disk₂, written, performAll_cons_eq_true.2 ⟨disk₂, synced, rfl⟩⟩⟩
  rw [all]

/-- Removing a file empties its place, whether there was a file or not. -/
theorem entry?_remove (agrees : disk.AgreesBesides disk' route)
    (located : disk.place? temporary = some route) (other : Route) :
    Disk.entry? (disk'.perform faults (.remove temporary)).2 other =
      if other = route then none else disk.entry? other := by
  have kept : other ≠ route → disk'.entry? other = disk.entry? other := agrees.elsewhere other
  have named := ne_nil_of_place? located
  rw [← agrees.place?_eq] at located
  rw [perform]
  rcases alter_cases located none disk'.isFile disk'.erase with
    made | ⟨made, noFile⟩ | ⟨_, fault, _⟩
  · rw [made, entry?_erase named]
    split
    · rfl
    · rename_i different
      exact kept different
  · rw [made]
    split
    · rename_i here
      subst here
      cases found : disk'.entry? other with
      | none => rfl
      | some entry =>
        cases entry with
        | directory => exact absurd found agrees.noDirectory'
        | file text => exact absurd (isFile_iff.2 ⟨text, found⟩) noFile
    · rename_i different
      exact kept different
  · contradiction

/-- Where nothing else was, removing a temporary file leaves the disk as it was. -/
theorem entry?_restored (agrees : disk.AgreesBesides disk' route)
    (located : disk.place? temporary = some route) (absent : disk.entry? route = none)
    (other : Route) :
    Disk.entry? (disk'.perform faults (.remove temporary)).2 other = disk.entry? other := by
  rw [entry?_remove agrees located]
  split
  · rename_i here
    rw [here, absent]
  · rfl

end Preparation

/-- Whether a disk has come about from another one by putting a text in place of the file at a
path, and nothing else. -/
structure Receives (disk disk' : Disk) (path : Path) (text : String) : Prop where
  read : disk'.read? path = some text
  besides : ∃ route, disk.place? path = some route ∧ disk.AgreesBesides disk' route

/-- Moving a prepared file to another place puts its text there and leaves nothing behind. -/
theorem AgreesBesides.receives {route route' : Route} {text : String}
    (agrees : disk.AgreesBesides disk' route) (absent : disk.entry? route = none)
    (named : route ≠ []) (located : disk.place? path = some route')
    (noDirectory : disk'.entry? route' ≠ some .directory) (different : route ≠ route') :
    disk.Receives ((disk'.erase route).set route' (.file text)) path text := by
  have named' := ne_nil_of_place? located
  have moved : ∀ other, Disk.entry? ((disk'.erase route).set route' (.file text)) other =
      if other = route' then some (.file text) else disk.entry? other := by
    intro other
    rw [entry?_set named', entry?_erase named]
    by_cases left : other = route
    · subst left
      rw [if_pos rfl, absent]
    · rw [if_neg left, agrees.elsewhere other left]
  have noDirectory' : disk.entry? route' ≠ some .directory := by
    rwa [← agrees.elsewhere route' different.symm]
  have besides : disk.AgreesBesides ((disk'.erase route).set route' (.file text)) route' := {
    elsewhere := fun other elsewhere => by rw [moved, if_neg elsewhere]
    noDirectory := noDirectory'
    noDirectory' := by
      rw [moved, if_pos rfl]
      exact nofun }
  refine ⟨read?_eq_some.2 ⟨route', ?_, ?_⟩, route', located, besides⟩
  · rw [besides.place?_eq, located]
  · rw [moved, if_pos rfl]

end Disk

namespace Replacement

variable {mark text : String}

/-- A temporary file does not have the name of the file that it is for. -/
theorem fileName?_ne_temporaryName (mark : String) (path : Path) :
    path.fileName? ≠ some (temporaryName mark path) := by
  intro same
  have longer := congrArg String.length (show temporaryName mark path =
    "." ++ path.fileName?.getD "header" ++ "." ++ mark ++ ".tmp" from rfl)
  rw [same] at longer
  simp only [Option.getD_some, String.length_append] at longer
  have dot : ".".length = 1 := rfl
  omega

/-- The temporary file that a file is replaced through. -/
def temporaryFor (mark : String) (path : Path) : Path :=
  path.sibling (temporaryName mark path)

/-- Whether nothing stands where the temporary file goes. -/
def IsUnused (disk : Disk) (mark : String) (path : Path) : Prop :=
  ∀ route, disk.place? (temporaryFor mark path) = some route → disk.entry? route = none

/-- The operations that replace a file prepare the temporary file and rename it. -/
theorem operations_ofText (mark : String) (path : Path) (text : String) :
    (ofText mark path text).operations =
      Disk.preparation (temporaryFor mark path) text ++ [.rename (temporaryFor mark path) path] :=
  rfl

/-- A disk on which nothing stands where the temporary file goes agrees with itself besides
that file. -/
theorem IsUnused.agreesBesides (unused : IsUnused disk mark path) {route : Route}
    (located : disk.place? (temporaryFor mark path) = some route) :
    disk.AgreesBesides disk route := by
  have noDirectory : disk.entry? route ≠ some .directory := by
    rw [unused route located]
    exact nofun
  exact ⟨fun _ _ => rfl, noDirectory, noDirectory⟩

/-- Without a directory for the temporary file nothing happens at all. -/
theorem run_of_place?_eq_none (missing : disk.place? (temporaryFor mark path) = none) :
    (ofText mark path text).run faults disk = (false, disk) := by
  have created : disk.perform faults (.create (temporaryFor mark path)) = (false, disk) :=
    Disk.alter_of_place?_eq_none missing _ _ _
  have removed : disk.perform faults (.remove (temporaryFor mark path)) = (false, disk) :=
    Disk.alter_of_place?_eq_none missing none disk.isFile disk.erase
  have stopped : disk.performAll faults (ofText mark path text).operations = (false, disk) := by
    rw [operations_ofText, Disk.preparation, List.cons_append, Disk.performAll, created]
  rw [run, stopped]
  exact congrArg (Prod.mk false) (congrArg Prod.snd removed)

/-- A replacement puts the complete text in place of the file, or leaves the disk as it
was. -/
theorem run_ofText (unused : IsUnused disk mark path) (faults : FaultPattern) (text : String) :
    match (ofText mark path text).run faults disk with
    | (true, disk') => disk.Receives disk' path text
    | (false, disk') => ∀ route, disk'.entry? route = disk.entry? route := by
  cases located : disk.place? (temporaryFor mark path) with
  | none =>
    rw [run_of_place?_eq_none located]
    exact fun _ => rfl
  | some route =>
    have absent := unused route located
    have agrees := unused.agreesBesides located
    have besides := agrees.performAll located faults (Disk.worksOn_preparation _ text)
    rw [run, operations_ofText, Disk.performAll_append]
    cases prepared : disk.performAll faults (Disk.preparation (temporaryFor mark path) text) with
    | mk made disk' =>
      rw [prepared] at besides
      cases made with
      | false => exact Disk.entry?_restored besides located absent
      | true =>
        have there := Disk.entry?_of_prepared agrees located prepared
        have located' := (besides.place?_eq (temporaryFor mark path)).trans located
        dsimp only
        rw [Disk.performAll]
        -- All that can still go wrong is the renaming, which leaves the temporary file.
        rcases Disk.perform_rename_cases located' there path faults with
          ⟨target, targeted, noDirectory, moved⟩ | stays
        · rw [moved]
          rw [besides.place?_eq] at targeted
          have different := Disk.place?_sibling_ne targeted located
            (fileName?_ne_temporaryName mark path)
          have named := Disk.ne_nil_of_place? located
          exact besides.receives absent named targeted noDirectory different
        · rw [stays]
          exact Disk.entry?_restored besides located absent

/-- A replacement is made when there is room for both files and no operation fails. -/
theorem run_ofText_made {route target : Route} (unused : IsUnused disk mark path) (text : String)
    (located : disk.place? (temporaryFor mark path) = some route)
    (targeted : disk.place? path = some target) (noDirectory : disk.entry? target ≠ some .directory)
    (faultless : ∀ operation ∈ (ofText mark path text).operations, faults operation = none) :
    ((ofText mark path text).run faults disk).1 = true := by
  rw [operations_ofText, List.forall_mem_append, List.forall_mem_singleton] at faultless
  have agrees := unused.agreesBesides located
  have made := Disk.performAll_preparation agrees located faultless.1
  have besides := agrees.performAll located faults (Disk.worksOn_preparation _ text)
  rw [run, operations_ofText, Disk.performAll_append]
  cases prepared : disk.performAll faults (Disk.preparation (temporaryFor mark path) text) with
  | mk made' disk' =>
    rw [prepared] at made besides
    obtain rfl : made' = true := made
    have there := Disk.entry?_of_prepared agrees located prepared
    have located' := (besides.place?_eq (temporaryFor mark path)).trans located
    have targeted' := (besides.place?_eq path).trans targeted
    have renamed := Disk.perform_rename located' there targeted'
      (fun found => noDirectory ((besides.isDirectory_iff target).1 found)) faultless.2
    dsimp only
    rw [Disk.performAll, renamed]
    rfl

/-- A replacement that is made leaves no temporary file. -/
theorem IsUnused.of_receives (unused : IsUnused disk mark path)
    (receives : disk.Receives disk' path text) : IsUnused disk' mark path := by
  obtain ⟨target, targeted, besides⟩ := receives.besides
  intro route located
  rw [besides.place?_eq] at located
  have different := Disk.place?_sibling_ne targeted located (fileName?_ne_temporaryName mark path)
  rw [besides.elsewhere route different, unused route located]

/-- Where everything stands as it did, there is no temporary file either. -/
theorem IsUnused.of_entry?_eq (unused : IsUnused disk mark path)
    (same : ∀ route, disk'.entry? route = disk.entry? route) : IsUnused disk' mark path := by
  intro route located
  rw [Disk.place?_of_entry?_eq same] at located
  rw [same, unused route located]

end Replacement

section Tried

/-- The operations that are tried of some: those up to the first that fails. -/
def Disk.tried (faults : FaultPattern) (disk : Disk) : List FileOperation → List FileOperation
  | [] => []
  | operation :: operations =>
    operation ::
      match disk.perform faults operation with
      | (true, disk') => disk'.tried faults operations
      | (false, _) => []

/-- The disk after some operations have been tried. -/
def Disk.after (faults : FaultPattern) (disk : Disk) (operations : List FileOperation) : Disk :=
  operations.foldl (fun disk operation => (disk.perform faults operation).2) disk

/-- Operations leave what comes of those that are tried. -/
theorem Disk.after_tried (disk : Disk) (faults : FaultPattern) (operations : List FileOperation) :
    disk.after faults (disk.tried faults operations) = (disk.performAll faults operations).2 := by
  induction operations generalizing disk with
  | nil => rfl
  | cons operation operations ih =>
    rw [Disk.tried, Disk.after, List.foldl_cons, Disk.performAll]
    cases disk.perform faults operation with
    | mk made disk' =>
      cases made with
      | true => exact ih disk'
      | false => rfl

/-- The operations that a replacement tries, with the removal of the temporary file if one of
them fails. -/
def Replacement.tried (replacement : Replacement) (faults : FaultPattern) (disk : Disk) :
    List FileOperation :=
  disk.tried faults replacement.operations ++
    if (disk.performAll faults replacement.operations).1 then []
    else [.remove replacement.temporary]

/-- A replacement leaves what comes of the operations that it tries. -/
theorem Replacement.after_tried (replacement : Replacement) (faults : FaultPattern) (disk : Disk) :
    disk.after faults (replacement.tried faults disk) = (replacement.run faults disk).2 := by
  have start := disk.after_tried faults replacement.operations
  rw [Disk.after] at start
  rw [Replacement.tried, Disk.after, List.foldl_append, start, run]
  cases disk.performAll faults replacement.operations with
  | mk made disk' => cases made <;> rfl

end Tried

end KalmanHeader

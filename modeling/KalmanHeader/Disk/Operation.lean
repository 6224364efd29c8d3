import KalmanHeader.Disk.Basic

/-!
# Operations on files

Files are changed by a few operations, any of which may fail: because of what is
on the disk, or for a reason that only the fault pattern knows. A failed
operation may spoil the file it works on, but renaming happens as a whole or not
at all. A text is put in place of a file through a temporary one beside it, so
that the file itself changes by renaming only.
-/

namespace KalmanHeader

/-- An operation on files. -/
inductive FileOperation where
  | create (path : Path)
  | write (path : Path) (text : String)
  | sync (path : Path)
  | rename (source target : Path)
  | remove (path : Path)
  deriving DecidableEq, Repr

/-- What an operation that fails leaves of its file: another text, or no file.
Other operations do not fail unless the disk makes them. -/
abbrev FaultPattern := FileOperation → Option (Option String)

/-- The pattern in which nothing fails unless the disk makes it. -/
def FaultPattern.none : FaultPattern := fun _ => Option.none

namespace Disk

/-- The disk after an operation failed and left `remains` of the file at a
place. -/
def leave (disk : Disk) (route : Route) (remains : Option String) : Disk :=
  match remains with
  | some text => disk.set route (.file text)
  | none => disk.erase route

/-- Whether there is a directory at a place. -/
def isDirectory (disk : Disk) (route : Route) : Bool :=
  disk.entry? route = some .directory

/-- Whether there is a file at a place. -/
def isFile (disk : Disk) (route : Route) : Bool :=
  match disk.entry? route with
  | some (.file _) => true
  | _ => false

/-- An operation on the file at a path, which has to be able to take place
there, and whether it succeeded. -/
def alter (disk : Disk) (path : Path) (fault : Option (Option String))
    (possible : Route → Bool) (change : Route → Disk) : Bool × Disk :=
  match disk.place? path with
  | none => (false, disk)
  | some route =>
    if possible route then
      match fault with
      | some remains => (false, disk.leave route remains)
      | none => (true, change route)
    else (false, disk)

/-- The disk after an operation, and whether the operation succeeded. -/
def perform (faults : FaultPattern) (disk : Disk) (operation : FileOperation) : Bool × Disk :=
  match operation with
  | .create path =>
    disk.alter path (faults operation) (fun route => !disk.isDirectory route)
      fun route => disk.set route (.file "")
  | .write path text =>
    disk.alter path (faults operation) disk.isFile fun route => disk.set route (.file text)
  | .sync path => disk.alter path (faults operation) disk.isFile fun _ => disk
  | .rename source target =>
    match disk.read? source, disk.place? source, disk.place? target, faults operation with
    | some text, some route, some route', none =>
      if disk.isDirectory route' then (false, disk)
      else (true, (disk.erase route).set route' (.file text))
    | _, _, _, _ => (false, disk)
  | .remove path => disk.alter path none disk.isFile disk.erase

/-- The disk after operations up to the first that fails, and whether all of
them succeeded. -/
def performAll (faults : FaultPattern) (disk : Disk) : List FileOperation → Bool × Disk
  | [] => (true, disk)
  | operation :: operations =>
    match disk.perform faults operation with
    | (true, disk') => disk'.performAll faults operations
    | (false, disk') => (false, disk')

end Disk

/-- A change of one file that is made as a whole or not at all. -/
structure Replacement where
  /-- The operations that make the change. -/
  operations : List FileOperation
  /-- The file to remove when one of them fails. -/
  temporary : Path
  deriving DecidableEq, Repr

namespace Replacement

/-- The name of a temporary file beside the file at a path. The mark tells the
temporary files of different processes apart. -/
def temporaryName (mark : String) (path : Path) : String :=
  "." ++ path.fileName?.getD "header" ++ "." ++ mark ++ ".tmp"

/-- Replaces the file at a path by one with the given text. -/
def ofText (mark : String) (path : Path) (text : String) : Replacement :=
  let temporary := path.sibling (temporaryName mark path)
  ⟨[.create temporary, .write temporary text, .sync temporary, .rename temporary path],
    temporary⟩

/-- The disk after the change was tried, and whether it was made. -/
def run (replacement : Replacement) (faults : FaultPattern) (disk : Disk) : Bool × Disk :=
  match disk.performAll faults replacement.operations with
  | (true, disk') => (true, disk')
  | (false, disk') => (false, (disk'.perform faults (.remove replacement.temporary)).2)

end Replacement

end KalmanHeader

import KalmanHeader.Disk.Path

/-!
# Files and directories

A disk holds text files and directories under routes, which are the names from
the working directory down. The working directory itself is always there. Paths
are resolved step by step: each directory on the way has to exist, even when the
path leaves it again.
-/

namespace KalmanHeader

/-- The names that lead from the working directory to a place. -/
abbrev Route := List String

/-- What stands at a place. -/
inductive DiskEntry where
  | directory
  | file (text : String)
  deriving DecidableEq, Repr

/-- Files and directories below the working directory. -/
structure Disk where
  entries : List (Route × DiskEntry)
  deriving DecidableEq, Repr

namespace Disk

/-- The disk with nothing on it. -/
def empty : Disk := ⟨[]⟩

/-- What stands at a place. -/
def entry? (disk : Disk) (route : Route) : Option DiskEntry :=
  if route = [] then some .directory else disk.entries.lookup route

/-- The disk with nothing at a place. -/
def erase (disk : Disk) (route : Route) : Disk :=
  ⟨disk.entries.filter fun entry => entry.1 != route⟩

/-- The disk with an entry at a place. -/
def set (disk : Disk) (route : Route) (entry : DiskEntry) : Disk :=
  ⟨(route, entry) :: (disk.erase route).entries⟩

/-- Whether there can be an entry with a given name. -/
def isUsableName (name : String) : Bool :=
  name.utf8ByteSize ≤ 255 && !name.toList.contains '\x00'

/-- Where the steps lead from a directory, through directories only. -/
def enter (disk : Disk) (route : Route) : List Step → Option Route
  | [] => some route
  | .up :: steps => disk.enter route.dropLast steps
  | .into name :: steps =>
    if disk.entry? (route ++ [name]) = some .directory then disk.enter (route ++ [name]) steps
    else none

/-- The place that a path names for a file, whether or not there is one. -/
def place? (disk : Disk) (path : Path) : Option Route :=
  match path.fileName? with
  | some name =>
    if path.endsInName && isUsableName name then
      (disk.enter [] path.steps.dropLast).map (· ++ [name])
    else none
  | none => none

/-- The text of the file at a path. -/
def read? (disk : Disk) (path : Path) : Option String :=
  match (disk.place? path).bind disk.entry? with
  | some (.file text) => some text
  | _ => none

/-- Follows the steps from a directory and makes the directories that are
missing. The first name that cannot be a directory ends it. -/
def makeDirectoriesFrom (disk : Disk) (route : Route) : List Step → Bool × Disk
  | [] => (true, disk)
  | .up :: steps => disk.makeDirectoriesFrom route.dropLast steps
  | .into name :: steps =>
    match disk.entry? (route ++ [name]) with
    | some .directory => disk.makeDirectoriesFrom (route ++ [name]) steps
    | some (.file _) => (false, disk)
    | none =>
      if isUsableName name then
        (disk.set (route ++ [name]) .directory).makeDirectoriesFrom (route ++ [name]) steps
      else (false, disk)

/-- Makes the directory at a path and those on the way to it, and says whether
it is there. -/
def makeDirectories (disk : Disk) (path : Path) : Bool × Disk :=
  if path.steps.any hasNul then (false, disk) else disk.makeDirectoriesFrom [] path.steps
where
  /-- Whether a step has a character that no path can have. -/
  hasNul : Step → Bool
    | .into name => name.toList.contains '\x00'
    | .up => false

/-- The text of a route, with a trailing slash for a directory. -/
def routeText (entry : Route × DiskEntry) : String :=
  "/".intercalate entry.1 ++ match entry.2 with
    | .directory => "/"
    | .file _ => ""

/-- The routes of everything on the disk in increasing order. -/
def listing (disk : Disk) : List String :=
  (disk.entries.map routeText).mergeSort fun left right => decide (left ≤ right)

end Disk

end KalmanHeader

/-!
# Paths

A path is a walk through directories. Its text separates the steps by slashes;
empty steps and single dots go nowhere. Only a text that ends in the name of its
last step can name a file: behind a trailing slash or dot there is a directory.
-/

namespace KalmanHeader

/-- A step of a walk through directories. -/
inductive Step where
  | into (name : String)
  | up
  deriving DecidableEq, Repr

/-- A way from the working directory to a file or directory. -/
structure Path where
  steps : List Step
  /-- Whether the text ends in the name of the last step. -/
  endsInName : Bool
  deriving DecidableEq, Repr

namespace Path

/-- The step that a part of the text between slashes stands for. -/
def step? (part : String) : Option Step :=
  if part = "" ∨ part = "." then none
  else if part = ".." then some .up
  else some (.into part)

/-- Whether a part of the text is a name. -/
def isName (part : String) : Bool :=
  part ≠ "" && part ≠ "." && part ≠ ".."

/-- The parts of a text between slashes, where `part` has been read of the
current one. -/
def partsFrom (part : List Char) : List Char → List String
  | [] => [String.ofList part.reverse]
  | character :: rest =>
    if character = '/' then String.ofList part.reverse :: partsFrom [] rest
    else partsFrom (character :: part) rest

/-- The path with a given text. -/
def ofText (text : String) : Path :=
  let parts := partsFrom [] text.toList
  ⟨parts.filterMap step?, (parts.getLast?.map isName).getD false⟩

/-- The name of the file or directory at the end of the path, unless the path
ends by going up. -/
def fileName? (path : Path) : Option String :=
  match path.steps.getLast? with
  | some (.into name) => some name
  | _ => none

/-- The path of a file with another name in the same directory. -/
def sibling (path : Path) (name : String) : Path :=
  let directory := match path.fileName? with
    | some _ => path.steps.dropLast
    | none => path.steps
  ⟨directory ++ [.into name], true⟩

end Path

end KalmanHeader

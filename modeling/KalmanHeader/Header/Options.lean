import KalmanHeader.C.Identifier
import KalmanHeader.Header.Error
import KalmanHeader.Json.Record

/-!
# Names chosen for a header

The options name the function, the library header and the dimension macros of a
generated header, and may set its include guard. By default they are the names
that TinyEKF expects, and the guard follows from the name of the file.
-/

namespace KalmanHeader

/-- The names of a generated header. -/
structure HeaderOptions where
  functionName : String
  libraryInclude : String
  stateMacro : String
  observationMacro : String
  guard : Option String
  deriving DecidableEq, Repr

/-- The error for a name that C does not allow. -/
def checkIdentifier (name : String) : Except HeaderError Unit :=
  if C.isIdentifier name then .ok () else .error (.invalidIdentifier name)

namespace HeaderOptions

/-- The names that TinyEKF expects. -/
def standard : HeaderOptions where
  functionName := "model"
  libraryInclude := "tiny_ekf.h"
  stateMacro := "Nsta"
  observationMacro := "Mobs"
  guard := none

/-- Whether `name` can stand between the quotes of an include line. -/
def isIncludable (name : String) : Bool :=
  !name.isEmpty &&
    name.toList.all fun character => character != '"' && character != '\n' && character != '\r'

/-- Checks every name that lands in C source. -/
def check (options : HeaderOptions) : Except HeaderError Unit := do
  checkIdentifier options.functionName
  checkIdentifier options.stateMacro
  checkIdentifier options.observationMacro
  if let some guard := options.guard then checkIdentifier guard
  if !isIncludable options.libraryInclude then
    throw (.invalidIdentifier options.libraryInclude)

/-- The include guard of a header in the file `fileName`. -/
def guardFor (options : HeaderOptions) (fileName : String) : String :=
  options.guard.getD (C.guardOfFileName fileName)

/-- Options in JSON. Each may be left out. -/
def format : Json.RecordFormat HeaderOptions where
  typeName := "HeaderOptions"
  blank := standard
  fields := [
    name "function_name" functionName fun value options => { options with functionName := value },
    name "library_include" libraryInclude fun value options =>
      { options with libraryInclude := value },
    name "state_dim_macro" stateMacro fun value options => { options with stateMacro := value },
    name "obs_dim_macro" observationMacro fun value options =>
      { options with observationMacro := value },
    .optional "guard" (.nullable .string) Option.isNone guard fun value options =>
      { options with guard := value }]
where
  /-- A name that is always written. -/
  name (key : String) (get : HeaderOptions → String)
      (set : String → HeaderOptions → HeaderOptions) : Json.Field HeaderOptions :=
    .optional key .string (fun _ => false) get set

end HeaderOptions

end KalmanHeader

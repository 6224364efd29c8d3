import KalmanHeader.Header.Options
import KalmanHeader.Header.Spec

/-!
# Names declared by a header

Everything in a header shares one space of names: the function, the macros, the
arrays with their output parameters and the free parameters, besides what the
generated code itself needs. Each of them has to differ from all others.
-/

namespace KalmanHeader

/-- The name of the parameter that an array is copied to. -/
def outputName (name : String) : String := name ++ "_out"

/-- The state parameter and the arrays of every header. -/
def standardNames : List String := ["x", "fx", "F", "hx", "H"]

/-- The names of the C library that generated code needs besides the elementary
functions. -/
def libraryNames : List String := ["pow", "atan2", "memcpy", "NAN", "INFINITY"]

/-- The names that are taken in every header. -/
def reservedNames : List String :=
  standardNames ++ standardNames.map outputName ++ Elementary.all.map Elementary.cName ++
    libraryNames

/-- A name that a header declares. -/
structure DeclaredName where
  name : String
  /-- Whether the name still has to be checked to be an identifier. -/
  isUnchecked : Bool
  deriving DecidableEq, Repr

namespace DeclaredName

/-- The names of a header in the order in which they are claimed. -/
def all (options : HeaderOptions) (guard : String) (arrayNames parameters : List String) :
    List DeclaredName :=
  [⟨options.functionName, false⟩, ⟨options.stateMacro, false⟩,
    ⟨options.observationMacro, false⟩, ⟨guard, false⟩] ++
    (arrayNames.flatMap fun name => [⟨name, true⟩, ⟨outputName name, false⟩]) ++
    parameters.map fun name => ⟨name, true⟩

/-- Claims names one after another, where the names `taken` are claimed already. -/
def claim (taken : List String) : List DeclaredName → Except HeaderError Unit
  | [] => .ok ()
  | declared :: rest =>
    if declared.isUnchecked && !C.isIdentifier declared.name then
      .error (.invalidIdentifier declared.name)
    else if taken.contains declared.name then .error (.duplicateName declared.name)
    else claim (declared.name :: taken) rest

end DeclaredName

end KalmanHeader

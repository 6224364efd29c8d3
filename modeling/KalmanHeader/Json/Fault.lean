import KalmanHeader.Json.Basic
import KalmanHeader.Json.Layout
import KalmanHeader.Text.Quoted

/-!
# Faults of JSON text

A JSON text is at fault because it is no JSON, or because what it says is not
what was asked for. Only faults of the second kind have a message: it names the
offending value and what could have stood in its place.
-/

namespace KalmanHeader.Json

/-- Why a JSON text does not stand for a value of the type asked for. -/
inductive Fault where
  /-- The text is no JSON, or has a shape that is not looked into. -/
  | malformed
  /-- A value of another kind was expected. -/
  | wrongKind (found : Json) (expected : String)
  /-- A bare name stands where a variant needs a value. -/
  | bareVariant (expected : String)
  | wrongLength (found : Nat) (expected : String)
  | unknownField (name : String) (known : List String)
  | duplicateField (name : String)
  | missingField (name : String)
  | unknownVariant (name : String) (known : List String)
  /-- None of the forms of an enumeration without tags fits. -/
  | noForm (enumeration : String)
  deriving Repr

/-- How a message describes a value. -/
def describe : Json → String
  | .null | .broken => "null"
  | .bool value => "boolean \x60" ++ toString value ++ "\x60"
  | .integer value => "integer \x60" ++ toString value ++ "\x60"
  | .float value => "floating point \x60" ++ numberStyle.text value ++ "\x60"
  | .string value => "string " ++ Text.quoted value
  | .array _ _ => "sequence"
  | .object _ _ => "map"

/-- How a message lists names, one of which was expected. -/
def alternatives (names : List String) : String :=
  let quoted := names.map fun name => "\x60" ++ name ++ "\x60"
  match quoted with
  | [only] => only
  | [first, second] => first ++ " or " ++ second
  | _ => "one of " ++ ", ".intercalate quoted

namespace Fault

/-- The fault of a value of another kind; where the text breaks off there is no
value to blame. -/
def ofKind (found : Json) (expected : String) : Fault :=
  match found with
  | .broken => .malformed
  | _ => .wrongKind found expected

/-- The message of a fault, unless the text is no JSON. -/
def message? : Fault → Option String
  | .malformed => none
  | .wrongKind found expected =>
    some ("invalid type: " ++ found.describe ++ ", expected " ++ expected)
  | .bareVariant expected => some ("invalid type: unit variant, expected " ++ expected)
  | .wrongLength found expected =>
    some ("invalid length " ++ toString found ++ ", expected " ++ expected)
  | .unknownField name known =>
    some ("unknown field \x60" ++ name ++ "\x60, expected " ++ alternatives known)
  | .duplicateField name => some ("duplicate field \x60" ++ name ++ "\x60")
  | .missingField name => some ("missing field \x60" ++ name ++ "\x60")
  | .unknownVariant name known =>
    some ("unknown variant \x60" ++ name ++ "\x60, expected " ++ alternatives known)
  | .noForm enumeration =>
    some ("data did not match any variant of untagged enum " ++ enumeration)

end Fault

end KalmanHeader.Json

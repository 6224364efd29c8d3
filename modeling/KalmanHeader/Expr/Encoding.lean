import KalmanHeader.Expr.Basic
import KalmanHeader.Json.Codec

/-!
# Expressions as JSON

An expression is an object with a single member: its key is the variant of the
root, and its value holds the parts of the root. Two parts come as an array.
-/

namespace KalmanHeader

/-- The name of an elementary function in JSON. -/
def Elementary.variantName : Elementary → String
  | .ln => "ln"
  | .abs => "abs"
  | function => function.cName

/-- The name of an operation in JSON. -/
def Operation.variantName : Operation → String
  | .add => "Add"
  | .sub => "Sub"
  | .mul => "Mul"
  | .div => "Div"
  | .pow => "Pow"
  | .atan2 => "Atan2"

namespace Expr

open Json (Fault Codec)

/-- The root of an expression without its parts. -/
inductive Variant where
  | literal | symbol | neg
  | binary (operation : Operation)
  | call
  deriving DecidableEq, Repr

namespace Variant

/-- The name of the variant in JSON. -/
def name : Variant → String
  | literal => "Literal"
  | symbol => "Symbol"
  | neg => "Neg"
  | binary operation => operation.variantName
  | call => "Call"

/-- All variants in the order in which messages list them. -/
def all : List Variant :=
  [literal, symbol, neg, binary .add, binary .sub, binary .mul, binary .div, binary .pow, call,
    binary .atan2]

/-- Whether the value of the variant is an array of two parts. -/
def isTuple : Variant → Bool
  | binary _ | call => true
  | _ => false

/-- How messages name an array of the two parts of the variant. -/
def tupleName (variant : Variant) : String :=
  "tuple variant Expr::" ++ variant.name

/-- The variant of a given name. -/
def ofName (name : String) : Except Fault Variant :=
  match all.find? fun variant => variant.name == name with
  | some variant => .ok variant
  | none => .error (.unknownVariant name (all.map Variant.name))

/-- The fault of an array that has only some parts of the variant. -/
def shortTuple (variant : Variant) (length : Nat) (closed : Bool) : Fault :=
  if closed then .wrongLength length (variant.tupleName ++ " with 2 elements") else .malformed

end Variant

/-- The elementary function of a given name. -/
def functionOfName (name : String) : Except Fault Elementary :=
  match Elementary.all.find? fun function => function.variantName == name with
  | some function => .ok function
  | none => .error (.unknownVariant name (Elementary.all.map Elementary.variantName))

/-- Reads an elementary function: its name, or an object with nothing but its
name. -/
def readFunction : Json → Except Fault Elementary
  | .string name => functionOfName name
  | .object [] (some stray) => .error (.ofKind stray "variant identifier")
  | .object ((name, value) :: members) stray =>
    match functionOfName name with
    | .error fault => .error fault
    | .ok function =>
      match value with
      | .null => if members.isEmpty && stray.isNone then .ok function else .error .malformed
      | other => .error (.ofKind other "unit")
  | _ => .error .malformed

/-- Reads an expression. -/
def ofJson : Json → Except Fault (Expr Float)
  | .string name =>
    match Variant.ofName name with
    | .error fault => .error fault
    | .ok variant =>
      .error (.bareVariant (if variant.isTuple then "tuple variant" else "newtype variant"))
  | .object [] (some stray) => .error (.ofKind stray "variant identifier")
  | .object ((name, value) :: members) stray => do
    let expr ← match ← Variant.ofName name, value with
      | .literal, value => (Codec.number.read value).map .literal
      | .symbol, value => (Codec.string.read value).map .symbol
      | .neg, value => (ofJson value).map .neg
      | .binary operation, .array (first :: second :: further) closed => do
        let left ← ofJson first
        let right ← ofJson second
        if further.isEmpty && closed then .ok (.binary operation left right)
        else .error .malformed
      | .call, .array (first :: second :: further) closed => do
        let function ← readFunction first
        let argument ← ofJson second
        if further.isEmpty && closed then .ok (.call function argument) else .error .malformed
      | .binary operation, .array [first] closed => do
        let _ ← ofJson first
        .error (Variant.shortTuple (.binary operation) 1 closed)
      | .call, .array [first] closed => do
        let _ ← readFunction first
        .error (Variant.shortTuple .call 1 closed)
      | variant, .array [] closed => .error (variant.shortTuple 0 closed)
      | variant, other => .error (.ofKind other variant.tupleName)
    if members.isEmpty && stray.isNone then .ok expr else .error .malformed
  | _ => .error .malformed

/-- The JSON of an expression. -/
def toJson : Expr Float → Json
  | .literal value => .record [("Literal", .float value)]
  | .symbol name => .record [("Symbol", .string name)]
  | .neg operand => .record [("Neg", operand.toJson)]
  | .binary operation left right =>
    .record [(operation.variantName, .list [left.toJson, right.toJson])]
  | .call function argument =>
    .record [("Call", .list [.string function.variantName, argument.toJson])]

/-- Expressions in JSON text. -/
def codec : Codec (Expr Float) := ⟨ofJson, toJson⟩

end Expr

end KalmanHeader

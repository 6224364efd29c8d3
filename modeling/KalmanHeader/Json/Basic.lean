import KalmanHeader.Number.Layout

/-!
# JSON values

A value of this type is a JSON text as far as it can be read. Where the text
ends early, or stops being JSON, the value that should have stood there is
`broken`, and the arrays and objects around it have no closing bracket. A reader
that goes through the value from left to right therefore meets the place where
the text breaks off in its proper order among the other things that may be wrong.
-/

namespace KalmanHeader

/-- A JSON value, as far as its text can be read. -/
inductive Json where
  | null
  | bool (value : Bool)
  /-- A number without point and exponent, of up to 64 bits. -/
  | integer (value : Int)
  | float (value : Float)
  | string (value : String)
  | array (items : List Json) (closed : Bool)
  /-- Members in the order of the text. When the closing brace is missing,
  `stray` is what stands in place of it or of a further key. -/
  | object (members : List (String × Json)) (stray : Option Json)
  | broken
  deriving Repr

namespace Json

/-- The array of the given items. -/
def list (items : List Json) : Json := .array items true

/-- The object with the given members. -/
def record (members : List (String × Json)) : Json := .object members none

mutual

/-- Whether the value is complete down to its leaves. -/
def isIntact : Json → Bool
  | .array items closed => closed && areIntact items
  | .object members stray => stray.isNone && membersAreIntact members
  | .broken => false
  | _ => true

/-- Whether all items are complete. -/
def areIntact : List Json → Bool
  | [] => true
  | item :: items => item.isIntact && areIntact items

/-- Whether the values of all members are complete. -/
def membersAreIntact : List (String × Json) → Bool
  | [] => true
  | (_, value) :: members => value.isIntact && membersAreIntact members

end

end Json

end KalmanHeader

import PropertyKeys.Number.Shortest
import PropertyKeys.OrderedMap

/-!
# JSON values

The values that documents and configurations are made of. The members of an object keep the order
of the text, and each name stands once.

## Main definitions

* `Json`: a value.
* `Json.primitive?`: the text of a value that is not a container.
* `Json.memberText?`: the text of a member of an object.
-/

namespace PropertyKeys

/-- A number: an integer of 64 bits, or a binary floating-point number. -/
inductive JsonNumber where
  | integer (value : Int)
  | double (value : Binary64)
  deriving DecidableEq, Repr

/-- The text of a number. -/
def JsonNumber.render : JsonNumber → Text
  | .integer value => Text.ofInt value
  | .double value => value.render

/-- A JSON value. -/
inductive Json where
  | null
  | bool (value : Bool)
  | number (value : JsonNumber)
  | string (value : Text)
  | array (items : List Json)
  | object (members : List (Text × Json))
  deriving Repr

namespace Json

/-- The text of a truth value. -/
def boolText (value : Bool) : Text :=
  if value then "true".toList else "false".toList

/-- The text that a value gives where a text is asked for: a text itself, and a number or a truth
value as it is written. -/
def primitive? : Json → Option Text
  | .string value => some value
  | .number value => some value.render
  | .bool value => some (boolText value)
  | .null | .array _ | .object _ => none

/-- The members of an object. -/
def members? : Json → Option (OrderedMap Text Json)
  | .object members => some members
  | _ => none

/-- The text that a member of an object gives where a text is asked for. -/
def memberText? (name : Text) (members : OrderedMap Text Json) : Option Text :=
  (members.get? name).bind primitive?

/-- The items of an array. -/
def items? : Json → Option (List Json)
  | .array items => some items
  | _ => none

end Json

end PropertyKeys

import PropertyKeys.Text.Basic

/-!
# Type expressions

The declared type of a key is a qualified name with type arguments and array brackets, such as
`java.util.Map<java.lang.String,java.lang.Integer[]>`. The text form written here has no blanks and
separates the parts of a name by dots.

## Main definitions

* `TypeExpr`: a name, its arguments and the number of array dimensions.
* `TypeExpr.render`: the text of a type expression.
* `TypeExpr.element?` / `key?` / `value?`: the types of the parts of a container.
-/

namespace PropertyKeys

/-- A type: a qualified name, the types it is applied to, and how many times it is an array. -/
structure TypeExpr where
  name : Text
  args : List TypeExpr := []
  dims : Nat := 0
  deriving Inhabited, Repr

namespace TypeExpr

/-- The array brackets of so many dimensions. -/
def brackets : Nat → Text
  | 0 => []
  | dims + 1 => '[' :: ']' :: brackets dims

mutual

/-- The text of a type expression. -/
def render : TypeExpr → Text
  | ⟨name, args, dims⟩ => name ++ renderArgs args ++ brackets dims

/-- The text of a list of type arguments in angle brackets, which is empty for no arguments. -/
def renderArgs : List TypeExpr → Text
  | [] => []
  | arg :: args => '<' :: (render arg ++ renderMoreArgs args)

/-- The text of the type arguments after the first one, with the closing bracket. -/
def renderMoreArgs : List TypeExpr → Text
  | [] => ['>']
  | arg :: args => ',' :: (render arg ++ renderMoreArgs args)

end

/-- Whether a type is an array. -/
def isArray (type : TypeExpr) : Bool :=
  0 < type.dims

/-- The type of the elements: one dimension less for an array, else the first argument. -/
def element? (type : TypeExpr) : Option TypeExpr :=
  if type.isArray then some { type with dims := type.dims - 1 } else type.args.head?

/-- The type of the keys of a map, which is its first argument. An array has none. -/
def key? (type : TypeExpr) : Option TypeExpr :=
  if type.isArray then none else type.args.head?

/-- The type of the values of a map, which is its second argument. An array has none. -/
def value? (type : TypeExpr) : Option TypeExpr :=
  if type.isArray then none else type.args[1]?

/-- The most general type, which stands for a type that is left open. -/
def object : TypeExpr :=
  { name := "java.lang.Object".toList }

end TypeExpr

end PropertyKeys

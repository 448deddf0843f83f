import PropertyKeys.Access
import PropertyKeys.Key.Deprecation
import PropertyKeys.Key.Hint
import PropertyKeys.Key.Origin

/-!
# Declared keys

A key is declared under a dotted name, usually with a type. The type decides how its values are
reached, and the type of one value decides which bean properties a path can go on to.

## Main definitions

* `Key`: a declared key with all that its declaration says.
* `Key.access`: how the values are reached.
* `Key.property?`: the bean property that a part of a path names.
-/

namespace PropertyKeys

/-- A declared key. It keeps what is known about the types by which it is read. -/
structure Key where
  name : Text
  description? : Option Text := none
  type? : Option TypeExpr := none
  default? : Option Text := none
  deprecation : Deprecation := .none
  valueHint : Hint := {}
  keyHint : Hint := {}
  origin : Origin := {}
  known : KnownTypes := {}

namespace Key

/-- How the values of the key are reached. -/
def access (key : Key) : Access :=
  Access.classify key.known key.type?

/-- The type of one value of the key. -/
def valueType? (key : Key) : Option TypeExpr :=
  key.type?.bind key.access.valueType?

/-- The properties that one value of the key has, if it is a bean. -/
def properties? (key : Key) : Option (List Text) :=
  key.valueType?.bind fun type => key.known.properties? type.name

/-- The first declared property of a value that `written` names, either as it is or as a separated
form of it. -/
def property? (key : Key) (written : Text) : Option Text :=
  if written.isEmpty then none
  else
    key.properties?.bind fun properties =>
      properties.find? fun property =>
        property == written || property == Spelling.joinWords false written

end Key

end PropertyKeys

import PropertyKeys.Text.Basic

/-!
# Known types

What is known about the types that keys are declared with: which of them are enumerations, which
exist at all, and which are beans and with what properties. The knowledge comes from the host, and
nothing here looks inside a class. A host may answer in any way; a registry of types is one way.

## Main definitions

* `KnownTypes`: what the host answers about types.
* `Lookup`: what is looked up about a type while documents are read.
* `TypeRegistry`: listed enumerations, beans and other types.
* `TypeRegistry.known`: what a registry answers.
-/

namespace PropertyKeys

/-- What is known about types. A host that says nothing knows of none. -/
structure KnownTypes where
  /-- Whether a type is an enumeration. -/
  isEnum : Text → Bool := fun _ => false
  /-- Whether a type exists. -/
  contains : Text → Bool := fun _ => false
  /-- The names of the properties of a bean that a key can reach, or nothing if the type is no
  bean. -/
  properties? : Text → Option (List Text) := fun _ => none

/-- What is looked up about a type while documents are read. -/
inductive Lookup where
  /-- Whether the type is an enumeration. -/
  | enumeration
  /-- Whether the type exists. -/
  | existence
  deriving DecidableEq, Repr

/-- A bean type and the names of its properties that a key can reach. -/
structure Bean where
  name : Text
  properties : List Text
  deriving DecidableEq, Repr

/-- Types that a host lists. A bean that is listed twice is the one listed last. -/
structure TypeRegistry where
  enums : List Text := []
  beans : List Bean := []
  others : List Text := []
  deriving DecidableEq, Repr

namespace TypeRegistry

/-- Whether a type is an enumeration. -/
def isEnum (registry : TypeRegistry) (type : Text) : Bool :=
  registry.enums.contains type

/-- The properties of a bean, or nothing if the type is no bean. -/
def properties? (registry : TypeRegistry) (type : Text) : Option (List Text) :=
  (registry.beans.reverse.find? fun bean => bean.name == type).map Bean.properties

/-- Whether a type is listed as an enumeration, as a bean or otherwise. -/
def contains (registry : TypeRegistry) (type : Text) : Bool :=
  registry.others.contains type || registry.isEnum type || (registry.properties? type).isSome

/-- What a registry answers. -/
def known (registry : TypeRegistry) : KnownTypes :=
  { isEnum := registry.isEnum
    contains := registry.contains
    properties? := registry.properties? }

end TypeRegistry

end PropertyKeys

import PropertyKeys.TypeExpr.Basic
import PropertyKeys.KnownTypes

/-!
# Access

How the values of a key are reached from a property file: a scalar by the key itself, the entries
of a map by what follows the key, and the elements of a list by an index in brackets. The declared
type alone decides, together with what is known about the type of a map's keys.

## Main definitions

* `Access.classify`: the access of a declared type.
* `Access.lookups`: what has to be looked up for that.
* `Access.valueType?`: the type of one value that is reached.
* `Access.expandAlias`: a type text with the alias for text maps written out.
-/

namespace PropertyKeys

/-- How the values of a key are reached. -/
inductive Access where
  /-- One value: `server.port=8080`. -/
  | normal
  /-- A map with any text as key: `app.labels.env=prod`. -/
  | map
  /-- A map with the constants of an enumeration as keys. -/
  | enumMap
  /-- A list or an array: `app.servers[0]=a`. -/
  | indexed
  deriving DecidableEq, Repr

namespace Access

/-- The names of the types whose values are reached by an index. -/
def indexedTypes : List Text :=
  ["java.lang.Iterable", "java.util.Collection", "java.util.List", "java.util.Set",
    "java.util.ArrayList", "java.util.LinkedList", "java.util.HashSet", "java.util.LinkedHashSet",
    "java.util.SortedSet", "java.util.NavigableSet", "java.util.TreeSet", "java.util.Queue",
    "java.util.Deque"].map String.toList

/-- The name of the map type whose keys are always the constants of an enumeration. -/
def enumMapType : Text :=
  "java.util.EnumMap".toList

/-- The name of the map type that is written without arguments and maps text to text. -/
def textMapAlias : Text :=
  "java.util.Properties".toList

/-- The names of the types whose values are reached by a key. -/
def mapTypes : List Text :=
  ["java.util.Map", "java.util.HashMap", "java.util.LinkedHashMap", "java.util.TreeMap",
    "java.util.SortedMap", "java.util.NavigableMap", "java.util.EnumMap", "java.util.Properties",
    "java.util.concurrent.ConcurrentMap", "java.util.concurrent.ConcurrentHashMap"].map
    String.toList

/-- The text that a type text stands for: the alias for text maps is written out, and any other
text stands for itself. -/
def expandAlias (typeText : Text) : Text :=
  if typeText = textMapAlias then
    "java.util.Map<java.lang.String,java.lang.String>".toList
  else typeText

/-- The access of a declared type. A key without a known type has one value. -/
def classify (known : KnownTypes) : Option TypeExpr → Access
  | none => .normal
  | some type =>
    if type.isArray || indexedTypes.contains type.name then .indexed
    else if mapTypes.contains type.name then
      if type.name = enumMapType || type.key?.any fun key => known.isEnum key.name then .enumMap
      else .map
    else .normal

/-- What `classify` looks up: whether the keys of a map are the constants of an enumeration, unless
the name of the map type tells it. -/
def lookups : Option TypeExpr → List Lookup
  | none => []
  | some type =>
    if type.isArray || indexedTypes.contains type.name then []
    else if mapTypes.contains type.name && type.name != enumMapType && type.key?.isSome then
      [.enumeration]
    else []

/-- Whether a type exists is not looked up for the access. -/
@[simp]
theorem count_existence_lookups (type? : Option TypeExpr) :
    (lookups type?).count .existence = 0 := by
  unfold lookups
  split
  · rfl
  · repeat' split
    all_goals rfl

/-- Whether the values are the entries of a map. -/
def isMap : Access → Bool
  | .map | .enumMap => true
  | .normal | .indexed => false

/-- The type of one value that is reached in a key of the given type. -/
def valueType? : Access → TypeExpr → Option TypeExpr
  | .normal, type => some type
  | .indexed, type => type.element?
  | .map, type | .enumMap, type => type.value?

/-- The name of an access in reports. -/
def label : Access → Text
  | .normal => "normal".toList
  | .map => "map".toList
  | .enumMap => "enum-map".toList
  | .indexed => "indexed".toList

end Access

end PropertyKeys

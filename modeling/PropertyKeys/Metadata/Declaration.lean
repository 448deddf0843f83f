import PropertyKeys.Key.Basic
import PropertyKeys.Metadata.Hints
import PropertyKeys.Metadata.Provenance
import PropertyKeys.TypeExpr.Parser

/-!
# Declarations of keys

An entry of a document declares a key. The name is needed; whatever else is missing or not well
formed is left out. A type that cannot be read is reported, and the key is declared without it.
Entries that state the same type have it read only once.

## Main definitions

* `Metadata.TypeMemo`: the types that were read so far.
* `Metadata.Declared`: what an entry declares.
* `Metadata.declare`: the declaration that an entry makes.
-/

namespace PropertyKeys.Metadata

/-- What is known before a document is read: the types, where the document comes from, and the hints
that it gives. -/
structure Context where
  known : KnownTypes := {}
  provenance : Provenance
  hints : HintIndex := []

/-- What an entry declares: a key if it has a name, what is wrong with it, and what had to be looked
up in order. -/
structure Declared where
  key? : Option Key := none
  diagnostics : List Diagnostic := []
  lookups : List Lookup := []

/-- The deprecation that an entry states: an object that gives the details, or else a flag. -/
def deprecationOf (entry : OrderedMap Text Json) : Deprecation :=
  match entry.get? "deprecation".toList with
  | some (.object details) =>
    .full (Json.memberText? "reason".toList details)
      (((Json.memberText? "level".toList details).map DeprecationLevel.ofText).getD .warning)
      (Json.memberText? "replacement".toList details)
  | _ =>
    match entry.get? "deprecated".toList with
    | some (.bool true) => .flag
    | some (.string flag) => if Text.lowerAscii flag = "true".toList then .flag else .none
    | _ => .none

/-- The text of a default value. The items of an array that have a text are listed. -/
def defaultOf? : Json → Option Text
  | .array items => some (Text.join ", ".toList (items.filterMap Json.primitive?))
  | value => value.primitive?

/-- The name of the key that an entry declares. -/
def nameOf? (entry : OrderedMap Text Json) : Option Text :=
  (Json.memberText? "name".toList entry).filter fun name => !Text.isBlankText name

/-- The types that were read so far, by their texts. A text that is no type has none. -/
abbrev TypeMemo := OrderedMap Text (Option TypeExpr)

/-- The type of a text, which is read unless it was read before. -/
def TypeMemo.read (memo : TypeMemo) (typeText : Text) : Option TypeExpr × TypeMemo :=
  match OrderedMap.get? typeText memo with
  | some type? => (type?, memo)
  | none =>
    let type? := (TypeExpr.parse typeText).toOption
    (type?, OrderedMap.set typeText type? memo)

/-- The type of the key `name` that an entry declares, or why there is none although the entry
states one. -/
def typeOf (memo : TypeMemo) (name : Text) (entry : OrderedMap Text Json) :
    (Option TypeExpr × List Diagnostic) × TypeMemo :=
  match (Json.memberText? "type".toList entry).filter fun text => !Text.isBlankText text with
  | none => ((none, []), memo)
  | some stated =>
    let typeText := Access.expandAlias stated
    match memo.read typeText with
    | (some type, memo) => ((some type, []), memo)
    | (none, memo) => ((none, [.unparseableType name typeText]), memo)

/-- The source type that an entry states. -/
def sourceTypeOf? (entry : OrderedMap Text Json) : Option Text :=
  (Json.memberText? "sourceType".toList entry).filter fun source => !source.isEmpty

/-- The hints for the values and for the keys of a key. Only a map has both. -/
def hintsOf (hints : HintIndex) (access : Access) (name : Text) : Hint × Hint :=
  if access.isMap then
    (hints.hint (name ++ ".values".toList), hints.hint (name ++ ".keys".toList))
  else (hints.hint name, {})

/-- The declaration that an entry makes. The access is found out twice, for the hints and again when
the key is put together. -/
def declare (context : Context) (memo : TypeMemo) (entry : OrderedMap Text Json) :
    Declared × TypeMemo :=
  match nameOf? entry with
  | none => ({}, memo)
  | some name =>
    let ((type?, diagnostics), memo) := typeOf memo name entry
    let access := Access.classify context.known type?
    let (valueHint, keyHint) := hintsOf context.hints access name
    let sourceType? := sourceTypeOf? entry
    let handwritten := context.provenance.kind = .handwritten
    let key : Key :=
      { name, type?, valueHint, keyHint
        description? := Json.memberText? "description".toList entry
        default? := (entry.get? "defaultValue".toList).bind defaultOf?
        deprecation := deprecationOf entry
        origin := Origin.of context.known context.provenance.library name sourceType? handwritten
        known := context.known }
    let lookups := Access.lookups type? ++ Origin.lookups sourceType? ++ Access.lookups type?
    ({ key? := some key, diagnostics, lookups }, memo)

end PropertyKeys.Metadata

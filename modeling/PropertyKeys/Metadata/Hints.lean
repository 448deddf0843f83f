import PropertyKeys.Json.Basic
import PropertyKeys.Key.Hint
import PropertyKeys.Metadata.Diagnostic

/-!
# Hints of a document

A document lists hints by name. The name is that of a key, or that of a map key with `.values` or
`.keys` behind it. What is not well formed inside a hint is passed over.

## Main definitions

* `Metadata.hintOf`: the hint that an entry describes.
* `Metadata.hintIndex`: the hints of a document by name.
-/

namespace PropertyKeys.Metadata

/-- The objects in an array that is a member of an object. Anything else is passed over. -/
def objectsOf (name : Text) (members : OrderedMap Text Json) : List (OrderedMap Text Json) :=
  (((members.get? name).bind Json.items?).getD []).filterMap Json.members?

/-- The suggestion that an object describes, which needs a value. -/
def suggestionOf? (members : OrderedMap Text Json) : Option Suggestion :=
  (Json.memberText? "value".toList members).map fun value =>
    { value, description? := Json.memberText? "description".toList members }

/-- The parameters that an object describes: its members that are no containers and not null. -/
def parametersOf (members : OrderedMap Text Json) : OrderedMap Text Text :=
  members.filterMap fun member => member.2.primitive?.map fun value => (member.1, value)

/-- The provider that an object describes, which needs a name. -/
def providerOf? (members : OrderedMap Text Json) : Option Provider :=
  (Json.memberText? "name".toList members).map fun name =>
    { name
      parameters :=
        parametersOf (((members.get? "parameters".toList).bind Json.members?).getD []) }

/-- The hint that an entry describes. -/
def hintOf (members : OrderedMap Text Json) : Hint :=
  { suggestions := (objectsOf "values".toList members).filterMap suggestionOf?
    providers := (objectsOf "providers".toList members).filterMap providerOf? }

/-- Hints by name. -/
abbrev HintIndex := OrderedMap Text Hint

/-- The hint of a name, which is empty if the document has none. -/
def HintIndex.hint (index : HintIndex) (name : Text) : Hint :=
  (OrderedMap.get? name index).getD {}

/-- The index of some entries, each with its place, after the hints of earlier ones. A later hint of
a name takes the place of an earlier one, and an entry without a name is passed over. -/
def addHints (index : HintIndex) : List (Json × Nat) → HintIndex × List Diagnostic
  | [] => (index, [])
  | (entry, place) :: entries =>
    match entry with
    | .object members =>
      match Json.memberText? "name".toList members with
      | some name => addHints (index.set name (hintOf members)) entries
      | none => addHints index entries
    | _ =>
      let (index, diagnostics) := addHints index entries
      (index, .invalidEntry .hints place :: diagnostics)

/-- The hints of a document and what is wrong with them. -/
def hintIndex (document : OrderedMap Text Json) : HintIndex × List Diagnostic :=
  match document.get? Section.hints.member with
  | none => ([], [])
  | some (.array entries) => addHints [] entries.zipIdx
  | some _ => ([], [.notAnArray .hints])

end PropertyKeys.Metadata

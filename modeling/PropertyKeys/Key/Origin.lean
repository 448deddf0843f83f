import PropertyKeys.Spelling.Words
import PropertyKeys.KnownTypes

/-!
# Origins

The origin of a key tells which library declares it and where an editor should go to show the
declaration: to a property of the source type if that type is known, else to the entry of the
document.

## Main definitions

* `Origin.of`: the origin of a key in a library.
* `Origin.lookups`: what has to be looked up for that.
-/

namespace PropertyKeys

/-- What the declaration of a key was traced to. -/
inductive Trace where
  /-- The source type is known, and the property of this name declares the key. -/
  | property (name : Text)
  /-- There is no source type, and the entry of the document declares the key. -/
  | document
  /-- The source type is not known. -/
  | unknownType
  /-- There is no source type, and the entry stands in a document written by hand. -/
  | handwritten
  deriving DecidableEq, Repr

/-- Where a key is declared. -/
structure Origin where
  library : Text := []
  sourceType? : Option Text := none
  trace : Trace := .document
  deriving DecidableEq, Repr

/-- The last segment of a dotted name. -/
def lastSegment (name : Text) : Text :=
  match Text.splitLast? '.' name with
  | some (_, last) => last
  | none => name

/-- The origin of the key `name` of a library. `handwritten` tells whether the document is written
by hand, which matters only if the key has no source type. -/
def Origin.of (known : KnownTypes) (library name : Text) (sourceType? : Option Text)
    (handwritten : Bool) : Origin :=
  match sourceType? with
  | some sourceType =>
    if known.contains sourceType then
      ⟨library, some sourceType, .property (Spelling.joinDashed (lastSegment name))⟩
    else ⟨library, some sourceType, .unknownType⟩
  | none => ⟨library, none, if handwritten then .handwritten else .document⟩

/-- What `Origin.of` looks up: whether the source type exists. -/
def Origin.lookups (sourceType? : Option Text) : List Lookup :=
  if sourceType?.isSome then [.existence] else []

@[simp]
theorem Origin.count_existence_lookups (sourceType? : Option Text) :
    (Origin.lookups sourceType?).count .existence = if sourceType?.isSome then 1 else 0 := by
  rw [lookups]
  split <;> rfl

end PropertyKeys

import PropertyKeys.KeyParts
import PropertyKeys.Spelling.Variants

/-!
# The relaxed dialect

A raw key may spell the name of a declared key in any of its variants, or with any letters in the
other case. The first and the last characters are compared before the variants are looked at.

## Main definitions

* `Relaxed.same`: whether a text spells the name of a key.
* `Relaxed.binds`: whether a raw key is for a declared key.
* `Relaxed.parts?`: the parts of a raw key that is for a declared key.
* `Relaxed.completes`: whether a declared key may continue what was typed.
-/

namespace PropertyKeys.Relaxed

open Text

/-- Whether a text spells the name of a key: up to case, or as one of its variants. -/
def same (name text : Text) : Bool :=
  equalsIgnoringCase name text ||
    (sameLast name text && (Spelling.keyVariants name).contains text)

/-- Whether a raw key is for a declared key: by its whole text, for a map by its portion, and for a
list by what precedes a bracket. -/
def binds (key : Key) (raw : Text) : Bool :=
  sameFirst key.name raw &&
    match key.access with
    | .normal => same key.name raw
    | .map | .enumMap =>
      equalsIgnoringCase key.name raw ||
        (KeyParts.split? key raw false).any fun parts => parts.names same key.name
    | .indexed => same key.name (KeyParts.bracketBase raw)

/-- Whether the name of a declared key, or one of its variants, may continue what was typed. -/
def completes (key : Key) (typed : Text) : Bool :=
  sameFirst key.name typed &&
    (typed.isPrefixOf key.name || (Spelling.keyVariants key.name).any typed.isPrefixOf)

/-- Whether a text names a part of a name, such as a property. -/
def namesPart (part text : Text) : Bool :=
  sameFirst part text && sameLast part text &&
    (equalsIgnoringCase part text || (Spelling.variants part).contains text)

/-- The parts of a raw key that is for a declared map or list. -/
def parts? (key : Key) (raw : Text) (caseSensitive : Bool) : Option KeyParts :=
  if key.access = .normal || !sameFirst key.name raw then none
  else (KeyParts.split? key raw caseSensitive).filter fun parts => parts.names same key.name

/-- The index of a raw key that is for a declared key and reaches the property asked for. -/
def index? (key : Key) (asked? : Option Text) (raw : Text) : Option Text :=
  (parts? key raw false).bind fun parts => parts.index?If same key.name asked?

end PropertyKeys.Relaxed

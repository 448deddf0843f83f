import PropertyKeys.KeyParts

/-!
# The strict dialect

Two names are the same if their canonical forms are: small letters, digits and dots, with all else
dropped. So `datasourceURL`, `datasource-url` and `datasource_url` are one name, while dots always
have to agree. A first look at the first characters saves most of the work.

## Main definitions

* `Strict.canonical`: the canonical form of a name.
* `Strict.binds`: whether a raw key is for a declared key.
* `Strict.parts?`: the parts of a raw key that is for a declared key.
* `Strict.completes`: whether a declared key may continue what was typed.
-/

namespace PropertyKeys.Strict

open Unicode Text

/-- Whether a character stands in canonical forms. -/
def isCanonical (c : Char) : Bool :=
  c.isLower || c.isDigit || c = '.'

/-- The canonical form of a name: its lower-case form, restricted to small ASCII letters, ASCII
digits and dots. Each character is converted on its own. A name that holds nothing else is taken as
it is, without a conversion. -/
def canonical (name : Text) : Text :=
  if name.all isCanonical then name else (name.flatMap lowerChar).filter isCanonical

/-- Whether two names have the same canonical form. -/
def same (a b : Text) : Bool :=
  canonical a == canonical b

/-- Whether a raw key has a bracket and what precedes it is the name, given in canonical form. -/
def baseMatches (canonicalName raw : Text) : Bool :=
  raw.contains '[' && canonical (KeyParts.bracketBase raw) == canonicalName

/-- Whether a text is the given one followed by a dot and anything. -/
def extendsByDot (name text : Text) : Bool :=
  (name ++ ['.']).isPrefixOf text

/-- Whether a raw key is for a declared key: by its whole text, for a map also by what precedes a
dot, and for maps and lists by what precedes a bracket. -/
def binds (key : Key) (raw : Text) : Bool :=
  let name := canonical key.name
  let text := canonical raw
  sameFirst key.name raw &&
    match key.access with
    | .normal => text == name
    | .map | .enumMap => text == name || extendsByDot name text || baseMatches name raw
    | .indexed => text == name || baseMatches name raw

/-- Whether the name of a declared key may continue what was typed. -/
def completes (key : Key) (typed : Text) : Bool :=
  sameFirst key.name typed && (canonical typed).isPrefixOf (canonical key.name)

/-- Whether a text names a part of a name, such as a property. -/
def namesPart (part text : Text) : Bool :=
  sameFirst part text && same part text

/-- The parts of a raw key that is for a declared map or list. -/
def parts? (key : Key) (raw : Text) (caseSensitive : Bool) : Option KeyParts :=
  if key.access = .normal || !sameFirst key.name raw then none
  else (KeyParts.split? key raw caseSensitive).filter fun parts => parts.names same key.name

/-- The index of a raw key that is for a declared key and reaches the property asked for. -/
def index? (key : Key) (asked? : Option Text) (raw : Text) : Option Text :=
  (parts? key raw false).bind fun parts => parts.index?If same key.name asked?

end PropertyKeys.Strict

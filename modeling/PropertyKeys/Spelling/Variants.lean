import PropertyKeys.Spelling.Words

/-!
# Spelling variants

A key that is declared as `app.display-name` may be written in a property file as
`app.displayName`, `app.display_name` or `APP_DISPLAY_NAME`. The variants of a name are what two
rounds of respelling make of it, where one respelling changes how words are separated and then
possibly the case of the whole name. Two rounds are needed for the forms that first split a camel
case word and then replace the dots.

## Main definitions

* `Spelling.Separation` / `Spelling.Casing`: the two parts of a respelling.
* `Spelling.respellings`: all respellings of one name.
* `Spelling.variants`: the variants of a name, in the order in which they are found.
* `Spelling.keyVariants`: the variants of a dotted key.
-/

namespace PropertyKeys.Spelling

open Unicode Text

/-- A change of how the words of a name are separated. -/
inductive Separation where
  | keep
  | hyphenToUnderscore
  | underscoreToDot
  | dotToUnderscore
  | camelToUnderscore
  | camelToHyphen
  | joinCamel
  | joinCamelIgnoringCase
  deriving DecidableEq, Repr

/-- A change of the case of a whole name. -/
inductive Casing where
  | keep
  | lower
  | upper
  deriving DecidableEq, Repr

/-- All changes of the separation, in the order in which they are tried. -/
def Separation.all : List Separation :=
  [.keep, .hyphenToUnderscore, .underscoreToDot, .dotToUnderscore, .camelToUnderscore,
    .camelToHyphen, .joinCamel, .joinCamelIgnoringCase]

/-- All changes of the case, in the order in which they are tried. -/
def Casing.all : List Casing :=
  [.keep, .lower, .upper]

/-- The name under a change of its separation. -/
def Separation.apply : Separation → Text → Text
  | .keep, name => name
  | .hyphenToUnderscore, name => replace '-' '_' name
  | .underscoreToDot, name => replace '_' '.' name
  | .dotToUnderscore, name => replace '.' '_' name
  | .camelToUnderscore, name => separateWords '_' name
  | .camelToHyphen, name => separateWords '-' name
  | .joinCamel, name => joinWords false name
  | .joinCamelIgnoringCase, name => joinWords true name

/-- The name under a change of its case. -/
def Casing.apply : Casing → Text → Text
  | .keep, name => name
  | .lower, name => Unicode.lower name
  | .upper, name => Unicode.upper name

/-- All respellings of a name: every change of the separation, followed by every change of the
case. -/
def respellings (name : Text) : List Text :=
  Separation.all.flatMap fun separation =>
    Casing.all.map fun casing => casing.apply (separation.apply name)

/-- What a search has found so far, and the part of it that the last round found. -/
structure Search where
  found : List Text
  newest : List Text
  deriving DecidableEq, Repr

/-- One more round: the respellings of the newest names that have not been found before. -/
def Search.advance (search : Search) : Search :=
  let respelled := (search.newest.flatMap respellings).eraseDups
  let newest := respelled.filter fun name => !search.found.contains name
  { found := search.found ++ newest, newest }

/-- The variants of a name: what two rounds of respelling find, the name itself first. -/
def variants (name : Text) : List Text :=
  (Search.advance (Search.advance { found := [name], newest := [name] })).found

/-- A dotted key with its last segment in camel case. A key without a dot is kept as it is. -/
def camelLastSegment (key : Text) : Text :=
  match splitLast? '.' key with
  | some (head, last) => head ++ '.' :: joinDashed last
  | none => key

/-- The variants of a dotted key, starting from its form with the last segment in camel case. -/
def keyVariants (key : Text) : List Text :=
  variants (camelLastSegment key)

end PropertyKeys.Spelling

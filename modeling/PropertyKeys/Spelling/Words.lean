import PropertyKeys.Text.Basic

/-!
# Words of a name

A name of several words is spelled with its words joined in camel case, `maxSize`, or separated by
a mark, `max-size`, `max_size` or `max.size`. The conversions here go between the two forms.

## Main definitions

* `Spelling.separateWords`: camel case to a separated form.
* `Spelling.joinWords`: any separated form to camel case.
* `Spelling.joinDashed`: a dashed form to camel case.
-/

namespace PropertyKeys.Spelling

open Unicode Text

/-- Whether a mark separates the words of a name. -/
def isSeparator (c : Char) : Bool :=
  c = '_' || c = '-' || c = '.'

/-- Whether a word can end with a character: a capital after it starts the next word. -/
def endsWord (c : Char) : Bool :=
  !c.isUpper && c ≠ '-'

/-- A name with a separator, and a small letter after it, at each place where a capital follows the
end of a word. Such a place takes up two characters, so of three characters in a row only the first
two or the last two can be one. -/
def separateWords (separator : Char) : Text → Text
  | a :: b :: rest =>
    if endsWord a && b.isUpper then
      a :: separator :: b.toLower :: separateWords separator rest
    else
      a :: separateWords separator (b :: rest)
  | [a] => [a]
  | [] => []

/-- A word with its first character in upper case. -/
def capitalize : Text → Text
  | [] => []
  | c :: cs => upperChar c ++ cs

/-- Words joined in camel case: the first word that is not empty is kept as it is, and every word
after it is capitalized. -/
def joinCamel : List Text → Text
  | [] => []
  | word :: words => if word.isEmpty then joinCamel words else word ++ words.flatMap capitalize

/-- A name with its separated words joined in camel case. With `ignoreCase` every word is put into
lower case first. One separator at the very end is kept. -/
def joinWords (ignoreCase : Bool) (name : Text) : Text :=
  let words := (splitBy isSeparator name).map fun word => if ignoreCase then lower word else word
  let joined := joinCamel words
  match name.getLast? with
  | some c => if isSeparator c then joined ++ [c] else joined
  | none => joined

/-- The rest of a name with its dashed words joined in camel case, where `afterDash` tells whether a
dash has just been passed. -/
def joinDashedFrom (afterDash : Bool) : Text → Text
  | [] => []
  | c :: cs =>
    if c = '-' then joinDashedFrom true cs
    else (if afterDash then upperChar c else [c]) ++ joinDashedFrom false cs

/-- A name with its dashed words joined in camel case: every dash is dropped and the character after
it put into upper case. -/
def joinDashed (name : Text) : Text :=
  joinDashedFrom false name

end PropertyKeys.Spelling

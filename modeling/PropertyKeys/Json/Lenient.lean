import PropertyKeys.Unicode.Blank
import PropertyKeys.Text.Basic

/-!
# Lenient JSON

Documents may hold comments, which run from `//` or `#` to the end of the line or stand between
`/*` and `*/`, and a comma after the last item of an array or the last member of an object. Both are
removed before the text is read. What stands in quotation marks is left alone.

## Main definitions

* `Lenient.strip`: a text without comments and superfluous commas.
* `Lenient.closesNext`: whether the next thing that is neither blank nor comment closes a container.
-/

namespace PropertyKeys.Lenient

open Unicode

/-- What the next character is a part of. -/
inductive Mode where
  /-- The text outside comments and quotation marks. -/
  | plain
  /-- A comment that runs to the end of the line. -/
  | lineComment
  /-- A comment between marks, where `star` tells whether a star was just passed. -/
  | blockComment (star : Bool)
  /-- The text inside quotation marks. -/
  | quoted
  /-- The character after a backslash inside quotation marks. -/
  | escaped
  deriving DecidableEq, Repr

/-- Whether the first character that is neither blank nor in a comment closes an array or an
object. -/
def closesNext : Mode → Text → Bool
  | _, [] => false
  | .lineComment, c :: cs => closesNext (if c = '\n' then .plain else .lineComment) cs
  | .blockComment star, c :: cs =>
    closesNext (if star && c = '/' then .plain else .blockComment (c = '*')) cs
  | .plain, '/' :: '/' :: cs => closesNext .lineComment cs
  | .plain, '/' :: '*' :: cs => closesNext (.blockComment false) cs
  | .plain, c :: cs =>
    if c = '#' then closesNext .lineComment cs
    else if isBlank c then closesNext .plain cs
    else c = ']' || c = '}'
  | .quoted, _ :: _ => false
  | .escaped, _ :: _ => false

/-- The rest of a text without comments and superfluous commas, from a given mode on. -/
def stripFrom : Mode → Text → Text
  | _, [] => []
  | .lineComment, c :: cs =>
    if c = '\n' then c :: stripFrom .plain cs else stripFrom .lineComment cs
  | .blockComment star, c :: cs =>
    stripFrom (if star && c = '/' then .plain else .blockComment (c = '*')) cs
  | .quoted, c :: cs =>
    c :: stripFrom (if c = '\\' then .escaped else if c = '"' then .plain else .quoted) cs
  | .escaped, c :: cs => c :: stripFrom .quoted cs
  | .plain, '/' :: '/' :: cs => stripFrom .lineComment cs
  | .plain, '/' :: '*' :: cs => stripFrom (.blockComment false) cs
  | .plain, c :: cs =>
    if c = '#' then stripFrom .lineComment cs
    else if c = ',' then
      if closesNext .plain cs then stripFrom .plain cs else c :: stripFrom .plain cs
    else c :: stripFrom (if c = '"' then .quoted else .plain) cs

/-- A text without comments, and without the commas that only a closing bracket or brace follows. -/
def strip (text : Text) : Text :=
  stripFrom .plain text

end PropertyKeys.Lenient

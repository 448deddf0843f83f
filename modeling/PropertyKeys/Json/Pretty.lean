import PropertyKeys.Json.Basic

/-!
# Writing JSON

A report is written with one item or member to a line, and two more spaces of indentation for each
level. Empty arrays and objects stay on one line.

## Main definitions

* `Json.quote`: a text in quotation marks.
* `Json.pretty`: the text of a value.
-/

namespace PropertyKeys.Json

/-- The two hexadecimal digits of a number below 256, in small letters. -/
def hexByte (n : Nat) : Text :=
  [Nat.digitChar (n / 16), Nat.digitChar (n % 16)]

/-- The written form of a character in quotation marks: what would end the text and the control
characters are escaped, the common ones by a letter. -/
def escapeChar (c : Char) : Text :=
  match c with
  | '"' => ['\\', '"']
  | '\\' => ['\\', '\\']
  | '\x08' => ['\\', 'b']
  | '\x0c' => ['\\', 'f']
  | '\n' => ['\\', 'n']
  | '\r' => ['\\', 'r']
  | '\t' => ['\\', 't']
  | c => if c.toNat < 0x20 then ['\\', 'u', '0', '0'] ++ hexByte c.toNat else [c]

/-- A text in quotation marks. -/
def quote (text : Text) : Text :=
  '"' :: text.flatMap escapeChar ++ ['"']

/-- A line break and the indentation of a level. -/
def newLine (level : Nat) : Text :=
  '\n' :: List.replicate (2 * level) ' '

mutual

/-- The text of a value at a level of indentation. -/
def prettyAt (level : Nat) : Json → Text
  | .null => "null".toList
  | .bool value => boolText value
  | .number value => value.render
  | .string value => quote value
  | .array items => '[' :: prettyItems level [] items
  | .object members => '{' :: prettyMembers level [] members

/-- The items of an array with its closing bracket. The first line break follows `mark`, and the
others a comma. -/
def prettyItems (level : Nat) (mark : Text) : List Json → Text
  | [] => if mark.isEmpty then [']'] else newLine level ++ [']']
  | item :: items =>
    mark ++ newLine (level + 1) ++ prettyAt (level + 1) item ++ prettyItems level [','] items

/-- The members of an object with its closing brace. -/
def prettyMembers (level : Nat) (mark : Text) : List (Text × Json) → Text
  | [] => if mark.isEmpty then ['}'] else newLine level ++ ['}']
  | (name, value) :: members =>
    mark ++ newLine (level + 1) ++ quote name ++ [':', ' '] ++ prettyAt (level + 1) value ++
      prettyMembers level [','] members

end

/-- The text of a value on several lines. -/
def pretty (value : Json) : Text :=
  prettyAt 0 value

end PropertyKeys.Json

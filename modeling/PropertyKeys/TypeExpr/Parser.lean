import PropertyKeys.Text.Reading
import PropertyKeys.TypeExpr.Basic
import PropertyKeys.Unicode.Alphanumeric

/-!
# Reading type expressions

A type text is read from left to right. Blanks may stand between its parts, the parts of a name may
be joined by `$` as well as by dots, and a wildcard stands for its upper bound, or for the most
general type if it has none.

A fault keeps the text that was left when it was met. From it the message takes the offset and the
offending character.

## Main definitions

* `TypeExpr.parse`: the type expression of a text, or why it has none.
* `TypeExpr.ParseError`: the causes of a refusal and their wording.
-/

namespace PropertyKeys.TypeExpr

open Unicode Text

/-- Why a text is no type expression. -/
inductive ParseError where
  /-- The text has no character but blanks. -/
  | empty
  /-- The character at the given byte cannot stand there. -/
  | unexpectedChar (offset : Nat) (found : Char)
  /-- The text ends where something has to follow. -/
  | unexpectedEnd
  /-- A part of a name is empty or starts with a digit. -/
  | invalidName (name : Text)
  deriving DecidableEq, Repr

/-- The wording of a refusal. -/
def ParseError.message : ParseError → Text
  | .empty => "empty type text".toList
  | .unexpectedChar offset found =>
    "unexpected character '".toList ++ [found] ++ "' at offset ".toList ++ Text.ofNat offset
  | .unexpectedEnd => "unexpected end of type text".toList
  | .invalidName name => "invalid type name: ".toList ++ name

/-- A place where reading stops. -/
inductive Fault where
  /-- Nothing that may stand here is at the front of the rest. -/
  | unexpected (rest : Text)
  /-- The name is malformed. -/
  | badName (name : Text)
  deriving DecidableEq, Repr

/-- Whether a character may stand in a name. The dots and dollar signs separate its parts. -/
def isNameChar (c : Char) : Bool :=
  c = '.' || c = '$' || c = '_' || isAlphanumeric c

/-- Whether a text is a part of a name: it is not empty and does not start with an ASCII digit. -/
def isNamePart (part : Text) : Bool :=
  part.head?.any fun c => !c.isDigit

/-- The name at the front of the text, with its parts joined by dots. -/
def readName (text : Text) : Reading Fault Text :=
  let raw := text.takeWhile isNameChar
  let name := Text.replace '$' '.' raw
  if raw.isEmpty then .error (.unexpected text)
  else if (splitBy (· = '.') name).all isNamePart then .ok (name, text.dropWhile isNameChar)
  else .error (.badName raw)

/-- The text after a keyword that a blank ends. The blank is kept. -/
def afterKeyword? (keyword : Text) (text : Text) : Option Text :=
  if keyword.isPrefixOf text then
    let rest := text.drop keyword.length
    if rest.head?.any isBlank then some rest else none
  else none

/-- The number of bracket pairs at the front of the text, of which there are at most `fuel`. -/
def readDims : (fuel : Nat) → Text → Reading Fault Nat
  | 0, text => .ok (0, skipBlank text)
  | fuel + 1, text =>
    match skipBlank text with
    | '[' :: rest =>
      match skipBlank rest with
      | ']' :: rest => (readDims fuel rest).andThen fun dims rest => .ok (dims + 1, rest)
      | rest => .error (.unexpected rest)
    | rest => .ok (0, rest)

/-- The type arguments up to the closing bracket, of which there are at most `fuel`, each read by
`readArg`. -/
def readArgs (readArg : Text → Reading Fault TypeExpr) :
    (fuel : Nat) → Text → Reading Fault (List TypeExpr)
  | 0, text => .error (.unexpected text)
  | fuel + 1, text =>
    (readArg text).andThen fun arg rest =>
      match skipBlank rest with
      | ',' :: rest =>
        (readArgs readArg fuel rest).andThen fun args rest => .ok (arg :: args, rest)
      | '>' :: rest => .ok ([arg], rest)
      | rest => .error (.unexpected rest)

/-- The type at the front of the text, nested at most `fuel` deep. As each level takes a character,
the length of the text is enough. -/
def readType : (fuel : Nat) → Text → Reading Fault TypeExpr
  | 0, text => .error (.unexpected (skipBlank text))
  | fuel + 1, text =>
    match skipBlank text with
    | '?' :: rest =>
      let rest := skipBlank rest
      match afterKeyword? "extends".toList rest with
      | some bound => readType fuel bound
      | none =>
        match afterKeyword? "super".toList rest with
        | some bound => (readType fuel bound).andThen fun _ rest => .ok (object, rest)
        | none => .ok (object, rest)
    | text =>
      (readName text).andThen fun name rest =>
        match skipBlank rest with
        | '<' :: rest =>
          (readArgs (readType fuel) rest.length rest).andThen fun args rest =>
            (readDims rest.length rest).andThen fun dims rest => .ok (⟨name, args, dims⟩, rest)
        | rest => (readDims rest.length rest).andThen fun dims rest => .ok (⟨name, [], dims⟩, rest)

/-- The refusal that a fault in a text amounts to. -/
def Fault.inText (text : Text) : Fault → ParseError
  | .unexpected [] => .unexpectedEnd
  | .unexpected (found :: rest) =>
    .unexpectedChar (byteSize text - byteSize (found :: rest)) found
  | .badName name => .invalidName name

/-- The type expression that a text writes. -/
def parse (text : Text) : Except ParseError TypeExpr :=
  if isBlankText text then .error .empty
  else
    match readType text.length text with
    | .error fault => .error (fault.inText text)
    | .ok (type, rest) =>
      match skipBlank rest with
      | [] => .ok type
      | rest => .error ((Fault.unexpected rest).inText text)

end PropertyKeys.TypeExpr

import PropertyKeys.Unicode.Blank
import PropertyKeys.Unicode.Case

/-!
# Text

A text is a list of characters. Lengths and offsets that are shown to a user count the bytes of its
UTF-8 encoding, so that they can be used to mark a place in a file.

## Main definitions

* `Text.byteSize`: the number of bytes of a text.
* `Text.splitBy`: the pieces of a text between separators.
* `Text.splitLast?`: a text cut at the last place of a character.
* `Text.equalsIgnoringCase`: comparison character by character, ignoring case.
-/

namespace PropertyKeys

/-- A text: the list of its characters. -/
abbrev Text := List Char

namespace Text

open Unicode

/-- The number of bytes of the UTF-8 encoding. -/
def byteSize (text : Text) : Nat :=
  text.foldr (fun c size => c.utf8Size + size) 0

/-- A text without the blank characters at its start. -/
def skipBlank (text : Text) : Text :=
  text.dropWhile isBlank

/-- A text without the blank characters at either end. -/
def trim (text : Text) : Text :=
  ((skipBlank text).reverse.dropWhile isBlank).reverse

/-- Whether a text has no character but blank ones. -/
def isBlankText (text : Text) : Bool :=
  text.all isBlank

/-- The pieces of a text between the separators, the empty ones included. -/
def splitBy (isSeparator : Char → Bool) : Text → List Text
  | [] => [[]]
  | c :: cs =>
    if isSeparator c then [] :: splitBy isSeparator cs
    else
      match splitBy isSeparator cs with
      | [] => [[c]]
      | piece :: pieces => (c :: piece) :: pieces

/-- A text cut at the last place of `mark`: what precedes it and what follows it. -/
def splitLast? (mark : Char) : Text → Option (Text × Text)
  | [] => none
  | c :: cs =>
    match splitLast? mark cs with
    | some (head, last) => some (c :: head, last)
    | none => if c = mark then some ([], cs) else none

/-- What precedes the first place of `mark`, or the whole text. -/
def before (mark : Char) (text : Text) : Text :=
  text.takeWhile (· != mark)

/-- The text from the first place of `mark` on, that place included; nothing if there is none. -/
def fromFirst (mark : Char) (text : Text) : Text :=
  text.dropWhile (· != mark)

/-- A text without one `mark` at its end, if it ends with it. -/
def dropFinal (mark : Char) (text : Text) : Text :=
  if text.getLast? = some mark then text.dropLast else text

/-- A text with every `old` replaced by `new`. -/
def replace (old new : Char) (text : Text) : Text :=
  text.map fun c => if c = old then new else c

/-- Whether two texts are equal character by character, ignoring case. -/
def equalsIgnoringCase : Text → Text → Bool
  | [], [] => true
  | a :: as, b :: bs => sameLetter a b && equalsIgnoringCase as bs
  | _, _ => false

/-- Whether two characters are both present and differ in case at most. -/
def sameLetter? : Option Char → Option Char → Bool
  | some a, some b => sameLetter a b
  | _, _ => false

/-- Whether two texts start with the same letter, ignoring case. An empty text never does. -/
def sameFirst (a b : Text) : Bool :=
  sameLetter? a.head? b.head?

/-- Whether two texts end with the same letter, ignoring case. An empty text never does. -/
def sameLast (a b : Text) : Bool :=
  sameLetter? a.getLast? b.getLast?

/-- A text with its ASCII capitals made small and all else kept. -/
def lowerAscii (text : Text) : Text :=
  text.map Char.toLower

/-- The texts one after the other, with `separator` between them. -/
def join (separator : Text) : List Text → Text
  | [] => []
  | [piece] => piece
  | piece :: pieces => piece ++ separator ++ join separator pieces

/-- The decimal digits of a number. -/
def ofNat (n : Nat) : Text :=
  Nat.toDigits 10 n

/-- The decimal digits of a number, after a minus sign if it is negative. -/
def ofInt (n : Int) : Text :=
  if n < 0 then '-' :: ofNat n.natAbs else ofNat n.natAbs

end Text

end PropertyKeys

import PropertyKeys.Text.Basic

/-!
# Ranges of a text

A range marks a part of a text by the byte offsets of its ends.

## Main definitions

* `TextRange`: the offsets at which a part starts and stops.
* `TextRange.slice`: the part that a range marks.
-/

namespace PropertyKeys

namespace Text

/-- A text without its first `count` bytes. A character that these bytes cut goes with them. -/
def dropBytes (count : Nat) : Text → Text
  | [] => []
  | c :: cs => if count = 0 then c :: cs else dropBytes (count - c.utf8Size) cs

/-- The characters of a text that lie within its first `count` bytes. -/
def takeBytes (count : Nat) : Text → Text
  | [] => []
  | c :: cs => if c.utf8Size ≤ count then c :: takeBytes (count - c.utf8Size) cs else []

end Text

/-- A part of a text, from the byte offset `start` up to and without `stop`. -/
structure TextRange where
  start : Nat
  stop : Nat
  deriving DecidableEq, Repr

namespace TextRange

/-- The number of bytes in a range. -/
def size (range : TextRange) : Nat :=
  range.stop - range.start

/-- Whether a range holds nothing. -/
def isEmpty (range : TextRange) : Bool :=
  range.start == range.stop

/-- The part of a text that a range marks. -/
def slice (range : TextRange) (text : Text) : Text :=
  Text.takeBytes range.size (Text.dropBytes range.start text)

end TextRange

end PropertyKeys

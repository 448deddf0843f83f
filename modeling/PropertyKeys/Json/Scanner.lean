import PropertyKeys.Json.Basic
import PropertyKeys.Text.Reading

/-!
# Words of a JSON text

Readers for the parts of a JSON text that hold no other values: blanks, texts, numbers and the three
literals. A refusal names the first thing that is wrong. It does not name the line and the column
where that stands.

## Main definitions

* `Json.ReadError`: why a text is no JSON value, and the wording.
* `Json.readText`: a text after its opening quotation mark.
* `Json.readNumber`: a number after its sign.
* `Json.readLiteral`: the rest of a literal.
-/

namespace PropertyKeys.Json

open Text

/-- Why a text is no JSON value. -/
inductive ReadError where
  | endInValue
  | endInList
  | endInObject
  | endInText
  | expectedValue
  | expectedLiteral
  | expectedColon
  | expectedListEnd
  | expectedObjectEnd
  | trailingComma
  | trailingCharacters
  | nameNotText
  | invalidNumber
  | numberOutOfRange
  | invalidEscape
  | controlCharacter
  | loneSurrogate
  | unfinishedSurrogate
  | nestedTooDeep
  deriving DecidableEq, Repr

/-- The wording of a refusal. A full message goes on with the place, as ` at line 1 column 5`; that end
is left out. -/
def ReadError.message : ReadError → Text
  | .endInValue => "EOF while parsing a value".toList
  | .endInList => "EOF while parsing a list".toList
  | .endInObject => "EOF while parsing an object".toList
  | .endInText => "EOF while parsing a string".toList
  | .expectedValue => "expected value".toList
  | .expectedLiteral => "expected ident".toList
  | .expectedColon => "expected `:`".toList
  | .expectedListEnd => "expected `,` or `]`".toList
  | .expectedObjectEnd => "expected `,` or `\x7d`".toList
  | .trailingComma => "trailing comma".toList
  | .trailingCharacters => "trailing characters".toList
  | .nameNotText => "key must be a string".toList
  | .invalidNumber => "invalid number".toList
  | .numberOutOfRange => "number out of range".toList
  | .invalidEscape => "invalid escape".toList
  | .controlCharacter =>
    "control character (\\u0000-\\u001F) found while parsing a string".toList
  | .loneSurrogate => "lone leading surrogate in hex escape".toList
  | .unfinishedSurrogate => "unexpected end of hex escape".toList
  | .nestedTooDeep => "recursion limit exceeded".toList

/-- Whether a character is a blank of JSON. -/
def isSpace (c : Char) : Bool :=
  c = ' ' || c = '\t' || c = '\n' || c = '\r'

/-- A text without the blanks at its front. -/
def skipSpace (text : Text) : Text :=
  text.dropWhile isSpace

/-! ## Literals -/

/-- The text after the characters that are expected at its front. -/
def readLiteral : (expected : Text) → Text → Reading ReadError Unit
  | [], text => .ok ((), text)
  | _ :: _, [] => .error .endInValue
  | e :: expected, c :: text => if c = e then readLiteral expected text else .error .expectedLiteral

/-! ## Texts -/

/-- The value of a hexadecimal digit. -/
def hexValue? (c : Char) : Option Nat :=
  if '0' ≤ c && c ≤ '9' then some (c.toNat - '0'.toNat)
  else if 'a' ≤ c && c ≤ 'f' then some (c.toNat - 'a'.toNat + 10)
  else if 'A' ≤ c && c ≤ 'F' then some (c.toNat - 'A'.toNat + 10)
  else none

/-- The value of four hexadecimal digits. -/
def hexValue4? (a b c d : Char) : Option Nat := do
  let a ← hexValue? a
  let b ← hexValue? b
  let c ← hexValue? c
  let d ← hexValue? d
  return ((a * 16 + b) * 16 + c) * 16 + d

/-- The number that four hexadecimal digits write. Where fewer than four bytes are left the text
ends too early, and else the digits are wrong. -/
def readHex4 : Text → Reading ReadError Nat
  | a :: b :: c :: d :: rest =>
    match hexValue4? a b c d with
    | some value => .ok (value, rest)
    | none => .error .invalidEscape
  | text => .error (if byteSize text < 4 then .endInText else .invalidEscape)

/-- The character that an escape of two characters stands for, given the second one. -/
def shortEscape? : Char → Option Char
  | '"' => some '"'
  | '\\' => some '\\'
  | '/' => some '/'
  | 'b' => some '\x08'
  | 'f' => some '\x0c'
  | 'n' => some '\n'
  | 'r' => some '\r'
  | 't' => some '\t'
  | _ => none

/-- Whether a number is the first half of a code point that is written in two halves. -/
def isHighSurrogate (n : Nat) : Bool :=
  0xD800 ≤ n && n ≤ 0xDBFF

/-- Whether a number is the second half of a code point that is written in two halves. -/
def isLowSurrogate (n : Nat) : Bool :=
  0xDC00 ≤ n && n ≤ 0xDFFF

/-- The character of which the first half has been read. -/
def readLowSurrogate (high : Nat) : Text → Reading ReadError Char
  | [] | ['\\'] => .error .endInText
  | '\\' :: 'u' :: rest =>
    (readHex4 rest).andThen fun low rest =>
      if isLowSurrogate low then
        .ok (Char.ofNat (0x10000 + (high - 0xD800) * 0x400 + (low - 0xDC00)), rest)
      else .error .loneSurrogate
  | _ => .error .unfinishedSurrogate

/-- The character that an escape stands for, after its backslash. -/
def readEscape : Text → Reading ReadError Char
  | [] => .error .endInText
  | 'u' :: rest =>
    (readHex4 rest).andThen fun n rest =>
      if isLowSurrogate n then .error .loneSurrogate
      else if isHighSurrogate n then readLowSurrogate n rest
      else .ok (Char.ofNat n, rest)
  | c :: rest =>
    match shortEscape? c with
    | some value => .ok (value, rest)
    | none => .error .invalidEscape

/-- The characters up to the closing quotation mark, of which there are at most `fuel`. -/
def readTextWithin : (fuel : Nat) → Text → Reading ReadError Text
  | 0, _ => .error .endInText
  | _ + 1, [] => .error .endInText
  | fuel + 1, c :: rest =>
    if c = '"' then .ok ([], rest)
    else if c = '\\' then
      (readEscape rest).andThen fun c rest =>
        (readTextWithin fuel rest).andThen fun cs rest => .ok (c :: cs, rest)
    else if c.toNat < 0x20 then .error .controlCharacter
    else (readTextWithin fuel rest).andThen fun cs rest => .ok (c :: cs, rest)

/-- A text after its opening quotation mark. -/
def readText (text : Text) : Reading ReadError Text :=
  readTextWithin text.length text

/-! ## Numbers -/

/-- The greatest integer of 64 bits without a sign. -/
def maxUnsigned : Nat := Nat.pow 2 64 - 1

/-- The digits that fit a number of 64 bits after those of `value`, and how many are left over from
the first one that does not fit. -/
def takeDigits (value : Nat) : Text → Nat × Nat
  | [] => (value, 0)
  | d :: ds =>
    let next := value * 10 + (d.toNat - '0'.toNat)
    if next ≤ maxUnsigned then takeDigits next ds else (value, ds.length + 1)

/-- The floating-point number `± digits · 10 ^ exponent`. -/
def doubleOf (negative : Bool) (digits : Nat) (exponent : Int) (rest : Text) :
    Reading ReadError JsonNumber :=
  match Binary64.ofDecimal? digits exponent with
  | some x => .ok (.double (if negative then x.neg else x), rest)
  | none => .error .numberOutOfRange

/-- The integer of which all digits fit 64 bits. What does not fit with its sign, and zero with a
minus sign, is a floating-point number. -/
def integerOf (negative : Bool) (digits : Nat) (rest : Text) : Reading ReadError JsonNumber :=
  if !negative then .ok (.integer digits, rest)
  else if digits = 0 || Nat.pow 2 63 < digits then doubleOf negative digits 0 rest
  else .ok (.integer (-digits), rest)

/-- A number whose digits have been read, from its exponent on. -/
def readExponent (negative : Bool) (digits : Nat) (exponent : Int) (text : Text) :
    Reading ReadError JsonNumber :=
  let (minus, text) :=
    match text with
    | '+' :: rest => (false, rest)
    | '-' :: rest => (true, rest)
    | text => (false, text)
  match text with
  | [] => .error .endInValue
  | c :: _ =>
    if c.isDigit then
      let size := (text.takeWhile Char.isDigit).foldl (fun n d => n * 10 + (d.toNat - '0'.toNat)) 0
      let shift : Int := if minus then -size else size
      doubleOf negative digits (exponent + shift) (text.dropWhile Char.isDigit)
    else .error .invalidNumber

/-- Whether a text goes on with an exponent. -/
def startsExponent (text : Text) : Bool :=
  text.head?.any fun c => c = 'e' || c = 'E'

/-- A number whose integer digits have been read, from the digits after the point on. -/
def readFraction (negative : Bool) (digits : Nat) (exponent : Int) (text : Text) :
    Reading ReadError JsonNumber :=
  let fraction := text.takeWhile Char.isDigit
  let rest := text.dropWhile Char.isDigit
  if fraction.isEmpty then .error (if rest.isEmpty then .endInValue else .invalidNumber)
  else
    let (digits, left) := takeDigits digits fraction
    let exponent := exponent - (fraction.length - left : Nat)
    if startsExponent rest then readExponent negative digits exponent rest.tail
    else doubleOf negative digits exponent rest

/-- A number whose integer part is given and that goes on with the text. -/
def readAfterInteger (negative : Bool) (integer : Text) (rest : Text) :
    Reading ReadError JsonNumber :=
  let (digits, left) := takeDigits 0 integer
  if rest.head? = some '.' then readFraction negative digits left rest.tail
  else if startsExponent rest then readExponent negative digits left rest.tail
  else if left = 0 then integerOf negative digits rest
  else doubleOf negative digits left rest

/-- A number after its sign. A zero at the front stands alone before the point. -/
def readNumber (negative : Bool) : Text → Reading ReadError JsonNumber
  | [] => .error .endInValue
  | c :: rest =>
    if c = '0' then
      if rest.head?.any Char.isDigit then .error .invalidNumber
      else readAfterInteger negative ['0'] rest
    else if c.isDigit then
      readAfterInteger negative (c :: rest.takeWhile Char.isDigit) (rest.dropWhile Char.isDigit)
    else .error .invalidNumber

end PropertyKeys.Json

import PropertyKeys.Json.Scanner

/-!
# Passing over JSON

A value that nobody asks for is passed over. It has to be well formed, but its texts and numbers are
not converted, so that a lone surrogate or a huge number does no harm, and it may be nested to any
depth.

## Main definitions

* `Json.skipValue`: the text after the value at its front.
-/

namespace PropertyKeys.Json

open Text

/-- The text after an escape, of which the backslash has been passed. -/
def skipEscape : Text → Reading ReadError Unit
  | [] => .error .endInText
  | 'u' :: rest => (readHex4 rest).andThen fun _ rest => .ok ((), rest)
  | c :: rest => if (shortEscape? c).isSome then .ok ((), rest) else .error .invalidEscape

/-- The text after the closing quotation mark, at most `fuel` characters on. -/
def skipTextWithin : (fuel : Nat) → Text → Reading ReadError Unit
  | 0, _ => .error .endInText
  | _ + 1, [] => .error .endInText
  | fuel + 1, c :: rest =>
    if c = '"' then .ok ((), rest)
    else if c = '\\' then (skipEscape rest).andThen fun _ rest => skipTextWithin fuel rest
    else if c.toNat < 0x20 then .error .controlCharacter
    else skipTextWithin fuel rest

/-- The text after a text of which the opening quotation mark has been passed. -/
def skipText (text : Text) : Reading ReadError Unit :=
  skipTextWithin text.length text

/-- The text after the exponent of a number, of which the letter has been passed. -/
def skipExponent (text : Text) : Reading ReadError Unit :=
  let text :=
    match text with
    | '+' :: rest | '-' :: rest => rest
    | text => text
  if text.head?.any Char.isDigit then .ok ((), text.dropWhile Char.isDigit)
  else .error .invalidNumber

/-- The text after the rest of a number that starts behind its integer part. -/
def skipAfterInteger (text : Text) : Reading ReadError Unit :=
  match text with
  | '.' :: rest =>
    let after := rest.dropWhile Char.isDigit
    if !rest.head?.any Char.isDigit then .error .invalidNumber
    else if startsExponent after then skipExponent after.tail
    else .ok ((), after)
  | text => if startsExponent text then skipExponent text.tail else .ok ((), text)

/-- The text after a number, of which the sign has been passed. -/
def skipNumber : Text → Reading ReadError Unit
  | [] => .error .invalidNumber
  | c :: rest =>
    if c = '0' then
      if rest.head?.any Char.isDigit then .error .invalidNumber else skipAfterInteger rest
    else if c.isDigit then skipAfterInteger (rest.dropWhile Char.isDigit)
    else .error .invalidNumber

/-- The text after the items that follow one of an array. -/
def skipMoreItems (skipItem : Text → Reading ReadError Unit) :
    (fuel : Nat) → Text → Reading ReadError Unit
  | 0, _ => .error .endInList
  | fuel + 1, text =>
    match skipSpace text with
    | [] => .error .endInList
    | ']' :: rest => .ok ((), rest)
    | ',' :: rest => (skipItem rest).andThen fun _ rest => skipMoreItems skipItem fuel rest
    | _ => .error .expectedListEnd

/-- The text after the items of an array, of which the opening bracket has been passed. -/
def skipItems (skipItem : Text → Reading ReadError Unit) (text : Text) :
    Reading ReadError Unit :=
  match skipSpace text with
  | [] => .error .endInList
  | ']' :: rest => .ok ((), rest)
  | rest => (skipItem rest).andThen fun _ rest => skipMoreItems skipItem rest.length rest

/-- The text after a member of an object. -/
def skipMember (skipItem : Text → Reading ReadError Unit) (text : Text) :
    Reading ReadError Unit :=
  match skipSpace text with
  | [] => .error .endInObject
  | '"' :: rest =>
    (skipText rest).andThen fun _ rest =>
      match skipSpace rest with
      | [] => .error .endInObject
      | ':' :: rest => skipItem rest
      | _ => .error .expectedColon
  | _ => .error .nameNotText

/-- The text after the members that follow one of an object. -/
def skipMoreMembers (skipItem : Text → Reading ReadError Unit) :
    (fuel : Nat) → Text → Reading ReadError Unit
  | 0, _ => .error .endInObject
  | fuel + 1, text =>
    match skipSpace text with
    | [] => .error .endInObject
    | '}' :: rest => .ok ((), rest)
    | ',' :: rest =>
      (skipMember skipItem rest).andThen fun _ rest => skipMoreMembers skipItem fuel rest
    | _ => .error .expectedObjectEnd

/-- The text after the members of an object, of which the opening brace has been passed. -/
def skipMembers (skipItem : Text → Reading ReadError Unit) (text : Text) :
    Reading ReadError Unit :=
  match skipSpace text with
  | [] => .error .endInObject
  | '}' :: rest => .ok ((), rest)
  | rest =>
    (skipMember skipItem rest).andThen fun _ rest => skipMoreMembers skipItem rest.length rest

/-- The text after the value at its front, nested at most `fuel` deep. -/
def skipValueWithin : (fuel : Nat) → Text → Reading ReadError Unit
  | 0, _ => .error .endInValue
  | fuel + 1, text =>
    match skipSpace text with
    | [] => .error .endInValue
    | 'n' :: rest => readLiteral "ull".toList rest
    | 't' :: rest => readLiteral "rue".toList rest
    | 'f' :: rest => readLiteral "alse".toList rest
    | '"' :: rest => skipText rest
    | '-' :: rest => skipNumber rest
    | '[' :: rest => skipItems (skipValueWithin fuel) rest
    | '{' :: rest => skipMembers (skipValueWithin fuel) rest
    | c :: rest => if c.isDigit then skipNumber (c :: rest) else .error .expectedValue

/-- The text after the value at its front. As each level takes a character, the length of the text
bounds the depth. -/
def skipValue (text : Text) : Reading ReadError Unit :=
  skipValueWithin text.length text

end PropertyKeys.Json

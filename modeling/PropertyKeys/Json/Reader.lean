import PropertyKeys.Json.Scanner

/-!
# Reading JSON

A JSON text is read from left to right, and reading stops at the first thing that is wrong. Arrays
and objects may be nested 127 deep.

## Main definitions

* `Json.readValue`: the value at the front of a text.
* `Json.readFirst?`: the first value of a text that may go on.
-/

namespace PropertyKeys.Json

open Text

/-- How deep arrays and objects may be nested. -/
def maxDepth : Nat := 127

/-- A value that is neither an array nor an object, at the front of a text without blanks. -/
def readScalar : Text → Reading ReadError Json
  | [] => .error .endInValue
  | 'n' :: rest => (readLiteral "ull".toList rest).andThen fun _ rest => .ok (.null, rest)
  | 't' :: rest => (readLiteral "rue".toList rest).andThen fun _ rest => .ok (.bool true, rest)
  | 'f' :: rest => (readLiteral "alse".toList rest).andThen fun _ rest => .ok (.bool false, rest)
  | '"' :: rest => (readText rest).andThen fun value rest => .ok (.string value, rest)
  | '-' :: rest => (readNumber true rest).andThen fun value rest => .ok (.number value, rest)
  | c :: rest =>
    if c.isDigit then
      (readNumber false (c :: rest)).andThen fun value rest => .ok (.number value, rest)
    else .error .expectedValue

/-- The items of an array after one of them, of which there are at most `fuel`, each read by
`readItem`. -/
def readMoreItems (readItem : Text → Reading ReadError Json) :
    (fuel : Nat) → Text → Reading ReadError (List Json)
  | 0, _ => .error .endInList
  | fuel + 1, text =>
    match skipSpace text with
    | [] => .error .endInList
    | ']' :: rest => .ok ([], rest)
    | ',' :: rest =>
      match skipSpace rest with
      | [] => .error .endInValue
      | ']' :: _ => .error .trailingComma
      | rest =>
        (readItem rest).andThen fun item rest =>
          (readMoreItems readItem fuel rest).andThen fun items rest => .ok (item :: items, rest)
    | _ => .error .expectedListEnd

/-- The items of an array after its opening bracket. -/
def readItems (readItem : Text → Reading ReadError Json) (text : Text) :
    Reading ReadError (List Json) :=
  match skipSpace text with
  | [] => .error .endInList
  | ']' :: rest => .ok ([], rest)
  | rest =>
    (readItem rest).andThen fun item rest =>
      (readMoreItems readItem rest.length rest).andThen fun items rest => .ok (item :: items, rest)

/-- A member of an object after the opening quotation mark of its name. -/
def readMember (readItem : Text → Reading ReadError Json) (text : Text) :
    Reading ReadError (Text × Json) :=
  (readText text).andThen fun name rest =>
    match skipSpace rest with
    | [] => .error .endInObject
    | ':' :: rest => (readItem rest).andThen fun value rest => .ok ((name, value), rest)
    | _ => .error .expectedColon

/-- The members of an object after one of them, of which there are at most `fuel`. -/
def readMoreMembers (readItem : Text → Reading ReadError Json) :
    (fuel : Nat) → Text → Reading ReadError (List (Text × Json))
  | 0, _ => .error .endInObject
  | fuel + 1, text =>
    match skipSpace text with
    | [] => .error .endInObject
    | '}' :: rest => .ok ([], rest)
    | ',' :: rest =>
      match skipSpace rest with
      | [] => .error .endInValue
      | '}' :: _ => .error .trailingComma
      | '"' :: rest =>
        (readMember readItem rest).andThen fun member rest =>
          (readMoreMembers readItem fuel rest).andThen fun members rest =>
            .ok (member :: members, rest)
      | _ => .error .nameNotText
    | _ => .error .expectedObjectEnd

/-- The members of an object after its opening brace. -/
def readMembers (readItem : Text → Reading ReadError Json) (text : Text) :
    Reading ReadError (List (Text × Json)) :=
  match skipSpace text with
  | [] => .error .endInObject
  | '}' :: rest => .ok ([], rest)
  | '"' :: rest =>
    (readMember readItem rest).andThen fun member rest =>
      (readMoreMembers readItem rest.length rest).andThen fun members rest =>
        .ok (member :: members, rest)
  | _ => .error .nameNotText

/-- The value at the front of a text, with arrays and objects nested at most `depth` deep. A name
that an object repeats keeps its first place and takes its last value. -/
def readValue (depth : Nat) (text : Text) : Reading ReadError Json :=
  match skipSpace text with
  | '[' :: rest =>
    match depth with
    | 0 => .error .nestedTooDeep
    | depth + 1 =>
      (readItems (readValue depth) rest).andThen fun items rest => .ok (.array items, rest)
  | '{' :: rest =>
    match depth with
    | 0 => .error .nestedTooDeep
    | depth + 1 =>
      (readMembers (readValue depth) rest).andThen fun members rest =>
        .ok (.object (OrderedMap.ofList members), rest)
  | rest => readScalar rest

/-- Whether a literal or a number that the text follows is complete: the text is empty or goes on
with a blank or with a mark of JSON. -/
def endsScalar (text : Text) : Bool :=
  match text with
  | [] => true
  | c :: _ => isSpace c || "\"[]\x7b\x7d,:".toList.contains c

/-- The first value of a text, whatever follows it, or nothing if there are only blanks. What
follows a literal or a number must not look like a part of it. -/
def readFirst? (text : Text) : Option (Except ReadError Json) :=
  match skipSpace text with
  | [] => none
  | c :: rest =>
    match readValue maxDepth (c :: rest) with
    | .error refusal => some (.error refusal)
    | .ok (value, after) =>
      if c = '[' || c = '{' || c = '"' || endsScalar after then some (.ok value)
      else some (.error .trailingCharacters)

end PropertyKeys.Json

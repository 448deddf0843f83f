import PropertyKeys.Json.Reader
import PropertyKeys.Json.Skip
import PropertyKeys.Settings.Error

/-!
# Reading settings

Settings are read from a JSON text, either an object with any of the settings by name, or an array
with the first few of them in order. What is not given keeps its default. Values are checked as they
are met, so that of two errors the first one in the text is reported. Other members of the object
are passed over.

## Main definitions

* `Settings.readField`: the value of one setting.
* `Settings.ofJson`: the settings that a text gives.
-/

namespace PropertyKeys.Settings

open Json (skipSpace)

/-- A reading of a part of the settings. -/
abbrev Reads (α : Type) := Reading Error α

/-- A reading of JSON as a reading of settings. -/
def lift {α : Type} (reading : Reading Json.ReadError α) : Reads α :=
  reading.mapError .malformed

/-- A refusal for what is not well formed. -/
def malformed {α : Type} (refusal : Json.ReadError) : Reads α :=
  .error (.malformed refusal)

/-! ## Values -/

/-- The refusal of the value at the front of a text without blanks. A value that is not well formed
is refused for that. Of an array or an object only the bracket or brace is looked at. -/
def refuse {α : Type} (wanted : Wanted) (text : Text) : Reads α :=
  match text with
  | '[' :: _ => .error (.wrongType .array wanted)
  | '{' :: _ => .error (.wrongType .object wanted)
  | text =>
    match Json.readScalar text with
    | .error refusal => malformed refusal
    | .ok (.null, _) => .error (.wrongType .null wanted)
    | .ok (.bool value, _) => .error (.wrongType (.bool value) wanted)
    | .ok (.number value, _) => .error (.wrongType (.number value) wanted)
    | .ok (.string value, _) => .error (.wrongType (.string value) wanted)
    | .ok (.array _, _) => .error (.wrongType .array wanted)
    | .ok (.object _, _) => .error (.wrongType .object wanted)

/-- A number that is not negative. -/
def readNatural (wanted : Wanted) (text : Text) : Reads Nat :=
  let text := skipSpace text
  match text with
  | '[' :: _ | '{' :: _ => refuse wanted text
  | _ =>
    (lift (Json.readScalar text)).andThen fun value rest =>
      match value with
      | .number (.integer (.ofNat value)) => .ok (value, rest)
      | .number (.integer value) => .error (.negative value wanted)
      | _ => refuse wanted text

/-- A truth value. -/
def readTruth (text : Text) : Reads Bool :=
  let text := skipSpace text
  match text with
  | '[' :: _ | '{' :: _ => refuse .truth text
  | _ =>
    (lift (Json.readScalar text)).andThen fun value rest =>
      match value with
      | .bool value => .ok (value, rest)
      | _ => refuse .truth text

/-- The name of a dialect, of which the opening quotation mark has been passed. -/
def readDialectName (text : Text) : Reads Dialect :=
  (lift (Json.readText text)).andThen fun name rest =>
    match Dialect.ofLabel? name with
    | some dialect => .ok (dialect, rest)
    | none => .error (.unknownDialect name)

/-- The colon between a name and its value. -/
def readColon (text : Text) : Reads Unit :=
  match skipSpace text with
  | [] => malformed .endInObject
  | ':' :: rest => .ok ((), rest)
  | _ => malformed .expectedColon

/-- The value `null`. -/
def readNothing (text : Text) : Reads Unit :=
  match skipSpace text with
  | 'n' :: rest => lift (Json.readLiteral "ull".toList rest)
  | text => refuse .nothing text

/-- The brace that ends an object with one member. -/
def readClosingBrace (text : Text) : Reads Unit :=
  match skipSpace text with
  | [] => malformed .endInObject
  | '}' :: rest => .ok ((), rest)
  | _ => malformed .expectedValue

/-- The dialect that an object gives, after its opening brace: its one member has the name of the
dialect and the value `null`. -/
def readDialectObject (text : Text) : Reads Dialect :=
  match skipSpace text with
  | [] => malformed .endInObject
  | '}' :: _ => malformed .expectedValue
  | '"' :: rest =>
    (readDialectName rest).andThen fun dialect rest =>
      (readColon rest).andThen fun _ rest =>
        (readNothing rest).andThen fun _ rest =>
          (readClosingBrace rest).andThen fun _ rest => .ok (dialect, rest)
  | _ => malformed .nameNotText

/-- A dialect: its name, or an object with one member. -/
def readDialect (text : Text) : Reads Dialect :=
  match skipSpace text with
  | [] => malformed .endInValue
  | '"' :: rest => readDialectName rest
  | '{' :: rest => readDialectObject rest
  | _ => malformed .expectedValue

/-- The settings with the value of one of them read. -/
def readField (settings : Settings) (text : Text) : Field → Reads Settings
  | .dialect =>
    (readDialect text).andThen fun value rest => .ok ({ settings with dialect := value }, rest)
  | .cacheCapacity =>
    (readNatural .capacity text).andThen fun value rest =>
      .ok ({ settings with cacheCapacity := value }, rest)
  | .maxDocumentSize =>
    (readNatural .size text).andThen fun value rest =>
      .ok ({ settings with maxDocumentSize := value }, rest)
  | .caseSensitiveKeys =>
    (readTruth text).andThen fun value rest =>
      .ok ({ settings with caseSensitiveKeys := value }, rest)

/-! ## Objects -/

/-- The settings after a member of an object, of which the opening quotation mark of the name has
been passed, with the settings given so far. -/
def readMember (given : List Field) (settings : Settings) (text : Text) :
    Reads (List Field × Settings) :=
  (lift (Json.readText text)).andThen fun name rest =>
    match Field.ofLabel? name with
    | some field =>
      if given.contains field then .error (.duplicate field)
      else
        (readColon rest).andThen fun _ rest =>
          (readField settings rest field).andThen fun settings rest =>
            .ok ((field :: given, settings), rest)
    | none =>
      (readColon rest).andThen fun _ rest =>
        (lift (Json.skipValue rest)).andThen fun _ rest => .ok ((given, settings), rest)

/-- The settings after the members that follow one of an object, of which there are at most
`fuel`. -/
def readMoreMembers : (fuel : Nat) → List Field → Settings → Text → Reads Settings
  | 0, _, _, _ => malformed .endInObject
  | fuel + 1, given, settings, text =>
    match skipSpace text with
    | [] => malformed .endInObject
    | '}' :: rest => .ok (settings, rest)
    | ',' :: rest =>
      match skipSpace rest with
      | [] => malformed .endInValue
      | '}' :: _ => malformed .trailingComma
      | '"' :: rest =>
        (readMember given settings rest).andThen fun (given, settings) rest =>
          readMoreMembers fuel given settings rest
      | _ => malformed .nameNotText
    | _ => malformed .expectedObjectEnd

/-- The settings that an object gives, after its opening brace. -/
def readObject (text : Text) : Reads Settings :=
  match skipSpace text with
  | [] => malformed .endInObject
  | '}' :: rest => .ok ({}, rest)
  | '"' :: rest =>
    (readMember [] {} rest).andThen fun (given, settings) rest =>
      readMoreMembers rest.length given settings rest
  | _ => malformed .nameNotText

/-! ## Arrays -/

/-- The bracket that ends an array in which every setting is given. -/
def readClosingBracket (settings : Settings) (text : Text) : Reads Settings :=
  match skipSpace text with
  | [] => malformed .endInList
  | ']' :: rest => .ok (settings, rest)
  | ',' :: rest =>
    match skipSpace rest with
    | ']' :: _ => malformed .trailingComma
    | _ => malformed .trailingCharacters
  | _ => malformed .trailingCharacters

/-- The settings after the items that follow one of an array, for the fields that are left. -/
def readMoreItems (settings : Settings) (text : Text) : List Field → Reads Settings
  | [] => readClosingBracket settings text
  | field :: fields =>
    match skipSpace text with
    | [] => malformed .endInList
    | ']' :: rest => .ok (settings, rest)
    | ',' :: rest =>
      match skipSpace rest with
      | [] => malformed .endInValue
      | ']' :: _ => malformed .trailingComma
      | rest =>
        (readField settings rest field).andThen fun settings rest =>
          readMoreItems settings rest fields
    | _ => malformed .expectedListEnd

/-- The settings that an array gives, after its opening bracket. -/
def readArray (text : Text) : Reads Settings :=
  match skipSpace text with
  | [] => malformed .endInList
  | ']' :: rest => .ok ({}, rest)
  | rest =>
    (readField {} rest .dialect).andThen fun settings rest =>
      readMoreItems settings rest (Field.all.drop 1)

/-- The settings that a text gives. Nothing but blanks may follow them. -/
def ofJson (text : Text) : Except Error Settings :=
  let reading : Reads Settings :=
    match skipSpace text with
    | '[' :: rest => readArray rest
    | '{' :: rest => readObject rest
    | text => refuse .settings text
  match reading with
  | .error error => .error error
  | .ok (settings, rest) =>
    if (skipSpace rest).isEmpty then .ok settings
    else .error (.malformed .trailingCharacters)

end PropertyKeys.Settings

import PropertyKeys.IndexScan
import PropertyKeys.Json.Pretty
import PropertyKeys.Loader.Basic
import PropertyKeys.Text.Quoted

/-!
# Reports

What the commands print. Each report has a text for people and a JSON value for programs.

## Main definitions

* `ResolveReport`: the declared key that a raw key is for.
* `KeysReport`: the documents and their keys.
* `ScanReport`: the indices of a raw key.
-/

namespace PropertyKeys.CommandLine

/-- A text, or `null` if there is none. -/
def optionalJson : Option Text → Json
  | some value => .string value
  | none => .null

/-- A number that is not negative. -/
def naturalJson (n : Nat) : Json :=
  .number (.integer n)

/-! ## Resolving -/

/-- The declared key that a raw key is for. -/
structure ResolveReport where
  raw : Text
  resolution? : Option Resolution

namespace ResolveReport

/-- The report on a raw key. -/
def of (loader : Loader) (catalog : Catalog) (raw : Text) : ResolveReport :=
  { raw, resolution? := loader.resolver.resolve? catalog raw }

/-- The report for programs. -/
def json (report : ResolveReport) : Json :=
  let key? := report.resolution?.map fun resolution => resolution.entry.key
  .object
    [("raw".toList, .string report.raw),
      ("key".toList, optionalJson (key?.map Key.name)),
      ("access_type".toList, optionalJson (key?.map fun key => key.access.label)),
      ("key_index".toList, optionalJson (report.resolution?.bind Resolution.index?)),
      ("key_property".toList, optionalJson (report.resolution?.bind Resolution.property?))]

/-- A text behind a label, or nothing if there is no text. -/
def labelled (label : String) : Option Text → Text
  | some value => label.toList ++ value
  | none => []

/-- The report for people. -/
def text (report : ResolveReport) : Text :=
  match report.resolution? with
  | none => report.raw ++ ": unresolved".toList
  | some resolution =>
    report.raw ++ " -> ".toList ++ resolution.entry.key.name ++ " [".toList ++
      resolution.entry.key.access.label ++ "]".toList ++
      labelled " index=" resolution.index? ++ labelled " property=" resolution.property?

end ResolveReport

/-! ## Listing keys -/

/-- The documents and their keys. -/
structure KeysReport where
  documents : List Loaded

namespace KeysReport

/-- The declared keys of all documents. -/
def keys (report : KeysReport) : List Key :=
  report.documents.flatMap fun document => document.catalog.keys

/-- A document for programs. -/
def documentJson (document : Loaded) : Json :=
  .object
    [("id".toList, .string document.id),
      ("version".toList, optionalJson (document.version?.map Digest.hex)),
      ("keys".toList, naturalJson document.catalog.length),
      ("diagnostics".toList, naturalJson document.diagnostics.length)]

/-- A declared key for programs. -/
def keyJson (key : Key) : Json :=
  .object
    [("name".toList, .string key.name),
      ("type".toList, optionalJson (key.type?.map TypeExpr.render)),
      ("access_type".toList, .string key.access.label),
      ("default_value".toList, optionalJson key.default?),
      ("deprecation".toList, optionalJson (key.deprecation.level?.map DeprecationLevel.label))]

/-- The report for programs. -/
def json (report : KeysReport) : Json :=
  .object
    [("documents".toList, .array (report.documents.map documentJson)),
      ("keys".toList, .array (report.keys.map keyJson))]

/-- The line on a document. -/
def documentText (document : Loaded) : Text :=
  match document.version? with
  | some version =>
    "# ".toList ++ document.id ++ " ".toList ++ version.short ++ " (".toList ++
      Text.ofNat document.catalog.length ++ " keys)\n".toList
  | none => "# ".toList ++ document.id ++ " unreadable\n".toList

/-- The line on a declared key. -/
def keyText (key : Key) : Text :=
  key.name ++ " [".toList ++ key.access.label ++ "]".toList ++
    (match key.type? with
      | some type => ' ' :: type.render
      | none => []) ++
    (match key.deprecation.level? with
      | some level => " (deprecated: ".toList ++ level.label ++ ")".toList
      | none => [])

/-- The report for people. -/
def text (report : KeysReport) : Text :=
  report.documents.flatMap documentText ++ Text.join ['\n'] (report.keys.map keyText)

end KeysReport

/-! ## Scanning -/

/-- The declared key that a raw key is for, and the indices of the raw key. -/
structure ScanReport where
  raw : Text
  key? : Option Key

namespace ScanReport

/-- The report on a raw key. -/
def of (loader : Loader) (catalog : Catalog) (raw : Text) : ScanReport :=
  { raw
    key? := (loader.resolver.resolve? catalog raw).map fun resolution => resolution.entry.key }

/-- The reports of the scan, if there is a declared key. -/
def events (report : ScanReport) : List IndexEvent :=
  match report.key? with
  | some key => IndexScan.events key report.raw
  | none => []

/-- The name of a kind of event. -/
def eventLabel : IndexEvent → Text
  | .opening _ => "bracket".toList
  | .index _ => "index-value".toList
  | .unclosed _ => "missing-closing-bracket".toList
  | .missing _ => "missing-index-value".toList
  | .notInteger _ => "index-value-not-integer".toList

/-- The part of the raw key that an event is about. -/
def eventRange : IndexEvent → TextRange
  | .opening place | .unclosed place => ⟨place, place + 1⟩
  | .missing place => ⟨place, place⟩
  | .index range | .notInteger range => range

/-- An event for programs. -/
def eventJson (raw : Text) (event : IndexEvent) : Json :=
  let range := eventRange event
  .object
    [("event".toList, .string (eventLabel event)),
      ("start".toList, naturalJson range.start),
      ("end".toList, naturalJson range.stop),
      ("text".toList, .string (range.slice raw))]

/-- The report for programs. -/
def json (report : ScanReport) : Json :=
  .object
    [("raw".toList, .string report.raw),
      ("key".toList, optionalJson (report.key?.map Key.name)),
      ("events".toList, .array (report.events.map (eventJson report.raw)))]

/-- The line on an event. -/
def eventText (raw : Text) (event : IndexEvent) : Text :=
  let range := eventRange event
  "\n  ".toList ++ Text.ofNat range.start ++ "..".toList ++ Text.ofNat range.stop ++ " ".toList ++
    eventLabel event ++ " ".toList ++ Text.Quoted.quote (range.slice raw)

/-- The report for people. -/
def text (report : ScanReport) : Text :=
  match report.key? with
  | none => report.raw ++ ": unresolved".toList
  | some key =>
    report.raw ++ " -> ".toList ++ key.name ++ report.events.flatMap (eventText report.raw)

end ScanReport

end PropertyKeys.CommandLine

import PropertyKeys.CommandLine.Arguments
import PropertyKeys.CommandLine.Report
import PropertyKeys.Settings.Reader

/-!
# The command line

The command loads documents and resolves raw keys against them, lists the declared keys, or shows
the indices of a raw key. Misuse ends with code 2, and settings that cannot be read with code 1; in
both cases nothing is printed.

## Main definitions

* `CommandLine.Outcome`: the exit code and what is printed.
* `CommandLine.run`: the outcome of some arguments.
* `CommandLine.paths`: the files that are read.
-/

namespace PropertyKeys.CommandLine

/-- The exit code and what is printed. -/
structure Outcome where
  code : Nat
  output : Text := []
  deriving DecidableEq, Repr

/-- The version of the command. -/
def versionText : Text :=
  "cfgbind 0.1.0\n".toList

/-- The text that help prints. -/
def usageText : Text :=
  ("Resolve configuration property keys against metadata\n\n" ++
    "Usage: cfgbind [OPTIONS] <COMMAND>\n").toList

/-- The outcome of arguments that make no invocation. -/
def Stop.outcome : Stop → Outcome
  | .misuse => { code := 2 }
  | .version => { code := 0, output := versionText }
  | .help => { code := 0, output := usageText }

/-- The settings of an invocation: those of the file, or the defaults, with the dialect that the
options give. Nothing if the file gives none. -/
def settings? (files : FileReader) (invocation : Invocation) : Option Settings :=
  let settings? : Option Settings :=
    match invocation.config? with
    | none => some {}
    | some path =>
      match files path with
      | .error _ => none
      | .ok content =>
        match Utf8.decode content with
        | .error _ => none
        | .ok text => (Settings.ofJson text).toOption
  settings?.map fun settings =>
    match invocation.dialect? with
    | some dialect => { settings with dialect }
    | none => settings

/-- The documents of an invocation, loaded in order. -/
def documents (files : FileReader) (loader : Loader) (invocation : Invocation) : List Loaded :=
  match (loader.loadDocuments files {} (invocation.metadata.map Source.ofPath)).1 with
  | .ok documents => documents
  | .error _ => []

/-- What an invocation prints. -/
def report (files : FileReader) (settings : Settings) (invocation : Invocation) : Text :=
  let loader : Loader := { settings }
  let documents := documents files loader invocation
  let catalog := Catalog.concat (documents.map Loaded.catalog)
  let choose := fun (text : Text) (json : Json) =>
    if invocation.json then Json.pretty json ++ ['\n'] else text
  match invocation.command with
  | .resolve raws =>
    let reports := raws.map (ResolveReport.of loader catalog)
    choose (reports.flatMap fun report => report.text ++ ['\n'])
      (.array (reports.map ResolveReport.json))
  | .keys =>
    let report : KeysReport := ⟨documents⟩
    choose (report.text ++ ['\n']) report.json
  | .scan raw =>
    let report := ScanReport.of loader catalog raw
    choose (report.text ++ ['\n']) report.json

/-- The outcome of some arguments. -/
def run (files : FileReader) (arguments : List Text) : Outcome :=
  match Invocation.parse arguments with
  | .error stop => stop.outcome
  | .ok invocation =>
    match settings? files invocation with
    | none => { code := 1 }
    | some settings => { code := 0, output := report files settings invocation }

/-- The files that some arguments make the command read. -/
def paths (arguments : List Text) : List Text :=
  match Invocation.parse arguments with
  | .error _ => []
  | .ok invocation => invocation.config?.toList ++ invocation.metadata

end PropertyKeys.CommandLine

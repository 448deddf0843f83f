import PropertyKeys.Naming.Dialect

/-!
# Arguments

A command line has two levels: options for every command, then the name of the command, then the
options of the command together with its arguments. The options for every command may stand at
either level, and what stands at the second level wins. At one level an option is given once, apart
from the documents, of which there may be many.

Arguments are read from left to right. Reading stops at the first one that is wrong, or that asks
for the version or for help. Help can also be asked for in place of a command, and is then about the
command that is named behind it, if any.

## Main definitions

* `Argument.ofText`: the form of an argument.
* `Invocation`: what a command line asks for.
* `Invocation.parse`: the invocation that arguments make, or why there is none.
-/

namespace PropertyKeys.CommandLine

/-! ## Forms of arguments -/

/-- The form of an argument. -/
inductive Argument where
  /-- The mark after which there are no more options. -/
  | ends
  /-- An option by its name, with a value behind an equals sign. -/
  | long (name : Text) (value? : Option Text)
  /-- Options by their letters, possibly with a value behind the last one. -/
  | short (letters : Text)
  /-- Anything else. -/
  | plain (text : Text)
  deriving DecidableEq, Repr

namespace Argument

/-- The name of an option and the value behind the first equals sign. -/
def ofLong (text : Text) : Argument :=
  match text.dropWhile (· != '=') with
  | [] => .long text none
  | _ :: value => .long (Text.before '=' text) (some value)

/-- The form of an argument. A lone hyphen is no option. -/
def ofText : Text → Argument
  | ['-', '-'] => .ends
  | '-' :: '-' :: text => ofLong text
  | '-' :: c :: letters => .short (c :: letters)
  | text => .plain text

/-- Whether an argument cannot be the value of the option before it. -/
def isMark : Argument → Bool
  | .ends | .long _ _ | .short _ => true
  | .plain _ => false

end Argument

/-! ## Options -/

/-- The options. -/
inductive Switch where
  | dialect
  | config
  | json
  | verbose
  | metadata
  | version
  | help
  deriving DecidableEq, Repr

/-- The levels of a command line. -/
inductive Level where
  | outer
  | command
  deriving DecidableEq, Repr

/-- Why there is nothing to run. -/
inductive Stop where
  /-- An argument is wrong or missing. -/
  | misuse
  /-- The version was asked for. -/
  | version
  /-- Help was asked for. -/
  | help
  deriving DecidableEq, Repr

/-- The options that have been given at a level. -/
structure Given where
  dialect? : Option Dialect := none
  config? : Option Text := none
  json : Bool := false
  verbose : Bool := false
  metadata : List Text := []
  deriving Repr

namespace Switch

/-- The options that may stand at a level. -/
def allowed : Level → List Switch
  | .outer => [.dialect, .config, .json, .verbose, .version, .help]
  | .command => [.dialect, .config, .json, .verbose, .metadata, .help]

/-- The name of an option. -/
def name : Switch → Text
  | .dialect => "dialect".toList
  | .config => "config".toList
  | .json => "json".toList
  | .verbose => "verbose".toList
  | .metadata => "metadata".toList
  | .version => "version".toList
  | .help => "help".toList

/-- The letter of an option. -/
def letter? : Switch → Option Char
  | .verbose => some 'v'
  | .metadata => some 'm'
  | .version => some 'V'
  | .help => some 'h'
  | .dialect | .config | .json => none

/-- Whether an option has a value. -/
def hasValue : Switch → Bool
  | .dialect | .config | .metadata => true
  | .json | .verbose | .version | .help => false

/-- The option of a name at a level. -/
def ofName? (level : Level) (name : Text) : Option Switch :=
  (allowed level).find? fun switch => switch.name == name

/-- The option of a letter at a level. -/
def ofLetter? (level : Level) (letter : Char) : Option Switch :=
  (allowed level).find? fun switch => switch.letter? == some letter

end Switch

namespace Given

/-- The options with one more that has a value. The path of a file is not empty. -/
def setValue (given : Given) (switch : Switch) (value : Text) : Except Stop Given :=
  match switch with
  | .dialect =>
    if given.dialect?.isSome then .error .misuse
    else
      match Dialect.parse value with
      | .ok dialect => .ok { given with dialect? := some dialect }
      | .error _ => .error .misuse
  | .config =>
    if given.config?.isSome || value.isEmpty then .error .misuse
    else .ok { given with config? := some value }
  | .metadata =>
    if value.isEmpty then .error .misuse
    else .ok { given with metadata := given.metadata ++ [value] }
  | .json | .verbose | .version | .help => .error .misuse

/-- The options with one more that has no value. -/
def setFlag (given : Given) (switch : Switch) : Except Stop Given :=
  match switch with
  | .json => if given.json then .error .misuse else .ok { given with json := true }
  | .verbose => if given.verbose then .error .misuse else .ok { given with verbose := true }
  | .version => .error .version
  | .help => .error .help
  | .dialect | .config | .metadata => .error .misuse

end Given

/-- The options after an argument, and the one whose value is the next argument. -/
abbrev Step := Except Stop (Given × Option Switch)

/-- The options after one that is given by its name. -/
def readLong (level : Level) (given : Given) (name : Text) (value? : Option Text) : Step :=
  match Switch.ofName? level name with
  | none => .error .misuse
  | some switch =>
    if switch.hasValue then
      match value? with
      | some value => (given.setValue switch value).map fun given => (given, none)
      | none => .ok (given, some switch)
    else if value?.isSome then .error .misuse
    else (given.setFlag switch).map fun given => (given, none)

/-- The options after some that are given by their letters. What follows the letter of an option
with a value is the value, without an equals sign at its front. -/
def readShort (level : Level) (given : Given) : (letters : Text) → Step
  | [] => .ok (given, none)
  | letter :: letters =>
    match Switch.ofLetter? level letter with
    | none => .error .misuse
    | some switch =>
      if switch.hasValue then
        match letters with
        | [] => .ok (given, some switch)
        | '=' :: value => (given.setValue switch value).map fun given => (given, none)
        | value => (given.setValue switch value).map fun given => (given, none)
      else
        match given.setFlag switch with
        | .error stop => .error stop
        | .ok given => readShort level given letters

/-! ## Levels -/

/-- The options of the outer level, the name of the command, and what follows it. -/
def readOuter (given : Given) : List Text → Except Stop (Given × Text × List Text)
  | [] => .error .misuse
  | text :: texts =>
    let step : Step :=
      match Argument.ofText text with
      | .ends | .plain _ => .error .misuse
      | .long name value? => readLong .outer given name value?
      | .short letters => readShort .outer given letters
    match Argument.ofText text, step with
    | .plain name, _ => .ok (given, name, texts)
    | _, .error stop => .error stop
    | _, .ok (given, none) => readOuter given texts
    | _, .ok (given, some switch) =>
      match texts with
      | [] => .error .misuse
      | value :: texts =>
        if (Argument.ofText value).isMark then .error .misuse
        else
          match given.setValue switch value with
          | .error stop => .error stop
          | .ok given => readOuter given texts

/-- The options of a command and its arguments. At most `limit` arguments may be given. -/
def readCommand (limit : Option Nat) (given : Given) (words : List Text) :
    List Text → Except Stop (Given × List Text)
  | [] => .ok (given, words)
  | text :: texts =>
    let full := fun count => limit.any (· < words.length + count)
    let step : Step :=
      match Argument.ofText text with
      | .ends | .plain _ => .ok (given, none)
      | .long name value? => readLong .command given name value?
      | .short letters => readShort .command given letters
    match Argument.ofText text, step with
    | .ends, _ => if full texts.length then .error .misuse else .ok (given, words ++ texts)
    | .plain word, _ =>
      if full 1 then .error .misuse else readCommand limit given (words ++ [word]) texts
    | _, .error stop => .error stop
    | _, .ok (given, none) => readCommand limit given words texts
    | _, .ok (given, some switch) =>
      match texts with
      | [] => .error .misuse
      | value :: texts =>
        if (Argument.ofText value).isMark then .error .misuse
        else
          match given.setValue switch value with
          | .error stop => .error stop
          | .ok given => readCommand limit given words texts

/-! ## Invocations -/

/-- What is asked for. -/
inductive Command where
  /-- The declared keys that raw keys are for. -/
  | resolve (raws : List Text)
  /-- The declared keys. -/
  | keys
  /-- The indices of a raw key. -/
  | scan (raw : Text)
  deriving DecidableEq, Repr

/-- What a command line asks for. -/
structure Invocation where
  command : Command
  metadata : List Text
  dialect? : Option Dialect := none
  config? : Option Text := none
  json : Bool := false
  deriving Repr

/-- The commands by name, each with the greatest number of arguments and with what the arguments
make of it. -/
def commands : List (Text × Option Nat × (List Text → Option Command)) :=
  [("resolve".toList, none, fun words => if words.isEmpty then none else some (.resolve words)),
    ("keys".toList, some 0, fun words => if words.isEmpty then some .keys else none),
    ("scan".toList, some 1, fun words =>
      match words with
      | [raw] => some (.scan raw)
      | _ => none)]

/-- The name of the command that gives help. -/
def helpName : Text :=
  "help".toList

/-- Whether a name is the name of a command. -/
def isCommandName (name : Text) : Bool :=
  name == helpName || commands.any fun command => command.1 == name

/-- How the command that gives help ends with the arguments behind it: at most one, which names a
command. -/
def readHelp : List Text → Stop
  | [] => .help
  | [name] => if isCommandName name then .help else .misuse
  | _ => .misuse

/-- The invocation that the options of the two levels and a command make. -/
def Invocation.make (outer inner : Given) (command : Command) : Invocation :=
  { command
    metadata := inner.metadata
    dialect? := inner.dialect?.or outer.dialect?
    config? := inner.config?.or outer.config?
    json := outer.json || inner.json }

/-- The invocation that arguments make. A command needs a document. -/
def Invocation.parse (arguments : List Text) : Except Stop Invocation :=
  match readOuter {} arguments with
  | .error stop => .error stop
  | .ok (outer, name, rest) =>
    if name = helpName then .error (readHelp rest)
    else
      match commands.find? fun command => command.1 == name with
      | none => .error .misuse
      | some (_, limit, make) =>
        match readCommand limit {} [] rest with
        | .error stop => .error stop
        | .ok (inner, words) =>
          match make words with
          | none => .error .misuse
          | some command =>
            if inner.metadata.isEmpty then .error .misuse
            else .ok (Invocation.make outer inner command)

end PropertyKeys.CommandLine

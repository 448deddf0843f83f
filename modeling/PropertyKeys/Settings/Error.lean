import PropertyKeys.Json.Scanner
import PropertyKeys.Settings.Basic
import PropertyKeys.Text.Quoted

/-!
# Errors in settings

Why a text gives no settings: it is no JSON, a value is not what its setting asks for, or a setting
is given twice.

## Main definitions

* `Settings.Found`: what stands where something else is expected.
* `Settings.Wanted`: what is expected.
* `Settings.Error`: the reasons, and their wording.
-/

namespace PropertyKeys.Settings

/-- What stands where something else is expected. -/
inductive Found where
  | null
  | bool (value : Bool)
  | number (value : JsonNumber)
  | string (value : Text)
  | array
  | object
  deriving DecidableEq, Repr

/-- The wording of what was found. -/
def Found.describe : Found → Text
  | .null => "null".toList
  | .bool value => "boolean `".toList ++ Json.boolText value ++ "`".toList
  | .number (.integer value) => "integer `".toList ++ Text.ofInt value ++ "`".toList
  | .number (.double value) => "floating point `".toList ++ value.render ++ "`".toList
  | .string value => "string ".toList ++ Text.Quoted.quote value
  | .array => "sequence".toList
  | .object => "map".toList

/-- What is expected at some place. -/
inductive Wanted where
  /-- The settings as a whole. -/
  | settings
  /-- What stands behind the name of a dialect. -/
  | nothing
  /-- A number of documents. -/
  | capacity
  /-- A number of bytes. -/
  | size
  /-- A truth value. -/
  | truth
  deriving DecidableEq, Repr

/-- The wording of what is expected. -/
def Wanted.describe : Wanted → Text
  | .settings => "struct EngineConfig".toList
  | .nothing => "unit".toList
  | .capacity => "u64".toList
  | .size => "usize".toList
  | .truth => "a boolean".toList

/-- Why a text gives no settings. -/
inductive Error where
  /-- The text is not well formed. -/
  | malformed (refusal : Json.ReadError)
  /-- A value is of the wrong kind. -/
  | wrongType (found : Found) (wanted : Wanted)
  /-- A number is below zero. -/
  | negative (value : Int) (wanted : Wanted)
  /-- There is no dialect of this name. -/
  | unknownDialect (name : Text)
  /-- A setting is given twice. -/
  | duplicate (field : Field)
  deriving DecidableEq, Repr

namespace Error

/-- What is wrong, without the line and the column where it stands. -/
def detail : Error → Text
  | .malformed refusal => refusal.message
  | .wrongType found wanted =>
    "invalid type: ".toList ++ found.describe ++ ", expected ".toList ++ wanted.describe
  | .negative value wanted =>
    "invalid value: integer `".toList ++ Text.ofInt value ++ "`, expected ".toList ++
      wanted.describe
  | .unknownDialect name =>
    "unknown variant `".toList ++ name ++ "`, expected `strict` or `relaxed`".toList
  | .duplicate field => "duplicate field `".toList ++ field.label ++ "`".toList

/-- The wording of an error. -/
def message (error : Error) : Text :=
  "invalid engine configuration: ".toList ++ error.detail

end Error

end PropertyKeys.Settings

import PropertyKeys.Text.Basic

/-!
# Deprecation

A key can be marked as deprecated, with or without a reason. A key of level `error` has no effect
any more, while one of level `warning` still works.
-/

namespace PropertyKeys

/-- How severe a deprecation is. -/
inductive DeprecationLevel where
  /-- The key still works. -/
  | warning
  /-- The key has no effect any more. -/
  | error
  deriving DecidableEq, Repr

namespace DeprecationLevel

/-- The name of a level. -/
def label : DeprecationLevel → Text
  | .warning => "warning".toList
  | .error => "error".toList

/-- The level that a text names, in any ASCII case. A text that names no level means a warning. -/
def ofText (text : Text) : DeprecationLevel :=
  if Text.lowerAscii text = "error".toList then .error else .warning

end DeprecationLevel

/-- Whether and why a key is deprecated. -/
inductive Deprecation where
  /-- The key is not deprecated. -/
  | none
  /-- The key is deprecated and nothing more is said. -/
  | flag
  /-- The key is deprecated with whatever is said about it. -/
  | full (reason? : Option Text) (level : DeprecationLevel) (replacement? : Option Text)
  deriving DecidableEq, Repr

/-- The level of a deprecation, or nothing if there is none. -/
def Deprecation.level? : Deprecation → Option DeprecationLevel
  | .none => Option.none
  | .flag => some .warning
  | .full _ level _ => some level

end PropertyKeys

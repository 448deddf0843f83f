import PropertyKeys.Resolution

/-!
# Settings

How documents are loaded and raw keys are resolved.

## Main definitions

* `Settings`: the settings, with their defaults.
* `Settings.Field`: the names of the settings, in the order in which a list gives them.
* `Settings.resolver`: the resolver that the settings ask for.
-/

namespace PropertyKeys

/-- How documents are loaded and raw keys are resolved. -/
structure Settings where
  /-- The naming dialect of raw keys. -/
  dialect : Dialect := .strict
  /-- How many documents may be cached. -/
  cacheCapacity : Nat := 10000
  /-- The size in bytes above which a document is not read. -/
  maxDocumentSize : Nat := 10 * 1024 * 1024
  /-- Whether an index is found only behind the exact name of a key. -/
  caseSensitiveKeys : Bool := false
  deriving DecidableEq, Repr

namespace Settings

/-- The names of the settings. -/
inductive Field where
  | dialect
  | cacheCapacity
  | maxDocumentSize
  | caseSensitiveKeys
  deriving DecidableEq, Repr

namespace Field

/-- All settings, in the order in which a list gives them. -/
def all : List Field :=
  [.dialect, .cacheCapacity, .maxDocumentSize, .caseSensitiveKeys]

/-- The name of a setting. -/
def label : Field → Text
  | .dialect => "dialect".toList
  | .cacheCapacity => "cache_capacity".toList
  | .maxDocumentSize => "max_document_size".toList
  | .caseSensitiveKeys => "case_sensitive_keys".toList

/-- The setting of a name. -/
def ofLabel? (name : Text) : Option Field :=
  all.find? fun field => field.label == name

end Field

/-- The resolver that the settings ask for. -/
def resolver (settings : Settings) : Resolver :=
  { dialect := settings.dialect, caseSensitive := settings.caseSensitiveKeys }

end Settings

end PropertyKeys

import PropertyKeys.Naming.Relaxed
import PropertyKeys.Naming.Strict

/-!
# Naming dialects

Which raw keys are for which declared keys depends on the naming dialect. There are two of them, and
each operation is given for both.

## Main definitions

* `Dialect`: the strict and the relaxed dialect.
* `Dialect.parse`: the dialect that a text names.
* `Dialect.binds` / `parts?` / `completes` / `namesPart` / `index?`: the operations.
-/

namespace PropertyKeys

/-- A convention by which raw keys are bound to declared keys. -/
inductive Dialect where
  /-- Names agree in canonical form, and dots always count. -/
  | strict
  /-- Names agree in one of their spelling variants. -/
  | relaxed
  deriving DecidableEq, Repr

namespace Dialect

/-- The name of a dialect. -/
def label : Dialect → Text
  | .strict => "strict".toList
  | .relaxed => "relaxed".toList

/-- The dialect of exactly this name. -/
def ofLabel? (name : Text) : Option Dialect :=
  if name = label .strict then some .strict
  else if name = label .relaxed then some .relaxed
  else none

/-- A text that names no dialect. -/
structure ParseError where
  text : Text
  deriving DecidableEq, Repr

/-- The wording of a refusal. -/
def ParseError.message (error : ParseError) : Text :=
  "unknown name binder '".toList ++ error.text ++ "', expected 'strict' or 'relaxed'".toList

/-- The dialect that a text names, in any ASCII case and with blanks around it. -/
def parse (text : Text) : Except ParseError Dialect :=
  match ofLabel? (Text.lowerAscii (Text.trim text)) with
  | some dialect => .ok dialect
  | none => .error ⟨text⟩

/-- Whether a raw key is for a declared key. -/
def binds : Dialect → Key → Text → Bool
  | .strict => Strict.binds
  | .relaxed => Relaxed.binds

/-- Whether the name of a declared key may continue what was typed. -/
def completes : Dialect → Key → Text → Bool
  | .strict => Strict.completes
  | .relaxed => Relaxed.completes

/-- Whether a text names a part of a name, such as a property. -/
def namesPart : Dialect → Text → Text → Bool
  | .strict => Strict.namesPart
  | .relaxed => Relaxed.namesPart

/-- The parts of a raw key that is for a declared map or list. -/
def parts? : Dialect → Key → Text → Bool → Option KeyParts
  | .strict => Strict.parts?
  | .relaxed => Relaxed.parts?

/-- The index of a raw key that is for a declared key and reaches the property asked for. -/
def index? : Dialect → Key → Option Text → Text → Option Text
  | .strict => Strict.index?
  | .relaxed => Relaxed.index?

/-- Whether a text spells the name of a key, as far as an index and its property are concerned. -/
def same : Dialect → Text → Text → Bool
  | .strict => Strict.same
  | .relaxed => Relaxed.same

end Dialect

end PropertyKeys

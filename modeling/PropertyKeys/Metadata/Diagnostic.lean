import PropertyKeys.Json.Scanner

/-!
# Diagnostics

What is wrong with a metadata document. A document that cannot be read at all yields no keys. Of any
other document only the parts that are wrong are left out.

## Main definitions

* `Diagnostic`: one thing that is wrong.
* `Diagnostic.message`: its wording. What makes a text malformed is told without its place.
* `Diagnostic.rejectsDocument`: whether it makes the whole document worthless.
-/

namespace PropertyKeys

/-- The two lists of a document. -/
inductive Section where
  | properties
  | hints
  deriving DecidableEq, Repr

/-- The member of a document that holds a list. -/
def Section.member : Section → Text
  | .properties => "properties".toList
  | .hints => "hints".toList

/-- Why a text is no document. -/
inductive Malformation where
  /-- There is nothing but blanks and comments. -/
  | empty
  /-- The first value is not well formed. -/
  | unreadable (refusal : Json.ReadError)
  deriving DecidableEq, Repr

/-- The wording of a malformation, without the place where the text is not well formed. -/
def Malformation.message : Malformation → Text
  | .empty => "empty document".toList
  | .unreadable refusal => refusal.message

/-- One thing that is wrong with a document. -/
inductive Diagnostic where
  /-- The text is no document. -/
  | malformed (cause : Malformation)
  /-- The value of the document is not an object. -/
  | notAnObject
  /-- A list of the document is something else. -/
  | notAnArray (part : Section)
  /-- An entry of a list is not an object. -/
  | invalidEntry (part : Section) (index : Nat)
  /-- The type of a key cannot be read, and the key is left without one. -/
  | unparseableType (name typeText : Text)
  deriving DecidableEq, Repr

namespace Diagnostic

/-- The wording of a diagnostic. -/
def message : Diagnostic → Text
  | .malformed cause => "malformed metadata document: ".toList ++ cause.message
  | .notAnObject => "metadata document root is not an object".toList
  | .notAnArray part => '\'' :: part.member ++ "' is not an array".toList
  | .invalidEntry part index =>
    '\'' :: part.member ++ '[' :: Text.ofNat index ++ "]' is not an object".toList
  | .unparseableType name typeText =>
    "unparseable type '".toList ++ typeText ++ "' for key '".toList ++ name ++ ['\'']

/-- Whether a diagnostic says that the document as a whole is worthless. -/
def rejectsDocument : Diagnostic → Bool
  | .malformed _ | .notAnObject => true
  | .notAnArray _ | .invalidEntry _ _ | .unparseableType _ _ => false

end Diagnostic

end PropertyKeys

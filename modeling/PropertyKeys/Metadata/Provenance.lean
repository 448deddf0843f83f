import PropertyKeys.Text.Basic

/-!
# Provenance of documents

A metadata document belongs to a library. It is either generated together with the library, or
written by hand to add to what is generated.
-/

namespace PropertyKeys

/-- How a document came to be. -/
inductive DocumentKind where
  /-- The document is made by a build. -/
  | generated
  /-- The document is written by hand. -/
  | handwritten
  deriving DecidableEq, Repr

/-- The name of a kind in reports. -/
def DocumentKind.label : DocumentKind → Text
  | .generated => "generated".toList
  | .handwritten => "additional".toList

/-- The kind that a name stands for. -/
def DocumentKind.ofLabel? (label : Text) : Option DocumentKind :=
  [DocumentKind.generated, .handwritten].find? fun kind => kind.label == label

/-- The library that a document belongs to, and the kind of the document. -/
structure Provenance where
  library : Text
  kind : DocumentKind := .generated
  deriving DecidableEq, Repr

end PropertyKeys

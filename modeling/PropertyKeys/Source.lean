import PropertyKeys.FileTree
import PropertyKeys.Metadata.Provenance

/-!
# Sources of documents

A source tells where the text of a document is, and under which identity and for which library it is
loaded.

## Main definitions

* `Source.ofPath`: a document in a file.
* `Source.inline`: a document whose text is at hand.
-/

namespace PropertyKeys

/-- Where the text of a document is. -/
inductive Location where
  /-- In a file. -/
  | path (path : Text)
  /-- At hand. -/
  | inline (text : Text)
  deriving DecidableEq, Repr

/-- A document to be loaded. -/
structure Source where
  /-- The identity under which the document is cached. -/
  id : Text
  provenance : Provenance
  location : Location
  deriving DecidableEq, Repr

namespace Source

/-- The start of the names of files that are written by hand. -/
def handwrittenStart : Text :=
  "additional-".toList

/-- The name of the file that a path leads to. Steps that stay where they are do not count, and a
step up has no name. -/
def fileName? (path : Text) : Option Text :=
  let names := (FileTree.steps path).filter fun name => !name.isEmpty && name != ".".toList
  names.getLast?.filter fun name => name != "..".toList

/-- The kind of the document in a file, told by the name of the file. -/
def kindOfPath (path : Text) : DocumentKind :=
  if (fileName? path).any handwrittenStart.isPrefixOf then .handwritten else .generated

/-- A document in a file. The path is its identity and its library. -/
def ofPath (path : Text) : Source :=
  { id := path
    provenance := { library := path, kind := kindOfPath path }
    location := .path path }

/-- A document whose text is at hand. The identity is its library. -/
def inline (id text : Text) : Source :=
  { id, provenance := { library := id }, location := .inline text }

/-- The source for another library. -/
def withLibrary (source : Source) (library : Text) : Source :=
  { source with provenance := { source.provenance with library } }

/-- The source as a document of another kind. -/
def withKind (source : Source) (kind : DocumentKind) : Source :=
  { source with provenance := { source.provenance with kind } }

end Source

end PropertyKeys

import PropertyKeys.Catalog
import PropertyKeys.Naming.Dialect

/-!
# Resolution

A raw key is resolved against a catalog: the first declared key that it is for is its answer, with
the index and the property that the raw key goes on to.

## Main definitions

* `Resolver`: a dialect, and whether the portion has to be spelled like the name.
* `Resolver.resolve?` / `Resolver.resolveAll`: the first answer and all of them.
* `Resolver.complete`: the entries that may continue what was typed.
-/

namespace PropertyKeys

/-- The answer to a raw key. -/
structure Resolution where
  entry : Entry
  index? : Option Text
  property? : Option Text

/-- How raw keys are resolved. With `caseSensitive` an index is found only behind the exact name. -/
structure Resolver where
  dialect : Dialect := .strict
  caseSensitive : Bool := false
  deriving DecidableEq, Repr

namespace Resolver

/-- The answer that an entry gives to a raw key that is for it. -/
def answer (resolver : Resolver) (raw : Text) (entry : Entry) : Resolution :=
  let parts? := resolver.dialect.parts? entry.key raw resolver.caseSensitive
  { entry, index? := parts?.bind KeyParts.index?, property? := parts?.bind KeyParts.property? }

/-- Whether a raw key is for an entry. -/
def accepts (resolver : Resolver) (raw : Text) (entry : Entry) : Bool :=
  resolver.dialect.binds entry.key raw

/-- The answer of the first entry that a raw key is for. -/
def resolve? (resolver : Resolver) (catalog : Catalog) (raw : Text) : Option Resolution :=
  (catalog.find? (resolver.accepts raw)).map (resolver.answer raw)

/-- The answers of all entries that a raw key is for. -/
def resolveAll (resolver : Resolver) (catalog : Catalog) (raw : Text) : List Resolution :=
  (catalog.filter (resolver.accepts raw)).map (resolver.answer raw)

/-- The entries that may continue what was typed. -/
def complete (resolver : Resolver) (catalog : Catalog) (typed : Text) : List Entry :=
  catalog.filter fun entry => resolver.dialect.completes entry.key typed

end Resolver

end PropertyKeys

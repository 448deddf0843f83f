import PropertyKeys.Key.Basic

/-!
# Catalogs

A catalog is a list of declared keys in the order of their documents. A name may be declared more
than once, and then every declaration stays. An entry keeps the identity of the declaration it came
from, so that two entries with the same content can be told apart and the same declaration is
recognised after catalogs are put together.

## Main definitions

* `Catalog`: entries in order.
* `Catalog.ofKeys`: the catalog of newly declared keys.
* `Catalog.byName`: the entries of a name.
* `Catalog.concat`: catalogs put together.
* `Catalog.place?`: the first place of a declaration.
-/

namespace PropertyKeys

/-- The identity of a declaration: the catalog that it was first in, and its place there. -/
structure EntryId where
  catalog : Nat
  place : Nat
  deriving DecidableEq, Repr

/-- A declared key in a catalog. -/
structure Entry where
  id : EntryId
  key : Key

/-- Declared keys in order. -/
abbrev Catalog := List Entry

namespace Catalog

/-- The catalog of newly declared keys. Its number must not have been used for another one. -/
def ofKeys (number : Nat) (keys : List Key) : Catalog :=
  keys.mapIdx fun place key => ⟨⟨number, place⟩, key⟩

/-- The declared keys. -/
def keys (catalog : Catalog) : List Key :=
  catalog.map Entry.key

/-- All entries that declare exactly this name. -/
def byName (catalog : Catalog) (name : Text) : List Entry :=
  catalog.filter fun entry => entry.key.name == name

/-- Catalogs one after the other. -/
def concat (catalogs : List Catalog) : Catalog :=
  catalogs.flatten

/-- The first place in a catalog that holds a declaration. -/
def place? (catalog : Catalog) (id : EntryId) : Option Nat :=
  catalog.findIdx? fun entry => entry.id == id

@[simp]
theorem keys_ofKeys (number : Nat) (keys : List Key) :
    (ofKeys number keys).keys = keys := by
  apply List.ext_getElem <;> simp [Catalog.keys, ofKeys]

end Catalog

end PropertyKeys

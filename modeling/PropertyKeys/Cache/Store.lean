import PropertyKeys.Catalog
import PropertyKeys.Digest
import PropertyKeys.Metadata.Diagnostic
import PropertyKeys.OrderedMap

/-!
# Stores of snapshots

The cache does not keep its snapshots itself but leaves it to a store. What matters about a store is
that a snapshot which was put in is found again under the identity of its document, as long as the
store has room, and that taking it out leaves the others. An ordered map is a store that always has
room. A map of bounded length has room up to its capacity, and then it drops what came up first.

## Main definitions

* `Snapshot`: the catalog of one version of a document.
* `SnapshotStore`: the operations of a store.
* `LawfulSnapshotStore`: what is found in a store after each operation.
* `BoundedMap`: a store that holds at most so many snapshots.
-/

namespace PropertyKeys

/-- The catalog of one version of a document, with what is wrong with the document. The number
tells the catalog from all others that were built. -/
structure Snapshot where
  version : Digest
  number : Nat
  catalog : Catalog
  diagnostics : List Diagnostic

/-- What keeps snapshots by the identity of their documents. -/
class SnapshotStore (S : Type) where
  /-- Nothing is stored yet. The store is made for a number of snapshots. -/
  empty : (capacity : Nat) → S
  get? : Text → S → Option Snapshot
  set : Text → Snapshot → S → S
  erase : Text → S → S
  clear : S → S
  count : S → Nat
  /-- Nothing is displaced if one more snapshot is put in. -/
  HasRoom : S → Prop

open SnapshotStore in
/-- What is found in a store after each operation. -/
class LawfulSnapshotStore (S : Type) [SnapshotStore S] : Prop where
  get?_empty (capacity : Nat) (id : Text) : get? id (empty capacity : S) = none
  get?_set_self {store : S} (hroom : HasRoom store) (id : Text) (snapshot : Snapshot) :
    get? id (set id snapshot store) = some snapshot
  get?_set_of_ne {store : S} (hroom : HasRoom store) {id other : Text} (hne : other ≠ id)
    (snapshot : Snapshot) : get? other (set id snapshot store) = get? other store
  get?_erase_self (id : Text) (store : S) : get? id (erase id store) = none
  get?_erase_of_ne {id other : Text} (hne : other ≠ id) (store : S) :
    get? other (erase id store) = get? other store
  get?_clear (id : Text) (store : S) : get? id (clear store) = none

instance : SnapshotStore (OrderedMap Text Snapshot) where
  empty _ := []
  get? := OrderedMap.get?
  set := OrderedMap.set
  erase := OrderedMap.erase
  clear _ := []
  count := List.length
  HasRoom _ := True

instance : LawfulSnapshotStore (OrderedMap Text Snapshot) where
  get?_empty _ := OrderedMap.get?_nil
  get?_set_self {store} _ id snapshot := OrderedMap.get?_set_self id snapshot store
  get?_set_of_ne {store} _ _ _ hne snapshot := OrderedMap.get?_set_of_ne hne snapshot store
  get?_erase_self := OrderedMap.get?_erase_self
  get?_erase_of_ne := OrderedMap.get?_erase_of_ne
  get?_clear _ _ := rfl

/-! ## Bounded length -/

/-- Snapshots in the order in which their documents came up, and not too many of them. -/
structure BoundedMap where
  capacity : Nat
  entries : OrderedMap Text Snapshot
  length_le : entries.length ≤ capacity

namespace BoundedMap

/-- The map without any snapshots. -/
def empty (capacity : Nat) : BoundedMap :=
  { capacity, entries := [], length_le := Nat.zero_le capacity }

/-- The map with one more snapshot. If that is too many then what came up first is dropped. -/
def set (id : Text) (snapshot : Snapshot) (store : BoundedMap) : BoundedMap :=
  let entries := store.entries.set id snapshot
  { capacity := store.capacity
    entries := entries.drop (entries.length - store.capacity)
    length_le := by
      rw [List.length_drop]
      omega }

/-- The map without a snapshot. -/
def erase (id : Text) (store : BoundedMap) : BoundedMap :=
  { capacity := store.capacity
    entries := store.entries.erase id
    length_le := Nat.le_trans (List.length_filter_le ..) store.length_le }

instance : SnapshotStore BoundedMap where
  empty := empty
  get? id store := store.entries.get? id
  set := set
  erase := erase
  clear store := empty store.capacity
  count store := store.entries.length
  HasRoom store := store.entries.length < store.capacity

variable {store : BoundedMap}

instance : Decidable (SnapshotStore.HasRoom store) :=
  inferInstanceAs (Decidable (store.entries.length < store.capacity))

/-- Nothing is dropped from a map that has room. -/
theorem entries_set (hroom : SnapshotStore.HasRoom store) (id : Text) (snapshot : Snapshot) :
    (store.set id snapshot).entries = store.entries.set id snapshot := by
  have hlength : (store.entries.set id snapshot).length ≤ store.capacity :=
    Nat.le_trans (OrderedMap.length_set_le id snapshot store.entries) hroom
  simp only [set, Nat.sub_eq_zero_of_le hlength, List.drop_zero]

instance : LawfulSnapshotStore BoundedMap where
  get?_empty _ := OrderedMap.get?_nil
  get?_set_self {store} hroom id snapshot := by
    refine (congrArg (OrderedMap.get? id) (entries_set hroom id snapshot)).trans ?_
    exact OrderedMap.get?_set_self id snapshot store.entries
  get?_set_of_ne {store} hroom id other hne snapshot := by
    refine (congrArg (OrderedMap.get? other) (entries_set hroom id snapshot)).trans ?_
    exact OrderedMap.get?_set_of_ne hne snapshot store.entries
  get?_erase_self id store := OrderedMap.get?_erase_self id store.entries
  get?_erase_of_ne hne store := OrderedMap.get?_erase_of_ne hne store.entries
  get?_clear _ _ := rfl

end BoundedMap

end PropertyKeys

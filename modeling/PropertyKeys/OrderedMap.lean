import PropertyKeys.Text.Basic

/-!
# Ordered maps

A map that remembers the order in which its keys came up. Setting a key that is there replaces its
value and leaves its place.

## Main definitions

* `OrderedMap.set`: a map with the value of one key set.
* `OrderedMap.erase`: a map without a key.
* `OrderedMap.ofList`: the map that a list of settings leaves.
* `OrderedMap.get?`: the value of a key.
-/

namespace PropertyKeys

/-- Keys with values, in the order in which the keys came up. -/
abbrev OrderedMap (κ α : Type) := List (κ × α)

namespace OrderedMap

variable {κ α : Type} [DecidableEq κ]

/-- The map with the value of one key set. A new key goes to the end. -/
def set (key : κ) (value : α) : OrderedMap κ α → OrderedMap κ α
  | [] => [(key, value)]
  | entry :: entries =>
    if entry.1 = key then (key, value) :: entries else entry :: set key value entries

/-- The map without a key. -/
def erase (key : κ) (entries : OrderedMap κ α) : OrderedMap κ α :=
  entries.filter fun entry => entry.1 ≠ key

/-- The map that a list of settings leaves. -/
def ofList (settings : List (κ × α)) : OrderedMap κ α :=
  settings.foldl (fun entries setting => set setting.1 setting.2 entries) []

/-- The value of a key. -/
def get? (key : κ) : OrderedMap κ α → Option α
  | [] => none
  | entry :: entries => if entry.1 = key then some entry.2 else get? key entries

@[simp]
theorem get?_nil (key : κ) : get? key ([] : OrderedMap κ α) = none := rfl

@[simp]
theorem get?_set_self (key : κ) (value : α) (entries : OrderedMap κ α) :
    get? key (set key value entries) = some value := by
  induction entries with
  | nil => simp [set, get?]
  | cons entry entries ih => by_cases h : entry.1 = key <;> simp [set, get?, h, ih]

/-- Setting one key leaves the values of the others. -/
theorem get?_set_of_ne {key other : κ} (hne : other ≠ key) (value : α)
    (entries : OrderedMap κ α) :
    get? other (set key value entries) = get? other entries := by
  induction entries with
  | nil => simp [set, get?, hne.symm]
  | cons entry entries ih =>
    by_cases h : entry.1 = key
    · simp [set, get?, h, hne.symm]
    · simp [set, get?, h, ih]

/-- Setting one key adds at most one entry. -/
theorem length_set_le (key : κ) (value : α) (entries : OrderedMap κ α) :
    (set key value entries).length ≤ entries.length + 1 := by
  induction entries with
  | nil => exact Nat.le_refl _
  | cons entry entries ih =>
    rw [set]
    split
    · exact Nat.le_succ _
    · exact Nat.succ_le_succ ih

@[simp]
theorem get?_erase_self (key : κ) (entries : OrderedMap κ α) :
    get? key (erase key entries) = none := by
  induction entries with
  | nil => rfl
  | cons entry entries ih =>
    by_cases h : entry.1 = key
    · simpa [erase, h] using ih
    · simpa [erase, get?, h] using ih

/-- Erasing one key leaves the values of the others. -/
theorem get?_erase_of_ne {key other : κ} (hne : other ≠ key) (entries : OrderedMap κ α) :
    get? other (erase key entries) = get? other entries := by
  induction entries with
  | nil => rfl
  | cons entry entries ih =>
    by_cases h : entry.1 = key
    · simpa [erase, get?, h, hne.symm] using ih
    · by_cases h' : entry.1 = other
      · simp [erase, get?, h', hne]
      · simpa [erase, get?, h, h'] using ih

end OrderedMap

end PropertyKeys

import PropertyKeys.Proofs.KeyParts.Composition

/-!
# Well-formed parts

The parts that a raw key is cut into fit together: the portion is a start of the raw key, and a
property is reached only in a value that an index selects. An index is not empty either, but for one
case: two dots follow the portion of a raw key for a map, and what comes after them is a property.
Then the map key is empty, while an empty index in brackets and an empty text after a dot are none.

## Main definitions

* `KeyParts.SkipsMapKey`: a raw key goes on to a property without a map key.
* `KeyParts.IsWellFormed`: the parts fit together, and the index is empty in that case only.

## Main results

* `KeyParts.isWellFormed_of_split?`: the parts of every raw key are well formed.
* `KeyParts.exists_split?_index?_eq_nil`: the one case occurs.
-/

namespace PropertyKeys.KeyParts

open Text KeyPath

/-- Two dots follow the portion of a raw key for a map, and the rest is the name of a property. -/
def SkipsMapKey (key : Key) (raw : Text) (parts : KeyParts) : Prop :=
  key.access.isMap = true ∧ ∃ last, raw = parts.portion ++ '.' :: '.' :: last ∧ '.' ∉ last ∧
    (key.property? last).isSome = true

/-- The parts of a raw key fit together, and the index is empty only if a map key is skipped. -/
structure IsWellFormed (key : Key) (raw : Text) (parts : KeyParts) : Prop where
  portion_isPrefix : parts.portion <+: raw
  index?_of_property? : parts.property?.isSome = true → parts.index?.isSome = true
  index?_eq_nil_iff : parts.index? = some [] ↔ SkipsMapKey key raw parts

theorem not_skipsMapKey {key : Key} {raw tail : Text} {parts : KeyParts}
    (hraw : raw = parts.portion ++ tail) (htail : tail.head? ≠ some '.') :
    ¬SkipsMapKey key raw parts := by
  rintro ⟨-, last, hskips, -⟩
  rw [hraw, List.append_cancel_left_eq] at hskips
  exact htail (by rw [hskips]; rfl)

/-- A raw key that is its portion, or the portion and a dot, has neither index nor property. -/
theorem isWellFormed_portion {key : Key} {raw portion : Text} (hportion : portion <+: raw)
    (hskips : ¬SkipsMapKey key raw { portion }) : IsWellFormed key raw { portion } where
  portion_isPrefix := hportion
  index?_of_property? := by simp
  index?_eq_nil_iff := by simpa using hskips

/-- The index in brackets is not empty. -/
theorem isWellFormed_ofBracket? {key : Key} {raw portion afterOpening : Text} {parts : KeyParts}
    (h : ofBracket? key portion afterOpening = some parts) (hportion : portion <+: raw)
    (hskips : ¬SkipsMapKey key raw parts) : IsWellFormed key raw parts := by
  obtain ⟨⟨index, rest⟩, hclose, rfl⟩ := Option.map_eq_some_iff.mp h
  have hne : index ≠ [] := (closeBracket?_eq_some_iff.mp hclose).2.2
  exact
    { portion_isPrefix := hportion
      index?_of_property? := fun _ => rfl
      index?_eq_nil_iff := by simpa [hne] using hskips }

theorem isWellFormed_splitIndexed? {key : Key} {raw : Text} {parts : KeyParts}
    (hindexed : key.access = .indexed) (h : splitIndexed? key raw = some parts) :
    IsWellFormed key raw parts := by
  have hskips : ¬SkipsMapKey key raw parts := fun hskips =>
    absurd (hindexed ▸ hskips.1) (by decide)
  by_cases hopen : '[' ∈ raw
  · obtain ⟨start, rest, rfl, hstart⟩ := List.eq_append_cons_of_mem hopen
    rw [splitIndexed?_append hstart] at h
    exact isWellFormed_ofBracket? h ((dropFinal_isPrefix '.' start).trans (List.prefix_append ..))
      hskips
  · rw [splitIndexed?_of_notMem hopen, Option.some.injEq] at h
    subst h
    exact isWellFormed_portion (List.prefix_refl raw) hskips

/-- After a dot the map key is empty exactly if only a dot and a property follow. -/
theorem index?_ofDotted_eq_nil_iff {key : Key} {portion suffix : Text} :
    (ofDotted key portion suffix).index? = some [] ↔
      ∃ last, suffix = '.' :: last ∧ '.' ∉ last ∧ (key.property? last).isSome = true := by
  constructor
  · intro hindex
    by_cases hempty : suffix = []
    · simp [ofDotted, hempty] at hindex
    · obtain ⟨index, property?, hselects, hparts⟩ := exists_selectsAfterDot hempty key portion
      rw [hparts, Option.some.injEq] at hindex
      cases hselects with
      | @property _ last _ hlast hproperty =>
        exact ⟨last, by rw [hindex]; rfl, hlast, by simp [hproperty]⟩
      | whole => exact absurd hindex hempty
  · rintro ⟨last, rfl, hlast, hsome⟩
    obtain ⟨property, hproperty⟩ := Option.isSome_iff_exists.mp hsome
    exact congrArg KeyParts.index? (ofDotted_append hlast hproperty portion [])

theorem isWellFormed_ofDotted {key : Key} (hmap : key.access.isMap = true) (portion suffix : Text) :
    IsWellFormed key (portion ++ '.' :: suffix) (ofDotted key portion suffix) where
  portion_isPrefix := by
    rw [portion_ofDotted]
    exact List.prefix_append ..
  index?_of_property? := by
    by_cases hempty : suffix = []
    · simp [ofDotted, hempty]
    · obtain ⟨index, property?, -, hparts⟩ := exists_selectsAfterDot hempty key portion
      simp [hparts]
  index?_eq_nil_iff := by
    rw [index?_ofDotted_eq_nil_iff, SkipsMapKey, portion_ofDotted, and_iff_right hmap]
    simp only [List.append_cancel_left_eq, List.cons.injEq, true_and]

theorem isWellFormed_splitMap? {key : Key} {raw : Text} {parts : KeyParts}
    (hmap : key.access.isMap = true) (h : splitMap? key raw = some parts) :
    IsWellFormed key raw parts := by
  obtain ⟨⟨portion, mark, rest⟩, hboundary, hparts⟩ := Option.bind_eq_some_iff.mp h
  obtain ⟨hraw, hend⟩ := eq_of_boundary?_eq_some hboundary
  cases mark with
  | ending =>
    obtain rfl : rest = [] := hend rfl
    obtain rfl := Option.some.inj hparts
    have hwhole : raw = portion := by simpa [Mark.text] using hraw
    exact isWellFormed_portion (hwhole ▸ List.prefix_refl raw)
      (not_skipsMapKey (hwhole.trans (List.append_nil portion).symm) (by simp))
  | dot =>
    obtain rfl := Option.some.inj hparts
    have hcut : raw = portion ++ '.' :: rest := by simpa [Mark.text] using hraw
    rw [hcut]
    exact isWellFormed_ofDotted hmap portion rest
  | bracket =>
    have hcut : raw = portion ++ '[' :: rest := by simpa [Mark.text] using hraw
    have hportion : parts.portion = portion := by
      obtain ⟨-, -, rfl⟩ := Option.map_eq_some_iff.mp hparts
      rfl
    refine isWellFormed_ofBracket? hparts (hcut ▸ List.prefix_append ..) ?_
    exact not_skipsMapKey (hportion ▸ hcut) (by simp)

/-- **The parts of a raw key are well formed.** Their portion is a start of the raw key, and there
is no property without an index. The index is empty exactly if the raw key is for a map and skips its
map key. -/
theorem isWellFormed_of_split? {key : Key} {raw : Text} {caseSensitive : Bool} {parts : KeyParts}
    (h : split? key raw caseSensitive = some parts) : IsWellFormed key raw parts := by
  have hshape : shape? key raw = some parts := (Option.filter_eq_some_iff.mp h).1
  rcases Access.isMap_or key.access with hmap | hnormal | hindexed
  · rw [shape?_of_isMap hmap] at hshape
    exact isWellFormed_splitMap? hmap hshape
  · rw [shape?, hnormal, Option.some.injEq] at hshape
    subst hshape
    exact isWellFormed_portion (List.prefix_refl raw)
      (fun hskips => absurd (hnormal ▸ hskips.1) (by decide))
  · rw [shape?_of_indexed hindexed] at hshape
    exact isWellFormed_splitIndexed? hindexed hshape

/-- A map key, followed by a property. -/
theorem isWellFormed_of_split?_pools :
    ∃ parts, split? .pools "app.pools.main.maxSize".toList true = some parts ∧
      IsWellFormed .pools "app.pools.main.maxSize".toList parts :=
  have h : split? .pools "app.pools.main.maxSize".toList true = some
      { portion := "app.pools".toList, index? := some "main".toList,
        property? := some "maxSize".toList } := by decide +kernel
  ⟨_, h, isWellFormed_of_split? h⟩

/-- The property `maxSize` of the pool with the empty name. -/
theorem exists_split?_index?_eq_nil :
    ∃ parts,
      (∀ caseSensitive, split? .pools "app.pools..maxSize".toList caseSensitive = some parts) ∧
      parts.index? = some [] :=
  ⟨{ portion := "app.pools".toList, index? := some [], property? := some "maxSize".toList },
    by decide +kernel, rfl⟩

end PropertyKeys.KeyParts

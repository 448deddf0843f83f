import PropertyKeys.Naming.Relaxed
import PropertyKeys.Proofs.KeyParts.Shape

/-!
# Relaxed binding and the parts of a raw key

The relaxed dialect decides in one place whether a raw key is for a declared key and cuts the raw
key into its parts in another. Both agree: what is bound can be cut, and the only exception is a raw
key for a list whose bracket holds no index.

## Main results

* `Relaxed.exists_shape?_of_equalsIgnoringCase`: the shortcut for maps always has a matching cut.
* `Relaxed.binds_agrees_with_parts?`: where binding and cutting agree.
-/

namespace PropertyKeys.Relaxed

open Text KeyPath KeyParts

/-- The first opening bracket of a raw key is closed again, and not at once. -/
def HoldsIndex (raw : Text) : Prop :=
  ∃ start rest, raw = start ++ '[' :: rest ∧ '[' ∉ start ∧ ']' ∈ rest ∧ rest.head? ≠ some ']'

theorem binds_of_normal_iff {key : Key} {raw : Text} (hnormal : key.access = .normal) :
    binds key raw = true ↔ sameFirst key.name raw = true ∧ same key.name raw = true := by
  simp [binds, hnormal]

theorem binds_of_indexed_iff {key : Key} {raw : Text} (hindexed : key.access = .indexed) :
    binds key raw = true ↔
      sameFirst key.name raw = true ∧ same key.name (bracketBase raw) = true := by
  simp [binds, hindexed]

/-- Relaxed binding to a map takes the name up to case and any cut whose portion spells the name. -/
theorem binds_of_isMap_iff {key : Key} {raw : Text} (hmap : key.access.isMap = true) :
    binds key raw = true ↔ sameFirst key.name raw = true ∧
      (equalsIgnoringCase key.name raw = true ∨
        ∃ parts, shape? key raw = some parts ∧ same key.name parts.portion = true) := by
  rw [binds]
  rcases Access.eq_map_or_eq_enumMap hmap with haccess | haccess <;>
    simp [haccess, names, Option.any_eq_true]

/-- The parts of a raw key exist exactly if the key is no scalar and the raw key has a cut whose
portion spells the name. -/
theorem isSome_parts?_iff {key : Key} {raw : Text} :
    (parts? key raw false).isSome = true ↔
      key.access ≠ .normal ∧ sameFirst key.name raw = true ∧
        ∃ parts, shape? key raw = some parts ∧ same key.name parts.portion = true := by
  rw [Option.isSome_iff_exists]
  simp only [parts?, keep_eq_some_iff, exists_and_left]

/-- A raw key that is the name up to case has a cut, and its portion is the whole raw key. The name
has no brackets, so the raw key has none either, and the dots of both are as many. -/
theorem exists_shape?_of_equalsIgnoringCase {key : Key} {raw : Text}
    (hmap : key.access.isMap = true) (hname : '[' ∉ key.name)
    (hequal : equalsIgnoringCase key.name raw = true) :
    ∃ parts, shape? key raw = some parts ∧ same key.name parts.portion = true := by
  have hforms := equalsIgnoringCase_iff.mp hequal
  have hdots : key.name.count '.' = raw.count '.' :=
    count_eq_of_map_lowerChar_eq (by decide) rfl (by decide) hforms
  have hopens : key.name.count '[' = raw.count '[' :=
    count_eq_of_map_lowerChar_eq (by decide) rfl (by decide) hforms
  have hraw : '[' ∉ raw := by
    rw [← List.count_eq_zero, ← hopens, List.count_eq_zero]
    exact hname
  rw [shape?_of_isMap hmap, exists_splitMap?_iff (P := fun portion => same key.name portion = true)]
  refine ⟨⟨raw, .ending, []⟩, ?_, by simp, ?_⟩
  · rw [segmentCount_of_notMem hname, hdots, boundary?_self hraw]
  · simp [same, hequal]

/-- The condition on the first bracket of a raw key for a list, in terms of the raw key. -/
theorem firstBracket_iff (raw : Text) :
    (∀ start rest, raw = start ++ '[' :: rest → '[' ∉ start →
      (closeBracket? rest).isSome = true) ↔ '[' ∉ raw ∨ HoldsIndex raw := by
  constructor
  · intro hclose
    by_cases hopen : '[' ∈ raw
    · obtain ⟨start, rest, rfl, hstart⟩ := List.eq_append_cons_of_mem hopen
      have hindex := (isSome_closeBracket?_iff rest).mp (hclose start rest rfl hstart)
      exact Or.inr ⟨start, rest, rfl, hstart, hindex⟩
    · exact Or.inl hopen
  · rintro (hnone | ⟨start, rest, rfl, hstart, hindex⟩) other more heq hother
    · exact absurd (heq ▸ by simp) hnone
    · rw [← eq_of_append_cons_eq hstart hother heq]
      exact (isSome_closeBracket?_iff rest).mpr hindex

/-- **Binding and cutting agree.** A raw key is bound to a map whose name has no opening bracket
exactly if it has parts, and a raw key has parts for a list exactly if it is bound to the list and
its first bracket, should it have one, holds an index. -/
theorem binds_agrees_with_parts? (key : Key) (raw : Text) :
    (key.access.isMap = true → '[' ∉ key.name →
      (binds key raw = true ↔ (parts? key raw false).isSome = true)) ∧
    (key.access = .indexed →
      ((parts? key raw false).isSome = true ↔
        binds key raw = true ∧ ('[' ∉ raw ∨ HoldsIndex raw))) := by
  constructor
  · intro hmap hname
    rw [binds_of_isMap_iff hmap, isSome_parts?_iff]
    constructor
    · rintro ⟨hfirst, hequal | hshape⟩
      · exact ⟨Access.ne_normal_of_isMap hmap, hfirst,
          exists_shape?_of_equalsIgnoringCase hmap hname hequal⟩
      · exact ⟨Access.ne_normal_of_isMap hmap, hfirst, hshape⟩
    · rintro ⟨-, hfirst, hshape⟩
      exact ⟨hfirst, Or.inr hshape⟩
  · intro hindexed
    rw [binds_of_indexed_iff hindexed, isSome_parts?_iff, hindexed, shape?_of_indexed hindexed,
      exists_splitIndexed?_iff (P := fun portion => same key.name portion = true), firstBracket_iff]
    constructor
    · rintro ⟨-, hfirst, hbracket, hsame⟩
      exact ⟨⟨hfirst, hsame⟩, hbracket⟩
    · rintro ⟨⟨hfirst, hsame⟩, hbracket⟩
      exact ⟨by decide, hfirst, hbracket, hsame⟩

/-- A raw key with a map key, and one for a list whose bracket is empty. -/
theorem binds_agrees_with_parts?_textMap_and_textList :
    (binds (.textMap "app.labels".toList) "app.labels[env]".toList = true ∧
      (parts? (.textMap "app.labels".toList) "app.labels[env]".toList false).isSome = true) ∧
    (binds (.textList "app.servers".toList) "app.servers[]".toList = true ∧
      ¬HoldsIndex "app.servers[]".toList) := by
  have hmap := (binds_agrees_with_parts? (.textMap "app.labels".toList)
    "app.labels[env]".toList).1 (by simp [Access.isMap]) (by decide)
  have hlist := (binds_agrees_with_parts? (.textList "app.servers".toList)
    "app.servers[]".toList).2 (Key.access_textList _)
  have hbound : binds (.textMap "app.labels".toList) "app.labels[env]".toList = true := by decide
  have hempty : binds (.textList "app.servers".toList) "app.servers[]".toList = true := by decide
  refine ⟨⟨hbound, hmap.mp hbound⟩, hempty, fun hindex => ?_⟩
  exact absurd (hlist.mpr ⟨hempty, Or.inr hindex⟩) (by decide)

end PropertyKeys.Relaxed

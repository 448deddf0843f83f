import PropertyKeys.KeyParts
import PropertyKeys.Proofs.KeyPath.Boundary

/-!
# When a raw key can be cut

The cut of a raw key succeeds or fails on its shape alone. These lemmas say when it succeeds and
which portion it then has: for a list by the first opening bracket, and for a map by the boundary
after as many segments as the name has.

## Main definitions

* `Key.scalar` / `Key.textList` / `Key.textMap`: a plain key of each kind.

## Main results

* `KeyParts.exists_splitIndexed?_iff` / `KeyParts.exists_splitMap?_iff`: when the cut succeeds.
-/

namespace PropertyKeys

theorem Access.isMap_or (access : Access) :
    access.isMap = true ∨ access = .normal ∨ access = .indexed := by
  cases access <;> decide

theorem Access.eq_map_or_eq_enumMap {access : Access} (hmap : access.isMap = true) :
    access = .map ∨ access = .enumMap := by
  cases access with
  | normal => exact absurd hmap (by decide)
  | map => exact Or.inl rfl
  | enumMap => exact Or.inr rfl
  | indexed => exact absurd hmap (by decide)

theorem Access.ne_normal_of_isMap {access : Access} (hmap : access.isMap = true) :
    access ≠ .normal := by
  rintro rfl
  exact absurd hmap (by decide)

/-- The type of texts. -/
def TypeExpr.text : TypeExpr :=
  { name := "java.lang.String".toList }

namespace Key

/-- A key for one value, without a declared type. -/
def scalar (name : Text) : Key :=
  { name }

/-- A key for a list of texts. -/
def textList (name : Text) : Key :=
  { name, type? := some { name := "java.util.List".toList, args := [.text] } }

/-- A key for a map from texts to texts. -/
def textMap (name : Text) : Key :=
  { name, type? := some { name := "java.util.Map".toList, args := [.text, .text] } }

@[simp]
theorem access_scalar (name : Text) : (scalar name).access = .normal := rfl

@[simp]
theorem access_textList (name : Text) : (textList name).access = .indexed := rfl

@[simp]
theorem access_textMap (name : Text) : (textMap name).access = .map := rfl

end Key

end PropertyKeys

namespace PropertyKeys.KeyParts

open Text KeyPath

theorem bracketBase_append {start : Text} (hstart : '[' ∉ start) (rest : Text) :
    bracketBase (start ++ '[' :: rest) = dropFinal '.' start := by
  rw [bracketBase, if_pos (by simp), before_append hstart]

theorem bracketBase_of_notMem {raw : Text} (hraw : '[' ∉ raw) : bracketBase raw = raw :=
  if_neg (by simpa using hraw)

theorem closeBracket?_append {index : Text} (hindex : ']' ∉ index) (rest : Text) :
    closeBracket? (index ++ ']' :: rest) = if index = [] then none else some (index, rest) := by
  rw [closeBracket?, fromFirst_append hindex, before_append hindex]
  simp

theorem closeBracket?_of_notMem {text : Text} (htext : ']' ∉ text) : closeBracket? text = none := by
  rw [closeBracket?, fromFirst_eq_nil htext]

/-- What is read as an index is not empty, and it ends at the first closing bracket. -/
theorem closeBracket?_eq_some_iff {text index rest : Text} :
    closeBracket? text = some (index, rest) ↔
      text = index ++ ']' :: rest ∧ ']' ∉ index ∧ index ≠ [] := by
  constructor
  · intro h
    by_cases hclose : ']' ∈ text
    · obtain ⟨start, more, rfl, hstart⟩ := List.eq_append_cons_of_mem hclose
      rw [closeBracket?_append hstart] at h
      split at h
      · simp at h
      · next hne =>
        obtain ⟨rfl, rfl⟩ := Prod.mk.inj (Option.some.inj h)
        exact ⟨rfl, hstart, hne⟩
    · simp [closeBracket?_of_notMem hclose] at h
  · rintro ⟨rfl, hindex, hne⟩
    rw [closeBracket?_append hindex, if_neg hne]

/-- An index is read exactly if a closing bracket follows that does not come at once. -/
theorem isSome_closeBracket?_iff (text : Text) :
    (closeBracket? text).isSome = true ↔ ']' ∈ text ∧ text.head? ≠ some ']' := by
  by_cases hclose : ']' ∈ text
  · obtain ⟨index, rest, rfl, hindex⟩ := List.eq_append_cons_of_mem hclose
    rw [closeBracket?_append hindex]
    cases index with
    | nil => simp
    | cons c cs =>
      have hc : c ≠ ']' := fun heq => hindex (by simp [heq])
      simp [hc]
  · rw [closeBracket?_of_notMem hclose]
    simp [hclose]

theorem ofBracket?_append {index : Text} (hindex : ']' ∉ index) (hne : index ≠ []) (key : Key)
    (portion rest : Text) :
    ofBracket? key portion (index ++ ']' :: rest) =
      some { portion, index? := some index, property? := propertyAfter? key rest } := by
  rw [ofBracket?, closeBracket?_append hindex, if_neg hne, Option.map_some]

theorem ofBracket?_eq_none {afterOpening : Text} (h : closeBracket? afterOpening = none) (key : Key)
    (portion : Text) : ofBracket? key portion afterOpening = none := by
  rw [ofBracket?, h, Option.map_none]

/-- A portion that ends at a bracket is cut there exactly if an index can be read. -/
theorem exists_ofBracket?_iff {key : Key} {portion afterOpening : Text} {P : Text → Prop} :
    (∃ parts, ofBracket? key portion afterOpening = some parts ∧ P parts.portion) ↔
      (closeBracket? afterOpening).isSome = true ∧ P portion := by
  rw [ofBracket?]
  cases closeBracket? afterOpening <;> simp

@[simp]
theorem portion_ofDotted (key : Key) (portion suffix : Text) :
    (ofDotted key portion suffix).portion = portion := by
  rw [ofDotted]
  split
  · rfl
  · dsimp only
    split <;> rfl

theorem splitIndexed?_append {start : Text} (hstart : '[' ∉ start) (key : Key) (rest : Text) :
    splitIndexed? key (start ++ '[' :: rest) = ofBracket? key (dropFinal '.' start) rest := by
  rw [splitIndexed?, fromFirst_append hstart, bracketBase_append hstart]

theorem splitIndexed?_of_notMem {raw : Text} (hraw : '[' ∉ raw) (key : Key) :
    splitIndexed? key raw = some { portion := raw } := by
  rw [splitIndexed?, fromFirst_eq_nil hraw]

/-- A raw key for a list is cut exactly if its first bracket, should it have one, holds an index,
and its portion is what precedes that bracket. -/
theorem exists_splitIndexed?_iff {key : Key} {raw : Text} {P : Text → Prop} :
    (∃ parts, splitIndexed? key raw = some parts ∧ P parts.portion) ↔
      (∀ start rest, raw = start ++ '[' :: rest → '[' ∉ start →
        (closeBracket? rest).isSome = true) ∧ P (bracketBase raw) := by
  by_cases hopen : '[' ∈ raw
  · obtain ⟨start, rest, rfl, hstart⟩ := List.eq_append_cons_of_mem hopen
    rw [splitIndexed?_append hstart, bracketBase_append hstart, exists_ofBracket?_iff]
    refine and_congr_left (fun _ => ?_)
    constructor
    · intro hclose other more heq hother
      exact eq_of_append_cons_eq hstart hother heq ▸ hclose
    · intro hclose
      exact hclose start rest rfl hstart
  · rw [splitIndexed?_of_notMem hopen, bracketBase_of_notMem hopen]
    simp only [Option.some.injEq, exists_eq_left', iff_and_self]
    rintro - start rest rfl
    exact absurd (by simp) hopen

/-- A raw key for a map is cut exactly if it has as many segments as the name and, should a bracket
end them, that bracket holds an index. Its portion is the text of these segments. -/
theorem exists_splitMap?_iff {key : Key} {raw : Text} {P : Text → Prop} :
    (∃ parts, splitMap? key raw = some parts ∧ P parts.portion) ↔
      ∃ boundary, boundary? (segmentCount key.name) raw = some boundary ∧
        (boundary.mark = .bracket → (closeBracket? boundary.rest).isSome = true) ∧
        P boundary.portion := by
  rw [splitMap?]
  cases boundary? (segmentCount key.name) raw with
  | none => simp
  | some boundary =>
    obtain ⟨portion, mark, rest⟩ := boundary
    cases mark with
    | ending => simp
    | dot => simp
    | bracket => simpa using exists_ofBracket?_iff

theorem shape?_of_isMap {key : Key} (hmap : key.access.isMap = true) (raw : Text) :
    shape? key raw = splitMap? key raw := by
  rw [shape?]
  rcases Access.eq_map_or_eq_enumMap hmap with haccess | haccess <;> rw [haccess]

theorem shape?_of_indexed {key : Key} (hindexed : key.access = .indexed) (raw : Text) :
    shape? key raw = splitIndexed? key raw := by
  rw [shape?, hindexed]

/-- Without regard to the exact name, a raw key is cut by its shape alone. -/
@[simp]
theorem split?_false (key : Key) (raw : Text) : split? key raw false = shape? key raw := by
  rw [split?]
  cases shape? key raw <;> simp

/-- With regard to the exact name, a raw key has the same parts if their portion is the name. -/
theorem split?_of_portion_eq {key : Key} {raw : Text} {parts : KeyParts}
    (hshape : shape? key raw = some parts) (hportion : parts.portion = key.name)
    (caseSensitive : Bool) : split? key raw caseSensitive = some parts := by
  simp [split?, hshape, hportion]

/-- The parts that a dialect keeps: those of the shape of the raw key, if the key is no scalar, the
first characters agree, and the portion is the name. -/
theorem keep_eq_some_iff {key : Key} {raw : Text} {same : Text → Text → Bool} {parts : KeyParts} :
    (if key.access = .normal || !sameFirst key.name raw then none
      else (split? key raw false).filter fun parts => parts.names same key.name) = some parts ↔
      key.access ≠ .normal ∧ sameFirst key.name raw = true ∧
        shape? key raw = some parts ∧ same key.name parts.portion = true := by
  by_cases haccess : key.access = .normal
  · simp [haccess]
  · cases hfirst : sameFirst key.name raw
    · simp
    · simp [haccess, Option.filter_eq_some_iff, names]

end PropertyKeys.KeyParts

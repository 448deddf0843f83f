import PropertyKeys.Naming.Strict
import PropertyKeys.Proofs.KeyParts.Shape

/-!
# Canonical forms

The canonical form is built character by character, so it distributes over concatenation. Dots are
the only marks it keeps, and no other character turns into one: the segments of a canonical form are
the canonical forms of the segments.

## Main results

* `Strict.canonical_eq_filter`: a name that is taken as it is would not be changed by the conversion.
* `Strict.canonical_append`: canonical forms of parts are put together.
* `Strict.canonical_canonical`: a canonical form is its own canonical form.
* `Strict.splitOn_canonical`: the segments of a canonical form.
* `Strict.extendsByDot_iff`: one text extends another by a dot if it has more segments and starts
  with the same ones.
-/

namespace PropertyKeys.Strict

open Unicode Text

theorem lowerChar_of_isCanonical {c : Char} (h : isCanonical c = true) : lowerChar c = [c] := by
  have hascii : c.toNat < 0x80 := by
    simp only [isCanonical, Bool.or_eq_true, decide_eq_true_eq] at h
    rcases h with (hlower | hdigit) | rfl
    · exact ascii_of_isLower hlower
    · exact ascii_of_isDigit hdigit
    · decide
  exact forall_ascii (P := fun c => isCanonical c = true → lowerChar c = [c]) (by decide +kernel)
    hascii h

/-- A text of characters that stand in canonical forms is its own canonical form. -/
theorem canonical_eq_self {text : Text} (h : ∀ c ∈ text, isCanonical c = true) :
    canonical text = text :=
  if_pos (List.all_eq_true.mpr h)

/-- A name that is taken as it is would not be changed by the conversion. -/
theorem canonical_eq_filter (text : Text) :
    canonical text = (text.flatMap lowerChar).filter isCanonical := by
  by_cases hall : ∀ c ∈ text, isCanonical c = true
  · have hforms : text.flatMap lowerChar = text := by
      rw [List.flatMap_def, List.map_congr_left fun c hc => lowerChar_of_isCanonical (hall c hc),
        ← List.flatMap_def, List.flatMap_singleton']
    rw [canonical_eq_self hall, hforms, List.filter_eq_self.mpr hall]
  · rw [canonical, if_neg (mt List.all_eq_true.mp hall)]

@[simp]
theorem canonical_append (a b : Text) : canonical (a ++ b) = canonical a ++ canonical b := by
  simp only [canonical_eq_filter, List.flatMap_append, List.filter_append]

@[simp]
theorem canonical_dot : canonical ['.'] = ['.'] := rfl

@[simp]
theorem canonical_cons_dot (text : Text) : canonical ('.' :: text) = '.' :: canonical text := by
  rw [← List.singleton_append, canonical_append, canonical_dot, List.singleton_append]

theorem isCanonical_of_mem_canonical {text : Text} {c : Char} (h : c ∈ canonical text) :
    isCanonical c = true := by
  rw [canonical_eq_filter] at h
  exact (List.mem_filter.mp h).2

@[simp]
theorem canonical_canonical (text : Text) : canonical (canonical text) = canonical text :=
  canonical_eq_self fun _ => isCanonical_of_mem_canonical

theorem canonical_eq_of_map_lowerChar_eq {a b : Text} (h : a.map lowerChar = b.map lowerChar) :
    canonical a = canonical b := by
  rw [canonical_eq_filter, canonical_eq_filter, List.flatMap_def, List.flatMap_def, h]

/-- A canonical form has a dot only where the text has one. -/
theorem dot_mem_of_mem_canonical {text : Text} (h : '.' ∈ canonical text) : '.' ∈ text := by
  rw [canonical_eq_filter] at h
  obtain ⟨c, hc, hdot⟩ := List.mem_flatMap.mp (List.mem_filter.mp h).1
  rwa [eq_of_mark_mem_lowerChar (by decide) (by decide) hdot] at hc

theorem canonical_intercalate (pieces : List Text) :
    canonical (['.'].intercalate pieces) = ['.'].intercalate (pieces.map canonical) := by
  induction pieces with
  | nil => rfl
  | cons piece pieces ih =>
    by_cases hnil : pieces = []
    · simp [hnil]
    · rw [List.map_cons, List.intercalate_cons_of_ne_nil hnil,
        List.intercalate_cons_of_ne_nil (by simpa using hnil), canonical_append, canonical_append,
        canonical_dot, ih]

/-- The segments of a canonical form are the canonical forms of the segments. -/
theorem splitOn_canonical (text : Text) :
    (canonical text).splitOn '.' = (text.splitOn '.').map canonical := by
  -- the text is its segments joined by dots, and no segment gets a dot from its form
  have hjoin : canonical text = ['.'].intercalate ((text.splitOn '.').map canonical) := by
    rw [← canonical_intercalate, List.intercalate_splitOn]
  rw [hjoin]
  apply List.splitOn_intercalate
  · intro piece hpiece hdot
    obtain ⟨segment, hsegment, rfl⟩ := List.mem_map.mp hpiece
    exact notMem_of_mem_splitOn hsegment (dot_mem_of_mem_canonical hdot)
  · simp

theorem count_dot_canonical (text : Text) : (canonical text).count '.' = text.count '.' := by
  have hlength := congrArg List.length (splitOn_canonical text)
  rw [List.length_map, length_splitOn, length_splitOn] at hlength
  omega

/-- A text extends a name by a dot exactly if it has more segments and starts with those of the
name. -/
theorem extendsByDot_iff {name text : Text} :
    extendsByDot name text = true ↔
      (name.splitOn '.').length < (text.splitOn '.').length ∧
        (text.splitOn '.').take (name.splitOn '.').length = name.splitOn '.' := by
  rw [extendsByDot, List.isPrefixOf_iff_prefix]
  constructor
  · rintro ⟨rest, rfl⟩
    rw [List.append_assoc, List.singleton_append, List.splitOn_append_cons_self]
    have hpos : 0 < (rest.splitOn '.').length :=
      List.length_pos_iff.mpr (List.splitOn_ne_nil '.' rest)
    refine ⟨?_, List.take_left⟩
    rw [List.length_append]
    omega
  · rintro ⟨hlength, htake⟩
    let more := (text.splitOn '.').drop (name.splitOn '.').length
    have hmore : more ≠ [] := by
      intro hnil
      have hdrop := List.drop_eq_nil_iff.mp hnil
      omega
    have hcut : text.splitOn '.' = name.splitOn '.' ++ more := by
      conv => lhs; rw [← List.take_append_drop (name.splitOn '.').length (text.splitOn '.'), htake]
    have hjoin := congrArg (['.'].intercalate) hcut
    rw [List.intercalate_splitOn, intercalate_append ['.'] (List.splitOn_ne_nil '.' name) hmore,
      List.intercalate_splitOn] at hjoin
    exact ⟨['.'].intercalate more, hjoin.symm⟩

theorem binds_of_normal_iff {key : Key} {raw : Text} (hnormal : key.access = .normal) :
    binds key raw = true ↔
      sameFirst key.name raw = true ∧ canonical raw = canonical key.name := by
  simp [binds, hnormal]

theorem binds_of_indexed_iff {key : Key} {raw : Text} (hindexed : key.access = .indexed) :
    binds key raw = true ↔ sameFirst key.name raw = true ∧
      (canonical raw = canonical key.name ∨ baseMatches (canonical key.name) raw = true) := by
  simp [binds, hindexed]

/-- Strict binding to a map also takes what goes on after a dot. -/
theorem binds_of_isMap_iff {key : Key} {raw : Text} (hmap : key.access.isMap = true) :
    binds key raw = true ↔ sameFirst key.name raw = true ∧
      ((canonical raw = canonical key.name ∨
        extendsByDot (canonical key.name) (canonical raw) = true) ∨
      baseMatches (canonical key.name) raw = true) := by
  rw [binds]
  rcases Access.eq_map_or_eq_enumMap hmap with haccess | haccess <;> simp [haccess]

/-- A raw key with the canonical form of the name is bound to a key of any access. -/
theorem binds_of_canonical_eq {key : Key} {raw : Text} (hfirst : sameFirst key.name raw = true)
    (hname : canonical raw = canonical key.name) : binds key raw = true := by
  rcases Access.isMap_or key.access with hmap | hnormal | hindexed
  · exact (binds_of_isMap_iff hmap).mpr ⟨hfirst, Or.inl (Or.inl hname)⟩
  · exact (binds_of_normal_iff hnormal).mpr ⟨hfirst, hname⟩
  · exact (binds_of_indexed_iff hindexed).mpr ⟨hfirst, Or.inl hname⟩

/-- The parts of a raw key exist exactly if the key is no scalar and the raw key has a cut whose
portion has the canonical form of the name. -/
theorem parts?_eq_some_iff {key : Key} {raw : Text} {parts : KeyParts} :
    parts? key raw false = some parts ↔
      key.access ≠ .normal ∧ sameFirst key.name raw = true ∧
        KeyParts.shape? key raw = some parts ∧ canonical parts.portion = canonical key.name := by
  rw [parts?, KeyParts.keep_eq_some_iff, same, beq_iff_eq, eq_comm (a := canonical key.name)]

end PropertyKeys.Strict

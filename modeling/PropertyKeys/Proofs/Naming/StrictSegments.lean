import PropertyKeys.Proofs.Naming.Canonical

/-!
# Strict binding keeps the dotted structure

Where no brackets are in the way, strict binding compares a raw key with the name segment by
segment: a scalar or a list has to have the same segments up to canonical form, and a map may have
more of them. The parts of the raw key are cut at the same place, after the segments of the name.

## Main results

* `Strict.canonical_eq_iff_segments` / `Strict.startsWithName_iff`: comparing canonical forms is
  comparing segments.
* `Strict.binds_iff_segments`: strict binding and its parts in terms of segments.
-/

namespace PropertyKeys.Strict

open Text KeyPath KeyParts

/-- A raw key has the segments of the name, up to canonical form and the first character without
regard to case. Only for a map it may have further segments. -/
def HasSegmentsOf (key : Key) (raw : Text) : Prop :=
  sameFirst key.name raw = true ∧
    (if key.access.isMap then (key.name.splitOn '.').length ≤ (raw.splitOn '.').length
      else (raw.splitOn '.').length = (key.name.splitOn '.').length) ∧
    ((raw.splitOn '.').take (key.name.splitOn '.').length).map canonical =
      (key.name.splitOn '.').map canonical

/-- Two names have the same canonical form exactly if their segments have. -/
theorem canonical_eq_iff_segments {a b : Text} :
    canonical a = canonical b ↔
      (a.splitOn '.').map canonical = (b.splitOn '.').map canonical := by
  rw [← splitOn_canonical, ← splitOn_canonical]
  exact ⟨congrArg _, eq_of_splitOn_eq⟩

/-- A text has the canonical form of a name exactly if it has as many segments, and the same ones
up to canonical form. -/
theorem canonical_eq_iff_length_and_take {name text : Text} :
    canonical text = canonical name ↔
      (text.splitOn '.').length = (name.splitOn '.').length ∧
        ((text.splitOn '.').take (name.splitOn '.').length).map canonical =
          (name.splitOn '.').map canonical := by
  rw [canonical_eq_iff_segments]
  constructor
  · intro hsegments
    have hlength := congrArg List.length hsegments
    rw [List.length_map, List.length_map] at hlength
    exact ⟨hlength, by rw [← hlength, List.take_length, hsegments]⟩
  · rintro ⟨hlength, htake⟩
    rwa [← hlength, List.take_length] at htake

/-- A text is a name, or the name goes on after a dot, exactly if the text starts with the segments
of the name. Both texts are taken in canonical form. -/
theorem startsWithName_iff {name text : Text} :
    (canonical text = canonical name ∨ extendsByDot (canonical name) (canonical text) = true) ↔
      (name.splitOn '.').length ≤ (text.splitOn '.').length ∧
        ((text.splitOn '.').take (name.splitOn '.').length).map canonical =
          (name.splitOn '.').map canonical := by
  rw [extendsByDot_iff, splitOn_canonical, splitOn_canonical, List.length_map, List.length_map,
    ← List.map_take, canonical_eq_iff_length_and_take]
  constructor
  · rintro (⟨hlength, htake⟩ | ⟨hlength, htake⟩)
    · exact ⟨by omega, htake⟩
    · exact ⟨by omega, htake⟩
  · rintro ⟨hlength, htake⟩
    rcases Nat.lt_or_eq_of_le hlength with hlt | heq
    · exact Or.inr ⟨hlt, htake⟩
    · exact Or.inl ⟨heq.symm, htake⟩

theorem baseMatches_of_notMem {raw : Text} (hraw : '[' ∉ raw) (canonicalName : Text) :
    baseMatches canonicalName raw = false := by
  simp [baseMatches, hraw]

/-- A raw key for a map has parts exactly if it starts with the segments of the name, and its portion
is these segments. -/
theorem parts?_of_isMap {key : Key} {raw : Text} (hmap : key.access.isMap = true)
    (hname : '[' ∉ key.name) (hraw : '[' ∉ raw) :
    ((parts? key raw false).isSome = true ↔ HasSegmentsOf key raw) ∧
      ∀ parts, parts? key raw false = some parts →
        parts.portion = ['.'].intercalate ((raw.splitOn '.').take (key.name.splitOn '.').length) := by
  let portion := ['.'].intercalate ((raw.splitOn '.').take (key.name.splitOn '.').length)
  have hpos : 0 < (key.name.splitOn '.').length :=
    List.length_pos_iff.mpr (List.splitOn_ne_nil '.' key.name)
  have hcount : segmentCount key.name = (key.name.splitOn '.').length := by
    rw [segmentCount_of_notMem hname, length_splitOn]
  have hshape : ∀ P : Text → Prop, (∃ parts, shape? key raw = some parts ∧ P parts.portion) ↔
      (key.name.splitOn '.').length ≤ (raw.splitOn '.').length ∧ P portion := by
    intro P
    rw [shape?_of_isMap hmap, exists_splitMap?_iff, hcount]
    by_cases hlength : (key.name.splitOn '.').length ≤ (raw.splitOn '.').length
    · obtain ⟨mark, rest, hmark, hboundary⟩ := boundary?_of_notMem hraw hpos hlength
      simp [hboundary, hmark, hlength, portion]
    · have hnone : boundary? (key.name.splitOn '.').length raw = none := by
        apply boundary?_eq_none hraw
        rw [← length_splitOn]
        omega
      simp [hnone, hlength]
  constructor
  · rw [Option.isSome_iff_exists]
    simp only [parts?_eq_some_iff, exists_and_left]
    rw [hshape (fun text => canonical text = canonical key.name), canonical_eq_iff_segments,
      splitOn_intercalate_take raw hpos, HasSegmentsOf, if_pos hmap]
    exact and_iff_right (Access.ne_normal_of_isMap hmap)
  · intro parts hparts
    have hcut := (parts?_eq_some_iff.mp hparts).2.2.1
    exact ((hshape (fun text => parts.portion = text)).mp ⟨parts, hcut, rfl⟩).2

/-- A raw key for a list has parts exactly if it has the segments of the name, and its portion is
the whole raw key. -/
theorem parts?_of_indexed {key : Key} {raw : Text} (hindexed : key.access = .indexed)
    (hraw : '[' ∉ raw) :
    ((parts? key raw false).isSome = true ↔ HasSegmentsOf key raw) ∧
      ∀ parts, parts? key raw false = some parts →
        parts.portion = ['.'].intercalate ((raw.splitOn '.').take (key.name.splitOn '.').length) := by
  have haccess : key.access ≠ .normal := by
    rw [hindexed]
    decide
  have hshape : ∀ P : Text → Prop,
      (∃ parts, shape? key raw = some parts ∧ P parts.portion) ↔ P raw := by
    intro P
    rw [shape?_of_indexed hindexed, exists_splitIndexed?_iff, bracketBase_of_notMem hraw]
    refine and_iff_right ?_
    rintro start rest rfl -
    exact absurd (by simp) hraw
  constructor
  · rw [Option.isSome_iff_exists]
    simp only [parts?_eq_some_iff, exists_and_left]
    rw [hshape (fun text => canonical text = canonical key.name), canonical_eq_iff_length_and_take,
      HasSegmentsOf, hindexed]
    exact and_iff_right (by decide)
  · intro parts hparts
    obtain ⟨-, -, hcut, hcanonical⟩ := parts?_eq_some_iff.mp hparts
    have hportion : parts.portion = raw :=
      (hshape (fun text => parts.portion = text)).mp ⟨parts, hcut, rfl⟩
    rw [hportion] at hcanonical ⊢
    rw [← (canonical_eq_iff_length_and_take.mp hcanonical).1, List.take_length,
      List.intercalate_splitOn]

/-- **Strict binding keeps the dotted structure.** Without brackets, a raw key is bound exactly if it
has the segments of the name, and so many of them as the key allows. Then, and only then, a map or a
list also gets its parts, and the portion is the segments of the name. -/
theorem binds_iff_segments (key : Key) (raw : Text) (hname : '[' ∉ key.name) (hraw : '[' ∉ raw) :
    (binds key raw = true ↔ HasSegmentsOf key raw) ∧
      (key.access ≠ .normal →
        ((parts? key raw false).isSome = true ↔ HasSegmentsOf key raw) ∧
          ∀ parts, parts? key raw false = some parts →
            parts.portion =
              ['.'].intercalate ((raw.splitOn '.').take (key.name.splitOn '.').length)) := by
  -- for all but maps the raw key has to have exactly the segments of the name
  have hwhole : key.access.isMap = false →
      ((sameFirst key.name raw = true ∧ canonical raw = canonical key.name) ↔
        HasSegmentsOf key raw) := by
    intro hmap
    rw [HasSegmentsOf, if_neg (by rw [hmap]; decide), canonical_eq_iff_length_and_take]
  rcases Access.isMap_or key.access with hmap | hnormal | hindexed
  · refine ⟨?_, fun _ => parts?_of_isMap hmap hname hraw⟩
    rw [binds_of_isMap_iff hmap, baseMatches_of_notMem hraw, HasSegmentsOf, if_pos hmap,
      startsWithName_iff, Bool.false_eq_true, or_false]
  · refine ⟨?_, fun hother => absurd hnormal hother⟩
    exact (binds_of_normal_iff hnormal).trans (hwhole (by rw [hnormal]; rfl))
  · refine ⟨?_, fun _ => parts?_of_indexed hindexed hraw⟩
    rw [binds_of_indexed_iff hindexed, baseMatches_of_notMem hraw, Bool.false_eq_true, or_false]
    exact hwhole (by rw [hindexed]; rfl)

/-- A raw key for a map, whose third segment is a map key. -/
theorem binds_iff_segments_textMap :
    HasSegmentsOf (.textMap "app.extraLabels".toList) "app.extra-labels.env".toList ∧
      ∀ parts, parts? (.textMap "app.extraLabels".toList) "app.extra-labels.env".toList false =
        some parts → parts.portion = "app.extra-labels".toList := by
  obtain ⟨hbinds, hparts⟩ := binds_iff_segments (.textMap "app.extraLabels".toList)
    "app.extra-labels.env".toList (by decide) (by decide)
  exact ⟨hbinds.mp (by decide), (hparts (by decide)).2⟩

end PropertyKeys.Strict

import PropertyKeys.Proofs.IndexScan.Groups
import PropertyKeys.Proofs.Naming.Canonical

/-!
# Strict binding and brackets

The strict dialect compares the canonical form of a whole raw key, in which the brackets are erased
and what stands between them is kept. The parts of the same raw key are cut by its brackets. So what
stands in brackets may pass for a piece of the name in the one and not in the other. `BracketClash`
says where, and everywhere else a raw key with brackets is bound exactly if it has parts.

## Main results

* `Strict.boundary?_of_baseMatches`: what precedes the first bracket is a portion if it is the name.
* `Strict.binds_iff_parts?_iff`: binding and cutting agree exactly where there is no clash.
-/

namespace PropertyKeys.Strict

open Text KeyPath KeyParts IndexScan

/-- The canonical form of the whole raw key, its brackets erased, is that of the name or, for a map,
goes on after the name with a dot. -/
def MatchesErased (key : Key) (raw : Text) : Prop :=
  canonical raw = canonical key.name ∨
    key.access.isMap = true ∧ extendsByDot (canonical key.name) (canonical raw) = true

/-- The portion of a raw key for a map has the canonical form of the name. -/
def HasPortion (key : Key) (raw : Text) : Prop :=
  ∃ boundary, boundary? (segmentCount key.name) raw = some boundary ∧
    canonical boundary.portion = canonical key.name

/-- The portion of a raw key for a map has the canonical form of the name and is ended by a bracket,
but it is not what precedes the first bracket: it has brackets itself, or it ends with a dot. -/
def HasBracketedPortion (key : Key) (raw : Text) : Prop :=
  ∃ portion rest, boundary? (segmentCount key.name) raw = some ⟨portion, .bracket, rest⟩ ∧
    canonical portion = canonical key.name ∧ ('[' ∈ portion ∨ portion.getLast? = some '.')

/-- A raw key in which brackets stand in the way of the name. Either the name is found only with the
brackets erased, or a map is found only in a portion that is not what precedes the first bracket. -/
def BracketClash (key : Key) (raw : Text) : Prop :=
  sameFirst key.name raw = true ∧
    match key.access with
    | .normal => MatchesErased key raw
    | .indexed => MatchesErased key raw ∧ canonical (bracketBase raw) ≠ canonical key.name
    | .map | .enumMap =>
      MatchesErased key raw ∧ ¬HasPortion key raw ∨
        ¬MatchesErased key raw ∧ HasBracketedPortion key raw

theorem notMem_bracketBase {raw : Text} (hopen : '[' ∈ raw) : '[' ∉ bracketBase raw := by
  obtain ⟨start, rest, rfl, hstart⟩ := List.eq_append_cons_of_mem hopen
  rw [bracketBase_append hstart]
  intro hmem
  rcases eq_dropFinal_or '.' start with heq | heq
  · exact hstart (heq ▸ hmem)
  · exact hstart (heq ▸ List.mem_append_left _ hmem)

theorem baseMatches_iff {name raw : Text} (hopen : '[' ∈ raw) :
    baseMatches (canonical name) raw = true ↔ canonical (bracketBase raw) = canonical name := by
  simp [baseMatches, hopen]

/-- If what precedes the first bracket is the name, it is the portion of the boundary: the name has
no brackets, so both have as many dots. -/
theorem boundary?_of_baseMatches {name raw : Text} (hname : '[' ∉ name) (hopen : '[' ∈ raw)
    (hbase : canonical (bracketBase raw) = canonical name) :
    ∃ boundary, boundary? (segmentCount name) raw = some boundary ∧
      boundary.portion = bracketBase raw := by
  have hfree := notMem_bracketBase hopen
  have hsegments : segmentCount name = (bracketBase raw).count '.' + 1 := by
    rw [segmentCount_of_notMem hname, ← count_dot_canonical name, ← hbase, count_dot_canonical]
  -- a dot before the bracket is dropped from the base, and then it is this dot that ends the portion
  obtain ⟨start, rest, rfl, hstart⟩ := List.eq_append_cons_of_mem hopen
  rw [bracketBase_append hstart] at hfree hsegments ⊢
  rw [hsegments]
  rcases eq_dropFinal_or '.' start with heq | heq
  · refine ⟨⟨dropFinal '.' start, .bracket, rest⟩, ?_, rfl⟩
    rw [← heq]
    exact boundary?_append_bracket hstart rest
  · refine ⟨⟨dropFinal '.' start, .dot, '[' :: rest⟩, ?_, rfl⟩
    have hraw : start ++ '[' :: rest = dropFinal '.' start ++ '.' :: '[' :: rest := by
      conv => lhs; rw [heq]
      simp
    rw [hraw]
    exact boundary?_append_dot hfree ('[' :: rest)

/-- A portion that is the name is found in the raw key, unless a bracket ends it and it is not what
precedes the first bracket. -/
theorem matches_of_hasPortion {key : Key} {raw : Text} (hmap : key.access.isMap = true)
    (hportion : HasPortion key raw) (hplain : ¬HasBracketedPortion key raw) :
    MatchesErased key raw ∨ canonical (bracketBase raw) = canonical key.name := by
  obtain ⟨⟨portion, mark, rest⟩, hboundary, hcanonical⟩ := hportion
  obtain ⟨hraw, hend⟩ := eq_of_boundary?_eq_some hboundary
  cases mark with
  | ending =>
    left; left
    rw [hraw, hend rfl]
    simpa [Mark.text] using hcanonical
  | dot =>
    left; right
    refine ⟨hmap, List.isPrefixOf_iff_prefix.mpr ⟨canonical rest, ?_⟩⟩
    rw [hraw]
    simp [Mark.text, hcanonical]
  | bracket =>
    right
    have hcut : raw = portion ++ '[' :: rest := by simpa [Mark.text] using hraw
    have hfree : '[' ∉ portion := fun hbracket =>
      hplain ⟨portion, rest, hboundary, hcanonical, Or.inl hbracket⟩
    have hlast : portion.getLast? ≠ some '.' := fun hdot =>
      hplain ⟨portion, rest, hboundary, hcanonical, Or.inr hdot⟩
    rw [hcut, bracketBase_append hfree, dropFinal_of_getLast?_ne hlast]
    exact hcanonical

/-- Where the portion is not what precedes the first bracket, the latter is not the name: else it
would be the portion. -/
theorem base_ne_of_hasBracketedPortion {key : Key} {raw : Text} (hname : '[' ∉ key.name)
    (hopen : '[' ∈ raw) (hportion : HasBracketedPortion key raw) :
    canonical (bracketBase raw) ≠ canonical key.name := by
  intro hbase
  obtain ⟨portion, rest, hboundary, -, hmarks⟩ := hportion
  obtain ⟨boundary, hother, heq⟩ := boundary?_of_baseMatches hname hopen hbase
  rw [hboundary] at hother
  rw [← Option.some.inj hother] at heq
  dsimp only at heq
  have hfree : '[' ∉ portion := heq ▸ notMem_bracketBase hopen
  have hcut : raw = portion ++ '[' :: rest := by
    simpa [Mark.text] using (eq_of_boundary?_eq_some hboundary).1
  rcases hmarks with hbracket | hdot
  · exact hfree hbracket
  · -- the base is the portion without its last dot, so it is shorter
    rw [hcut, bracketBase_append hfree, dropFinal, if_pos hdot] at heq
    have hlength := congrArg List.length heq
    have hpos : 0 < portion.length := List.length_pos_iff.mpr (by rintro rfl; simp at hdot)
    rw [List.length_dropLast] at hlength
    omega

/-- The parts of a faultless raw key for a map exist exactly if its portion is the name. -/
theorem isSome_parts?_of_isMap_iff {key : Key} {raw : Text} (hmap : key.access.isMap = true)
    (hscan : Faultless (events key raw)) :
    (parts? key raw false).isSome = true ↔
      sameFirst key.name raw = true ∧ HasPortion key raw := by
  rw [Option.isSome_iff_exists]
  simp only [parts?_eq_some_iff, exists_and_left]
  rw [shape?_of_isMap hmap,
    exists_splitMap?_iff (P := fun portion => canonical portion = canonical key.name),
    and_iff_right (Access.ne_normal_of_isMap hmap)]
  refine and_congr_right (fun _ => exists_congr (fun boundary => ?_))
  constructor
  · rintro ⟨hboundary, -, hportion⟩
    exact ⟨hboundary, hportion⟩
  · rintro ⟨hboundary, hportion⟩
    exact ⟨hboundary, isSome_closeBracket?_of_boundary hscan hboundary, hportion⟩

/-- The parts of a faultless raw key for a list exist exactly if what precedes the first bracket is
the name. -/
theorem isSome_parts?_of_indexed_iff {key : Key} {raw : Text} (hindexed : key.access = .indexed)
    (hscan : Faultless (events key raw)) :
    (parts? key raw false).isSome = true ↔ sameFirst key.name raw = true ∧
      canonical (bracketBase raw) = canonical key.name := by
  rw [Option.isSome_iff_exists]
  simp only [parts?_eq_some_iff, exists_and_left]
  rw [shape?_of_indexed hindexed,
    exists_splitIndexed?_iff (P := fun portion => canonical portion = canonical key.name), hindexed,
    and_iff_right (by decide)]
  refine and_congr_right (fun _ => and_iff_right ?_)
  rintro start rest rfl hstart
  exact isSome_closeBracket?_of_boundary hscan (boundary?_append_bracket hstart rest) rfl

/-- For a map, comparing and cutting agree exactly where neither kind of clash occurs. -/
theorem matches_iff_hasPortion_iff {key : Key} {raw : Text} (hmap : key.access.isMap = true)
    (hname : '[' ∉ key.name) (hopen : '[' ∈ raw) :
    ((MatchesErased key raw ∨ canonical (bracketBase raw) = canonical key.name) ↔
        HasPortion key raw) ↔
      ¬(MatchesErased key raw ∧ ¬HasPortion key raw ∨
        ¬MatchesErased key raw ∧ HasBracketedPortion key raw) := by
  have hbase : canonical (bracketBase raw) = canonical key.name → HasPortion key raw := by
    intro hbase
    obtain ⟨boundary, hboundary, hportion⟩ := boundary?_of_baseMatches hname hopen hbase
    exact ⟨boundary, hboundary, hportion ▸ hbase⟩
  have hplain : HasPortion key raw → ¬HasBracketedPortion key raw →
      MatchesErased key raw ∨ canonical (bracketBase raw) = canonical key.name :=
    matches_of_hasPortion hmap
  have hbracketed : HasBracketedPortion key raw →
      canonical (bracketBase raw) ≠ canonical key.name :=
    base_ne_of_hasBracketedPortion hname hopen
  have hportion : HasBracketedPortion key raw → HasPortion key raw := by
    rintro ⟨portion, rest, hboundary, hcanonical, -⟩
    exact ⟨_, hboundary, hcanonical⟩
  constructor
  · rintro hiff (⟨hmatch, hno⟩ | ⟨hno, hclash⟩)
    · exact hno (hiff.mp (Or.inl hmatch))
    · rcases hiff.mpr (hportion hclash) with hmatch | heq
      · exact hno hmatch
      · exact hbracketed hclash heq
  · intro hclash
    constructor
    · rintro (hmatch | heq)
      · exact by_contra fun hno => hclash (Or.inl ⟨hmatch, hno⟩)
      · exact hbase heq
    · intro hcut
      by_cases hmatch : MatchesErased key raw
      · exact Or.inl hmatch
      · exact hplain hcut fun hother => hclash (Or.inr ⟨hmatch, hother⟩)

/-- **Where brackets clash with names.** Take a name without brackets, and a raw key with brackets in
which the scan for indices finds nothing wrong. That the raw key is bound exactly if it has parts,
and never to a scalar, holds unless there is a clash, and fails at every clash. -/
theorem binds_iff_parts?_iff (key : Key) (raw : Text) (hname : '[' ∉ key.name) (hopen : '[' ∈ raw)
    (hscan : Faultless (events key raw)) :
    (binds key raw = true ↔
      key.access ≠ .normal ∧ (parts? key raw false).isSome = true) ↔ ¬BracketClash key raw := by
  -- for all but maps only the name with the brackets erased can clash
  have herased : key.access.isMap = false →
      (MatchesErased key raw ↔ canonical raw = canonical key.name) := by
    intro hmap
    rw [MatchesErased, hmap]
    simp
  rcases Access.isMap_or key.access with hmap | hnormal | hindexed
  · have hclash : BracketClash key raw ↔ sameFirst key.name raw = true ∧
        (MatchesErased key raw ∧ ¬HasPortion key raw ∨
          ¬MatchesErased key raw ∧ HasBracketedPortion key raw) := by
      rw [BracketClash]
      rcases Access.eq_map_or_eq_enumMap hmap with haccess | haccess <;> rw [haccess]
    have hwhole : (canonical raw = canonical key.name ∨
        extendsByDot (canonical key.name) (canonical raw) = true) ↔ MatchesErased key raw := by
      rw [MatchesErased, and_iff_right hmap]
    rw [and_iff_right (Access.ne_normal_of_isMap hmap), hclash, binds_of_isMap_iff hmap,
      isSome_parts?_of_isMap_iff hmap hscan, hwhole, baseMatches_iff hopen]
    by_cases hfirst : sameFirst key.name raw = true
    · simp only [hfirst, true_and]
      exact matches_iff_hasPortion_iff hmap hname hopen
    · simp [hfirst]
  · rw [binds_of_normal_iff hnormal, BracketClash, hnormal, herased (by rw [hnormal]; rfl)]
    simp
  · rw [binds_of_indexed_iff hindexed, isSome_parts?_of_indexed_iff hindexed hscan, BracketClash,
      hindexed, herased (by rw [hindexed]; rfl), baseMatches_iff hopen]
    by_cases hfirst : sameFirst key.name raw = true
    · by_cases hbase : canonical (bracketBase raw) = canonical key.name
      · simp [hfirst, hbase]
      · simp [hfirst, hbase]
    · simp [hfirst]

/-- An index after the name makes no clash, one that completes the name does. -/
theorem binds_iff_parts?_iff_textList :
    ¬BracketClash (.textList "app.servers".toList) "app.servers[0]".toList ∧
      BracketClash (.textList "app.servers0".toList) "app.servers[0]".toList := by
  have hplain := binds_iff_parts?_iff (.textList "app.servers".toList) "app.servers[0]".toList
    (by decide) (by decide) (by decide)
  have hclash := binds_iff_parts?_iff (.textList "app.servers0".toList) "app.servers[0]".toList
    (by decide) (by decide) (by decide)
  refine ⟨hplain.mp (by decide), by_contra fun hno => ?_⟩
  exact absurd (hclash.mpr hno) (by decide)

/-- A scalar is bound by a raw key with an index, if the index completes the name. -/
theorem binds_scalar_of_index :
    '[' ∉ "app.servers0".toList ∧ ']' ∉ "app.servers0".toList ∧
      '[' ∈ "app.servers[0]".toList ∧
      Faultless (events (.scalar "app.servers0".toList) "app.servers[0]".toList) ∧
      binds (.scalar "app.servers0".toList) "app.servers[0]".toList = true ∧
      ¬(binds (.scalar "app.servers0".toList) "app.servers[0]".toList = true ↔
        (Key.scalar "app.servers0".toList).access ≠ .normal ∧
          (parts? (.scalar "app.servers0".toList) "app.servers[0]".toList false).isSome = true) := by
  decide

/-- A map is not bound by a raw key that has parts for it, if a bracket stands in the portion. -/
example :
    binds (.textMap "ax.b".toList) "a[x].b[y]".toList = false ∧
      (parts? (.textMap "ax.b".toList) "a[x].b[y]".toList false).isSome = true := by
  decide

end PropertyKeys.Strict

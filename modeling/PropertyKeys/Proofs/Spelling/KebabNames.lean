import PropertyKeys.Proofs.Spelling.Ends

/-!
# Dotted names of dashed words

The usual form of a declared name: segments with dots between them, each of words with dashes
between them.

## Main definitions

* `Spelling.IsKebabSegment`: the words of one segment.
* `Spelling.kebabPath`: the name of given segments.

## Main results

* `Spelling.exists_ends_kebabPath` / `Spelling.mem_kebabPath`: the characters of such a name.
* `Spelling.replace_intercalate`: underscores in place of the dashes of a segment.
-/

namespace PropertyKeys.Spelling

open Unicode Text

/-- The words of one segment of a name: at least one, each of small letters and digits. -/
structure IsKebabSegment (words : List Text) : Prop where
  ne_nil : words ≠ []
  isKebabWord : ∀ word ∈ words, IsKebabWord word

instance (words : List Text) : Decidable (IsKebabSegment words) :=
  decidable_of_iff (words ≠ [] ∧ ∀ word ∈ words, IsKebabWord word)
    ⟨fun h => ⟨h.1, h.2⟩, fun h => ⟨h.ne_nil, h.isKebabWord⟩⟩

/-- The dotted name of the given segments, each of dashed words. -/
def kebabPath (segments : List (List Text)) : Text :=
  ['.'].intercalate (segments.map fun words => ['-'].intercalate words)

section Pieces

variable {separator : Char} {pieces : List Text}

theorem head?_intercalate {piece : Text} (hpiece : piece ≠ []) :
    ([separator].intercalate (piece :: pieces)).head? = piece.head? := by
  rw [intercalate_eq_flatMap, List.head?_append_of_ne_nil piece hpiece]

/-- If all pieces start with a small letter or digit and end with one, so do the joined pieces. -/
theorem exists_ends_intercalate (hpieces : pieces ≠ [])
    (hends : ∀ piece ∈ pieces, (∃ c, piece.head? = some c ∧ isWordChar c = true) ∧
      ∃ c, piece.getLast? = some c ∧ isWordChar c = true) :
    (∃ c, ([separator].intercalate pieces).head? = some c ∧ isWordChar c = true) ∧
      ∃ c, ([separator].intercalate pieces).getLast? = some c ∧ isWordChar c = true := by
  have hne : ∀ piece ∈ pieces, piece ≠ [] := by
    rintro piece hpiece rfl
    obtain ⟨c, hc, -⟩ := (hends [] hpiece).1
    exact absurd hc (by simp)
  constructor
  · obtain ⟨piece, rest, rfl⟩ := List.exists_cons_of_ne_nil hpieces
    rw [head?_intercalate (hne piece List.mem_cons_self)]
    exact (hends piece List.mem_cons_self).1
  · obtain ⟨init, piece, rfl⟩ := (List.eq_nil_or_concat' pieces).resolve_left hpieces
    have hpiece : piece ∈ init ++ [piece] := by simp
    rw [getLast?_intercalate (hne piece hpiece)]
    exact (hends piece hpiece).2

/-- Dashes between words become underscores. -/
theorem replace_intercalate {words : List Text} (hwords : ∀ word ∈ words, IsKebabWord word) :
    replace '-' '_' (['-'].intercalate words) = ['_'].intercalate words := by
  have hkeep : ∀ word ∈ words, replace '-' '_' word = word := by
    intro word hword
    refine replace_of_forall_ne (fun c hc => ?_) '_'
    rintro rfl
    exact absurd ((hwords word hword).isWordChar '-' hc) (by decide)
  cases words with
  | nil => rfl
  | cons word words =>
    have hrest : (words.flatMap ('-' :: ·)).map (fun c => if c = '-' then '_' else c) =
        words.flatMap ('_' :: ·) := by
      rw [List.map_flatMap, List.flatMap_def, List.flatMap_def, List.map_congr_left]
      exact fun other hother => congrArg ('_' :: ·) (hkeep other (List.mem_cons_of_mem _ hother))
    rw [intercalate_eq_flatMap, intercalate_eq_flatMap, replace_append,
      hkeep word List.mem_cons_self, replace, hrest]

end Pieces

section Kebab

variable {words : List Text} {segments earlier : List (List Text)}

theorem IsKebabSegment.exists_ends (h : IsKebabSegment words) :
    (∃ c, (['-'].intercalate words).head? = some c ∧ isWordChar c = true) ∧
      ∃ c, (['-'].intercalate words).getLast? = some c ∧ isWordChar c = true := by
  refine exists_ends_intercalate h.ne_nil fun word hword => ?_
  have hchars := (h.isKebabWord word hword).isWordChar
  have hne := (h.isKebabWord word hword).ne_nil
  exact ⟨⟨word.head hne, List.head?_eq_some_head hne, hchars _ (List.head_mem hne)⟩,
    word.getLast hne, List.getLast?_eq_some_getLast hne, hchars _ (List.getLast_mem hne)⟩

theorem exists_ends_kebabPath (hsegments : segments ≠ [])
    (h : ∀ segment ∈ segments, IsKebabSegment segment) :
    (∃ c, (kebabPath segments).head? = some c ∧ isWordChar c = true) ∧
      ∃ c, (kebabPath segments).getLast? = some c ∧ isWordChar c = true := by
  refine exists_ends_intercalate (by simpa using hsegments) fun piece hpiece => ?_
  obtain ⟨segment, hsegment, rfl⟩ := List.mem_map.mp hpiece
  exact (h segment hsegment).exists_ends

theorem mem_kebabPath (h : ∀ segment ∈ segments, IsKebabSegment segment) {c : Char}
    (hc : c ∈ kebabPath segments) : isWordChar c = true ∨ isSeparator c = true := by
  rcases mem_of_mem_intercalate hc with rfl | ⟨piece, hpiece, hc⟩
  · exact Or.inr rfl
  · obtain ⟨segment, hsegment, rfl⟩ := List.mem_map.mp hpiece
    rcases mem_of_mem_intercalate hc with rfl | ⟨word, hword, hc⟩
    · exact Or.inr rfl
    · exact Or.inl (((h segment hsegment).isKebabWord word hword).isWordChar c hc)

theorem kebabPath_concat (hearlier : earlier ≠ []) (last : List Text) :
    kebabPath (earlier ++ [last]) =
      kebabPath earlier ++ ['.'] ++ ['-'].intercalate last := by
  rw [kebabPath, List.map_append, intercalate_append _ (by simpa using hearlier) (by simp),
    List.map_singleton, List.intercalate_singleton, ← kebabPath]

/-- The letters of words do not depend on how the words are separated. -/
theorem letters_intercalate (hwords : ∀ word ∈ words, IsKebabWord word) :
    letters (['_'].intercalate words) = letters (camelCase words) := by
  have hascii : IsAscii (['-'].intercalate words) := isAscii_intercalate (by decide) hwords
  have hdash : ∀ c, (!isSeparator c && c != '-') = !isSeparator c := by
    intro c
    by_cases hc : c = '-'
    · subst hc
      rfl
    · simp [hc]
  rw [← replace_intercalate hwords, letters, filter_folded_replace rfl rfl rfl rfl,
    ← joinDashed_intercalate hwords, letters, folded_joinDashed hascii, List.filter_filter]
  simp only [hdash]

theorem isCaseOf_of_mem_camelCase (hwords : ∀ word ∈ words, IsKebabWord word) {c : Char}
    (hc : c ∈ camelCase words) : IsCaseOf c.toLower c := by
  refine isCaseOf_of_isWordChar_toLower ?_
  rcases mem_camelCase hwords hc with hchar | hupper
  · rwa [toLower_of_not_isUpper (isWordChar_spec hchar).1]
  · exact Bool.or_eq_true_iff.mpr (Or.inl (isLower_toLower hupper))

end Kebab

end PropertyKeys.Spelling

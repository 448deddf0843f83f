import PropertyKeys.Proofs.Naming.RelaxedParts
import PropertyKeys.Proofs.Spelling.Rounds
import PropertyKeys.Proofs.Spelling.WordForms

/-!
# Renderings that the relaxed dialect binds

A key whose last segment has dashed words may be written with these words in camel case or separated
in any of the usual ways, and in capitals, with or without its dots. Each of these renderings is a
variant of the key, which starts from the camel case of the last segment. To get at the rendering
with underscores throughout, the first round joins all words of the key and the second one separates
them again.

## Main definitions

* `Relaxed.Rendering`: the ways to write a key.

## Main results

* `Relaxed.binds_of_rendering`: all of them are bound.
-/

namespace PropertyKeys.Spelling

open Unicode Text

/-- What precedes the last segment of a key: small letters, digits and separators, with a letter or
a digit at the front and a dot at the end. -/
structure IsLead (lead : Text) : Prop where
  chars : ∀ c ∈ lead, isWordChar c = true ∨ isSeparator c = true
  first : ∃ c, lead.head? = some c ∧ isWordChar c = true
  last : lead.getLast? = some '.'

namespace IsLead

variable {lead : Text}

theorem isUpper_eq_false (h : IsLead lead) : ∀ c ∈ lead, c.isUpper = false := by
  intro c hc
  rcases h.chars c hc with hchar | hseparator
  · exact (isWordChar_spec hchar).1
  · rcases eq_of_isSeparator hseparator with rfl | rfl | rfl <;> rfl

theorem ascii (h : IsLead lead) : IsAscii lead := by
  intro c hc
  rcases h.chars c hc with hchar | hseparator
  · exact ascii_of_isWordChar hchar
  · rcases eq_of_isSeparator hseparator with rfl | rfl | rfl <;> decide

end IsLead

section Words

variable {lead : Text} {words : List Text}

/-- Underscores between words stay when dots become underscores. -/
theorem replace_dot_intercalate (hwords : ∀ word ∈ words, IsWord word) (lead : Text) :
    replace '.' '_' (lead ++ ['_'].intercalate words) =
      replace '.' '_' lead ++ ['_'].intercalate words := by
  have hkeep : (['_'].intercalate words).map (fun c => if c = '.' then '_' else c) =
      ['_'].intercalate words := by
    refine (List.map_congr_left fun c hc => if_neg ?_).trans (List.map_id _)
    rintro rfl
    exact notMem_intercalate rfl (by decide) (IsWord.forall_isKebabWord hwords) hc
  rw [replace, List.map_append, hkeep, replace]

/-- The last segment of a key with dashed words is put into camel case. -/
theorem camelLastSegment_dashed (hlead : IsLead lead)
    (hwords : ∀ word ∈ words, IsKebabWord word) :
    camelLastSegment (lead ++ ['-'].intercalate words) = lead ++ camelCase words := by
  obtain ⟨start, rfl⟩ := List.getLast?_eq_some_iff.mp hlead.last
  have hdot : '.' ∉ ['-'].intercalate words := notMem_intercalate rfl (by decide) hwords
  rw [camelLastSegment, List.append_assoc, List.singleton_append, splitLast?_append hdot,
    List.append_assoc, List.singleton_append]
  exact congrArg (start ++ '.' :: ·) (joinDashed_intercalate hwords)

/-- Dashed and dotted words with one kind of separator are the words joined by it. -/
theorem map_segmentsText_append_intercalate {f : Char → Char} {separator : Char}
    {segments : List (Text × Char)} (hf : ∀ c, isWordChar c = true → f c = c)
    (hsegments : ∀ segment ∈ segments, IsWord segment.1 ∧ f segment.2 = separator)
    (hdash : f '-' = separator) (hnonempty : words ≠ [])
    (hwords : ∀ word ∈ words, IsWord word) :
    (segmentsText segments ++ ['-'].intercalate words).map f =
      [separator].intercalate (segments.map Prod.fst ++ words) := by
  have hword : ∀ word, IsWord word → word.map f = word := fun word hword =>
    (List.map_congr_left fun c hc => hf c (hword.isWordChar c hc)).trans (List.map_id word)
  induction segments with
  | nil =>
    cases words with
    | nil => exact absurd rfl hnonempty
    | cons word words =>
      have hrest : (words.flatMap ('-' :: ·)).map f = words.flatMap (separator :: ·) := by
        rw [List.map_flatMap, List.flatMap_def, List.flatMap_def, List.map_congr_left]
        intro other hother
        rw [List.map_cons, hdash, hword other (hwords other (List.mem_cons_of_mem _ hother))]
      rw [segmentsText, List.flatMap_nil, List.nil_append, List.map_nil, List.nil_append,
        intercalate_eq_flatMap, intercalate_eq_flatMap, List.map_append, hrest,
        hword word (hwords word List.mem_cons_self)]
  | cons segment segments ih =>
    obtain ⟨hsegment, hmark⟩ := hsegments segment List.mem_cons_self
    have hrest := ih fun other hother => hsegments other (List.mem_cons_of_mem _ hother)
    have hmore : segments.map Prod.fst ++ words ≠ [] :=
      List.append_ne_nil_of_right_ne_nil _ hnonempty
    rw [segmentsText, List.flatMap_cons, ← segmentsText, List.append_assoc, List.map_append, hrest,
      List.map_append, hword segment.1 hsegment, List.map_singleton, hmark, List.map_cons,
      List.cons_append, List.intercalate_cons_of_ne_nil hmore]

end Words

end PropertyKeys.Spelling

namespace PropertyKeys.Relaxed

open Unicode Text Spelling

/-- An underscore in place of a dot or a dash. -/
def underscoreMark (c : Char) : Char :=
  if c = '.' ∨ c = '-' then '_' else c

theorem underscoreMark_of_isWordChar (c : Char) (hc : isWordChar c = true) :
    underscoreMark c = c := by
  refine if_neg ?_
  rintro (rfl | rfl) <;> exact absurd hc (by decide)

/-- The ways to write the key that consists of a lead and dashed words. -/
inductive Rendering (lead : Text) (words : List Text) : Text → Prop
  | camel : Rendering lead words (lead ++ camelCase words)
  | dashed : Rendering lead words (lead ++ ['-'].intercalate words)
  | underscored : Rendering lead words (lead ++ ['_'].intercalate words)
  | capitals : Rendering lead words ((lead ++ ['_'].intercalate words).map Char.toUpper)
  /-- In capitals, with underscores for the dots of the lead. -/
  | capitalsWithoutDots :
    Rendering lead words ((replace '.' '_' lead ++ ['_'].intercalate words).map Char.toUpper)
  /-- In capitals, with underscores throughout. The lead consists of words with a dot or a dash
  behind each. -/
  | capitalsThroughout (segments : List (Text × Char))
      (hlead : lead = segmentsText segments)
      (hsegments : ∀ segment ∈ segments,
        IsWord segment.1 ∧ (segment.2 = '.' ∨ segment.2 = '-')) :
    Rendering lead words
      (((lead ++ ['-'].intercalate words).map underscoreMark).map Char.toUpper)

section Rendering

variable {lead raw : Text} {words : List Text}

/-- Two texts start with the same character and end with the same one, both small letters or
digits. -/
def SameEnds (a b : Text) : Prop :=
  ∃ first last, isWordChar first = true ∧ isWordChar last = true ∧
    a.head? = some first ∧ b.head? = some first ∧ a.getLast? = some last ∧ b.getLast? = some last

/-- A change of case leaves the ends of a text as good as they were. -/
theorem SameEnds.sameFirst_and_sameLast {a b : Text} (h : SameEnds a b) (casing : Casing) :
    sameFirst a (b.map casing.char) = true ∧ sameLast a (b.map casing.char) = true := by
  obtain ⟨first, last, hfirst, hlast, ha, hb, ha', hb'⟩ := h
  constructor
  · rw [sameFirst, List.head?_map, ha, hb]
    exact beq_iff_eq.mpr (casing.lowerChar_char (ascii_of_isWordChar hfirst)).symm
  · rw [sameLast, List.getLast?_map, ha', hb']
    exact beq_iff_eq.mpr (casing.lowerChar_char (ascii_of_isWordChar hlast)).symm

/-- Whatever the lead and the words are made into, the ends are those of the lead and of the last
word. -/
theorem sameEnds_append {init : List Text} {word form : Text} (hlead : IsLead lead)
    (hword : IsWord word) {f : Char → Char} (hf : ∀ c, isWordChar c = true → f c = c)
    (hform : form.getLast? = word.getLast?) :
    SameEnds (lead ++ ['-'].intercalate (init ++ [word])) (lead.map f ++ form) := by
  obtain ⟨first, hfirst, hfirstChar⟩ := hlead.first
  obtain ⟨last, hlast⟩ : ∃ last, word.getLast? = some last :=
    ⟨word.getLast hword.ne_nil, List.getLast?_eq_some_getLast hword.ne_nil⟩
  refine ⟨first, last, hfirstChar, hword.isWordChar last (List.mem_of_getLast? hlast), ?_⟩
  refine ⟨?_, ?_, ?_, ?_⟩
  · rw [List.head?_append, hfirst, Option.some_or]
  · rw [List.head?_append, List.head?_map, hfirst, Option.map_some, Option.some_or,
      hf first hfirstChar]
  · rw [List.getLast?_append, getLast?_intercalate hword.ne_nil, hlast, Option.some_or]
  · rw [List.getLast?_append, hform, hlast, Option.some_or]

/-- A rendering is a text with the ends of the key, in some case. -/
theorem Rendering.exists_map (hlead : IsLead lead) (hnonempty : words ≠ [])
    (hwords : ∀ word ∈ words, IsWord word) (h : Rendering lead words raw) :
    ∃ (casing : Casing) (body : Text), raw = body.map casing.char ∧
      SameEnds (lead ++ ['-'].intercalate words) body := by
  obtain ⟨init, word, rfl⟩ := (List.eq_nil_or_concat' words).resolve_left hnonempty
  have hword : IsWord word := hwords word (by simp)
  have hseparated : ∀ separator : Char,
      ([separator].intercalate (init ++ [word])).getLast? = word.getLast? :=
    fun _ => getLast?_intercalate hword.ne_nil
  have hkeep : ∀ form : Text, form.getLast? = word.getLast? →
      SameEnds (lead ++ ['-'].intercalate (init ++ [word])) (lead ++ form) := by
    intro form hform
    simpa using sameEnds_append hlead hword (f := id) (fun _ _ => rfl) hform
  cases h with
  | camel => exact ⟨.keep, _, (List.map_id _).symm, hkeep _ (getLast?_camelCase hword)⟩
  | dashed => exact ⟨.keep, _, (List.map_id _).symm, hkeep _ (hseparated '-')⟩
  | underscored => exact ⟨.keep, _, (List.map_id _).symm, hkeep _ (hseparated '_')⟩
  | capitals => exact ⟨.upper, _, rfl, hkeep _ (hseparated '_')⟩
  | capitalsWithoutDots =>
    refine ⟨.upper, _, rfl, sameEnds_append hlead hword (fun c hc => if_neg ?_) (hseparated '_')⟩
    rintro rfl
    exact absurd hc (by decide)
  | capitalsThroughout segments _ _ =>
    rw [List.map_append]
    refine ⟨.upper, _, rfl, sameEnds_append hlead hword underscoreMark_of_isWordChar ?_⟩
    obtain ⟨start, last, rfl⟩ := (List.eq_nil_or_concat' word).resolve_left hword.ne_nil
    rw [List.getLast?_map, hseparated, List.getLast?_concat, Option.map_some,
      underscoreMark_of_isWordChar last (hword.isWordChar last (by simp))]

/-- The rendering in capitals that replaces the dots of the lead: the words are separated first, and
then the dots are replaced. -/
theorem capitalsWithoutDots_mem_variants (hlead : IsLead lead)
    (hwords : ∀ word ∈ words, IsWord word) :
    (replace '.' '_' lead ++ ['_'].intercalate words).map Char.toUpper ∈
      variants (lead ++ camelCase words) := by
  have hseparated : Separation.apply .camelToUnderscore (lead ++ camelCase words) =
      lead ++ ['_'].intercalate words :=
    separateWords_camelCase '_' hlead.isUpper_eq_false hwords
  have hascii : IsAscii (replace '.' '_' (lead ++ ['_'].intercalate words)) :=
    (hlead.ascii.append
      (isAscii_intercalate (by decide) (IsWord.forall_isKebabWord hwords))).map fun c hc => by
      split
      · decide
      · exact hc
  rw [← replace_dot_intercalate hwords, ← upper_of_isAscii hascii, ← hseparated]
  exact apply_mem_variants .camelToUnderscore .dotToUnderscore .upper _

/-- The rendering in capitals throughout: all words are joined first, and then they are
separated. -/
theorem capitalsThroughout_mem_variants {segments : List (Text × Char)}
    (hsegments : ∀ segment ∈ segments, IsWord segment.1 ∧ (segment.2 = '.' ∨ segment.2 = '-'))
    (hnonempty : words ≠ []) (hwords : ∀ word ∈ words, IsWord word) :
    ((segmentsText segments ++ ['-'].intercalate words).map underscoreMark).map Char.toUpper ∈
      variants (segmentsText segments ++ camelCase words) := by
  have hall : ∀ word ∈ segments.map Prod.fst ++ words, IsWord word := by
    intro word hword
    rcases List.mem_append.mp hword with hword | hword
    · obtain ⟨segment, hsegment, rfl⟩ := List.mem_map.mp hword
      exact (hsegments segment hsegment).1
    · exact hwords word hword
  have hseparators : ∀ segment ∈ segments, IsWord segment.1 ∧ isSeparator segment.2 = true := by
    intro segment hsegment
    refine ⟨(hsegments segment hsegment).1, ?_⟩
    rcases (hsegments segment hsegment).2 with hmark | hmark <;> rw [hmark] <;> rfl
  have hjoined : Separation.apply .joinCamel (segmentsText segments ++ camelCase words) =
      camelCase (segments.map Prod.fst ++ words) :=
    joinWords_segments hseparators hnonempty hwords
  have hseparated : Separation.apply .camelToUnderscore
      (camelCase (segments.map Prod.fst ++ words)) =
        ['_'].intercalate (segments.map Prod.fst ++ words) :=
    separateWords_camelCase '_' (fun c hc => absurd hc List.not_mem_nil) hall
  have hmarks : ∀ segment ∈ segments,
      IsWord segment.1 ∧ underscoreMark segment.2 = '_' :=
    fun segment hsegment => ⟨(hsegments segment hsegment).1, if_pos (hsegments segment hsegment).2⟩
  rw [map_segmentsText_append_intercalate underscoreMark_of_isWordChar hmarks rfl hnonempty hwords,
    ← upper_of_isAscii (isAscii_intercalate (by decide) (IsWord.forall_isKebabWord hall)),
    ← hseparated, ← hjoined]
  exact apply_mem_variants .joinCamel .camelToUnderscore .upper _

/-- Every rendering is a variant of the key. -/
theorem Rendering.mem_keyVariants (hlead : IsLead lead) (hnonempty : words ≠ [])
    (hwords : ∀ word ∈ words, IsWord word) (h : Rendering lead words raw) :
    raw ∈ keyVariants (lead ++ ['-'].intercalate words) := by
  rw [keyVariants, camelLastSegment_dashed hlead (IsWord.forall_isKebabWord hwords)]
  have hseparated : ∀ separator, separateWords separator (lead ++ camelCase words) =
      lead ++ [separator].intercalate words :=
    fun separator => separateWords_camelCase separator hlead.isUpper_eq_false hwords
  cases h with
  | camel => exact apply_mem_variants .keep .keep .keep _
  | dashed =>
    rw [← hseparated]
    exact apply_mem_variants .keep .camelToHyphen .keep _
  | underscored =>
    rw [← hseparated]
    exact apply_mem_variants .keep .camelToUnderscore .keep _
  | capitals =>
    rw [← upper_of_isAscii (hlead.ascii.append
        (isAscii_intercalate (by decide) (IsWord.forall_isKebabWord hwords))),
      ← hseparated]
    exact apply_mem_variants .keep .camelToUnderscore .upper _
  | capitalsWithoutDots => exact capitalsWithoutDots_mem_variants hlead hwords
  | capitalsThroughout segments hsegmentsText hsegments =>
    subst hsegmentsText
    exact capitalsThroughout_mem_variants hsegments hnonempty hwords

end Rendering

/-- **Every rendering of a key is bound.** The key is a scalar whose name consists of a lead and of
dashed words behind it. -/
theorem binds_of_rendering (key : Key) (lead : Text) (words : List Text) (raw : Text)
    (hnormal : key.access = .normal) (hlead : IsLead lead) (hnonempty : words ≠ [])
    (hwords : ∀ word ∈ words, IsWord word)
    (hname : key.name = lead ++ ['-'].intercalate words) (h : Rendering lead words raw) :
    binds key raw = true := by
  obtain ⟨casing, body, hraw, hends⟩ := h.exists_map hlead hnonempty hwords
  obtain ⟨hfirst, hlast⟩ := hends.sameFirst_and_sameLast casing
  rw [← hraw, ← hname] at hfirst hlast
  have hvariant : raw ∈ keyVariants key.name :=
    hname ▸ h.mem_keyVariants hlead hnonempty hwords
  refine (binds_of_normal_iff hnormal).mpr ⟨hfirst, ?_⟩
  rw [same, Bool.or_eq_true, Bool.and_eq_true]
  exact Or.inr ⟨hlast, List.contains_iff_mem.mpr hvariant⟩

/-- A key with a dash in its lead, in capitals throughout. -/
theorem binds_of_rendering_dataSource :
    binds (.scalar "spring.data-source.max-pool-size".toList)
      "SPRING_DATA_SOURCE_MAX_POOL_SIZE".toList = true := by
  have hchars :
      "spring.data-source.".toList.all (fun c => isWordChar c || isSeparator c) = true := by
    decide
  have hlead : IsLead "spring.data-source.".toList :=
    ⟨fun c hc => Bool.or_eq_true_iff.mp (List.all_eq_true.mp hchars c hc), ⟨'s', rfl, by decide⟩,
      rfl⟩
  have hrendering : Rendering "spring.data-source.".toList
      ["max".toList, "pool".toList, "size".toList] "SPRING_DATA_SOURCE_MAX_POOL_SIZE".toList :=
    .capitalsThroughout [("spring".toList, '.'), ("data".toList, '-'), ("source".toList, '.')] rfl
      (by decide)
  exact binds_of_rendering (.scalar "spring.data-source.max-pool-size".toList) _ _ _
    (Key.access_scalar _) hlead (by decide) (by decide) rfl hrendering

end PropertyKeys.Relaxed

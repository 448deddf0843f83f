import PropertyKeys.Proofs.Naming.RelaxedEnds
import PropertyKeys.Proofs.Naming.RelaxedRenderings
import PropertyKeys.Proofs.Spelling.CapitalRows
import PropertyKeys.Proofs.Spelling.KebabNames
import PropertyKeys.Proofs.Spelling.TightRows

/-!
# Underscores for dashes in the relaxed dialect

A name without a dot is bound with underscores for its dashes, whatever its words are. The last
segment of a dotted name is put into camel case first, and its words have to be found again. A word
that starts with a digit has no capital and is not found. Words of one letter leave a row of
capitals, and each of the two rounds takes one capital off it, unless the round is needed for the
dashes of the other segments.

## Main definitions

* `Spelling.underscored`: a dotted name with underscores for its dashes.

## Main results

* `Spelling.underscored_mem_variants_iff`: when the underscored form of a dotted name is a variant.
* `Relaxed.binds_underscored_iff`: when a scalar is bound by its name with underscores for dashes.
-/

namespace PropertyKeys.Spelling

open Unicode Text

/-- What precedes the last segment of a dotted name. -/
theorem isLead_kebabPath {earlier : List (List Text)} (hearlier : earlier ≠ [])
    (h : ∀ segment ∈ earlier, IsKebabSegment segment) : IsLead (kebabPath earlier ++ ['.']) := by
  obtain ⟨c, hhead, hc⟩ := (exists_ends_kebabPath hearlier h).1
  refine ⟨fun d hd => ?_, ⟨c, by rw [List.head?_append, hhead, Option.some_or], hc⟩, by simp⟩
  rcases List.mem_append.mp hd with hd | hd
  · exact mem_kebabPath h hd
  · exact Or.inr (List.mem_singleton.mp hd ▸ rfl)

/-- A lead and the words of the last segment with underscores for all dashes. -/
def underscored (lead : Text) (words : List Text) : Text :=
  replace '-' '_' lead ++ ['_'].intercalate words

section Underscored

variable {lead : Text} {last : List Text}

/-- **Enough rounds find all words of the last segment**, if each of them got a capital. -/
theorem iterate_separateWords_camelCase (hlead : IsLead lead)
    (hwords : ∀ word ∈ last, IsKebabWord word)
    (hletters : ∀ word ∈ last.tail, startsWithLetter word = true) {times : Nat}
    (hrow : longestRow (camelCase last) ≤ times) :
    (separateWords '_')^[times] (lead ++ camelCase last) = lead ++ ['_'].intercalate last := by
  obtain ⟨start, rfl⟩ := List.getLast?_eq_some_iff.mp hlead.last
  have hstart : ∀ c ∈ start, c.isUpper = false :=
    fun c hc => hlead.isUpper_eq_false c (List.mem_append_left _ hc)
  have hdash : '-' ∉ camelCase last := by
    intro hmem
    rcases mem_camelCase hwords hmem with hchar | hupper
    · exact absurd hchar (by decide)
    · exact absurd hupper (by decide)
  rw [List.append_assoc, List.singleton_append,
    iterate_separateWords rfl (by decide) hstart times hdash hrow,
    separateCapitals_camelCase '_' hwords hletters, List.append_assoc, List.singleton_append]

/-- The underscored form is a variant if the rows of capitals are short enough. -/
theorem underscored_mem_variants (hlead : IsLead lead) (hwords : ∀ word ∈ last, IsKebabWord word)
    (hletters : ∀ word ∈ last.tail, startsWithLetter word = true)
    (hrow : longestRow (camelCase last) ≤ if '-' ∈ lead then 1 else 2) :
    underscored lead last ∈ variants (lead ++ camelCase last) := by
  -- without a dash in the lead both rounds can separate words
  by_cases hdash : '-' ∈ lead
  · rw [if_pos hdash] at hrow
    have honce : separateWords '_' (lead ++ camelCase last) = lead ++ ['_'].intercalate last :=
      iterate_separateWords_camelCase hlead hwords hletters hrow
    have hkeep : replace '-' '_' (['_'].intercalate last) = ['_'].intercalate last := by
      refine replace_of_forall_ne (fun c hc => ?_) '_'
      rintro rfl
      exact notMem_intercalate rfl (by decide) hwords hc
    rw [underscored, ← hkeep, ← replace_append, ← honce]
    exact apply_mem_variants .camelToUnderscore .hyphenToUnderscore .keep _
  · rw [if_neg hdash] at hrow
    have htwice : separateWords '_' (separateWords '_' (lead ++ camelCase last)) =
        lead ++ ['_'].intercalate last :=
      iterate_separateWords_camelCase hlead hwords hletters hrow
    rw [underscored, replace_of_forall_ne (by rintro c hc rfl; exact hdash hc), ← htwice]
    exact apply_mem_variants .camelToUnderscore .camelToUnderscore .keep _

/-! ## Gaps of the underscored form -/

/-- The underscored form has a gap in front of each word of the last segment but the first. -/
theorem gapAt_of_word {front : List Text} (word : Text) (more : List Text) (hfront : front ≠ [])
    (hwords : ∀ other ∈ front, IsKebabWord other) (lead : Text) :
    GapAt (letters (lead ++ camelCase front)) (underscored lead (front ++ word :: more)) := by
  obtain ⟨init, final, rfl⟩ := (List.eq_nil_or_concat' front).resolve_left hfront
  have hfinal : IsKebabWord final := hwords final (by simp)
  obtain ⟨start, c, rfl⟩ := (List.eq_nil_or_concat' final).resolve_left hfinal.ne_nil
  have hc := isWordChar_spec (hfinal.isWordChar c (by simp))
  have hcase : IsCaseOf c c := by
    refine ⟨hfinal.isWordChar c (by simp), toLower_of_not_isUpper hc.1⟩
  have hgetLast : (['_'].intercalate (init ++ [start ++ [c]])).getLast? = some c := by
    rw [getLast?_intercalate hfinal.ne_nil, List.getLast?_concat]
  obtain ⟨body, hbody⟩ := List.getLast?_eq_some_iff.mp hgetLast
  refine ⟨replace '-' '_' lead ++ ['_'].intercalate (init ++ [start ++ [c]]),
    ['_'].intercalate (word :: more), c, ?_, ?_, ?_⟩
  · rw [underscored, intercalate_append _ hfront (by simp)]
    simp
  · rw [letters_append, letters_intercalate hwords, letters_append]
    exact congrArg (· ++ _) (filter_folded_replace rfl rfl rfl rfl lead)
  · rw [hbody, ← List.append_assoc]
    exact (EndsLike.last hcase).prepend _

/-- The underscored form has a gap for each capital of the last segment. -/
theorem gapAt_of_isUpper {start rest : Text} {a b : Char}
    (hwords : ∀ word ∈ last, IsKebabWord word)
    (hletters : ∀ word ∈ last.tail, startsWithLetter word = true)
    (hcamel : camelCase last = start ++ [a] ++ b :: rest) (hb : b.isUpper = true) (lead : Text) :
    GapAt (letters (lead ++ start) ++ [a.toLower]) (underscored lead last) := by
  have ha : IsCaseOf a.toLower a := isCaseOf_of_mem_camelCase hwords (by simp [hcamel])
  rw [underscored, ← separateCapitals_camelCase '_' hwords hletters, hcamel, separateCapitals_append,
    separateCapitals_cons_of_isUpper '_' hb, ← List.append_assoc]
  refine ⟨_, _, a.toLower, rfl, ?_, ?_⟩
  · rw [letters_append, letters_separateCapitals rfl, ← ha.letters, letters_append start,
      ← List.append_assoc, letters_append lead]
    exact congrArg (· ++ _ ++ _) (filter_folded_replace rfl rfl rfl rfl lead)
  · refine EndsLike.prepend ?_ _
    rw [separateCapitals_append]
    refine EndsLike.prepend ?_ _
    rw [separateCapitals, List.flatMap_singleton]
    split
    · exact (EndsLike.last ha.lower).cons '_'
    · exact EndsLike.last ha

theorem rowAt_of_camelCase {start row rest : Text} (hcamel : camelCase last = start ++ row ++ rest)
    (lead : Text) : RowAt (letters (lead ++ start)) row (lead ++ camelCase last) :=
  ⟨lead ++ start, rest, by rw [hcamel]; simp, rfl⟩

theorem isTight_of_isUpper {row : Text} (hrow : ∀ c ∈ row, c.isUpper = true) : IsTight row := by
  constructor
  · induction row with
    | nil => exact List.isChain_nil
    | cons c row ih =>
      refine List.isChain_cons.mpr ⟨fun d _ => sticks_of_isUpper (hrow c List.mem_cons_self) d, ?_⟩
      exact ih fun d hd => hrow d (List.mem_cons_of_mem _ hd)
  · exact fun c hc => Bool.or_eq_true_iff.mpr (Or.inl (isLower_toLower (hrow c hc)))

/-! ## When the underscored form is a variant -/

theorem isPlain_camelCase (hlead : IsLead lead) (hlast : IsKebabSegment last) :
    IsPlain (lead ++ camelCase last) := by
  refine IsPlain.of_getLast? (hlead.ascii.append (isAscii_camelCase hlast.isKebabWord)) ?_
  intro c hc
  rw [List.getLast?_append_of_ne_nil _ (camelCase_ne_nil hlast.ne_nil hlast.isKebabWord)] at hc
  exact isSeparator_of_mem_camelCase hlast.isKebabWord c (List.mem_of_getLast? hc)

theorem dot_mem_and_dash_notMem_underscored (hlead : IsLead lead) (hlast : IsKebabSegment last) :
    '.' ∈ underscored lead last ∧ '-' ∉ underscored lead last := by
  constructor
  · exact List.mem_append_left _ (mem_replace (by decide) (List.mem_of_getLast? hlead.last) '_')
  · rw [underscored, List.mem_append, not_or]
    exact ⟨notMem_replace (by decide) lead, notMem_intercalate rfl (by decide) hlast.isKebabWord⟩

/-- All words of the last segment but the first start with a letter if the underscored form is a
variant: a digit is not separated from the word before it. -/
theorem startsWithLetter_of_mem_variants (hlead : IsLead lead) (hlast : IsKebabSegment last)
    (hmem : underscored lead last ∈ variants (lead ++ camelCase last)) :
    ∀ word ∈ last.tail, startsWithLetter word = true := by
  intro word hword
  refine Decidable.byContradiction fun hdigit => ?_
  obtain ⟨hdot, -⟩ := dot_mem_and_dash_notMem_underscored hlead hlast
  obtain ⟨first, others, rfl⟩ := List.exists_cons_of_ne_nil hlast.ne_nil
  obtain ⟨before, after, rfl⟩ := List.append_of_mem hword
  have hfront : ∀ other ∈ first :: before, IsKebabWord other :=
    fun other hother => hlast.isKebabWord other (by simp at hother ⊢; tauto)
  have hcamelFront := camelCase_ne_nil (List.cons_ne_nil first before) hfront
  obtain ⟨init, a, hinit⟩ := (List.eq_nil_or_concat' _).resolve_left hcamelFront
  have ha : IsCaseOf a.toLower a := isCaseOf_of_mem_camelCase hfront (by simp [hinit])
  have hkebab : IsKebabWord word := hlast.isKebabWord word (by simp)
  obtain ⟨d, rest, rfl⟩ := List.exists_cons_of_ne_nil hkebab.ne_nil
  have hd : d.isDigit = true := by
    have hlower : ¬ d.isLower = true := by simpa [startsWithLetter] using hdigit
    exact (Bool.or_eq_true_iff.mp (hkebab.isWordChar d List.mem_cons_self)).resolve_left hlower
  -- the digit stands right behind the words before it
  have hkeep : d.toUpper = d := Casing.char_of_isDigit .upper hd
  have hcamel : camelCase (first :: before ++ (d :: rest) :: after) =
      init ++ [a, d] ++ (rest ++ after.flatMap (List.modifyHead Char.toUpper)) := by
    rw [camelCase_append (List.cons_ne_nil first before), hinit, List.flatMap_cons,
      List.modifyHead_cons, hkeep]
    simp
  have hgap := gapAt_of_word (d :: rest) after (List.cons_ne_nil first before) hfront lead
  rw [hinit, ← List.append_assoc, ha.letters_concat] at hgap
  exact not_gapAt_of_isDigit (isPlain_camelCase hlead hlast) hmem hdot ha hd
    (rowAt_of_camelCase hcamel lead) hgap

/-- The last segment has no more capitals in a row than there are rounds to separate them if the
underscored form is a variant. -/
theorem longestRow_le_of_mem_variants (hlead : IsLead lead) (hlast : IsKebabSegment last)
    (hmem : underscored lead last ∈ variants (lead ++ camelCase last)) :
    longestRow (camelCase last) ≤ if '-' ∈ lead then 1 else 2 := by
  have hplain := isPlain_camelCase hlead hlast
  have hletters := startsWithLetter_of_mem_variants hlead hlast hmem
  obtain ⟨hdot, hlost⟩ := dot_mem_and_dash_notMem_underscored hlead hlast
  refine Nat.le_of_not_lt fun hlong => ?_
  obtain ⟨start, row, rest, hcamel, hlength, hrow⟩ := exists_row_of_lt_longestRow hlong
  have hrowAt := rowAt_of_camelCase hcamel lead
  have htight := isTight_of_isUpper hrow
  by_cases hdash : '-' ∈ lead
  · rw [if_pos hdash] at hlength
    obtain ⟨a, b, rfl⟩ := List.length_eq_two.mp hlength
    have hcut : camelCase last = start ++ [a] ++ b :: rest := by simpa using hcamel
    have hgap := gapAt_of_isUpper hlast.isKebabWord hletters hcut (hrow b (by simp)) lead
    exact not_gapAt_of_dash hplain hmem hdot (List.mem_append_left _ hdash) hlost htight hrowAt hgap
  · rw [if_neg hdash] at hlength
    obtain ⟨a, b, c, rfl⟩ := List.length_eq_three.mp hlength
    have hcut : camelCase last = start ++ [a] ++ [b] ++ c :: rest := by simpa using hcamel
    have hgap := gapAt_of_isUpper hlast.isKebabWord hletters hcut (hrow c (by simp)) lead
    rw [← List.append_assoc, htight.isCaseOf.letters_concat] at hgap
    exact not_gapAt_of_three hplain hmem hdot htight hrowAt hgap

/-- **When the underscored form of a dotted name is a variant**: all words of the last segment but
the first start with a letter, and the rows of capitals in its camel case are short. -/
theorem underscored_mem_variants_iff (hlead : IsLead lead) (hlast : IsKebabSegment last) :
    underscored lead last ∈ variants (lead ++ camelCase last) ↔
      (∀ word ∈ last.tail, startsWithLetter word = true) ∧
        longestRow (camelCase last) ≤ if '-' ∈ lead then 1 else 2 :=
  ⟨fun hmem => ⟨startsWithLetter_of_mem_variants hlead hlast hmem,
      longestRow_le_of_mem_variants hlead hlast hmem⟩,
    fun h => underscored_mem_variants hlead hlast.isKebabWord h.1 h.2⟩

theorem exists_eq_singleton_of_dash_notMem (hlast : IsKebabSegment last)
    (hdash : '-' ∉ ['-'].intercalate last) : ∃ word, last = [word] := by
  obtain ⟨word, others, rfl⟩ := List.exists_cons_of_ne_nil hlast.ne_nil
  cases others with
  | nil => exact ⟨word, rfl⟩
  | cons other others =>
    rw [intercalate_eq_flatMap, List.flatMap_cons] at hdash
    exact absurd (List.mem_append_right word List.mem_cons_self) hdash

end Underscored

end PropertyKeys.Spelling

namespace PropertyKeys.Relaxed

open Unicode Text Spelling

section Dashes

variable {key : Key} {earlier : List (List Text)} {last : List Text}

theorem hasAlphanumericEnds_kebabPath {segments : List (List Text)} (hsegments : segments ≠ [])
    (h : ∀ segment ∈ segments, IsKebabSegment segment) :
    HasAlphanumericEnds (kebabPath segments) := by
  obtain ⟨⟨a, hhead, ha⟩, b, hlast, hb⟩ := exists_ends_kebabPath hsegments h
  have halphanum : ∀ c, isWordChar c = true → c.isAlphanum = true := by
    intro c hc
    rcases Bool.or_eq_true_iff.mp hc with hlower | hdigit
    · exact Bool.or_eq_true_iff.mpr (Or.inl (Bool.or_eq_true_iff.mpr (Or.inr hlower)))
    · exact Bool.or_eq_true_iff.mpr (Or.inr hdigit)
  exact ⟨⟨a, hhead, halphanum a ha⟩, b, hlast, halphanum b hb⟩

/-- A name of one segment is bound with underscores for its dashes, whatever its words are. -/
theorem binds_underscored_of_single (hnormal : key.access = .normal) (hlast : IsKebabSegment last)
    (hname : key.name = kebabPath [last]) : binds key (replace '-' '_' key.name) = true := by
  have hends : HasAlphanumericEnds key.name :=
    hname ▸ hasAlphanumericEnds_kebabPath (by simp) (by simpa using hlast)
  have hsingle : key.name = ['-'].intercalate last := by simpa [kebabPath] using hname
  have hdot : '.' ∉ key.name := by
    rw [hsingle]
    exact notMem_intercalate rfl (by decide) hlast.isKebabWord
  have hkeep : camelLastSegment key.name = key.name := by
    rw [camelLastSegment, splitLast?_eq_none_iff.mpr hdot]
  refine (binds_iff_of_hasAlphanumericEnds hnormal hends).mpr (Or.inr ?_)
  rw [keyVariants, hkeep]
  exact apply_mem_variants .hyphenToUnderscore .keep .keep key.name

/-- A dotted name is bound with underscores for its dashes if the underscored form is a variant. -/
theorem binds_underscored_iff_of_dotted (hnormal : key.access = .normal) (hearlier : earlier ≠ [])
    (hsegments : ∀ segment ∈ earlier ++ [last], IsKebabSegment segment)
    (hname : key.name = kebabPath (earlier ++ [last])) :
    binds key (replace '-' '_' key.name) = true ↔
      (∀ word ∈ last.tail, startsWithLetter word = true) ∧
        longestRow (camelCase last) ≤ if '-' ∈ kebabPath earlier then 1 else 2 := by
  have hlast : IsKebabSegment last := hsegments last (by simp)
  have hlead := isLead_kebabPath hearlier fun segment hsegment =>
    hsegments segment (List.mem_append_left _ hsegment)
  have hends : HasAlphanumericEnds key.name :=
    hname ▸ hasAlphanumericEnds_kebabPath (by simp) hsegments
  have hdash : '-' ∈ kebabPath earlier ++ ['.'] ↔ '-' ∈ kebabPath earlier := by simp
  rw [binds_iff_of_hasAlphanumericEnds hnormal hends, hname, kebabPath_concat hearlier, keyVariants,
    camelLastSegment_dashed hlead hlast.isKebabWord, replace_append,
    replace_intercalate hlast.isKebabWord, ← underscored, underscored_mem_variants_iff hlead hlast]
  simp only [hdash]
  refine or_iff_right_of_imp fun hequal => ?_
  -- if the two forms are equal up to case then there is no dash at all
  have hcount := count_eq_of_map_lowerChar_eq (show '-'.toNat < 0x80 by decide) rfl (by decide)
    (equalsIgnoringCase_iff.mp hequal)
  rw [List.count_eq_zero_of_not_mem (dot_mem_and_dash_notMem_underscored hlead hlast).2,
    List.count_eq_zero, List.mem_append, not_or] at hcount
  obtain ⟨word, rfl⟩ := exists_eq_singleton_of_dash_notMem hlast hcount.2
  have hword : camelCase [word] = word := by simp [camelCase]
  have hnone : longestRow word = 0 := longestRow_eq_zero fun c hc =>
    (isWordChar_spec ((hlast.isKebabWord word List.mem_cons_self).isWordChar c hc)).1
  exact ⟨by simp, by rw [hword, hnone]; exact Nat.zero_le _⟩

/-- **When a scalar is bound by its name with underscores for dashes.** The name is a dotted name of
dashed words. It has one segment only, or two things hold of its last segment: no word but the first
starts with a digit, and its camel case has at most two capitals in a row, or one if an earlier
segment has a dash. -/
theorem binds_underscored_iff (key : Key) (earlier : List (List Text)) (last : List Text)
    (hnormal : key.access = .normal)
    (hsegments : ∀ segment ∈ earlier ++ [last], IsKebabSegment segment)
    (hname : key.name = kebabPath (earlier ++ [last])) :
    binds key (replace '-' '_' key.name) = true ↔
      earlier = [] ∨
        ((∀ word ∈ last.tail, startsWithLetter word = true) ∧
          longestRow (camelCase last) ≤ if '-' ∈ kebabPath earlier then 1 else 2) := by
  by_cases hone : earlier = []
  · subst hone
    exact iff_of_true
      (binds_underscored_of_single hnormal (hsegments last (by simp)) hname) (Or.inl rfl)
  · rw [or_iff_right hone]
    exact binds_underscored_iff_of_dotted hnormal hone hsegments hname

/-- Dashes in two segments, and a word of one letter at the end. -/
theorem binds_underscored_iff_dataSource :
    binds (.scalar "spring.data-source.max-size-x".toList)
      "spring.data_source.max_size_x".toList = true :=
  (binds_underscored_iff (.scalar "spring.data-source.max-size-x".toList)
    [["spring".toList], ["data".toList, "source".toList]]
    ["max".toList, "size".toList, "x".toList] (Key.access_scalar _) (by decide) (by decide)).mpr
      (Or.inr (by decide))

/-- Three dotted names that are not bound with underscores for their dashes: a word of the last
segment starts with a digit, three words of one letter follow the first one, or two follow it and an
earlier segment has a dash. -/
theorem binds_underscored_eq_false :
    (∀ segment ∈ [["app".toList], ["http".toList, "2".toList]], IsKebabSegment segment) ∧
      kebabPath [["app".toList], ["http".toList, "2".toList]] = "app.http-2".toList ∧
      binds (.scalar "app.http-2".toList) "app.http_2".toList = false ∧
      binds (.scalar "app.a-b-c-d".toList) "app.a_b_c_d".toList = false ∧
      binds (.scalar "data-source.a-b-c".toList) "data_source.a_b_c".toList = false := by
  have hfalse : ∀ (name raw : Text) (earlier : List (List Text)) (last : List Text), earlier ≠ [] →
      (∀ segment ∈ earlier ++ [last], IsKebabSegment segment) →
      name = kebabPath (earlier ++ [last]) → replace '-' '_' name = raw →
      ¬ ((∀ word ∈ last.tail, startsWithLetter word = true) ∧
        longestRow (camelCase last) ≤ if '-' ∈ kebabPath earlier then 1 else 2) →
      binds (.scalar name) raw = false := by
    rintro name _ earlier last hearlier hsegments hname rfl hlimits
    have hiff :=
      binds_underscored_iff_of_dotted (Key.access_scalar name) hearlier hsegments hname
    exact Bool.eq_false_iff.mpr fun hbinds => hlimits (hiff.mp hbinds)
  refine ⟨by decide, by decide, ?_, ?_, ?_⟩
  · exact hfalse _ _ [["app".toList]] ["http".toList, "2".toList]
      (by decide) (by decide) (by decide) (by decide) (by decide)
  · exact hfalse _ _ [["app".toList]] ["a".toList, "b".toList, "c".toList, "d".toList]
      (by decide) (by decide) (by decide) (by decide) (by decide)
  · exact hfalse _ _ [["data".toList, "source".toList]] ["a".toList, "b".toList, "c".toList]
      (by decide) (by decide) (by decide) (by decide) (by decide)

end Dashes

end PropertyKeys.Relaxed

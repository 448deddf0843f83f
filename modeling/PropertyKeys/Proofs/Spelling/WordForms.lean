import PropertyKeys.Proofs.Spelling.Folding
import PropertyKeys.Proofs.Text.Cuts

/-!
# Forms of a list of words

A list of words is written in camel case or with a separator between the words. What the conversions
make of such a form is again a form of the same words, as long as each word has two characters: a
word of one letter would leave two capitals in a row, and only the first of them starts a word.

## Main definitions

* `Spelling.IsKebabWord`: one or more small letters and digits.
* `Spelling.IsWord`: a small letter with more small letters and digits behind it.
* `Spelling.camelCase`: words in camel case.

## Main results

* `Spelling.separateWords_camelCase`: the words of camel case are separated again.
* `Spelling.joinDashed_intercalate`: dashed words in camel case.
* `Spelling.joinWords_segments`: separated words with a word in camel case behind them, all of them
  in camel case.
-/

namespace PropertyKeys.Spelling

open Unicode Text

/-! ## Words -/

/-- Whether a character is a small letter or a digit. -/
def isWordChar (c : Char) : Bool :=
  c.isLower || c.isDigit

/-- One or more small letters and digits. -/
structure IsKebabWord (word : Text) : Prop where
  ne_nil : word ≠ []
  isWordChar : ∀ c ∈ word, isWordChar c = true

instance (word : Text) : Decidable (IsKebabWord word) :=
  decidable_of_iff (word ≠ [] ∧ word.all isWordChar = true)
    ⟨fun h => ⟨h.1, List.all_eq_true.mp h.2⟩,
      fun h => ⟨h.ne_nil, List.all_eq_true.mpr h.isWordChar⟩⟩

/-- A small letter with at least one more small letter or digit behind it. -/
def IsWord : Text → Prop
  | first :: second :: rest =>
    first.isLower = true ∧ ∀ c ∈ second :: rest, isWordChar c = true
  | _ => False

instance : DecidablePred IsWord
  | [] => inferInstanceAs (Decidable False)
  | [_] => inferInstanceAs (Decidable False)
  | first :: second :: rest =>
    decidable_of_iff (first.isLower = true ∧ (second :: rest).all isWordChar = true)
      (and_congr_right' List.all_eq_true)

theorem ascii_of_isWordChar {c : Char} (h : isWordChar c = true) : c.toNat < 0x80 :=
  (Bool.or_eq_true_iff.mp h).elim ascii_of_isLower ascii_of_isDigit

/-- A small letter or digit is no capital and no separator, so a word can end with it. -/
theorem isWordChar_spec {c : Char} (h : isWordChar c = true) :
    c.isUpper = false ∧ isSeparator c = false ∧ endsWord c = true :=
  forall_ascii
    (P := fun c => isWordChar c = true →
      c.isUpper = false ∧ isSeparator c = false ∧ endsWord c = true)
    (by decide +kernel) (ascii_of_isWordChar h) h

/-- The capital of a small letter is a capital, and becomes that letter again. -/
theorem toUpper_of_isLower {c : Char} (h : c.isLower = true) :
    c.toUpper.isUpper = true ∧ c.toUpper.toLower = c :=
  forall_ascii
    (P := fun c => c.isLower = true → c.toUpper.isUpper = true ∧ c.toUpper.toLower = c)
    (by decide +kernel) (ascii_of_isLower h) h

theorem isWordChar_or_isUpper_toUpper {c : Char} (h : isWordChar c = true) :
    isWordChar c.toUpper = true ∨ c.toUpper.isUpper = true :=
  forall_ascii
    (P := fun c => isWordChar c = true → isWordChar c.toUpper = true ∨ c.toUpper.isUpper = true)
    (by decide +kernel) (ascii_of_isWordChar h) h

namespace IsWord

variable {word : Text}

/-- The first letter of a word and the rest, which is not empty. -/
theorem exists_cons (h : IsWord word) :
    ∃ first rest, word = first :: rest ∧ first.isLower = true ∧ rest ≠ [] ∧
      ∀ c ∈ rest, isWordChar c = true := by
  match word, h with
  | first :: second :: rest, ⟨hfirst, hrest⟩ =>
    exact ⟨first, second :: rest, rfl, hfirst, List.cons_ne_nil second rest, hrest⟩

theorem ne_nil (h : IsWord word) : word ≠ [] := by
  obtain ⟨first, rest, rfl, -⟩ := h.exists_cons
  exact List.cons_ne_nil first rest

theorem isWordChar (h : IsWord word) : ∀ c ∈ word, isWordChar c = true := by
  obtain ⟨first, rest, rfl, hfirst, -, hrest⟩ := h.exists_cons
  intro c hc
  rcases List.mem_cons.mp hc with rfl | hc
  · exact Bool.or_eq_true_iff.mpr (Or.inl hfirst)
  · exact hrest c hc

theorem isKebabWord (h : IsWord word) : IsKebabWord word :=
  ⟨h.ne_nil, h.isWordChar⟩

theorem forall_isKebabWord {words : List Text} (h : ∀ word ∈ words, IsWord word) :
    ∀ word ∈ words, IsKebabWord word :=
  fun word hword => (h word hword).isKebabWord

theorem ascii (h : IsWord word) : IsAscii word :=
  fun c hc => ascii_of_isWordChar (h.isWordChar c hc)

/-- A capital at the front of a word leaves its end. -/
theorem getLast?_modifyHead (h : IsWord word) (f : Char → Char) :
    (word.modifyHead f).getLast? = word.getLast? := by
  obtain ⟨first, rest, rfl, -, hrest, -⟩ := h.exists_cons
  rw [List.modifyHead_cons, List.getLast?_cons_of_ne_nil hrest, List.getLast?_cons_of_ne_nil hrest]

end IsWord

theorem capitalize_of_isAscii {word : Text} (h : IsAscii word) :
    capitalize word = word.modifyHead Char.toUpper := by
  cases word with
  | nil => rfl
  | cons c cs => rw [capitalize, upperChar_of_ascii (h c List.mem_cons_self)]; rfl

theorem modifyHead_append {word : Text} (h : word ≠ []) (f : Char → Char) (rest : Text) :
    (word ++ rest).modifyHead f = word.modifyHead f ++ rest := by
  cases word with
  | nil => exact absurd rfl h
  | cons c cs => rfl

/-! ## Camel case -/

/-- Words in camel case: all but the first one start with a capital. -/
def camelCase : List Text → Text
  | [] => []
  | word :: words => word ++ words.flatMap (List.modifyHead Char.toUpper)

/-- Words in camel case behind others are the words of both in camel case. -/
theorem camelCase_append {words more : List Text} (hwords : words ≠ []) :
    camelCase (words ++ more) = camelCase words ++ more.flatMap (List.modifyHead Char.toUpper) := by
  cases words with
  | nil => exact absurd rfl hwords
  | cons word words =>
    rw [List.cons_append, camelCase, camelCase, List.flatMap_append, List.append_assoc]

/-- The words behind a separator are those with the separator in front of each. -/
theorem intercalate_eq_flatMap (separator : Char) (word : Text) (words : List Text) :
    [separator].intercalate (word :: words) = word ++ words.flatMap (separator :: ·) := by
  induction words generalizing word with
  | nil => simp
  | cons other words ih =>
    rw [List.intercalate_cons_of_ne_nil (List.cons_ne_nil other words), ih, List.flatMap_cons,
      List.append_assoc, List.singleton_append, List.cons_append]

theorem mem_of_mem_intercalate {separator c : Char} {pieces : List Text}
    (h : c ∈ [separator].intercalate pieces) : c = separator ∨ ∃ piece ∈ pieces, c ∈ piece := by
  cases pieces with
  | nil => exact absurd h List.not_mem_nil
  | cons piece pieces =>
    rw [intercalate_eq_flatMap] at h
    rcases List.mem_append.mp h with h | h
    · exact Or.inr ⟨piece, List.mem_cons_self, h⟩
    · obtain ⟨other, hother, h⟩ := List.mem_flatMap.mp h
      rcases List.mem_cons.mp h with rfl | h
      · exact Or.inl rfl
      · exact Or.inr ⟨other, List.mem_cons_of_mem _ hother, h⟩

theorem isAscii_intercalate {separator : Char} (hseparator : separator.toNat < 0x80)
    {words : List Text} (hwords : ∀ word ∈ words, IsKebabWord word) :
    IsAscii ([separator].intercalate words) := by
  intro c hc
  rcases mem_of_mem_intercalate hc with rfl | ⟨word, hword, hc⟩
  · exact hseparator
  · exact ascii_of_isWordChar ((hwords word hword).isWordChar c hc)

theorem notMem_intercalate {mark separator : Char} (hmark : isWordChar mark = false)
    (hne : mark ≠ separator) {words : List Text} (hwords : ∀ word ∈ words, IsKebabWord word) :
    mark ∉ [separator].intercalate words := by
  intro hmem
  rcases mem_of_mem_intercalate hmem with heq | ⟨word, hword, hmem⟩
  · exact hne heq
  · rw [(hwords word hword).isWordChar mark hmem] at hmark
    exact Bool.false_ne_true hmark.symm

theorem joinCamel_eq_camelCase {words : List Text}
    (h : ∀ word ∈ words, word ≠ [] ∧ IsAscii word) : joinCamel words = camelCase words := by
  cases words with
  | nil => rfl
  | cons word words =>
    have hcapitals : words.flatMap capitalize = words.flatMap (List.modifyHead Char.toUpper) := by
      rw [List.flatMap_def, List.flatMap_def, List.map_congr_left]
      exact fun other hother => capitalize_of_isAscii (h other (List.mem_cons_of_mem _ hother)).2
    rw [joinCamel, if_neg (by simpa using (h word List.mem_cons_self).1), hcapitals, camelCase]

/-- Words in camel case end with the last word. -/
theorem getLast?_camelCase {words : List Text} {word : Text} (hword : IsWord word) :
    (camelCase (words ++ [word])).getLast? = word.getLast? := by
  cases words with
  | nil => simp [camelCase]
  | cons other words =>
    have hcapital : word.modifyHead Char.toUpper ≠ [] := by simpa using hword.ne_nil
    rw [camelCase_append (List.cons_ne_nil other words), List.flatMap_singleton,
      List.getLast?_append_of_ne_nil _ hcapital, hword.getLast?_modifyHead]

/-- Separated words end with the last word. -/
theorem getLast?_intercalate {separator : Char} {words : List Text} {word : Text}
    (hword : word ≠ []) : ([separator].intercalate (words ++ [word])).getLast? = word.getLast? := by
  cases words with
  | nil => simp
  | cons other words =>
    rw [intercalate_append [separator] (List.cons_ne_nil other words) (List.cons_ne_nil word []),
      List.intercalate_singleton, List.getLast?_append_of_ne_nil _ hword]

/-! ## Separating words -/

theorem separateWords_of_forall_not_isUpper (separator : Char) {text : Text}
    (h : ∀ c ∈ text, c.isUpper = false) : separateWords separator text = text := by
  fun_induction separateWords separator text with
  | case1 a b rest hword ih =>
    have hupper : b.isUpper = true := (Bool.and_eq_true_iff.mp hword).2
    rw [h b (by simp)] at hupper
    exact absurd hupper Bool.false_ne_true
  | case2 a b rest hword ih => rw [ih fun c hc => h c (List.mem_cons_of_mem _ hc)]
  | case3 a => rfl
  | case4 => rfl

/-- The first capital of a text starts a word, if a word can end before it. -/
theorem separateWords_append_cons (separator : Char) {start : Text} {last capital : Char}
    (hstart : ∀ c ∈ start ++ [last], c.isUpper = false) (hlast : endsWord last = true)
    (hcapital : capital.isUpper = true) (rest : Text) :
    separateWords separator (start ++ [last] ++ capital :: rest) =
      start ++ [last] ++ separator :: capital.toLower :: separateWords separator rest := by
  induction start with
  | nil =>
    rw [List.nil_append, List.singleton_append, separateWords,
      if_pos (Bool.and_eq_true_iff.mpr ⟨hlast, hcapital⟩), List.singleton_append]
  | cons c cs ih =>
    have hcs : ∀ d ∈ cs ++ [last], d.isUpper = false :=
      fun d hd => hstart d (List.mem_cons_of_mem _ hd)
    -- what follows the first character is no capital, so no word starts there
    obtain ⟨d, ds, hnext⟩ := List.exists_cons_of_ne_nil (List.append_ne_nil_of_right_ne_nil cs
      (List.cons_ne_nil last []))
    have hd : d.isUpper = false := hcs d (hnext ▸ List.mem_cons_self)
    have ih := ih hcs
    rw [hnext, List.cons_append] at ih
    rw [List.cons_append, hnext, List.cons_append, List.cons_append, separateWords,
      if_neg (by simp [hd]), ih]
    simp only [List.cons_append]

/-- Words with capitals behind a text without any are separated from it and from each other. -/
theorem separateWords_append_flatMap (separator : Char) {start : Text} {words : List Text}
    (hstart : ∀ c ∈ start, c.isUpper = false) {last : Char} (hlast : start.getLast? = some last)
    (hends : endsWord last = true) (hwords : ∀ word ∈ words, IsWord word) :
    separateWords separator (start ++ words.flatMap (List.modifyHead Char.toUpper)) =
      start ++ words.flatMap (separator :: ·) := by
  induction words generalizing start last with
  | nil => simpa using separateWords_of_forall_not_isUpper separator hstart
  | cons word words ih =>
    obtain ⟨init, rfl⟩ := List.getLast?_eq_some_iff.mp hlast
    obtain ⟨first, rest, rfl, hfirst, hrest, hchars⟩ := (hwords word List.mem_cons_self).exists_cons
    obtain ⟨hupper, hlower⟩ := toUpper_of_isLower hfirst
    -- the rest of the word is what the next capital is separated from
    obtain ⟨final, hfinal⟩ : ∃ final, rest.getLast? = some final :=
      ⟨rest.getLast hrest, List.getLast?_eq_some_getLast hrest⟩
    have hnext := ih (fun c hc => (isWordChar_spec (hchars c hc)).1) hfinal
      (isWordChar_spec (hchars final (List.mem_of_getLast? hfinal))).2.2
      fun other hother => hwords other (List.mem_cons_of_mem _ hother)
    rw [List.flatMap_cons, List.modifyHead_cons, List.cons_append,
      separateWords_append_cons separator hstart hends hupper, hlower, hnext, List.flatMap_cons]
    simp only [List.cons_append]

/-- **Camel case is separated into its words**, behind any text without capitals. -/
theorem separateWords_camelCase (separator : Char) {lead : Text} {words : List Text}
    (hlead : ∀ c ∈ lead, c.isUpper = false) (hwords : ∀ word ∈ words, IsWord word) :
    separateWords separator (lead ++ camelCase words) =
      lead ++ [separator].intercalate words := by
  cases words with
  | nil => simpa [camelCase] using separateWords_of_forall_not_isUpper separator hlead
  | cons word words =>
    have hword := hwords word List.mem_cons_self
    obtain ⟨last, hlast⟩ : ∃ last, word.getLast? = some last :=
      ⟨word.getLast hword.ne_nil, List.getLast?_eq_some_getLast hword.ne_nil⟩
    have hstart : ∀ c ∈ lead ++ word, c.isUpper = false := by
      intro c hc
      rcases List.mem_append.mp hc with hc | hc
      · exact hlead c hc
      · exact (isWordChar_spec (hword.isWordChar c hc)).1
    have hends := (isWordChar_spec (hword.isWordChar last (List.mem_of_getLast? hlast))).2.2
    rw [camelCase, intercalate_eq_flatMap, ← List.append_assoc, ← List.append_assoc]
    exact separateWords_append_flatMap separator hstart (by simp [hlast]) hends
      fun other hother => hwords other (List.mem_cons_of_mem _ hother)

/-- Words of a single letter are not all told apart. -/
example : separateWords '_' (camelCase ["a".toList, "b".toList, "c".toList]) = "a_bC".toList := by
  decide

/-! ## Joining words -/

theorem joinDashedFrom_append {word : Text} (hword : IsKebabWord word) (afterDash : Bool)
    (rest : Text) :
    joinDashedFrom afterDash (word ++ rest) =
      (if afterDash then word.modifyHead Char.toUpper else word) ++ joinDashedFrom false rest := by
  have hchar : ∀ c, isWordChar c = true → c ≠ '-' := by
    rintro c hc rfl
    exact absurd hc (by decide)
  -- once the first character is passed all others are kept
  have hkeep : ∀ text : Text, (∀ c ∈ text, isWordChar c = true) →
      joinDashedFrom false (text ++ rest) = text ++ joinDashedFrom false rest := by
    intro text
    induction text with
    | nil => exact fun _ => rfl
    | cons c cs ih =>
      intro h
      rw [List.cons_append, joinDashedFrom, if_neg (hchar c (h c List.mem_cons_self)),
        ih fun d hd => h d (List.mem_cons_of_mem _ hd)]
      rfl
  cases afterDash with
  | false => exact hkeep word hword.isWordChar
  | true =>
    obtain ⟨first, others, rfl⟩ := List.exists_cons_of_ne_nil hword.ne_nil
    have hfirst : isWordChar first = true := hword.isWordChar first List.mem_cons_self
    rw [List.cons_append, joinDashedFrom, if_neg (hchar first hfirst), if_pos rfl, if_pos rfl,
      upperChar_of_ascii (ascii_of_isWordChar hfirst),
      hkeep others fun c hc => hword.isWordChar c (List.mem_cons_of_mem _ hc)]
    rfl

/-- **Dashed words in camel case.** -/
theorem joinDashed_intercalate {words : List Text} (hwords : ∀ word ∈ words, IsKebabWord word) :
    joinDashed (['-'].intercalate words) = camelCase words := by
  have hrest : ∀ words : List Text, (∀ word ∈ words, IsKebabWord word) →
      joinDashedFrom false (words.flatMap ('-' :: ·)) =
        words.flatMap (List.modifyHead Char.toUpper) := by
    intro words
    induction words with
    | nil => exact fun _ => rfl
    | cons word words ih =>
      intro h
      rw [List.flatMap_cons, List.cons_append, joinDashedFrom, if_pos rfl,
        joinDashedFrom_append (h word List.mem_cons_self),
        ih fun other hother => h other (List.mem_cons_of_mem _ hother), if_pos rfl,
        List.flatMap_cons]
  cases words with
  | nil => rfl
  | cons word words =>
    rw [intercalate_eq_flatMap, joinDashed, joinDashedFrom_append (hwords word List.mem_cons_self),
      hrest words fun other hother => hwords other (List.mem_cons_of_mem _ hother)]
    rfl

/-- The text of segments, each a word with a separator behind it. -/
def segmentsText (segments : List (Text × Char)) : Text :=
  segments.flatMap fun segment => segment.1 ++ [segment.2]

theorem splitBy_segmentsText {segments : List (Text × Char)} {last : Text}
    (hsegments : ∀ segment ∈ segments, IsWord segment.1 ∧ isSeparator segment.2 = true)
    (hlast : ∀ c ∈ last, isSeparator c = false) :
    splitBy isSeparator (segmentsText segments ++ last) = segments.map Prod.fst ++ [last] := by
  induction segments with
  | nil => exact splitBy_of_forall_not hlast
  | cons segment segments ih =>
    obtain ⟨hword, hmark⟩ := hsegments segment List.mem_cons_self
    have hpiece : ∀ c ∈ segment.1, isSeparator c = false :=
      fun c hc => (isWordChar_spec (hword.isWordChar c hc)).2.1
    have hcut := splitBy_append_cons hpiece hmark (segmentsText segments ++ last)
    rw [ih fun other hother => hsegments other (List.mem_cons_of_mem _ hother)] at hcut
    simpa [segmentsText] using hcut

theorem mem_camelCase {words : List Text} {c : Char} (hwords : ∀ word ∈ words, IsKebabWord word)
    (hc : c ∈ camelCase words) : isWordChar c = true ∨ c.isUpper = true := by
  -- a capital comes from the first letter of a word
  have hcapital : ∀ word, IsKebabWord word → c ∈ word.modifyHead Char.toUpper →
      isWordChar c = true ∨ c.isUpper = true := by
    intro word hword hc
    obtain ⟨first, rest, rfl⟩ := List.exists_cons_of_ne_nil hword.ne_nil
    rw [List.modifyHead_cons] at hc
    rcases List.mem_cons.mp hc with rfl | hc
    · exact isWordChar_or_isUpper_toUpper (hword.isWordChar first List.mem_cons_self)
    · exact Or.inl (hword.isWordChar c (List.mem_cons_of_mem _ hc))
  cases words with
  | nil => exact absurd hc List.not_mem_nil
  | cons word words =>
    rw [camelCase] at hc
    rcases List.mem_append.mp hc with hc | hc
    · exact Or.inl ((hwords word List.mem_cons_self).isWordChar c hc)
    · obtain ⟨other, hother, hc⟩ := List.mem_flatMap.mp hc
      exact hcapital other (hwords other (List.mem_cons_of_mem _ hother)) hc

theorem isAscii_camelCase {words : List Text} (hwords : ∀ word ∈ words, IsKebabWord word) :
    IsAscii (camelCase words) := by
  intro c hc
  rcases mem_camelCase hwords hc with hchar | hupper
  · exact ascii_of_isWordChar hchar
  · exact ascii_of_isUpper hupper

theorem isSeparator_of_mem_camelCase {words : List Text}
    (hwords : ∀ word ∈ words, IsKebabWord word) :
    ∀ c ∈ camelCase words, isSeparator c = false := by
  intro c hc
  rcases mem_camelCase hwords hc with hchar | hupper
  · exact (isWordChar_spec hchar).2.1
  · cases hseparator : isSeparator c with
    | false => rfl
    | true =>
      rcases eq_of_isSeparator hseparator with rfl | rfl | rfl <;> exact absurd hupper (by decide)

theorem camelCase_ne_nil {words : List Text} (hnonempty : words ≠ [])
    (hwords : ∀ word ∈ words, IsKebabWord word) : camelCase words ≠ [] := by
  cases words with
  | nil => exact absurd rfl hnonempty
  | cons word words =>
    exact List.append_ne_nil_of_left_ne_nil (hwords word List.mem_cons_self).ne_nil _

/-- **Separated words with words in camel case behind them** are joined to all of the words in camel
case. -/
theorem joinWords_segments {segments : List (Text × Char)} {words : List Text}
    (hsegments : ∀ segment ∈ segments, IsWord segment.1 ∧ isSeparator segment.2 = true)
    (hnonempty : words ≠ []) (hwords : ∀ word ∈ words, IsWord word) :
    joinWords false (segmentsText segments ++ camelCase words) =
      camelCase (segments.map Prod.fst ++ words) := by
  have hlast := isSeparator_of_mem_camelCase (IsWord.forall_isKebabWord hwords)
  have hcamel := camelCase_ne_nil hnonempty (IsWord.forall_isKebabWord hwords)
  have hend : ∀ c, (segmentsText segments ++ camelCase words).getLast? = some c →
      isSeparator c = false := by
    intro c hc
    rw [List.getLast?_append_of_ne_nil _ hcamel] at hc
    exact hlast c (List.mem_of_getLast? hc)
  have hpieces : ∀ piece ∈ segments.map Prod.fst ++ [camelCase words],
      piece ≠ [] ∧ IsAscii piece := by
    intro piece hpiece
    rcases List.mem_append.mp hpiece with hpiece | hpiece
    · obtain ⟨segment, hsegment, rfl⟩ := List.mem_map.mp hpiece
      exact ⟨(hsegments segment hsegment).1.ne_nil, (hsegments segment hsegment).1.ascii⟩
    · rw [List.mem_singleton.mp hpiece]
      exact ⟨hcamel, isAscii_camelCase (IsWord.forall_isKebabWord hwords)⟩
  have hsplit : Spelling.words false (segmentsText segments ++ camelCase words) =
      segments.map Prod.fst ++ [camelCase words] := by
    rw [Spelling.words, splitBy_segmentsText hsegments hlast]
    simp
  rw [joinWords_of_getLast? false hend, hsplit, joinCamel_eq_camelCase hpieces]
  cases segments with
  | nil => simp [camelCase]
  | cons segment segments =>
    -- the camel case of the last words gets its own capital
    cases words with
    | nil => exact absurd rfl hnonempty
    | cons word words =>
      rw [camelCase_append (by simp), camelCase_append (by simp), List.flatMap_singleton, camelCase,
        modifyHead_append (hwords word List.mem_cons_self).ne_nil, List.flatMap_cons]

end PropertyKeys.Spelling

import Mathlib.Data.List.Chain
import PropertyKeys.Proofs.Spelling.Ends

/-!
# What respelling keeps together

A word starts at a capital behind the end of a word, so it does not start behind another capital,
nor at a digit. A row of letters and digits of this kind is kept together by a change of the case. A
change of the separation, if it does not join words, can at most make the first character of the row
small: from then on a word may start at the second one. What two rounds keep together in this way is
not separated in any variant. Places in a text are given by the letters before them, since these are
the same in all variants.

## Main definitions

* `Spelling.Sticks`: no word starts between two characters.
* `Spelling.RowAt` / `Spelling.GapAt`: what stands in a text behind given letters.

## Main results

* `Spelling.RowAt.respelled`: one respelling loosens the first character of a row.
* `Spelling.not_gapAt_of_isDigit` / `Spelling.not_gapAt_of_three` / `Spelling.not_gapAt_of_dash`:
  places where no variant has an underscore.
-/

namespace PropertyKeys.Spelling

open Unicode Text

/-- No word starts at the second of two characters that follow each other, in whatever case. -/
def Sticks (a b : Char) : Prop :=
  ∀ casing : Casing, (endsWord (casing.char a) && (casing.char b).isUpper) = false

/-- Letters and digits none of which starts a word behind the one before it. -/
structure IsTight (row : Text) : Prop where
  chain : row.IsChain Sticks
  chars : ∀ c ∈ row, isWordChar c.toLower = true

/-- A row of characters stands in a text behind the given letters. -/
def RowAt (before row text : Text) : Prop :=
  ∃ start rest, text = start ++ row ++ rest ∧ letters start = before

/-- An underscore stands in a text right behind the given letters. -/
def GapAt (before text : Text) : Prop :=
  ∃ start rest letter, text = start ++ '_' :: rest ∧ letters start = before ∧ EndsLike letter start

/-- The words of a text are joined. -/
def Separation.Joins (separation : Separation) : Prop :=
  separation = .joinCamel ∨ separation = .joinCamelIgnoringCase

section Characters

variable {a b c letter : Char}

/-- The last change of the case counts. -/
theorem Casing.char_char (next casing : Casing) (h : c.toNat < 0x80) :
    next.char (casing.char c) = (if next = .keep then casing else next).char c := by
  cases next with
  | keep => rfl
  | lower =>
    cases casing <;>
      exact forall_ascii (P := fun c => Char.toLower (Casing.char _ c) = c.toLower)
        (by decide +kernel) h
  | upper =>
    cases casing <;>
      exact forall_ascii (P := fun c => Char.toUpper (Casing.char _ c) = c.toUpper)
        (by decide +kernel) h

theorem IsCaseOf.letters (h : IsCaseOf letter c) : letters [c] = [letter] := by
  simp [Spelling.letters, h.lowerChar, h.self.isSeparator_eq_false]

theorem IsCaseOf.letters_concat (h : IsCaseOf letter c) (text : Text) :
    Spelling.letters (text ++ [c]) = Spelling.letters text ++ [letter] := by
  rw [letters_append, h.letters]

theorem IsCaseOf.lower (h : IsCaseOf letter c) : IsCaseOf letter c.toLower := by
  rw [h.toLower]
  exact h.self

theorem IsCaseOf.casing (h : IsCaseOf letter c) (casing : Casing) :
    IsCaseOf letter (casing.char c) := by
  cases casing with
  | keep => exact h
  | lower => exact h.lower
  | upper => exact h.toUpper

theorem Sticks.casing (h : Sticks a b) (ha : a.toNat < 0x80) (hb : b.toNat < 0x80)
    (casing : Casing) : Sticks (casing.char a) (casing.char b) := by
  intro next
  rw [next.char_char casing ha, next.char_char casing hb]
  exact h _

/-- No word ends with a capital, and in lower case no word starts. -/
theorem sticks_of_isUpper (ha : a.isUpper = true) (b : Char) : Sticks a b := by
  have hends : ∀ c : Char, c.isUpper = true → endsWord c = false :=
    fun c hc => by simp [endsWord, hc]
  intro casing
  cases casing with
  | keep => exact Bool.and_eq_false_iff.mpr (Or.inl (hends a ha))
  | lower => exact Bool.and_eq_false_iff.mpr (Or.inr (isUpper_toLower b))
  | upper =>
    have hupper : a.toUpper.isUpper = true :=
      forall_ascii (P := fun c => c.isUpper = true → c.toUpper.isUpper = true) (by decide +kernel)
        (ascii_of_isUpper ha) ha
    exact Bool.and_eq_false_iff.mpr (Or.inl (hends a.toUpper hupper))

/-- A digit has no case. -/
theorem Casing.char_of_isDigit (casing : Casing) (h : c.isDigit = true) : casing.char c = c := by
  cases casing <;>
    exact forall_ascii (P := fun c => c.isDigit = true → Casing.char _ c = c) (by decide +kernel)
      (ascii_of_isDigit h) h

theorem sticks_of_isDigit (a : Char) (hb : b.isDigit = true) : Sticks a b := by
  intro casing
  have hupper : b.isUpper = false :=
    (isWordChar_spec (Bool.or_eq_true_iff.mpr (Or.inr hb))).1
  rw [casing.char_of_isDigit hb, hupper, Bool.and_false]

end Characters

namespace IsTight

variable {c : Char} {row : Text}

theorem isCaseOf (h : IsTight (c :: row)) : IsCaseOf c.toLower c :=
  isCaseOf_of_isWordChar_toLower (h.chars c List.mem_cons_self)

theorem tail (h : IsTight (c :: row)) : IsTight row :=
  ⟨h.chain.tail, fun d hd => h.chars d (List.mem_cons_of_mem _ hd)⟩

theorem casing (h : IsTight row) (casing : Casing) : IsTight (row.map casing.char) := by
  have hcase : ∀ d ∈ row, IsCaseOf d.toLower d :=
    fun d hd => isCaseOf_of_isWordChar_toLower (h.chars d hd)
  constructor
  · refine (List.isChain_map _).mpr (h.chain.imp_of_mem_imp fun a b ha hb hsticks => ?_)
    exact hsticks.casing (hcase a ha).ascii (hcase b hb).ascii casing
  · intro d hd
    obtain ⟨e, he, rfl⟩ := List.mem_map.mp hd
    rw [((hcase e he).casing casing).toLower]
    exact h.chars e he

end IsTight

/-! ## Separating words -/

section Separating

variable {separator : Char}

/-- What precedes a character is separated for itself. The character either is looked at afresh or
has been made small. -/
theorem exists_separateWords_append (hseparator : isSeparator separator = true) (start : Text)
    (c : Char) (rest : Text) :
    ∃ front, letters front = letters start ∧
      (separateWords separator (start ++ c :: rest) = front ++ separateWords separator (c :: rest) ∨
        separateWords separator (start ++ c :: rest) =
          front ++ c.toLower :: separateWords separator rest) := by
  fun_induction separateWords separator start with
  | case1 a b start hword ih =>
    obtain ⟨front, hletters, hcut⟩ := ih
    have hb := letters_singleton_toLower (ascii_of_isUpper (Bool.and_eq_true_iff.mp hword).2)
    refine ⟨a :: separator :: b.toLower :: front, ?_, ?_⟩
    · rw [letters_cons, letters_cons separator, letters_singleton_of_isSeparator hseparator,
        letters_cons b.toLower, hb, hletters, List.nil_append, ← letters_cons, ← letters_cons]
    · rw [List.cons_append, List.cons_append, separateWords, if_pos hword]
      exact hcut.imp (congrArg (a :: separator :: b.toLower :: ·))
        (congrArg (a :: separator :: b.toLower :: ·))
  | case2 a b start hword ih =>
    obtain ⟨front, hletters, hcut⟩ := ih
    refine ⟨a :: front, by rw [letters_cons, hletters, ← letters_cons], ?_⟩
    rw [List.cons_append, List.cons_append, separateWords, if_neg hword]
    exact hcut.imp (congrArg (a :: ·)) (congrArg (a :: ·))
  | case3 a =>
    rw [List.singleton_append, separateWords]
    split
    · refine ⟨[a, separator], ?_, Or.inr rfl⟩
      rw [letters_cons, letters_singleton_of_isSeparator hseparator, List.append_nil]
    · exact ⟨[a], rfl, Or.inl rfl⟩
  | case4 => exact ⟨[], rfl, Or.inl rfl⟩

theorem exists_separateWords_of_isTight {row : Text} (h : IsTight row) (rest : Text) :
    ∃ more, separateWords separator (row ++ rest) = row ++ more := by
  induction row with
  | nil => exact ⟨_, rfl⟩
  | cons c row ih =>
    obtain ⟨more, hmore⟩ := ih h.tail
    cases row with
    | nil =>
      cases rest with
      | nil => exact ⟨[], rfl⟩
      | cons d rest =>
        rw [List.singleton_append, separateWords]
        split
        · exact ⟨_, rfl⟩
        · exact ⟨_, rfl⟩
    | cons d row =>
      have hword : ¬ (endsWord c && d.isUpper) = true :=
        Bool.eq_false_iff.mp ((List.isChain_cons_cons.mp h.chain).1 .keep)
      rw [List.cons_append] at hmore
      refine ⟨more, ?_⟩
      rw [List.cons_append, List.cons_append, separateWords, if_neg hword, hmore]
      rfl

end Separating

/-! ## Rows in a text -/

namespace RowAt

variable {before row text : Text} {c : Char}

theorem tail (h : RowAt before (c :: row) text) {letter : Char} (hc : IsCaseOf letter c) :
    RowAt (before ++ [letter]) row text := by
  obtain ⟨start, rest, rfl, rfl⟩ := h
  exact ⟨start ++ [c], rest, by simp, hc.letters_concat start⟩

theorem replace (h : RowAt before row text) (hrow : ∀ c ∈ row, isWordChar c.toLower = true)
    {old new : Char} (hold : isSeparator old = true) (hnew : isSeparator new = true) :
    RowAt before row (replace old new text) := by
  obtain ⟨start, rest, rfl, rfl⟩ := h
  have hkeep : Text.replace old new row = row := replace_of_forall_ne
    (fun d hd => (isCaseOf_of_isWordChar_toLower (hrow d hd)).ne_of_isSeparator hold) new
  refine ⟨Text.replace old new start, Text.replace old new rest, ?_,
    filter_folded_replace hold hnew (by simp [hold]) (by simp [hnew]) start⟩
  rw [replace_append, replace_append, hkeep]

theorem casing (h : RowAt before row text) (hascii : IsAscii text) (casing : Casing) :
    RowAt before (row.map casing.char) (casing.apply text) := by
  rw [casing.apply_of_isAscii hascii]
  obtain ⟨start, rest, rfl, rfl⟩ := h
  have hstart : IsAscii start := fun c hc => hascii c (by simp [hc])
  refine ⟨start.map casing.char, rest.map casing.char, by simp, ?_⟩
  rw [letters, folded_map hstart fun _ => casing.lowerChar_char, ← letters]

theorem separateWords (h : RowAt before (c :: row) text) (htight : IsTight (c :: row))
    {separator : Char} (hseparator : isSeparator separator = true) :
    ∃ d, IsCaseOf c.toLower d ∧ RowAt before (d :: row) (separateWords separator text) := by
  obtain ⟨start, rest, rfl, rfl⟩ := h
  obtain ⟨front, hletters, hcut⟩ :=
    exists_separateWords_append hseparator start c (row ++ rest)
  rw [List.append_assoc, List.cons_append]
  rcases hcut with hcut | hcut
  · obtain ⟨more, hmore⟩ := exists_separateWords_of_isTight htight rest
    rw [List.cons_append] at hmore
    exact ⟨c, htight.isCaseOf, front, more, by rw [hcut, hmore]; simp, hletters⟩
  · obtain ⟨more, hmore⟩ := exists_separateWords_of_isTight htight.tail rest
    exact ⟨c.toLower, htight.isCaseOf.lower, front, more, by rw [hcut, hmore]; simp, hletters⟩

theorem separation (h : RowAt before (c :: row) text) (htight : IsTight (c :: row))
    {separation : Separation} (hjoins : ¬ separation.Joins) :
    ∃ d, IsCaseOf c.toLower d ∧ RowAt before (d :: row) (separation.apply text) := by
  cases separation with
  | keep => exact ⟨c, htight.isCaseOf, h⟩
  | hyphenToUnderscore => exact ⟨c, htight.isCaseOf, h.replace htight.chars rfl rfl⟩
  | underscoreToDot => exact ⟨c, htight.isCaseOf, h.replace htight.chars rfl rfl⟩
  | dotToUnderscore => exact ⟨c, htight.isCaseOf, h.replace htight.chars rfl rfl⟩
  | camelToUnderscore => exact h.separateWords htight rfl
  | camelToHyphen => exact h.separateWords htight rfl
  | joinCamel => exact absurd (Or.inl rfl) hjoins
  | joinCamelIgnoringCase => exact absurd (Or.inr rfl) hjoins

/-- **One respelling loosens the first character of a row**, and the rest of the row is as tight as
before. -/
theorem respelled (h : RowAt before (c :: row) text) (htight : IsTight (c :: row))
    (hplain : IsPlain text) {separation : Separation} (hjoins : ¬ separation.Joins)
    (casing : Casing) :
    ∃ d, IsCaseOf c.toLower d ∧
      RowAt before (d :: row.map casing.char) (casing.apply (separation.apply text)) := by
  obtain ⟨d, hd, hrow⟩ := h.separation htight hjoins
  exact ⟨casing.char d, hd.casing casing, hrow.casing (hplain.separation separation).ascii casing⟩

theorem hyphenToUnderscore (h : RowAt before row text)
    (hrow : ∀ c ∈ row, isWordChar c.toLower = true) (hplain : IsPlain text) (casing : Casing) :
    RowAt before (row.map casing.char)
      (casing.apply (Separation.apply .hyphenToUnderscore text)) :=
  (h.replace hrow rfl rfl).casing (hplain.separation .hyphenToUnderscore).ascii casing

end RowAt

/-- **There is no gap in a row.** -/
theorem not_gapAt_of_rowAt {before text : Text} {a b letter : Char} (ha : IsCaseOf letter a)
    (hb : isSeparator b = false) (hrow : RowAt before [a, b] text) :
    ¬ GapAt (before ++ [letter]) text := by
  rintro ⟨other, more, last, hgap, hother, hlast⟩
  obtain ⟨start, rest, htext, hstart⟩ := hrow
  have hcut : text = start ++ [a] ++ b :: rest := by rw [htext]; simp
  have hletters : letters (start ++ [a]) = letters other := by
    rw [ha.letters_concat, hstart, hother]
  -- both places are behind the same letters, and right behind a letter
  have hsame : start ++ [a] = other := by
    rcases List.prefix_or_prefix_of_prefix ⟨_, hcut.symm⟩ ⟨_, hgap.symm⟩ with hfirst | hfirst
    · exact hlast.eq_of_isPrefix hfirst hletters
    · exact (((EndsLike.last ha).prepend start).eq_of_isPrefix hfirst hletters.symm).symm
  rw [hcut, hsame, List.append_cancel_left_eq, List.cons.injEq] at hgap
  rw [hgap.1] at hb
  exact absurd hb (by decide)

theorem GapAt.mem {before text : Text} (h : GapAt before text) : '_' ∈ text := by
  obtain ⟨start, rest, letter, rfl, -⟩ := h
  exact List.mem_append_right start List.mem_cons_self

/-! ## Two rounds -/

section Rounds

variable {name text before : Text}

theorem separator_mem_casing_iff {separator : Char} (hseparator : isSeparator separator = true)
    (hascii : IsAscii text) (casing : Casing) :
    separator ∈ casing.apply text ↔ separator ∈ text := by
  rw [← separator_mem_folded_iff hseparator, folded_casing hascii,
    separator_mem_folded_iff hseparator]

theorem mem_separateWords {mark separator : Char} (hmark : mark.isUpper = false)
    (hmem : mark ∈ text) : mark ∈ separateWords separator text := by
  fun_induction separateWords separator text with
  | case1 a b rest hword ih =>
    have hb : mark ≠ b := by
      rintro rfl
      simp [hmark] at hword
    rcases List.mem_cons.mp hmem with rfl | hmem
    · exact List.mem_cons_self
    · have hrest := (List.mem_cons.mp hmem).resolve_left hb
      exact List.mem_cons_of_mem _ (List.mem_cons_of_mem _ (List.mem_cons_of_mem _ (ih hrest)))
  | case2 a b rest hword ih =>
    rcases List.mem_cons.mp hmem with rfl | hmem
    · exact List.mem_cons_self
    · exact List.mem_cons_of_mem _ (ih hmem)
  | case3 a => exact hmem
  | case4 => exact hmem

/-- Only joined words, or an exchange of dashes, have none. -/
theorem dash_mem_separation {separation : Separation} (hjoins : ¬ separation.Joins)
    (hother : separation ≠ .hyphenToUnderscore) (hmem : '-' ∈ text) :
    '-' ∈ separation.apply text := by
  cases separation with
  | keep => exact hmem
  | hyphenToUnderscore => exact absurd rfl hother
  | underscoreToDot => exact mem_replace (by decide) hmem _
  | dotToUnderscore => exact mem_replace (by decide) hmem _
  | camelToUnderscore => exact mem_separateWords rfl hmem
  | camelToHyphen => exact mem_separateWords rfl hmem
  | joinCamel => exact absurd (Or.inl rfl) hjoins
  | joinCamelIgnoringCase => exact absurd (Or.inr rfl) hjoins

theorem Separation.Joins.dot_notMem {separation : Separation} (h : separation.Joins)
    (hplain : IsPlain name) : '.' ∉ separation.apply name := by
  rcases h with rfl | rfl
  · exact (dot_notMem_joinWords hplain false).1
  · exact (dot_notMem_joinWords hplain true).1

/-- A variant with a dot and an underscore comes from two rounds that do not join words. Without
dots only underscores could become dots again, and then no underscore is left. -/
theorem exists_rounds (hplain : IsPlain name) (hmem : text ∈ variants name) (hdot : '.' ∈ text)
    (hunderscore : '_' ∈ text) :
    ∃ (first : Separation) (firstCasing : Casing) (second : Separation) (secondCasing : Casing),
      ¬ first.Joins ∧ ¬ second.Joins ∧
        text = secondCasing.apply (second.apply (firstCasing.apply (first.apply name))) := by
  obtain ⟨once, honce, htext⟩ := mem_variants_iff.mp hmem
  have honcePlain := (isPlain_and_letters_of_mem_respellings hplain honce).1
  obtain ⟨first, firstCasing, rfl⟩ := mem_respellings_iff.mp honce
  obtain ⟨second, secondCasing, rfl⟩ := mem_respellings_iff.mp htext
  have hsecondAscii := (honcePlain.separation second).ascii
  rw [separator_mem_casing_iff rfl hsecondAscii] at hdot hunderscore
  have hother : second ≠ .underscoreToDot := by
    rintro rfl
    exact notMem_replace (by decide) _ hunderscore
  refine ⟨first, firstCasing, second, secondCasing, fun hjoins => ?_,
    fun hjoins => hjoins.dot_notMem honcePlain hdot, rfl⟩
  refine dot_notMem_separation honcePlain ?_ hother hdot
  rw [separator_mem_casing_iff rfl (hplain.separation first).ascii]
  exact hjoins.dot_notMem hplain

theorem not_gapAt_respelled {a b : Char} (hrow : RowAt before [a, b] text)
    (htight : IsTight [a, b]) (hplain : IsPlain text) {separation : Separation}
    (hjoins : ¬ separation.Joins) (casing : Casing) :
    ¬ GapAt (before ++ [a.toLower]) (casing.apply (separation.apply text)) := by
  obtain ⟨c, hc, hrespelled⟩ := hrow.respelled htight hplain hjoins casing
  have hb := htight.tail.isCaseOf.casing casing
  exact not_gapAt_of_rowAt hc hb.isSeparator_eq_false hrespelled

/-- **No variant has a gap in front of a digit** that follows a letter or digit. -/
theorem not_gapAt_of_isDigit (hplain : IsPlain name) (hmem : text ∈ variants name)
    (hdot : '.' ∈ text) {a b letter : Char} (ha : IsCaseOf letter a) (hb : b.isDigit = true)
    (hrow : RowAt before [a, b] name) : ¬ GapAt (before ++ [letter]) text := by
  intro hgap
  have htight : ∀ {c : Char}, IsCaseOf letter c → IsTight [c, b] := by
    intro c hc
    refine ⟨List.isChain_pair.mpr (sticks_of_isDigit c hb), ?_⟩
    have hsmall : b.toLower = b := Casing.char_of_isDigit .lower hb
    have hdigit : isWordChar b = true := Bool.or_eq_true_iff.mpr (Or.inr hb)
    simp [hc.toLower, hc.isWordChar, hsmall, hdigit]
  obtain ⟨first, firstCasing, second, secondCasing, hfirst, hsecond, rfl⟩ :=
    exists_rounds hplain hmem hdot hgap.mem
  -- a digit has no case, so the row is as tight as before
  obtain ⟨c, hc, honce⟩ := hrow.respelled (htight ha) hplain hfirst firstCasing
  rw [List.map_singleton, firstCasing.char_of_isDigit hb] at honce
  rw [ha.toLower] at hc
  rw [← hc.toLower] at hgap
  exact not_gapAt_respelled honce (htight hc) ((hplain.separation first).casing firstCasing) hsecond
    secondCasing hgap

/-- **No variant has a gap in front of the third character of a tight row.** -/
theorem not_gapAt_of_three (hplain : IsPlain name) (hmem : text ∈ variants name)
    (hdot : '.' ∈ text) {a b c : Char} (htight : IsTight [a, b, c])
    (hrow : RowAt before [a, b, c] name) :
    ¬ GapAt (before ++ [a.toLower] ++ [b.toLower]) text := by
  intro hgap
  obtain ⟨first, firstCasing, second, secondCasing, hfirst, hsecond, rfl⟩ :=
    exists_rounds hplain hmem hdot hgap.mem
  -- the first round loosens the first character, and the second round the second one
  obtain ⟨d, hd, honce⟩ := hrow.respelled htight hplain hfirst firstCasing
  rw [← (htight.tail.isCaseOf.casing firstCasing).toLower] at hgap
  exact not_gapAt_respelled (honce.tail hd) (htight.tail.casing firstCasing)
    ((hplain.separation first).casing firstCasing) hsecond secondCasing hgap

/-- **No variant has a gap in a tight row if it has lost a dash.** -/
theorem not_gapAt_of_dash (hplain : IsPlain name) (hmem : text ∈ variants name)
    (hdot : '.' ∈ text) (hdash : '-' ∈ name) (hlost : '-' ∉ text) {a b : Char}
    (htight : IsTight [a, b]) (hrow : RowAt before [a, b] name) :
    ¬ GapAt (before ++ [a.toLower]) text := by
  intro hgap
  obtain ⟨first, firstCasing, second, secondCasing, hfirst, hsecond, rfl⟩ :=
    exists_rounds hplain hmem hdot hgap.mem
  have honcePlain := (hplain.separation first).casing firstCasing
  -- one of the rounds has exchanged the dashes, and only the other one loosens the row
  by_cases hexchange : first = .hyphenToUnderscore
  · subst hexchange
    rw [← (htight.isCaseOf.casing firstCasing).toLower] at hgap
    exact not_gapAt_respelled (hrow.hyphenToUnderscore htight.chars hplain firstCasing)
      (htight.casing firstCasing) honcePlain hsecond secondCasing hgap
  · have hkept : '-' ∈ firstCasing.apply (first.apply name) :=
      (separator_mem_casing_iff rfl (hplain.separation first).ascii firstCasing).mpr
        (dash_mem_separation hfirst hexchange hdash)
    have hsecondExchange : second = .hyphenToUnderscore := by
      refine Decidable.byContradiction fun hother => hlost ?_
      exact (separator_mem_casing_iff rfl (honcePlain.separation second).ascii secondCasing).mpr
        (dash_mem_separation hsecond hother hkept)
    subst hsecondExchange
    obtain ⟨c, hc, honce⟩ := hrow.respelled htight hplain hfirst firstCasing
    have hb := htight.tail.isCaseOf.casing firstCasing
    have hchars : ∀ d ∈ [c, firstCasing.char b], isWordChar d.toLower = true := by
      simp [hc.toLower, hc.isWordChar, hb.toLower, hb.isWordChar]
    exact not_gapAt_of_rowAt (hc.casing secondCasing)
      (hb.casing secondCasing).isSeparator_eq_false
      (honce.hyphenToUnderscore hchars honcePlain secondCasing) hgap

end Rounds

end PropertyKeys.Spelling

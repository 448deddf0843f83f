import Mathlib.Logic.Function.Iterate
import PropertyKeys.Proofs.Spelling.WordForms

/-!
# Rows of capitals

Words of one letter leave capitals in a row when they are joined in camel case. Separating the words
takes the first capital off each row, and the capital after it has to wait for the next time. So a
row is separated after as many times as it has capitals, and not before.

## Main definitions

* `Spelling.longestRow`: the length of the longest row of capitals.
* `Spelling.separateFirsts`: the first capital of each row separated.
* `Spelling.separateCapitals`: all capitals separated.

## Main results

* `Spelling.separateWords_eq_separateFirsts`: separating words takes the first capital off each row.
* `Spelling.iterate_separateWords`: separating words often enough separates all capitals.
* `Spelling.separateCapitals_camelCase`: all capitals of a camel case name separated.
-/

namespace PropertyKeys.Spelling

open Unicode Text

/-- The length of the longest row of capitals in the rest of a text, where `passed` capitals have
just been passed. -/
def longestRowFrom (passed : Nat) : Text → Nat
  | [] => passed
  | c :: cs =>
    if c.isUpper then longestRowFrom (passed + 1) cs else max passed (longestRowFrom 0 cs)

/-- The length of the longest row of capitals in a text. -/
def longestRow (text : Text) : Nat :=
  longestRowFrom 0 text

/-- A text with a separator and a small letter for the first capital of each row, where `inRow`
tells whether a capital has just been passed. -/
def separateFirsts (separator : Char) (inRow : Bool) : Text → Text
  | [] => []
  | c :: cs =>
    if c.isUpper then
      (if inRow then [c] else [separator, c.toLower]) ++ separateFirsts separator true cs
    else c :: separateFirsts separator false cs

/-- A text with a separator and a small letter for each capital. -/
def separateCapitals (separator : Char) (text : Text) : Text :=
  text.flatMap fun c => if c.isUpper then [separator, c.toLower] else [c]

theorem isUpper_of_isSeparator {c : Char} (h : isSeparator c = true) : c.isUpper = false := by
  rcases eq_of_isSeparator h with rfl | rfl | rfl <;> rfl

theorem endsWord_of_not_isUpper {c : Char} (hupper : c.isUpper = false) (hdash : c ≠ '-') :
    endsWord c = true := by
  simp [endsWord, hupper, hdash]

/-! ## Separating words once -/

section Once

variable {separator : Char}

/-- No word ends with a capital. -/
theorem separateWords_cons_of_isUpper {a : Char} (h : a.isUpper = true) (text : Text) :
    separateWords separator (a :: text) = a :: separateWords separator text := by
  cases text with
  | nil => rfl
  | cons b rest => rw [separateWords, if_neg (by simp [endsWord, h])]

theorem separateWords_cons_cons {b : Char} (h : b.isUpper = false) (a : Char) (rest : Text) :
    separateWords separator (a :: b :: rest) = a :: separateWords separator (b :: rest) := by
  rw [separateWords, if_neg (by simp [h])]

theorem separateWords_append_of_not_isUpper {start : Text} {b : Char}
    (hstart : ∀ c ∈ start, c.isUpper = false) (hb : b.isUpper = false) (rest : Text) :
    separateWords separator (start ++ b :: rest) =
      start ++ separateWords separator (b :: rest) := by
  induction start with
  | nil => rfl
  | cons a start ih =>
    have hrest : ∀ c ∈ start, c.isUpper = false :=
      fun c hc => hstart c (List.mem_cons_of_mem _ hc)
    rw [List.cons_append, List.cons_append, ← ih hrest]
    cases start with
    | nil => exact separateWords_cons_cons hb a rest
    | cons d ds => exact separateWords_cons_cons (hrest d List.mem_cons_self) a (ds ++ b :: rest)

/-- **Separating words takes the first capital off each row**, in a text without dashes. The text
stands behind the last capital that was separated, or behind the end of a word. -/
theorem separateWords_eq_separateFirsts {text : Text} (hdash : '-' ∉ text) :
    separateWords separator text = separateFirsts separator true text ∧
      ∀ a, endsWord a = true →
        separateWords separator (a :: text) = a :: separateFirsts separator false text := by
  induction text with
  | nil => exact ⟨rfl, fun _ _ => rfl⟩
  | cons b rest ih =>
    obtain ⟨hrow, hend⟩ := ih fun hmem => hdash (List.mem_cons_of_mem _ hmem)
    by_cases hupper : b.isUpper = true
    · refine ⟨?_, fun a ha => ?_⟩
      · rw [separateWords_cons_of_isUpper hupper, hrow, separateFirsts, if_pos hupper, if_pos rfl,
          List.singleton_append]
      · rw [separateWords, if_pos (by simp [ha, hupper]), hrow, separateFirsts, if_pos hupper,
          if_neg Bool.false_ne_true]
        rfl
    · have hb : endsWord b = true :=
        endsWord_of_not_isUpper (Bool.eq_false_iff.mpr hupper) fun heq =>
          hdash (heq ▸ List.mem_cons_self)
      refine ⟨?_, fun a _ => ?_⟩
      · rw [hend b hb, separateFirsts, if_neg hupper]
      · rw [separateWords_cons_cons (Bool.eq_false_iff.mpr hupper), hend b hb, separateFirsts,
          if_neg hupper]

/-- Each row has one capital less afterwards. -/
theorem longestRow_separateFirsts (hseparator : isSeparator separator = true) {limit : Nat}
    (text : Text) :
    (∀ passed, longestRowFrom (passed + 1) text ≤ limit + 1 →
      longestRowFrom passed (separateFirsts separator true text) ≤ limit) ∧
    (longestRow text ≤ limit + 1 → longestRow (separateFirsts separator false text) ≤ limit) := by
  have hmark := isUpper_of_isSeparator hseparator
  -- inside a row its first capital has been separated, so one capital less has been passed
  induction text with
  | nil => exact ⟨fun passed h => by simpa [longestRowFrom, separateFirsts] using h,
      fun _ => Nat.zero_le limit⟩
  | cons c cs ih =>
    obtain ⟨hrow, hend⟩ := ih
    by_cases hupper : c.isUpper = true
    · constructor
      · intro passed h
        rw [longestRowFrom, if_pos hupper] at h
        rw [separateFirsts, if_pos hupper, if_pos rfl, List.singleton_append, longestRowFrom,
          if_pos hupper]
        exact hrow (passed + 1) h
      · intro h
        rw [longestRow, longestRowFrom, if_pos hupper] at h
        have hrest := hrow 0 h
        simpa [separateFirsts, hupper, longestRow, longestRowFrom, hmark, isUpper_toLower c]
          using hrest
    · constructor
      · intro passed h
        rw [longestRowFrom, if_neg hupper, Nat.max_le] at h
        rw [separateFirsts, if_neg hupper, longestRowFrom, if_neg hupper]
        exact Nat.max_le.mpr ⟨Nat.le_of_succ_le_succ h.1, hend h.2⟩
      · intro h
        rw [longestRow, longestRowFrom, if_neg hupper, Nat.max_le] at h
        rw [separateFirsts, if_neg hupper, longestRow, longestRowFrom, if_neg hupper]
        exact Nat.max_le.mpr ⟨Nat.zero_le limit, hend h.2⟩

theorem mem_separateFirsts {mark : Char} (hne : mark ≠ separator) (hlower : mark.isLower = false)
    {inRow : Bool} {text : Text} (h : mark ∈ separateFirsts separator inRow text) :
    mark ∈ text := by
  induction text generalizing inRow with
  | nil => exact absurd h List.not_mem_nil
  | cons c cs ih =>
    rw [separateFirsts] at h
    by_cases hupper : c.isUpper = true
    · rw [if_pos hupper, List.mem_append] at h
      rcases h with h | h
      · cases inRow with
        | true => exact List.mem_singleton.mp h ▸ List.mem_cons_self
        | false =>
          -- what is put there is the separator and a small letter
          rcases List.mem_cons.mp h with heq | h
          · exact absurd heq hne
          · have hsmall := isLower_toLower hupper
            rw [← List.mem_singleton.mp h, hlower] at hsmall
            exact absurd hsmall Bool.false_ne_true
      · exact List.mem_cons_of_mem _ (ih h)
    · rw [if_neg hupper] at h
      rcases List.mem_cons.mp h with rfl | h
      · exact List.mem_cons_self
      · exact List.mem_cons_of_mem _ (ih h)

/-- Separating the remaining capitals makes no difference between those that have been separated
already and those that have not. -/
theorem separateCapitals_separateFirsts (hseparator : isSeparator separator = true) (text : Text) :
    separateCapitals separator (separateFirsts separator false text) =
      separateCapitals separator text := by
  have hmark := isUpper_of_isSeparator hseparator
  have hfrom : ∀ inRow, separateCapitals separator (separateFirsts separator inRow text) =
      separateCapitals separator text := by
    induction text with
    | nil => exact fun _ => rfl
    | cons c cs ih =>
      intro inRow
      have hcs := ih (c.isUpper)
      rw [separateCapitals] at hcs
      by_cases hupper : c.isUpper = true
      · rw [hupper] at hcs
        cases inRow <;>
          simp [separateFirsts, separateCapitals, hupper, hmark, isUpper_toLower c, hcs]
      · rw [Bool.eq_false_iff.mpr hupper] at hcs
        simp [separateFirsts, separateCapitals, hupper, hcs]
  exact hfrom false

end Once

/-! ## Separating words again and again -/

section Again

variable {separator : Char}

theorem le_longestRowFrom (passed : Nat) (text : Text) : passed ≤ longestRowFrom passed text := by
  induction text generalizing passed with
  | nil => exact Nat.le_refl passed
  | cons c cs ih =>
    rw [longestRowFrom]
    split
    · exact Nat.le_of_succ_le (ih (passed + 1))
    · exact Nat.le_max_left passed _

theorem separateCapitals_of_longestRow_le_zero {text : Text} (h : longestRow text ≤ 0) :
    separateCapitals separator text = text := by
  induction text with
  | nil => rfl
  | cons c cs ih =>
    rw [longestRow, longestRowFrom] at h
    by_cases hupper : c.isUpper = true
    · rw [if_pos hupper] at h
      exact absurd ((le_longestRowFrom 1 cs).trans h) (by decide)
    · rw [if_neg hupper, Nat.max_le] at h
      rw [separateCapitals, List.flatMap_cons, if_neg hupper, ← separateCapitals, ih h.2,
        List.singleton_append]

/-- **Separating words often enough separates all capitals.** The text stands behind a dot, and no
capital comes before that. -/
theorem iterate_separateWords (hseparator : isSeparator separator = true) (hne : separator ≠ '-')
    {start : Text} (hstart : ∀ c ∈ start, c.isUpper = false) (times : Nat) {text : Text}
    (hdash : '-' ∉ text) (hrow : longestRow text ≤ times) :
    (separateWords separator)^[times] (start ++ '.' :: text) =
      start ++ '.' :: separateCapitals separator text := by
  induction times generalizing text with
  | zero =>
    rw [Function.iterate_zero, id, separateCapitals_of_longestRow_le_zero hrow]
  | succ times ih =>
    have honce : separateWords separator (start ++ '.' :: text) =
        start ++ '.' :: separateFirsts separator false text := by
      rw [separateWords_append_of_not_isUpper hstart rfl,
        (separateWords_eq_separateFirsts hdash).2 '.' rfl]
    rw [Function.iterate_succ_apply, honce,
      ih (fun hmem => hdash (mem_separateFirsts hne.symm rfl hmem))
        ((longestRow_separateFirsts hseparator text).2 hrow),
      separateCapitals_separateFirsts hseparator]

theorem longestRow_eq_zero {text : Text} (h : ∀ c ∈ text, c.isUpper = false) :
    longestRow text = 0 := by
  induction text with
  | nil => rfl
  | cons c cs ih =>
    have hcs := ih fun d hd => h d (List.mem_cons_of_mem _ hd)
    rw [longestRow, longestRowFrom, h c List.mem_cons_self, if_neg Bool.false_ne_true,
      ← longestRow, hcs, Nat.max_self]

theorem exists_row_of_lt_longestRow {size : Nat} {text : Text} (h : size < longestRow text) :
    ∃ start row rest, text = start ++ row ++ rest ∧ row.length = size + 1 ∧
      ∀ c ∈ row, c.isUpper = true := by
  -- capitals that have been passed already stand in front of the text
  have hfrom : ∀ (text passed : Text), (∀ c ∈ passed, c.isUpper = true) → passed.length ≤ size →
      size < longestRowFrom passed.length text →
      ∃ start row rest, passed ++ text = start ++ row ++ rest ∧ row.length = size + 1 ∧
        ∀ c ∈ row, c.isUpper = true := by
    intro text
    induction text with
    | nil => exact fun passed _ hle hlt => absurd hlt (Nat.not_lt.mpr hle)
    | cons c cs ih =>
      intro passed hpassed hle hlt
      rw [longestRowFrom] at hlt
      by_cases hupper : c.isUpper = true
      · have hmore : ∀ d ∈ passed ++ [c], d.isUpper = true := by
          intro d hd
          rcases List.mem_append.mp hd with hd | hd
          · exact hpassed d hd
          · rw [List.mem_singleton.mp hd]
            exact hupper
        rw [if_pos hupper] at hlt
        rcases Nat.lt_or_eq_of_le hle with hless | heq
        · obtain ⟨start, row, rest, htext, hrow⟩ :=
            ih (passed ++ [c]) hmore (by simp; omega) (by simpa using hlt)
          exact ⟨start, row, rest, by simpa using htext, hrow⟩
        · exact ⟨[], passed ++ [c], cs, by simp, by simp [heq], hmore⟩
      · rw [if_neg hupper] at hlt
        have hrest : size < longestRowFrom 0 cs := by omega
        obtain ⟨start, row, rest, rfl, hrow⟩ :=
          ih [] (fun d hd => absurd hd List.not_mem_nil) (Nat.zero_le size) hrest
        exact ⟨passed ++ c :: start, row, rest, by simp, hrow⟩
  simpa using hfrom text [] (fun d hd => absurd hd List.not_mem_nil) (Nat.zero_le size) h

end Again

/-! ## Camel case -/

/-- Whether a word starts with a small letter. -/
def startsWithLetter (word : Text) : Bool :=
  word.head?.any Char.isLower

theorem exists_cons_of_startsWithLetter {word : Text} (h : startsWithLetter word = true) :
    ∃ first rest, word = first :: rest ∧ first.isLower = true := by
  cases word with
  | nil => exact absurd h (by decide)
  | cons first rest => exact ⟨first, rest, rfl, by simpa [startsWithLetter] using h⟩

theorem separateCapitals_append (separator : Char) (a b : Text) :
    separateCapitals separator (a ++ b) =
      separateCapitals separator a ++ separateCapitals separator b :=
  List.flatMap_append

theorem separateCapitals_cons_of_isUpper (separator : Char) {c : Char} (h : c.isUpper = true)
    (text : Text) :
    separateCapitals separator (c :: text) =
      separator :: c.toLower :: separateCapitals separator text := by
  rw [separateCapitals, List.flatMap_cons, if_pos h]
  rfl

theorem separateCapitals_of_isWordChar (separator : Char) {text : Text}
    (h : ∀ c ∈ text, isWordChar c = true) : separateCapitals separator text = text := by
  induction text with
  | nil => rfl
  | cons c cs ih =>
    have hc : ¬ c.isUpper = true :=
      Bool.eq_false_iff.mp (isWordChar_spec (h c List.mem_cons_self)).1
    rw [separateCapitals, List.flatMap_cons, if_neg hc, ← separateCapitals,
      ih fun d hd => h d (List.mem_cons_of_mem _ hd), List.singleton_append]

theorem letters_separateCapitals {separator : Char} (hseparator : isSeparator separator = true)
    (text : Text) : letters (separateCapitals separator text) = letters text := by
  induction text with
  | nil => rfl
  | cons c cs ih =>
    by_cases hupper : c.isUpper = true
    · rw [separateCapitals_cons_of_isUpper separator hupper, letters_cons,
        letters_singleton_of_isSeparator hseparator, List.nil_append, letters_cons,
        letters_singleton_toLower (ascii_of_isUpper hupper), ih, ← letters_cons]
    · rw [separateCapitals, List.flatMap_cons, if_neg hupper, ← separateCapitals,
        List.singleton_append, letters_cons, ih, ← letters_cons]

/-- **All capitals of a camel case name separated**: the words are back, if all words that got a
capital start with a letter. -/
theorem separateCapitals_camelCase (separator : Char) {words : List Text}
    (hwords : ∀ word ∈ words, IsKebabWord word)
    (hletters : ∀ word ∈ words.tail, startsWithLetter word = true) :
    separateCapitals separator (camelCase words) = [separator].intercalate words := by
  have hrest : ∀ words : List Text, (∀ word ∈ words, IsKebabWord word) →
      (∀ word ∈ words, startsWithLetter word = true) →
      separateCapitals separator (words.flatMap (List.modifyHead Char.toUpper)) =
        words.flatMap (separator :: ·) := by
    intro words
    induction words with
    | nil => exact fun _ _ => rfl
    | cons word words ih =>
      intro hwords hletters
      obtain ⟨first, rest, rfl, hfirst⟩ :=
        exists_cons_of_startsWithLetter (hletters _ List.mem_cons_self)
      obtain ⟨hupper, hlower⟩ := toUpper_of_isLower hfirst
      have hchars : ∀ c ∈ rest, isWordChar c = true :=
        fun c hc => (hwords _ List.mem_cons_self).isWordChar c (List.mem_cons_of_mem _ hc)
      rw [List.flatMap_cons, List.modifyHead_cons, separateCapitals_append,
        separateCapitals_cons_of_isUpper separator hupper, hlower,
        separateCapitals_of_isWordChar separator hchars,
        ih (fun other hother => hwords other (List.mem_cons_of_mem _ hother))
          (fun other hother => hletters other (List.mem_cons_of_mem _ hother)), List.flatMap_cons]
  cases words with
  | nil => rfl
  | cons word words =>
    rw [camelCase, separateCapitals_append, intercalate_eq_flatMap,
      separateCapitals_of_isWordChar separator (hwords word List.mem_cons_self).isWordChar,
      hrest words (fun other hother => hwords other (List.mem_cons_of_mem _ hother)) hletters]

end PropertyKeys.Spelling

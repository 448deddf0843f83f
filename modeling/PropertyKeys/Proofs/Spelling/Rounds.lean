import PropertyKeys.Proofs.Spelling.Folding
import PropertyKeys.Proofs.Text.Cuts

/-!
# Two rounds of respelling

The variants of a name are what two respellings in a row make of it. Each of them keeps the letters.
What becomes of the dots is less plain: a respelling may turn them into underscores, and a second
one may turn underscores into dots, those that were dots before and others too. But as long as a
variant has any dot, it has all the dots of the name at their places, and maybe more.

## Main definitions

* `Spelling.IsPlain`: the names whose respellings are followed here.
* `Spelling.TracksDots`: a text has all the dots of a name at their places, or no dot at all.

## Main results

* `Spelling.mem_variants_iff`: the variants of a name are reached by two respellings.
* `Spelling.letters_of_mem_variants`: variants have the letters of the name.
* `Spelling.tracksDots_of_mem_variants`: variants track the dots of the name.
-/

namespace PropertyKeys.Spelling

open Unicode Text

/-- A respelling is a change of the separation followed by a change of the case. -/
theorem mem_respellings_iff {name text : Text} :
    text ∈ respellings name ↔
      ∃ separation casing, text = Casing.apply casing (Separation.apply separation name) := by
  rw [respellings, List.mem_flatMap]
  constructor
  · rintro ⟨separation, -, hmem⟩
    obtain ⟨casing, -, rfl⟩ := List.mem_map.mp hmem
    exact ⟨separation, casing, rfl⟩
  · rintro ⟨separation, casing, rfl⟩
    refine ⟨separation, ?_, List.mem_map_of_mem ?_⟩
    · cases separation <;> decide
    · cases casing <;> decide

theorem self_mem_respellings (name : Text) : name ∈ respellings name :=
  mem_respellings_iff.mpr ⟨.keep, .keep, rfl⟩

/-- A round finds the respellings of the newest names that have not been found before. -/
theorem Search.mem_newest_advance {search : Search} {text : Text} :
    text ∈ search.advance.newest ↔
      (∃ name ∈ search.newest, text ∈ respellings name) ∧ text ∉ search.found := by
  simp [Search.advance, List.mem_filter, List.mem_eraseDups, List.mem_flatMap]

/-- A round adds the respellings of the newest names to what has been found. -/
theorem Search.mem_found_advance {search : Search} {text : Text} :
    text ∈ search.advance.found ↔
      text ∈ search.found ∨ ∃ name ∈ search.newest, text ∈ respellings name := by
  have hfound : text ∈ search.advance.found ↔
      text ∈ search.found ∨ text ∈ search.advance.newest := List.mem_append
  rw [hfound, Search.mem_newest_advance]
  by_cases hold : text ∈ search.found <;> simp [hold]

/-- **The variants of a name** are the respellings of its respellings. -/
theorem mem_variants_iff {name text : Text} :
    text ∈ variants name ↔ ∃ once ∈ respellings name, text ∈ respellings once := by
  rw [variants, Search.mem_found_advance, Search.mem_found_advance]
  constructor
  · rintro ((hname | ⟨start, hstart, htext⟩) | ⟨once, honce, htext⟩)
    · rw [List.mem_singleton.mp hname]
      exact ⟨name, self_mem_respellings name, self_mem_respellings name⟩
    · rw [List.mem_singleton.mp hstart] at htext
      exact ⟨text, htext, self_mem_respellings text⟩
    · obtain ⟨⟨start, hstart, hmem⟩, -⟩ := Search.mem_newest_advance.mp honce
      rw [List.mem_singleton.mp hstart] at hmem
      exact ⟨once, hmem, htext⟩
  · rintro ⟨once, honce, htext⟩
    by_cases hname : once = name
    · exact Or.inl (Or.inr ⟨name, List.mem_singleton_self name, hname ▸ htext⟩)
    · -- a respelling other than the name itself is new in the first round
      refine Or.inr ⟨once, Search.mem_newest_advance.mpr ⟨?_, ?_⟩, htext⟩
      · exact ⟨name, List.mem_singleton_self name, honce⟩
      · exact fun hmem => hname (List.mem_singleton.mp hmem)

/-- Two changes of the separation in a row, with a change of the case behind them, make a variant. -/
theorem apply_mem_variants (first second : Separation) (casing : Casing) (name : Text) :
    casing.apply (second.apply (first.apply name)) ∈ variants name :=
  mem_variants_iff.mpr ⟨first.apply name, mem_respellings_iff.mpr ⟨first, .keep, rfl⟩,
    mem_respellings_iff.mpr ⟨second, casing, rfl⟩⟩

/-- A change of case as a change of each character. -/
def Casing.char : Casing → Char → Char
  | .keep, c => c
  | .lower, c => c.toLower
  | .upper, c => c.toUpper

theorem Casing.char_ascii (casing : Casing) {c : Char} (h : c.toNat < 0x80) :
    (casing.char c).toNat < 0x80 := by
  cases casing with
  | keep => exact h
  | lower => exact toLower_ascii h
  | upper => exact toUpper_ascii h

theorem Casing.lowerChar_char (casing : Casing) {c : Char} (h : c.toNat < 0x80) :
    lowerChar (casing.char c) = lowerChar c := by
  cases casing with
  | keep => rfl
  | lower => exact lowerChar_toLower h
  | upper => exact lowerChar_toUpper h

theorem Casing.apply_of_isAscii (casing : Casing) {text : Text} (h : IsAscii text) :
    casing.apply text = text.map casing.char := by
  cases casing with
  | keep => exact (List.map_id text).symm
  | lower => exact lower_of_isAscii h
  | upper => exact upper_of_isAscii h

theorem IsAscii.casing {text : Text} (h : IsAscii text) (casing : Casing) :
    IsAscii (casing.apply text) := by
  rw [casing.apply_of_isAscii h]
  exact h.map fun _ => casing.char_ascii

theorem folded_casing {text : Text} (h : IsAscii text) (casing : Casing) :
    folded (casing.apply text) = folded text := by
  rw [casing.apply_of_isAscii h, folded_map h fun _ => casing.lowerChar_char]

/-- An ASCII name that does not end with a separator. -/
structure IsPlain (name : Text) : Prop where
  ascii : IsAscii name
  ends : ∀ c, (folded name).getLast? = some c → isSeparator c = false

namespace IsPlain

variable {name : Text}

/-- The last character decides whether an ASCII name is plain. -/
theorem of_getLast? (hascii : IsAscii name)
    (hend : ∀ c, name.getLast? = some c → isSeparator c = false) : IsPlain name := by
  refine ⟨hascii, fun d hd => ?_⟩
  cases hlast : name.getLast? with
  | none =>
    rw [List.getLast?_eq_none_iff.mp hlast] at hd
    exact absurd hd (by simp)
  | some c =>
    obtain ⟨start, rfl⟩ := List.getLast?_eq_some_iff.mp hlast
    have hform : lowerChar c = [c.toLower] :=
      lowerChar_of_ascii (hascii c (List.mem_append_right _ List.mem_cons_self))
    have hd : c.toLower = d := by simpa [hform] using hd
    cases hsep : isSeparator d with
    | false => rfl
    | true =>
      have hc : c = d := eq_of_separator_mem_lowerChar hsep (by simp [hform, hd])
      rw [← hsep, ← hc, hend c hlast]

theorem getLast? (h : IsPlain name) : ∀ c, name.getLast? = some c → isSeparator c = false := by
  intro c hlast
  cases hsep : isSeparator c with
  | false => rfl
  | true =>
    obtain ⟨start, rfl⟩ := List.getLast?_eq_some_iff.mp hlast
    rw [← hsep]
    exact h.ends c (by simp [lowerChar_of_isSeparator hsep])

theorem folded_joinWords (h : IsPlain name) (ignoreCase : Bool) :
    folded (joinWords ignoreCase name) = letters name :=
  Spelling.folded_joinWords ignoreCase h.ascii h.getLast?

theorem replace (h : IsPlain name) {old new : Char} (hold : isSeparator old = true)
    (hnew : isSeparator new = true) : IsPlain (replace old new name) := by
  constructor
  · refine h.ascii.map fun c hc => ?_
    split
    · rcases eq_of_isSeparator hnew with rfl | rfl | rfl <;> decide
    · exact hc
  · intro c hc
    rw [folded_replace hold hnew, Text.replace, List.getLast?_map, Option.map_eq_some_iff] at hc
    obtain ⟨d, hd, rfl⟩ := hc
    have hd : isSeparator d = false := h.ends d hd
    have hne : d ≠ old := by
      rintro rfl
      rw [hold] at hd
      exact absurd hd (by decide)
    rwa [if_neg hne]

theorem separateWords (h : IsPlain name) {separator : Char} (hascii : separator.toNat < 0x80) :
    IsPlain (separateWords separator name) := by
  refine ⟨h.ascii.separateWords hascii, ?_⟩
  rw [getLast?_folded_separateWords]
  exact h.ends

theorem joinWords (h : IsPlain name) (ignoreCase : Bool) : IsPlain (joinWords ignoreCase name) := by
  constructor
  · rw [joinWords_of_getLast? ignoreCase h.getLast?]
    exact isAscii_joinCamel fun _ => isAscii_of_mem_words h.ascii
  · intro c hc
    rw [h.folded_joinWords] at hc
    simpa using (List.mem_filter.mp (List.mem_of_getLast? hc)).2

theorem separation (h : IsPlain name) (separation : Separation) :
    IsPlain (separation.apply name) := by
  cases separation with
  | keep => exact h
  | hyphenToUnderscore => exact h.replace rfl rfl
  | underscoreToDot => exact h.replace rfl rfl
  | dotToUnderscore => exact h.replace rfl rfl
  | camelToUnderscore => exact h.separateWords (by decide)
  | camelToHyphen => exact h.separateWords (by decide)
  | joinCamel => exact h.joinWords false
  | joinCamelIgnoringCase => exact h.joinWords true

theorem casing (h : IsPlain name) (casing : Casing) : IsPlain (casing.apply name) := by
  refine ⟨h.ascii.casing casing, ?_⟩
  rw [folded_casing h.ascii]
  exact h.ends

end IsPlain

section Steps

variable {name text : Text}

theorem letters_separation (h : IsPlain name) (separation : Separation) :
    letters (separation.apply name) = letters name := by
  have hjoin : ∀ ignoreCase, letters (joinWords ignoreCase name) = letters name := by
    intro ignoreCase
    rw [letters, h.folded_joinWords, letters, List.filter_filter]
    simp only [Bool.and_self]
  cases separation with
  | keep => rfl
  | hyphenToUnderscore => exact filter_folded_replace rfl rfl rfl rfl name
  | underscoreToDot => exact filter_folded_replace rfl rfl rfl rfl name
  | dotToUnderscore => exact filter_folded_replace rfl rfl rfl rfl name
  | camelToUnderscore => exact filter_folded_separateWords rfl rfl name
  | camelToHyphen => exact filter_folded_separateWords rfl rfl name
  | joinCamel => exact hjoin false
  | joinCamelIgnoringCase => exact hjoin true

/-- One respelling of a plain name is plain and has the same letters. -/
theorem isPlain_and_letters_of_mem_respellings (h : IsPlain name) (hmem : text ∈ respellings name) :
    IsPlain text ∧ letters text = letters name := by
  obtain ⟨separation, casing, rfl⟩ := mem_respellings_iff.mp hmem
  have hplain := h.separation separation
  refine ⟨hplain.casing casing, ?_⟩
  rw [letters, folded_casing hplain.ascii, ← letters, letters_separation h]

/-- **Variants have the letters of the name.** -/
theorem letters_of_mem_variants (h : IsPlain name) (hmem : text ∈ variants name) :
    letters text = letters name := by
  obtain ⟨once, honce, htext⟩ := mem_variants_iff.mp hmem
  obtain ⟨hplain, hletters⟩ := isPlain_and_letters_of_mem_respellings h honce
  rw [(isPlain_and_letters_of_mem_respellings hplain htext).2, hletters]

/-- A text has all the dots of a name at their places among the letters, or no dot at all. -/
def TracksDots (name text : Text) : Prop :=
  (dotted name).Sublist (dotted text) ∨ '.' ∉ text

/-- Only the lower-case form of a text matters for its dots. -/
theorem TracksDots.of_folded_eq {other : Text} (h : TracksDots name text)
    (hfolded : folded other = folded text) : TracksDots name other := by
  have hdotted : dotted other = dotted text := by rw [dotted, hfolded, dotted]
  rwa [TracksDots, ← dot_mem_dotted_iff, hdotted, dot_mem_dotted_iff]

/-- A text that has been respelled without loss of dots goes on to track them. -/
theorem TracksDots.trans_sublist {other : Text} (hfirst : (dotted name).Sublist (dotted text))
    (hsecond : TracksDots text other) : TracksDots name other := by
  rcases hsecond with hkept | hnone
  · exact Or.inl (hfirst.trans hkept)
  · exact Or.inr hnone

/-- The joined words of a plain name have no dots, and no underscores that could become dots. -/
theorem dot_notMem_joinWords (h : IsPlain name) (ignoreCase : Bool) :
    '.' ∉ joinWords ignoreCase name ∧ '.' ∉ replace '_' '.' (joinWords ignoreCase name) := by
  have hletters : ∀ c ∈ letters name, isSeparator c = false := by
    intro c hc
    simpa using (List.mem_filter.mp hc).2
  constructor
  · rw [← separator_mem_folded_iff rfl, h.folded_joinWords]
    exact fun hdot => absurd (hletters '.' hdot) (by decide)
  · rw [← separator_mem_folded_iff rfl, folded_replace rfl rfl, h.folded_joinWords]
    intro hdot
    obtain ⟨c, hc, heq⟩ := List.mem_map.mp hdot
    have hsep := hletters c hc
    split at heq
    · next hunder => rw [hunder] at hsep; exact absurd hsep (by decide)
    · rw [heq] at hsep; exact absurd hsep (by decide)

/-- Dots that became underscores become dots again. -/
theorem replace_replace (text : Text) :
    replace '_' '.' (replace '.' '_' text) = replace '_' '.' text := by
  rw [replace, replace, List.map_map, replace]
  refine List.map_congr_left fun c _ => ?_
  by_cases hc : c = '.'
  · simp [hc]
  · simp [hc]

/-- One change of the separation either keeps all dots or leaves none. -/
theorem tracksDots_separation (h : IsPlain name) (separation : Separation) :
    TracksDots name (separation.apply name) := by
  have hkept : ∀ {other : Text}, dotted other = dotted name → TracksDots name other :=
    fun heq => Or.inl (heq ▸ List.Sublist.refl _)
  cases separation with
  | keep => exact hkept rfl
  | hyphenToUnderscore => exact hkept (filter_folded_replace rfl rfl rfl rfl name)
  | underscoreToDot => exact Or.inl (dotted_sublist_replace name)
  | dotToUnderscore => exact Or.inr (notMem_replace (by decide) name)
  | camelToUnderscore => exact hkept (filter_folded_separateWords rfl rfl name)
  | camelToHyphen => exact hkept (filter_folded_separateWords rfl rfl name)
  | joinCamel => exact Or.inr (dot_notMem_joinWords h false).1
  | joinCamelIgnoringCase => exact Or.inr (dot_notMem_joinWords h true).1

/-- Dots that are gone after one change come back all together or not at all, if underscores become
dots then. -/
theorem tracksDots_replace_separation (h : IsPlain name) (separation : Separation) :
    TracksDots name (replace '_' '.' (separation.apply name)) := by
  have hkept : ∀ {other : Text}, dotted other = dotted name →
      TracksDots name (replace '_' '.' other) :=
    fun {other} heq => Or.inl (heq ▸ dotted_sublist_replace other)
  cases separation with
  | keep => exact hkept rfl
  | hyphenToUnderscore => exact hkept (filter_folded_replace rfl rfl rfl rfl name)
  | underscoreToDot =>
    exact Or.inl ((dotted_sublist_replace name).trans (dotted_sublist_replace _))
  | dotToUnderscore =>
    refine Or.inl ?_
    rw [Separation.apply, replace_replace]
    exact dotted_sublist_replace name
  | camelToUnderscore => exact hkept (filter_folded_separateWords rfl rfl name)
  | camelToHyphen => exact hkept (filter_folded_separateWords rfl rfl name)
  | joinCamel => exact Or.inr (dot_notMem_joinWords h false).2
  | joinCamelIgnoringCase => exact Or.inr (dot_notMem_joinWords h true).2

/-- A plain text without dots gets none, unless its underscores become dots. -/
theorem dot_notMem_separation (h : IsPlain name) (hnone : '.' ∉ name) {separation : Separation}
    (hother : separation ≠ .underscoreToDot) : '.' ∉ separation.apply name := by
  have hsame : ∀ {other : Text}, dotted other = dotted name → '.' ∉ other := by
    intro other heq
    rwa [← dot_mem_dotted_iff, heq, dot_mem_dotted_iff]
  cases separation with
  | keep => exact hnone
  | hyphenToUnderscore => exact hsame (filter_folded_replace rfl rfl rfl rfl name)
  | underscoreToDot => exact absurd rfl hother
  | dotToUnderscore => exact notMem_replace (by decide) name
  | camelToUnderscore => exact hsame (filter_folded_separateWords rfl rfl name)
  | camelToHyphen => exact hsame (filter_folded_separateWords rfl rfl name)
  | joinCamel => exact (dot_notMem_joinWords h false).1
  | joinCamelIgnoringCase => exact (dot_notMem_joinWords h true).1

/-- **Variants track the dots of the name.** The first round keeps the dots or hides them all. If it
keeps them then the second round does one or the other again. If it hides them then only the change
from underscores to dots shows any. -/
theorem tracksDots_of_mem_variants (h : IsPlain name) (hmem : text ∈ variants name) :
    TracksDots name text := by
  obtain ⟨once, honce, htext⟩ := mem_variants_iff.mp hmem
  have honcePlain := (isPlain_and_letters_of_mem_respellings h honce).1
  obtain ⟨first, firstCasing, rfl⟩ := mem_respellings_iff.mp honce
  obtain ⟨second, secondCasing, rfl⟩ := mem_respellings_iff.mp htext
  have hfirst := folded_casing (h.separation first).ascii firstCasing
  refine TracksDots.of_folded_eq ?_ (folded_casing (honcePlain.separation second).ascii secondCasing)
  rcases (tracksDots_separation h first).of_folded_eq hfirst with hkept | hnone
  -- the first round has kept the dots
  · exact TracksDots.trans_sublist hkept (tracksDots_separation honcePlain second)
  -- the first round has left no dots
  · by_cases hsecond : second = .underscoreToDot
    · subst hsecond
      refine (tracksDots_replace_separation h first).of_folded_eq ?_
      rw [Separation.apply, folded_replace rfl rfl, hfirst, folded_replace rfl rfl]
    · exact Or.inr (dot_notMem_separation honcePlain hnone hsecond)

end Steps

theorem camelLastSegment_cases (key : Text) :
    camelLastSegment key = key ∨
      ∃ head last, key = head ++ '.' :: last ∧
        camelLastSegment key = head ++ '.' :: joinDashed last := by
  rw [camelLastSegment]
  cases hcut : splitLast? '.' key with
  | none => exact Or.inl rfl
  | some parts => exact Or.inr ⟨parts.1, parts.2, (splitLast?_spec hcut).1, rfl⟩

/-- The camel case of the last segment is not seen where dashes are left out. -/
theorem filter_folded_camelLastSegment {p : Char → Bool} (hp : p '-' = false) {key : Text}
    (hascii : IsAscii key) :
    (folded (camelLastSegment key)).filter p = (folded key).filter p := by
  rcases camelLastSegment_cases key with hkeep | ⟨head, last, rfl, hcamel⟩
  · rw [hkeep]
  · have hlast : IsAscii last :=
      fun c hc => hascii c (List.mem_append_right _ (List.mem_cons_of_mem _ hc))
    have hdashes : ∀ c, (p c && c != '-') = p c := by
      intro c
      by_cases hc : c = '-'
      · rw [hc, hp, Bool.false_and]
      · simp [hc]
    rw [hcamel, folded_append, folded_append, folded_cons, folded_cons, folded_joinDashed hlast]
    simp only [List.filter_append, List.filter_filter, hdashes]

/-- A key that is plain is plain with its last segment in camel case: its last character is not a
dash that could be dropped. -/
theorem IsPlain.camelLastSegment {key : Text} (h : IsPlain key) :
    IsPlain (camelLastSegment key) := by
  rcases camelLastSegment_cases key with hkeep | ⟨head, last, rfl, hcamel⟩
  · rwa [hkeep]
  · have hlast : IsAscii last :=
      fun c hc => h.ascii c (List.mem_append_right _ (List.mem_cons_of_mem _ hc))
    rw [hcamel]
    constructor
    · refine IsAscii.append (fun c hc => h.ascii c (List.mem_append_left _ hc)) fun c hc => ?_
      rcases List.mem_cons.mp hc with rfl | hc
      · decide
      · exact hlast.joinDashed c hc
    · have hends := h.ends
      rw [folded_append, folded_cons, List.getLast?_append, List.getLast?_append] at hends ⊢
      rw [folded_joinDashed hlast]
      rcases List.eq_nil_or_concat' (folded last) with hnil | ⟨start, c, hconcat⟩
      · rwa [hnil] at hends ⊢
      · have hc : isSeparator c = false := hends c (by simp [hconcat])
        have hdash : c ≠ '-' := by
          rintro rfl
          exact absurd hc (by decide)
        have hkeep : [c].filter (fun c => c != '-') = [c] := by simp [hdash]
        rw [hconcat] at hends ⊢
        rw [List.filter_append, hkeep]
        simpa using hends

end PropertyKeys.Spelling

import PropertyKeys.Spelling.Variants
import PropertyKeys.Proofs.Unicode.Letters

/-!
# Letters of a name

A respelling moves separators and changes case, and leaves all else of a name alone. So two texts
are looked at through their lower-case forms, once without any separator and once with the dots.

## Main definitions

* `Spelling.folded`: the lower-case form of a text, character by character.
* `Spelling.letters`: what is left of it without separators.
* `Spelling.dotted`: what is left of it without separators other than dots.

## Main results

* `Spelling.filter_folded_replace` / `Spelling.filter_folded_separateWords`: exchanging and inserting
  separators is not seen where these are left out.
* `Spelling.folded_joinWords`: joining words drops the separators.
* `Spelling.folded_joinDashed`: joining dashed words drops the dashes.
-/

namespace PropertyKeys.Spelling

open Unicode Text

/-- The lower-case form of a text, each character converted on its own. -/
def folded (text : Text) : Text :=
  text.flatMap lowerChar

/-- The lower-case form of a text without separators. -/
def letters (text : Text) : Text :=
  (folded text).filter fun c => !isSeparator c

/-- The lower-case form of a text without separators other than dots. -/
def dotted (text : Text) : Text :=
  (folded text).filter fun c => c = '.' || !isSeparator c

/-- All characters are ASCII. -/
def IsAscii (text : Text) : Prop :=
  ∀ c ∈ text, c.toNat < 0x80

instance (text : Text) : Decidable (IsAscii text) :=
  List.decidableBAll (fun c : Char => c.toNat < 0x80) text

@[simp]
theorem folded_nil : folded [] = [] := rfl

@[simp]
theorem folded_cons (c : Char) (text : Text) : folded (c :: text) = lowerChar c ++ folded text := rfl

@[simp]
theorem folded_append (a b : Text) : folded (a ++ b) = folded a ++ folded b :=
  List.flatMap_append

theorem letters_append (a b : Text) : letters (a ++ b) = letters a ++ letters b := by
  rw [letters, folded_append, List.filter_append]
  rfl

theorem letters_cons (c : Char) (text : Text) : letters (c :: text) = letters [c] ++ letters text :=
  letters_append [c] text

theorem eq_of_isSeparator {c : Char} (h : isSeparator c = true) : c = '_' ∨ c = '-' ∨ c = '.' := by
  simpa [isSeparator, or_assoc] using h

theorem lowerChar_of_isSeparator {c : Char} (h : isSeparator c = true) : lowerChar c = [c] := by
  rcases eq_of_isSeparator h with rfl | rfl | rfl <;> rfl

theorem letters_singleton_of_isSeparator {c : Char} (h : isSeparator c = true) :
    letters [c] = [] := by
  rw [letters, folded_cons, lowerChar_of_isSeparator h]
  simp [h]

/-- A capital counts as the small letter. -/
theorem letters_singleton_toLower {c : Char} (hascii : c.toNat < 0x80) :
    letters [c.toLower] = letters [c] := by
  rw [letters, folded_cons, lowerChar_toLower hascii, ← folded_cons, ← letters]

/-- A separator stands in the lower-case form of no other character. -/
theorem eq_of_separator_mem_lowerChar {separator c : Char} (h : isSeparator separator = true)
    (hmem : separator ∈ lowerChar c) : c = separator := by
  rcases eq_of_isSeparator h with rfl | rfl | rfl <;>
    exact eq_of_mark_mem_lowerChar (by decide) rfl hmem

theorem separator_mem_folded_iff {separator : Char} (h : isSeparator separator = true)
    {text : Text} : separator ∈ folded text ↔ separator ∈ text := by
  rw [folded, List.mem_flatMap]
  constructor
  · rintro ⟨c, hc, hmem⟩
    rwa [eq_of_separator_mem_lowerChar h hmem] at hc
  · intro hmem
    exact ⟨separator, hmem, by rw [lowerChar_of_isSeparator h]; exact List.mem_cons_self⟩

theorem dot_mem_dotted_iff {text : Text} : '.' ∈ dotted text ↔ '.' ∈ text := by
  rw [dotted, List.mem_filter, separator_mem_folded_iff rfl]
  exact and_iff_left rfl

/-- Exchanging a separator commutes with folding. -/
theorem folded_replace {old new : Char} (hold : isSeparator old = true)
    (hnew : isSeparator new = true) (text : Text) :
    folded (replace old new text) = replace old new (folded text) := by
  induction text with
  | nil => rfl
  | cons c cs ih =>
    have hcons : ∀ cs : Text, replace old new (c :: cs) =
        (if c = old then new else c) :: replace old new cs := fun _ => rfl
    rw [hcons, folded_cons, folded_cons, ih, replace, replace, List.map_append]
    congr 1
    by_cases hc : c = old
    · subst hc
      simp [lowerChar_of_isSeparator hold, lowerChar_of_isSeparator hnew]
    · rw [if_neg hc]
      -- no character of the form is the old separator, so all of them are kept
      refine (List.map_id' (lowerChar c)).symm.trans (List.map_congr_left fun d hd => ?_)
      have hne : d ≠ old := fun heq => hc (eq_of_separator_mem_lowerChar hold (heq ▸ hd))
      rw [if_neg hne]

/-- Exchanging one separator for another is not seen where both are left out. -/
theorem filter_folded_replace {p : Char → Bool} {old new : Char} (hold : isSeparator old = true)
    (hnew : isSeparator new = true) (hpold : p old = false) (hpnew : p new = false) (text : Text) :
    (folded (replace old new text)).filter p = (folded text).filter p := by
  rw [folded_replace hold hnew]
  induction folded text with
  | nil => rfl
  | cons c cs ih =>
    rw [replace, List.map_cons, List.filter_cons, List.filter_cons]
    by_cases hc : c = old
    · rw [if_pos hc, hc, hpold, hpnew]
      exact ih
    · rw [if_neg hc]
      exact congrArg (fun rest => if p c then c :: rest else rest) ih

/-- Making dots of underscores adds dots. -/
theorem dotted_sublist_replace (text : Text) :
    (dotted text).Sublist (dotted (replace '_' '.' text)) := by
  rw [dotted, dotted, folded_replace rfl rfl]
  induction folded text with
  | nil => exact List.Sublist.refl _
  | cons c cs ih =>
    rw [replace, List.map_cons]
    by_cases hc : c = '_'
    · rw [hc, if_pos rfl]
      exact ih.cons '.'
    · rw [if_neg hc, List.filter_cons, List.filter_cons]
      split
      · exact ih.cons_cons c
      · exact ih

/-- A separator that is inserted at the ends of words is not seen where it is left out. -/
theorem filter_folded_separateWords {p : Char → Bool} {separator : Char}
    (hseparator : isSeparator separator = true) (hp : p separator = false) (text : Text) :
    (folded (separateWords separator text)).filter p = (folded text).filter p := by
  fun_induction separateWords separator text with
  | case1 a b rest hword ih =>
    -- the capital becomes small, and the lower-case form does not show it
    have hlower : lowerChar b.toLower = lowerChar b :=
      lowerChar_toLower (ascii_of_isUpper (Bool.and_eq_true_iff.mp hword).2)
    simp [hlower, lowerChar_of_isSeparator hseparator, hp, ih]
  | case2 a b rest hword ih =>
    rw [folded_cons, List.filter_append, ih, ← List.filter_append, ← folded_cons]
  | case3 a => rfl
  | case4 => rfl

/-- Inserting separators between the characters of a text leaves the last one. -/
theorem getLast?_folded_separateWords (separator : Char) (text : Text) :
    (folded (separateWords separator text)).getLast? = (folded text).getLast? := by
  fun_induction separateWords separator text with
  | case1 a b rest hword ih =>
    have hascii : b.toNat < 0x80 := ascii_of_isUpper (Bool.and_eq_true_iff.mp hword).2
    simp only [folded_cons, List.getLast?_append, ih, lowerChar_toLower hascii,
      lowerChar_of_ascii hascii, List.getLast?_singleton, Option.or_assoc, Option.some_or]
  | case2 a b rest hword ih =>
    rw [folded_cons, List.getLast?_append, ih, ← List.getLast?_append, ← folded_cons]
  | case3 a => rfl
  | case4 => rfl

theorem flatten_splitBy (p : Char → Bool) (text : Text) :
    (splitBy p text).flatten = text.filter fun c => !p c := by
  induction text with
  | nil => rfl
  | cons c cs ih =>
    rw [splitBy]
    by_cases hc : p c = true
    · simp [hc, ih]
    · rw [if_neg hc, List.filter_cons_of_pos (by simpa using hc), ← ih]
      cases splitBy p cs <;> rfl

/-- What only drops separators can be done before or after folding. -/
theorem folded_filter {p : Char → Bool} (hp : ∀ c, p c = false → isSeparator c = true)
    (text : Text) : folded (text.filter p) = (folded text).filter p := by
  induction text with
  | nil => rfl
  | cons c cs ih =>
    rw [folded_cons, List.filter_append, ← ih]
    by_cases hc : p c = true
    · have hkeep : ∀ d ∈ lowerChar c, p d = true := by
        intro d hd
        cases hd' : p d with
        | true => rfl
        | false => rw [← hd', ← eq_of_separator_mem_lowerChar (hp d hd') hd, hc]
      rw [List.filter_cons_of_pos hc, folded_cons, List.filter_eq_self.mpr hkeep]
    · rw [List.filter_cons_of_neg hc,
        lowerChar_of_isSeparator (hp c (Bool.eq_false_iff.mpr hc)), List.filter_cons_of_neg hc,
        List.filter_nil, List.nil_append]

/-- The words of a name, in lower case if their own case is to be ignored. -/
def words (ignoreCase : Bool) (name : Text) : List Text :=
  (splitBy isSeparator name).map fun word => if ignoreCase then lower word else word

/-- Nothing is appended to the joined words of a name that does not end with a separator. -/
theorem joinWords_of_getLast? (ignoreCase : Bool) {name : Text}
    (hend : ∀ c, name.getLast? = some c → isSeparator c = false) :
    joinWords ignoreCase name = joinCamel (words ignoreCase name) := by
  rw [joinWords]
  cases hlast : name.getLast? with
  | none => rfl
  | some c => simp [hend c hlast, words]

section Ascii

variable {text : Text}

theorem lower_of_isAscii (h : IsAscii text) : lower text = text.map Char.toLower := by
  have hafter : ∀ before, lowerAfter before text = text.map Char.toLower := by
    induction text with
    | nil => exact fun _ => rfl
    | cons c cs ih =>
      intro before
      have hc : c.toNat < 0x80 := h c List.mem_cons_self
      -- the only character whose form depends on its place is not ASCII
      have hsigma : c ≠ 'Σ' := by
        rintro rfl
        exact absurd hc (by decide)
      rw [lowerAfter, if_neg hsigma, lowerChar_of_ascii hc,
        ih (fun d hd => h d (List.mem_cons_of_mem _ hd))]
      rfl
  exact hafter []

theorem upper_of_isAscii (h : IsAscii text) : upper text = text.map Char.toUpper := by
  rw [upper, List.flatMap_def, List.map_congr_left (fun c hc => upperChar_of_ascii (h c hc)),
    ← List.flatMap_def, ← List.map_eq_flatMap]

theorem folded_map {f : Char → Char} (h : IsAscii text)
    (hf : ∀ c, c.toNat < 0x80 → lowerChar (f c) = lowerChar c) :
    folded (text.map f) = folded text := by
  rw [folded, List.flatMap_map, folded, List.flatMap_def, List.flatMap_def,
    List.map_congr_left (fun c hc => hf c (h c hc))]

theorem folded_capitalize (h : IsAscii text) : folded (capitalize text) = folded text := by
  cases text with
  | nil => rfl
  | cons c cs =>
    have hc : c.toNat < 0x80 := h c List.mem_cons_self
    rw [capitalize, upperChar_of_ascii hc, List.singleton_append, folded_cons, lowerChar_toUpper hc,
      folded_cons]

/-- The lower-case form of joined words is that of the words one after the other. -/
theorem folded_joinCamel {words : List Text} (h : ∀ word ∈ words, IsAscii word) :
    folded (joinCamel words) = folded words.flatten := by
  -- the words after the first one are capitalized
  have hrest : ∀ words : List Text, (∀ word ∈ words, IsAscii word) →
      folded (words.flatMap capitalize) = folded words.flatten := by
    intro words
    induction words with
    | nil => exact fun _ => rfl
    | cons word words ih =>
      intro h
      rw [List.flatMap_cons, folded_append, folded_capitalize (h word List.mem_cons_self),
        ih (fun other hother => h other (List.mem_cons_of_mem _ hother)), List.flatten_cons,
        folded_append]
  induction words with
  | nil => rfl
  | cons word words ih =>
    have hwords : ∀ other ∈ words, IsAscii other :=
      fun other hother => h other (List.mem_cons_of_mem _ hother)
    rw [joinCamel]
    split
    · next hempty => rw [ih hwords, List.flatten_cons, List.isEmpty_iff.mp hempty, List.nil_append]
    · rw [folded_append, hrest words hwords, List.flatten_cons, folded_append]

theorem isAscii_of_mem_splitBy {p : Char → Bool} {piece : Text} (h : IsAscii text)
    (hpiece : piece ∈ splitBy p text) : IsAscii piece := by
  intro c hc
  have hmem : c ∈ (splitBy p text).flatten := List.mem_flatten.mpr ⟨piece, hpiece, hc⟩
  rw [flatten_splitBy] at hmem
  exact h c (List.mem_filter.mp hmem).1

theorem IsAscii.map {f : Char → Char} (h : IsAscii text)
    (hf : ∀ c, c.toNat < 0x80 → (f c).toNat < 0x80) : IsAscii (text.map f) := by
  intro c hc
  obtain ⟨d, hd, rfl⟩ := List.mem_map.mp hc
  exact hf d (h d hd)

theorem IsAscii.append {more : Text} (h : IsAscii text) (hmore : IsAscii more) :
    IsAscii (text ++ more) := by
  intro c hc
  rcases List.mem_append.mp hc with hc | hc
  · exact h c hc
  · exact hmore c hc

theorem IsAscii.capitalize (h : IsAscii text) : IsAscii (capitalize text) := by
  cases text with
  | nil => exact h
  | cons c cs =>
    rw [Spelling.capitalize, upperChar_of_ascii (h c List.mem_cons_self)]
    intro d hd
    rcases List.mem_cons.mp hd with rfl | hd
    · exact toUpper_ascii (h c List.mem_cons_self)
    · exact h d (List.mem_cons_of_mem _ hd)

theorem isAscii_joinCamel {words : List Text} (h : ∀ word ∈ words, IsAscii word) :
    IsAscii (joinCamel words) := by
  induction words with
  | nil => exact fun c hc => absurd hc List.not_mem_nil
  | cons word words ih =>
    have hwords : ∀ other ∈ words, IsAscii other :=
      fun other hother => h other (List.mem_cons_of_mem _ hother)
    rw [joinCamel]
    split
    · exact ih hwords
    · refine IsAscii.append (h word List.mem_cons_self) fun c hc => ?_
      obtain ⟨other, hother, hc⟩ := List.mem_flatMap.mp hc
      exact (hwords other hother).capitalize c hc

theorem IsAscii.separateWords {separator : Char} (hseparator : separator.toNat < 0x80)
    (h : IsAscii text) : IsAscii (separateWords separator text) := by
  fun_induction Spelling.separateWords separator text with
  | case1 a b rest hword ih =>
    have hrest : IsAscii rest :=
      fun c hc => h c (List.mem_cons_of_mem _ (List.mem_cons_of_mem _ hc))
    intro c hc
    simp only [List.mem_cons] at hc
    rcases hc with rfl | rfl | rfl | hc
    · exact h c List.mem_cons_self
    · exact hseparator
    · exact toLower_ascii (h b (List.mem_cons_of_mem _ List.mem_cons_self))
    · exact ih hrest c hc
  | case2 a b rest hword ih =>
    intro c hc
    rcases List.mem_cons.mp hc with rfl | hc
    · exact h c List.mem_cons_self
    · exact ih (fun d hd => h d (List.mem_cons_of_mem _ hd)) c hc
  | case3 a => exact h
  | case4 => exact h

theorem isAscii_of_mem_words {ignoreCase : Bool} {word : Text} (h : IsAscii text)
    (hword : word ∈ words ignoreCase text) : IsAscii word := by
  obtain ⟨piece, hpiece, rfl⟩ := List.mem_map.mp hword
  have hascii : IsAscii piece := isAscii_of_mem_splitBy h hpiece
  cases ignoreCase with
  | false => exact hascii
  | true =>
    rw [if_pos rfl, lower_of_isAscii hascii]
    exact hascii.map fun c => toLower_ascii

/-- The words of a text have its letters, whether they are put into lower case or not. -/
theorem folded_flatten_words (ignoreCase : Bool) (h : IsAscii text) :
    folded (words ignoreCase text).flatten = letters text := by
  have hwords : ∀ pieces : List Text, (∀ piece ∈ pieces, IsAscii piece) →
      folded (pieces.map fun word => if ignoreCase then lower word else word).flatten =
        folded pieces.flatten := by
    intro pieces
    induction pieces with
    | nil => exact fun _ => rfl
    | cons piece pieces ih =>
      intro hpieces
      have hpiece : IsAscii piece := hpieces piece List.mem_cons_self
      have hcase : folded (if ignoreCase then lower piece else piece) = folded piece := by
        split
        · rw [lower_of_isAscii hpiece, folded_map hpiece fun c => lowerChar_toLower]
        · rfl
      rw [List.map_cons, List.flatten_cons, folded_append, hcase, List.flatten_cons, folded_append,
        ih (fun other hother => hpieces other (List.mem_cons_of_mem _ hother))]
  rw [words, hwords _ (fun piece hpiece => isAscii_of_mem_splitBy h hpiece), flatten_splitBy,
    folded_filter (by simp), letters]

/-- Joining the words of a text that does not end with a separator drops all separators. -/
theorem folded_joinWords (ignoreCase : Bool) (h : IsAscii text)
    (hend : ∀ c, text.getLast? = some c → isSeparator c = false) :
    folded (joinWords ignoreCase text) = letters text := by
  rw [joinWords_of_getLast? ignoreCase hend, folded_joinCamel (fun _ => isAscii_of_mem_words h),
    folded_flatten_words ignoreCase h]

/-- Joining dashed words drops the dashes. -/
theorem folded_joinDashed (h : IsAscii text) :
    folded (joinDashed text) = (folded text).filter fun c => c != '-' := by
  have hfrom : ∀ afterDash, folded (joinDashedFrom afterDash text) =
      folded (text.filter fun c => c != '-') := by
    induction text with
    | nil => exact fun _ => rfl
    | cons c cs ih =>
      intro afterDash
      have hc : c.toNat < 0x80 := h c List.mem_cons_self
      have hcs : IsAscii cs := fun d hd => h d (List.mem_cons_of_mem _ hd)
      rw [joinDashedFrom]
      by_cases hdash : c = '-'
      · rw [if_pos hdash, ih hcs, List.filter_cons_of_neg (by simp [hdash])]
      · have hcase : folded (if afterDash then upperChar c else [c]) = lowerChar c := by
          split
          · rw [upperChar_of_ascii hc, folded_cons, lowerChar_toUpper hc, folded_nil,
              List.append_nil]
          · rw [folded_cons, folded_nil, List.append_nil]
        rw [if_neg hdash, folded_append, hcase, ih hcs, List.filter_cons_of_pos (by simp [hdash]),
          folded_cons]
  rw [joinDashed, hfrom, folded_filter]
  intro c hc
  rw [show c = '-' by simpa using hc]
  rfl

theorem IsAscii.joinDashed (h : IsAscii text) : IsAscii (joinDashed text) := by
  have hfrom : ∀ afterDash, IsAscii (joinDashedFrom afterDash text) := by
    induction text with
    | nil => exact fun _ => h
    | cons c cs ih =>
      intro afterDash
      have hcs : IsAscii cs := fun d hd => h d (List.mem_cons_of_mem _ hd)
      rw [joinDashedFrom]
      split
      · exact ih hcs true
      · refine IsAscii.append ?_ (ih hcs false)
        have hc : IsAscii [c] := fun d hd => h d (List.mem_singleton.mp hd ▸ List.mem_cons_self)
        cases afterDash with
        | false => exact hc
        | true => simpa [Spelling.capitalize] using hc.capitalize
  exact hfrom false

end Ascii

end PropertyKeys.Spelling

import PropertyKeys.Proofs.Spelling.Rounds
import PropertyKeys.Proofs.Spelling.WordForms

/-!
# The ends of a name

A respelling may do a lot to the inside of a name, above all when it holds characters beyond ASCII.
But an ASCII letter or digit at the front or at the end of the name stays there: no separator is put
before or behind it, words are joined around it, and its case is all that changes.

## Main definitions

* `Spelling.IsCaseOf`: a character is a given small letter or digit, or the capital of it.
* `Spelling.HasEnds`: a text starts with one letter or digit and ends with another.

## Main results

* `Spelling.HasEnds.separation` / `Spelling.HasEnds.casing`: the two parts of a respelling keep the
  ends.
* `Spelling.HasEnds.of_mem_keyVariants`: all variants of a key have its ends.
-/

namespace PropertyKeys.Spelling

open Unicode Text

/-- A character is the given small letter or digit, or the capital of it. -/
structure IsCaseOf (letter c : Char) : Prop where
  isWordChar : isWordChar letter = true
  toLower : c.toLower = letter

theorem isCaseOf_of_isWordChar_toLower {c : Char} (h : isWordChar c.toLower = true) :
    IsCaseOf c.toLower c :=
  ⟨h, rfl⟩

namespace IsCaseOf

variable {letter c : Char}

theorem ascii (h : IsCaseOf letter c) : c.toNat < 0x80 := by
  by_cases hupper : c.isUpper = true
  · exact ascii_of_isUpper hupper
  · rw [← toLower_of_not_isUpper (Bool.eq_false_iff.mpr hupper), h.toLower]
    exact ascii_of_isWordChar h.isWordChar

theorem isSeparator_eq_false (h : IsCaseOf letter c) : isSeparator c = false := by
  refine forall_ascii (P := fun c => Spelling.isWordChar c.toLower = true → isSeparator c = false)
    (by decide +kernel) h.ascii ?_
  rw [h.toLower]
  exact h.isWordChar

theorem ne_of_isSeparator (h : IsCaseOf letter c) {mark : Char} (hmark : isSeparator mark = true) :
    c ≠ mark := by
  rintro rfl
  rw [h.isSeparator_eq_false] at hmark
  exact Bool.false_ne_true hmark

/-- In lower case the character is the letter itself. -/
theorem lowerChar (h : IsCaseOf letter c) : lowerChar c = [letter] := by
  rw [lowerChar_of_ascii h.ascii, h.toLower]

theorem self (h : IsCaseOf letter c) : IsCaseOf letter letter := by
  refine ⟨h.isWordChar, ?_⟩
  rw [← h.toLower]
  exact forall_ascii (P := fun c => c.toLower.toLower = c.toLower) (by decide +kernel) h.ascii

theorem toUpper (h : IsCaseOf letter c) : IsCaseOf letter c.toUpper := by
  refine ⟨h.isWordChar, ?_⟩
  rw [← h.toLower]
  exact forall_ascii (P := fun c => c.toUpper.toLower = c.toLower) (by decide +kernel) h.ascii

end IsCaseOf

/-- A text starts with a letter or digit, in either case. -/
inductive StartsLike (letter : Char) : Text → Prop
  | intro {c : Char} (h : IsCaseOf letter c) (rest : Text) : StartsLike letter (c :: rest)

/-- A text ends with a letter or digit, in either case. -/
inductive EndsLike (letter : Char) : Text → Prop
  | last {c : Char} (h : IsCaseOf letter c) : EndsLike letter [c]
  | cons (c : Char) {text : Text} (h : EndsLike letter text) : EndsLike letter (c :: text)

/-- A text starts with one letter or digit and ends with another, in either case. -/
structure HasEnds (first last : Char) (text : Text) : Prop where
  starts : StartsLike first text
  ends : EndsLike last text

section Start

variable {letter : Char} {text : Text}

theorem StartsLike.append (h : StartsLike letter text) (more : Text) :
    StartsLike letter (text ++ more) := by
  cases h with
  | intro h rest => exact .intro h (rest ++ more)

theorem StartsLike.map {f : Char → Char} (h : StartsLike letter text)
    (hf : ∀ c, IsCaseOf letter c → IsCaseOf letter (f c)) : StartsLike letter (text.map f) := by
  cases h with
  | intro h rest => exact .intro (hf _ h) (rest.map f)

theorem StartsLike.separateWords (h : StartsLike letter text) (separator : Char) :
    StartsLike letter (separateWords separator text) := by
  cases h with
  | intro h rest =>
    cases rest with
    | nil => exact .intro h []
    | cons b rest =>
      rw [Spelling.separateWords]
      split
      · exact .intro h _
      · exact .intro h _

theorem StartsLike.lower (h : StartsLike letter text) : StartsLike letter (lower text) := by
  cases h with
  | @intro c h rest =>
    -- a sigma would be converted in its own way, but it is not ASCII
    have hsigma : c ≠ 'Σ' := by
      rintro rfl
      exact absurd h.ascii (by decide)
    rw [Unicode.lower, lowerAfter, if_neg hsigma, h.lowerChar]
    exact .intro h.self _

theorem StartsLike.upper (h : StartsLike letter text) : StartsLike letter (upper text) := by
  cases h with
  | intro h rest =>
    rw [Unicode.upper, List.flatMap_cons, upperChar_of_ascii h.ascii]
    exact .intro h.toUpper _

/-- The first word of a text starts like the text. -/
theorem StartsLike.words (h : StartsLike letter text) (ignoreCase : Bool) :
    ∃ word more, words ignoreCase text = word :: more ∧ StartsLike letter word := by
  cases h with
  | @intro c h rest =>
    obtain ⟨piece, pieces, hsplit⟩ : ∃ piece pieces,
        splitBy isSeparator (c :: rest) = (c :: piece) :: pieces := by
      rw [splitBy, if_neg (by simp [h.isSeparator_eq_false])]
      cases splitBy isSeparator rest with
      | nil => exact ⟨[], [], rfl⟩
      | cons piece pieces => exact ⟨piece, pieces, rfl⟩
    have hpiece : StartsLike letter (c :: piece) := .intro h piece
    rw [Spelling.words, hsplit, List.map_cons]
    refine ⟨_, _, rfl, ?_⟩
    cases ignoreCase with
    | false => exact hpiece
    | true => exact hpiece.lower

theorem StartsLike.joinCamel {word : Text} (h : StartsLike letter word) (words : List Text) :
    StartsLike letter (joinCamel (word :: words)) := by
  cases h with
  | intro h rest => exact .intro h _

end Start

section End

variable {letter : Char} {text : Text}

theorem EndsLike.ne_nil (h : EndsLike letter text) : text ≠ [] := by
  cases h <;> exact List.cons_ne_nil _ _

theorem EndsLike.prepend (h : EndsLike letter text) (front : Text) :
    EndsLike letter (front ++ text) := by
  induction front with
  | nil => exact h
  | cons c cs ih => exact ih.cons c

theorem EndsLike.of_append {front : Text} (hne : text ≠ []) (h : EndsLike letter (front ++ text)) :
    EndsLike letter text := by
  induction front with
  | nil => exact h
  | cons c cs ih =>
    rw [List.cons_append] at h
    generalize hwhole : cs ++ text = whole at h ih
    cases h with
    | last => exact absurd (List.append_eq_nil_iff.mp hwhole).2 hne
    | cons _ h => exact ih h

theorem EndsLike.exists_getLast? (h : EndsLike letter text) :
    ∃ c, text.getLast? = some c ∧ IsCaseOf letter c := by
  induction h with
  | @last c h => exact ⟨c, rfl, h⟩
  | cons c h ih => rwa [List.getLast?_cons_of_ne_nil h.ne_nil]

theorem EndsLike.map {f : Char → Char} (h : EndsLike letter text)
    (hf : ∀ c, IsCaseOf letter c → IsCaseOf letter (f c)) : EndsLike letter (text.map f) := by
  induction h with
  | last h => exact .last (hf _ h)
  | cons c h ih => exact ih.cons (f c)

theorem EndsLike.separateWords (h : EndsLike letter text) (separator : Char) :
    EndsLike letter (separateWords separator text) := by
  fun_induction Spelling.separateWords separator text with
  | case1 a b rest hword ih =>
    cases h with
    | cons _ h =>
      cases h with
      | last h =>
        -- the last character is a capital that becomes small
        refine EndsLike.cons _ (EndsLike.cons _ ?_)
        rw [h.toLower]
        exact .last h.self
      | cons _ h => exact (((ih h).cons _).cons _).cons _
  | case2 a b rest hword ih =>
    cases h with
    | cons _ h => exact (ih h).cons a
  | case3 a => exact h
  | case4 => exact h

theorem EndsLike.lower (h : EndsLike letter text) : EndsLike letter (lower text) := by
  have hafter : ∀ before, EndsLike letter (lowerAfter before text) := by
    induction h with
    | @last c h =>
      intro before
      have hsigma : c ≠ 'Σ' := by
        rintro rfl
        exact absurd h.ascii (by decide)
      rw [lowerAfter, if_neg hsigma, h.lowerChar]
      exact .last h.self
    | cons c h ih =>
      intro before
      rw [lowerAfter]
      split
      · exact (ih _).cons _
      · exact (ih _).prepend _
  exact hafter []

theorem EndsLike.upper (h : EndsLike letter text) : EndsLike letter (upper text) := by
  induction h with
  | last h =>
    rw [Unicode.upper, List.flatMap_singleton, upperChar_of_ascii h.ascii]
    exact .last h.toUpper
  | cons c h ih => exact ih.prepend (upperChar c)

theorem EndsLike.capitalize (h : EndsLike letter text) : EndsLike letter (capitalize text) := by
  cases h with
  | last h =>
    rw [Spelling.capitalize, upperChar_of_ascii h.ascii]
    exact .last h.toUpper
  | cons c h => exact h.prepend (upperChar c)

/-- The last word of a text ends like the text. -/
theorem EndsLike.words (h : EndsLike letter text) (ignoreCase : Bool) :
    ∃ more word, words ignoreCase text = more ++ [word] ∧ EndsLike letter word := by
  obtain ⟨pieces, piece, hsplit, hpiece⟩ : ∃ pieces piece,
      splitBy isSeparator text = pieces ++ [piece] ∧ EndsLike letter piece := by
    induction h with
    | @last c h =>
      refine ⟨[], [c], splitBy_of_forall_not fun d hd => ?_, .last h⟩
      rw [List.mem_singleton.mp hd]
      exact h.isSeparator_eq_false
    | cons c h ih =>
      obtain ⟨pieces, piece, hsplit, hpiece⟩ := ih
      rw [splitBy, hsplit]
      split
      · exact ⟨[] :: pieces, piece, rfl, hpiece⟩
      · cases pieces with
        | nil => exact ⟨[], c :: piece, rfl, hpiece.cons c⟩
        | cons first pieces => exact ⟨(c :: first) :: pieces, piece, rfl, hpiece⟩
  rw [Spelling.words, hsplit, List.map_append, List.map_singleton]
  refine ⟨_, _, rfl, ?_⟩
  cases ignoreCase with
  | false => exact hpiece
  | true => exact hpiece.lower

theorem EndsLike.joinCamel {word : Text} (h : EndsLike letter word) (words : List Text) :
    EndsLike letter (joinCamel (words ++ [word])) := by
  induction words with
  | nil =>
    rw [List.nil_append, Spelling.joinCamel, if_neg (by simpa using h.ne_nil), List.flatMap_nil,
      List.append_nil]
    exact h
  | cons other words ih =>
    rw [List.cons_append, Spelling.joinCamel]
    split
    · exact ih
    · rw [List.flatMap_append, List.flatMap_singleton]
      exact (h.capitalize.prepend _).prepend _

theorem EndsLike.joinDashed (h : EndsLike letter text) : EndsLike letter (joinDashed text) := by
  have hfrom : ∀ afterDash, EndsLike letter (joinDashedFrom afterDash text) := by
    induction h with
    | @last c h =>
      intro afterDash
      rw [joinDashedFrom, if_neg (h.ne_of_isSeparator rfl), joinDashedFrom, List.append_nil]
      cases afterDash with
      | false => exact .last h
      | true =>
        rw [if_pos rfl, upperChar_of_ascii h.ascii]
        exact .last h.toUpper
    | cons c h ih =>
      intro afterDash
      rw [joinDashedFrom]
      split
      · exact ih true
      · exact (ih false).prepend _
  exact hfrom false

/-- A text that ends with a letter or digit has no start with all of its letters but itself. -/
theorem EndsLike.eq_of_isPrefix {start : Text} (h : EndsLike letter text)
    (hstart : start <+: text) (hletters : letters start = letters text) : start = text := by
  obtain ⟨more, rfl⟩ := hstart
  cases hmore : more with
  | nil => rw [List.append_nil]
  | cons d ds =>
    -- otherwise the last letter of the text is missing in the start
    have hends : EndsLike letter more := h.of_append (by simp [hmore])
    obtain ⟨c, hlast, hcase⟩ := hends.exists_getLast?
    have hmem : letter ∈ letters more := by
      refine List.mem_filter.mpr ⟨List.mem_flatMap.mpr ⟨c, List.mem_of_getLast? hlast, ?_⟩, ?_⟩
      · rw [hcase.lowerChar]
        exact List.mem_cons_self
      · rw [hcase.self.isSeparator_eq_false]
        rfl
    rw [letters_append, List.self_eq_append_right] at hletters
    rw [hletters] at hmem
    exact absurd hmem List.not_mem_nil

end End

namespace HasEnds

variable {first last : Char} {text : Text}

theorem map {f : Char → Char} (h : HasEnds first last text)
    (hf : ∀ letter c, IsCaseOf letter c → IsCaseOf letter (f c)) :
    HasEnds first last (text.map f) :=
  ⟨h.starts.map (hf first), h.ends.map (hf last)⟩

/-- Separators may be exchanged, since there are none at the ends. -/
theorem replace (h : HasEnds first last text) {old : Char} (hold : isSeparator old = true)
    (new : Char) : HasEnds first last (replace old new text) := by
  refine h.map fun letter c hc => ?_
  rwa [if_neg (hc.ne_of_isSeparator hold)]

theorem separateWords (h : HasEnds first last text) (separator : Char) :
    HasEnds first last (separateWords separator text) :=
  ⟨h.starts.separateWords separator, h.ends.separateWords separator⟩

/-- Words are joined from the first one to the last one, and neither is empty. -/
theorem joinWords (h : HasEnds first last text) (ignoreCase : Bool) :
    HasEnds first last (joinWords ignoreCase text) := by
  obtain ⟨final, hfinal, hcase⟩ := h.ends.exists_getLast?
  have hend : ∀ c, text.getLast? = some c → isSeparator c = false := by
    intro c hc
    rw [hfinal, Option.some.injEq] at hc
    exact hc ▸ hcase.isSeparator_eq_false
  rw [joinWords_of_getLast? ignoreCase hend]
  constructor
  · obtain ⟨word, more, hwords, hword⟩ := h.starts.words ignoreCase
    rw [hwords]
    exact hword.joinCamel more
  · obtain ⟨more, word, hwords, hword⟩ := h.ends.words ignoreCase
    rw [hwords]
    exact hword.joinCamel more

theorem separation (h : HasEnds first last text) (separation : Separation) :
    HasEnds first last (separation.apply text) := by
  cases separation with
  | keep => exact h
  | hyphenToUnderscore => exact h.replace rfl '_'
  | underscoreToDot => exact h.replace rfl '.'
  | dotToUnderscore => exact h.replace rfl '_'
  | camelToUnderscore => exact h.separateWords '_'
  | camelToHyphen => exact h.separateWords '-'
  | joinCamel => exact h.joinWords false
  | joinCamelIgnoringCase => exact h.joinWords true

theorem casing (h : HasEnds first last text) (casing : Casing) :
    HasEnds first last (casing.apply text) := by
  cases casing with
  | keep => exact h
  | lower => exact ⟨h.starts.lower, h.ends.lower⟩
  | upper => exact ⟨h.starts.upper, h.ends.upper⟩

theorem of_mem_respellings {other : Text} (h : HasEnds first last text)
    (hmem : other ∈ respellings text) : HasEnds first last other := by
  obtain ⟨separation, casing, rfl⟩ := mem_respellings_iff.mp hmem
  exact (h.separation separation).casing casing

theorem of_mem_variants {other : Text} (h : HasEnds first last text)
    (hmem : other ∈ variants text) : HasEnds first last other := by
  obtain ⟨once, honce, htext⟩ := mem_variants_iff.mp hmem
  exact (h.of_mem_respellings honce).of_mem_respellings htext

/-- The last dot of a key is neither its first character nor its last one. -/
theorem camelLastSegment (h : HasEnds first last text) :
    HasEnds first last (camelLastSegment text) := by
  rcases camelLastSegment_cases text with hkeep | ⟨head, segment, rfl, hcamel⟩
  · rwa [hkeep]
  · have hstart : StartsLike first head := by
      cases head with
      | nil =>
        cases h.starts with
        | intro hcase => exact absurd rfl (hcase.ne_of_isSeparator rfl)
      | cons c cs =>
        cases h.starts with
        | intro hcase => exact .intro hcase cs
    have hsegment : EndsLike last segment := by
      cases h.ends.of_append (List.cons_ne_nil '.' segment) with
      | last hcase => exact absurd rfl (hcase.ne_of_isSeparator rfl)
      | cons _ hends => exact hends
    rw [hcamel]
    exact ⟨hstart.append _, (hsegment.joinDashed.cons '.').prepend head⟩

/-- **All variants of a key have its ends.** -/
theorem of_mem_keyVariants {other : Text} (h : HasEnds first last text)
    (hmem : other ∈ keyVariants text) : HasEnds first last other :=
  h.camelLastSegment.of_mem_variants hmem

/-- Texts with the same ends start and end with the same letters. -/
theorem sameFirst_and_sameLast {other : Text} (h : HasEnds first last text)
    (hother : HasEnds first last other) :
    sameFirst text other = true ∧ sameLast text other = true := by
  obtain ⟨a, ha, hcase⟩ := h.ends.exists_getLast?
  obtain ⟨b, hb, hotherCase⟩ := hother.ends.exists_getLast?
  constructor
  · cases h.starts with
    | intro hcase =>
      cases hother.starts with
      | intro hotherCase => exact beq_iff_eq.mpr (hcase.lowerChar.trans hotherCase.lowerChar.symm)
  · rw [sameLast, ha, hb]
    exact beq_iff_eq.mpr (hcase.lowerChar.trans hotherCase.lowerChar.symm)

end HasEnds

end PropertyKeys.Spelling

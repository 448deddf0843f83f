import Mathlib.Data.List.Basic
import Mathlib.Data.List.TakeWhile
import PropertyKeys.Proofs.Unicode.Letters
import PropertyKeys.Text.Basic

/-!
# Cuts of a text

What the operations that cut a text at a mark or behind its blanks return for a text that is given
by its parts, how segments are joined and counted, and what two texts share that differ in case at
most.
-/

namespace PropertyKeys.Text

open Unicode

theorem forall_bne_of_notMem {mark : Char} {text : Text} (hmark : mark ∉ text) :
    ∀ c ∈ text, (c != mark) = true := by
  intro c hc
  exact bne_iff_ne.mpr (fun heq => hmark (heq ▸ hc))

theorem before_append {mark : Char} {start : Text} (hstart : mark ∉ start) (rest : Text) :
    before mark (start ++ mark :: rest) = start := by
  rw [before, List.takeWhile_append_of_pos (forall_bne_of_notMem hstart)]
  simp

theorem fromFirst_append {mark : Char} {start : Text} (hstart : mark ∉ start) (rest : Text) :
    fromFirst mark (start ++ mark :: rest) = mark :: rest := by
  rw [fromFirst, List.dropWhile_append_of_pos (forall_bne_of_notMem hstart)]
  simp

/-- What precedes the first place of a mark and what follows it are determined by the text. -/
theorem append_cons_inj {mark : Char} {start other rest more : Text} (hstart : mark ∉ start)
    (hother : mark ∉ other) (heq : start ++ mark :: rest = other ++ mark :: more) :
    start = other ∧ rest = more := by
  have hbefore := congrArg (before mark) heq
  have hfrom := congrArg (fromFirst mark) heq
  rw [before_append hstart, before_append hother] at hbefore
  rw [fromFirst_append hstart, fromFirst_append hother] at hfrom
  exact ⟨hbefore, (List.cons.inj hfrom).2⟩

theorem eq_of_append_cons_eq {mark : Char} {start other rest more : Text} (hstart : mark ∉ start)
    (hother : mark ∉ other) (heq : start ++ mark :: rest = other ++ mark :: more) :
    rest = more :=
  (append_cons_inj hstart hother heq).2

theorem fromFirst_eq_nil {mark : Char} {text : Text} (hmark : mark ∉ text) :
    fromFirst mark text = [] :=
  List.dropWhile_eq_nil_iff.mpr (forall_bne_of_notMem hmark)

/-- Dropping a final mark leaves the text or takes just that mark away. -/
theorem eq_dropFinal_or (mark : Char) (text : Text) :
    text = dropFinal mark text ∨ text = dropFinal mark text ++ [mark] := by
  rw [dropFinal]
  split
  · next hlast => exact Or.inr (List.dropLast_append_getLast? _ hlast).symm
  · exact Or.inl rfl

theorem dropFinal_isPrefix (mark : Char) (text : Text) : dropFinal mark text <+: text := by
  rcases eq_dropFinal_or mark text with heq | heq
  · exact heq ▸ List.prefix_refl text
  · exact ⟨[mark], heq.symm⟩

theorem dropFinal_of_getLast?_ne {mark : Char} {text : Text} (h : text.getLast? ≠ some mark) :
    dropFinal mark text = text :=
  if_neg h

theorem dropFinal_append_singleton (mark : Char) (text : Text) :
    dropFinal mark (text ++ [mark]) = text := by
  simp [dropFinal]

theorem splitLast?_eq_none_iff {mark : Char} {text : Text} :
    splitLast? mark text = none ↔ mark ∉ text := by
  induction text with
  | nil => simp [splitLast?]
  | cons c cs ih =>
    rw [splitLast?, List.mem_cons, not_or, ← ih]
    cases splitLast? mark cs with
    | none => simp [eq_comm]
    | some parts => simp

/-- A text that is cut at the last place of a mark has none behind it. -/
theorem splitLast?_spec {mark : Char} {text head last : Text}
    (h : splitLast? mark text = some (head, last)) : text = head ++ mark :: last ∧ mark ∉ last := by
  induction text generalizing head with
  | nil => simp [splitLast?] at h
  | cons c cs ih =>
    rw [splitLast?] at h
    split at h
    · next first rest hcut =>
      obtain ⟨rfl, rfl⟩ := Prod.mk.inj (Option.some.inj h)
      obtain ⟨rfl, hlast⟩ := ih hcut
      exact ⟨rfl, hlast⟩
    · next hcut =>
      split at h
      · next hc =>
        obtain ⟨rfl, rfl⟩ := Prod.mk.inj (Option.some.inj h)
        exact ⟨by rw [hc, List.nil_append], splitLast?_eq_none_iff.mp hcut⟩
      · simp at h

theorem splitLast?_append {mark : Char} {last : Text} (hlast : mark ∉ last) (head : Text) :
    splitLast? mark (head ++ mark :: last) = some (head, last) := by
  induction head with
  | nil =>
    rw [List.nil_append, splitLast?, splitLast?_eq_none_iff.mpr hlast]
    exact if_pos rfl
  | cons c cs ih => rw [List.cons_append, splitLast?, ih]

theorem replace_of_forall_ne {old : Char} {text : Text} (h : ∀ c ∈ text, c ≠ old) (new : Char) :
    replace old new text = text :=
  (List.map_congr_left fun c hc => if_neg (h c hc)).trans (List.map_id text)

theorem replace_append (old new : Char) (a b : Text) :
    replace old new (a ++ b) = replace old new a ++ replace old new b :=
  List.map_append

theorem notMem_replace {old new : Char} (hne : old ≠ new) (text : Text) :
    old ∉ replace old new text := by
  intro hmem
  obtain ⟨c, -, heq⟩ := List.mem_map.mp hmem
  split at heq
  · exact hne heq.symm
  · next hc => exact hc heq

theorem mem_replace {mark old : Char} {text : Text} (hne : mark ≠ old) (hmem : mark ∈ text)
    (new : Char) : mark ∈ replace old new text :=
  List.mem_map.mpr ⟨mark, hmem, if_neg hne⟩

/-- Joining two lists of pieces puts one more separator between them. -/
theorem intercalate_append (separator : Text) {pieces more : List Text} (hpieces : pieces ≠ [])
    (hmore : more ≠ []) :
    separator.intercalate (pieces ++ more) =
      separator.intercalate pieces ++ separator ++ separator.intercalate more := by
  induction pieces with
  | nil => exact absurd rfl hpieces
  | cons piece pieces ih =>
    by_cases hnil : pieces = []
    · subst hnil
      simpa using List.intercalate_cons_of_ne_nil hmore
    · rw [List.cons_append, List.intercalate_cons_of_ne_nil (by simp [hnil]), ih hnil,
        List.intercalate_cons_of_ne_nil hnil]
      simp only [List.append_assoc]

theorem length_splitOn (mark : Char) (text : Text) :
    (text.splitOn mark).length = text.count mark + 1 := by
  induction text with
  | nil => simp
  | cons c cs ih =>
    rw [List.splitOn_cons_eq_if_modifyHead, List.count_cons]
    split <;> simp [ih]

theorem notMem_of_mem_splitOn {mark : Char} {text piece : Text} (h : piece ∈ text.splitOn mark) :
    mark ∉ piece := by
  induction text generalizing piece with
  | nil => simp_all
  | cons c cs ih =>
    obtain ⟨first, others, hsplit⟩ := List.exists_cons_of_ne_nil (List.splitOn_ne_nil mark cs)
    rw [List.splitOn_cons_eq_if_modifyHead, hsplit] at h
    rw [hsplit] at ih
    split at h
    · rcases List.mem_cons.mp h with rfl | hmem
      · simp
      · exact ih hmem
    · next hne =>
      rw [List.modifyHead_cons] at h
      rcases List.mem_cons.mp h with rfl | hmem
      · have hfirst : mark ∉ first := ih List.mem_cons_self
        have hc : mark ≠ c := fun heq => hne (beq_iff_eq.mpr heq.symm)
        simp [hc, hfirst]
      · exact ih (List.mem_cons_of_mem _ hmem)

theorem eq_of_splitOn_eq {mark : Char} {a b : Text} (h : a.splitOn mark = b.splitOn mark) :
    a = b := by
  have hjoin := congrArg ([mark].intercalate) h
  simpa only [List.intercalate_splitOn] using hjoin

theorem splitBy_of_forall_not {p : Char → Bool} {text : Text} (h : ∀ c ∈ text, p c = false) :
    splitBy p text = [text] := by
  induction text with
  | nil => rfl
  | cons c cs ih =>
    rw [splitBy, if_neg (by simp [h c List.mem_cons_self]),
      ih fun d hd => h d (List.mem_cons_of_mem _ hd)]

theorem splitBy_append_cons {p : Char → Bool} {piece : Text} {mark : Char}
    (hpiece : ∀ c ∈ piece, p c = false) (hmark : p mark = true) (rest : Text) :
    splitBy p (piece ++ mark :: rest) = piece :: splitBy p rest := by
  induction piece with
  | nil => rw [List.nil_append, splitBy, if_pos hmark]
  | cons c cs ih =>
    rw [List.cons_append, splitBy, if_neg (by simp [hpiece c List.mem_cons_self]),
      ih fun d hd => hpiece d (List.mem_cons_of_mem _ hd)]

/-- A text is the blanks at its front and what is left without them. -/
theorem exists_append_skipBlank (text : Text) :
    ∃ front, isBlankText front = true ∧ text = front ++ skipBlank text :=
  ⟨text.takeWhile isBlank, List.all_takeWhile, (List.takeWhile_append_dropWhile ..).symm⟩

theorem skipBlank_append {front : Text} (hfront : isBlankText front = true) (rest : Text) :
    skipBlank (front ++ rest) = skipBlank rest :=
  List.dropWhile_append_of_pos (List.all_eq_true.mp hfront)

theorem skipBlank_skipBlank (text : Text) : skipBlank (skipBlank text) = skipBlank text := by
  obtain ⟨front, hfront, heq⟩ := exists_append_skipBlank text
  exact (skipBlank_append hfront _).symm.trans (congrArg skipBlank heq.symm)

theorem skipBlank_cons {c : Char} (hc : isBlank c = false) (rest : Text) :
    skipBlank (c :: rest) = c :: rest :=
  List.dropWhile_cons_of_neg (by simp [hc])

theorem skipBlank_eq_nil_iff {text : Text} : skipBlank text = [] ↔ isBlankText text = true := by
  rw [skipBlank, List.dropWhile_eq_nil_iff, isBlankText, List.all_eq_true]

theorem isBlank_of_head?_skipBlank {text : Text} {c : Char}
    (h : (skipBlank text).head? = some c) : isBlank c = false := by
  have hhead := List.head?_dropWhile_not isBlank text
  rw [← skipBlank, h] at hhead
  simpa using hhead

/-- Two texts are equal up to case exactly if their characters have the same lower-case forms. -/
theorem equalsIgnoringCase_iff {a b : Text} :
    equalsIgnoringCase a b = true ↔ a.map lowerChar = b.map lowerChar := by
  induction a generalizing b with
  | nil => cases b <;> simp [equalsIgnoringCase]
  | cons c cs ih =>
    cases b with
    | nil => simp [equalsIgnoringCase]
    | cons d ds => simp [equalsIgnoringCase, sameLetter, ih]

/-- Texts that are equal up to case have a mark at the same places, so equally often. -/
theorem count_eq_of_map_lowerChar_eq {mark : Char} (hascii : mark.toNat < 0x80)
    (hself : lowerChar mark = [mark]) (hlower : mark.isLower = false) {a b : Text}
    (h : a.map lowerChar = b.map lowerChar) : a.count mark = b.count mark := by
  -- the form of the mark is counted where the mark is, since no other character has it
  have hcount : ∀ text : Text, (text.map lowerChar).count [mark] = text.count mark := by
    intro text
    induction text with
    | nil => rfl
    | cons c cs ih =>
      have hform : lowerChar c = [mark] ↔ c = mark := by
        constructor
        · intro hc
          exact eq_of_mark_mem_lowerChar hascii hlower (by rw [hc]; exact List.mem_cons_self)
        · intro hc
          rw [hc, hself]
      simp only [List.map_cons, List.count_cons, ih, beq_iff_eq, hform]
  rw [← hcount a, ← hcount b, h]

theorem sameLetter?_iff {a b : Option Char} :
    sameLetter? a b = true ↔ a ≠ none ∧ a.map lowerChar = b.map lowerChar := by
  cases a with
  | none => simp [sameLetter?]
  | some c => cases b <;> simp [sameLetter?, sameLetter]

theorem sameFirst_iff {a b : Text} :
    sameFirst a b = true ↔ a ≠ [] ∧ a.head?.map lowerChar = b.head?.map lowerChar := by
  rw [sameFirst, sameLetter?_iff, Ne, List.head?_eq_none_iff]

theorem sameLast_iff {a b : Text} :
    sameLast a b = true ↔ a ≠ [] ∧ a.getLast?.map lowerChar = b.getLast?.map lowerChar := by
  rw [sameLast, sameLetter?_iff, Ne, List.getLast?_eq_none_iff]

theorem ne_nil_of_sameFirst {a b : Text} (h : sameFirst a b = true) : b ≠ [] := by
  rintro rfl
  obtain ⟨hne, hhead⟩ := sameFirst_iff.mp h
  simp [hne] at hhead

theorem sameFirst_self {a : Text} (h : a ≠ []) : sameFirst a a = true :=
  sameFirst_iff.mpr ⟨h, rfl⟩

theorem sameFirst_symm {a b : Text} (h : sameFirst a b = true) : sameFirst b a = true :=
  sameFirst_iff.mpr ⟨ne_nil_of_sameFirst h, (sameFirst_iff.mp h).2.symm⟩

theorem sameFirst_trans {a b c : Text} (hab : sameFirst a b = true) (hbc : sameFirst b c = true) :
    sameFirst a c = true :=
  sameFirst_iff.mpr ⟨(sameFirst_iff.mp hab).1, (sameFirst_iff.mp hab).2.trans (sameFirst_iff.mp hbc).2⟩

/-- What follows a text that is not empty does not matter for how it starts. -/
theorem sameFirst_append_right (a : Text) {b : Text} (hb : b ≠ []) (rest : Text) :
    sameFirst a (b ++ rest) = sameFirst a b := by
  rw [sameFirst, List.head?_append_of_ne_nil b hb, sameFirst]

/-- Texts that are equal up to case start and end with the same letters. -/
theorem sameFirst_and_sameLast_of_equalsIgnoringCase {a b : Text} (ha : a ≠ [])
    (h : equalsIgnoringCase a b = true) : sameFirst a b = true ∧ sameLast a b = true := by
  have hforms := equalsIgnoringCase_iff.mp h
  constructor
  · refine sameFirst_iff.mpr ⟨ha, ?_⟩
    rw [← List.head?_map, hforms, List.head?_map]
  · refine sameLast_iff.mpr ⟨ha, ?_⟩
    rw [← List.getLast?_map, hforms, List.getLast?_map]

end PropertyKeys.Text

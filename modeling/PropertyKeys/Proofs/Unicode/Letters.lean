import PropertyKeys.Unicode.Case

/-!
# Case forms of single characters

The case tables move thousands of characters, but where they can land is simple: a lower-case form
holds nothing of ASCII but small letters, unless the character is its own form. So the marks that
structure a key, dots and brackets among them, appear in a lower-case form only as themselves. On
ASCII the conversions are those of the core library.
-/

namespace PropertyKeys.Unicode

theorem CodeRange.exists_of_covers {ranges : List CodeRange} {code : Nat}
    (h : CodeRange.covers ranges code = true) :
    ∃ range ∈ ranges, range.first ≤ code ∧ code ≤ range.last := by
  induction ranges with
  | nil => simp [CodeRange.covers] at h
  | cons range ranges ih =>
    rw [CodeRange.covers] at h
    split at h
    · simp at h
    · next hfirst =>
      split at h
      · next hlast => exact ⟨range, List.mem_cons_self, Nat.not_lt.mp hfirst, hlast⟩
      · obtain ⟨other, hmem, hother⟩ := ih h
        exact ⟨other, List.mem_cons_of_mem _ hmem, hother⟩

/-- Whether a run moves its characters to small ASCII letters or beyond ASCII. -/
def CodeRun.avoidsMarks (run : CodeRun) : Bool :=
  let low := run.first + run.shift
  let high := run.last + run.shift
  (0x61 ≤ low && high ≤ 0x7A) ||
    (0x80 ≤ low && (high < 0xD800 || (0xE000 ≤ low && high < 0x110000)))

theorem CodeRun.exists_of_image?_eq_some {runs : List CodeRun} {code image : Nat}
    (h : CodeRun.image? runs code = some image) :
    ∃ run ∈ runs, run.first ≤ code ∧ code ≤ run.last ∧ image = (code + run.shift).toNat := by
  induction runs with
  | nil => simp [CodeRun.image?] at h
  | cons run runs ih =>
    rw [CodeRun.image?] at h
    split at h
    · simp at h
    · next hfirst =>
      split at h
      · next hlast =>
        split at h
        · exact ⟨run, by simp, by omega, hlast, (Option.some.inj h).symm⟩
        · simp at h
      · obtain ⟨other, hmem, hother⟩ := ih h
        exact ⟨other, List.mem_cons_of_mem _ hmem, hother⟩

theorem mem_of_sequence?_eq_some {table : List (Nat × List Nat)} {code : Nat} {codes : List Nat}
    (h : sequence? table code = some codes) : (code, codes) ∈ table := by
  induction table with
  | nil => simp [sequence?] at h
  | cons entry table ih =>
    obtain ⟨first, found⟩ := entry
    rw [sequence?] at h
    split at h
    · simp at h
    · split at h
      · next hcode =>
        rw [hcode, ← Option.some.inj h]
        exact List.mem_cons_self
      · exact List.mem_cons_of_mem _ (ih h)

theorem lowerRuns_avoidMarks : ∀ run ∈ lowerRuns, run.avoidsMarks = true := by
  decide +kernel

theorem lowerSequences_eq : lowerSequences = [(0x130, [0x69, 0x307])] := rfl

/-- The image of a character under a run that avoids marks is a small letter or beyond ASCII. -/
theorem CodeRun.isLower_or_le_of_avoidsMarks {run : CodeRun} {code : Nat}
    (hrun : run.avoidsMarks = true) (hfirst : run.first ≤ code) (hlast : code ≤ run.last) :
    (Char.ofNat (code + run.shift).toNat).isLower = true ∨
      0x80 ≤ (Char.ofNat (code + run.shift).toNat).toNat := by
  obtain ⟨image, himage⟩ : ∃ image : Nat, (code + run.shift).toNat = image := ⟨_, rfl⟩
  rw [himage]
  simp only [CodeRun.avoidsMarks, Bool.or_eq_true, Bool.and_eq_true, decide_eq_true_eq] at hrun
  have hvalid : image.isValidChar := by
    rcases hrun with hletter | hbeyond
    · exact Or.inl (by omega)
    · rcases hbeyond.2 with hlow | hhigh
      · exact Or.inl (by omega)
      · exact Or.inr ⟨by omega, by omega⟩
  have hcode : (Char.ofNat image).toNat = image := by
    rw [Char.ofNat, dif_pos hvalid]
    rfl
  rcases hrun with hletter | hbeyond
  · left
    have hval : (Char.ofNat image).val.toNat = image := hcode
    have hlow : 'a'.val ≤ (Char.ofNat image).val := by
      rw [UInt32.le_iff_toNat_le, hval]
      show 0x61 ≤ image
      omega
    have hhigh : (Char.ofNat image).val ≤ 'z'.val := by
      rw [UInt32.le_iff_toNat_le, hval]
      show image ≤ 0x7A
      omega
    exact Bool.and_eq_true_iff.mpr ⟨decide_eq_true hlow, decide_eq_true hhigh⟩
  · right
    rw [hcode]
    omega

/-- What a lower-case form holds of ASCII is a small letter, or the character itself. -/
theorem eq_or_isLower_of_mem_lowerChar {c d : Char} (hmem : d ∈ lowerChar c)
    (hascii : d.toNat < 0x80) : d = c ∨ d.isLower = true := by
  rw [lowerChar, convertChar] at hmem
  split at hmem
  · next code himage =>
    obtain ⟨run, hrun, hfirst, hlast, rfl⟩ := CodeRun.exists_of_image?_eq_some himage
    rw [List.mem_singleton] at hmem
    subst hmem
    rcases run.isLower_or_le_of_avoidsMarks (lowerRuns_avoidMarks run hrun) hfirst hlast with
      hlower | hbeyond
    · exact Or.inr hlower
    · exact absurd hascii (Nat.not_lt.mpr hbeyond)
  · split at hmem
    · next codes hcodes =>
      -- the only sequence is a small letter with a combining dot
      have hentry := mem_of_sequence?_eq_some hcodes
      rw [lowerSequences_eq, List.mem_singleton] at hentry
      rw [(Prod.mk.inj hentry).2] at hmem
      have hforms : d = Char.ofNat 0x69 ∨ d = Char.ofNat 0x307 := by simpa using hmem
      rcases hforms with rfl | rfl
      · exact Or.inr (by decide)
      · exact absurd hascii (by decide)
    · exact Or.inl (List.mem_singleton.mp hmem)

/-- A mark stands in the lower-case form of no other character. -/
theorem eq_of_mark_mem_lowerChar {mark c : Char} (hascii : mark.toNat < 0x80)
    (hmark : mark.isLower = false) (hmem : mark ∈ lowerChar c) : c = mark := by
  rcases eq_or_isLower_of_mem_lowerChar hmem hascii with heq | hlower
  · exact heq.symm
  · rw [hmark] at hlower
    exact absurd hlower Bool.false_ne_true

/-- Whether a run moves no character to a code point. -/
def CodeRun.misses (code : Nat) (run : CodeRun) : Bool :=
  run.last + run.shift < code || code < run.first + run.shift

/-- A character that neither table leads to stands in the converted form of no other. -/
theorem eq_of_mem_convertChar {runs : List CodeRun} {sequences : List (Nat × List Nat)}
    {mark c : Char} (hpos : 0 < mark.toNat) (hruns : ∀ run ∈ runs, run.misses mark.toNat = true)
    (hsequences : ∀ entry ∈ sequences, mark.toNat ∉ entry.2)
    (hmem : mark ∈ convertChar runs sequences c) : c = mark := by
  -- a code point that yields the mark is that of the mark
  have hcode : ∀ {code : Nat}, mark = Char.ofNat code → code = mark.toNat := by
    intro code hmark
    by_cases hvalid : code.isValidChar
    · rw [hmark, Char.ofNat, dif_pos hvalid]
      rfl
    · rw [Char.ofNat, dif_neg hvalid] at hmark
      rw [hmark] at hpos
      exact absurd hpos (by decide)
  rw [convertChar] at hmem
  split at hmem
  · next image himage =>
    obtain ⟨run, hrun, hfirst, hlast, heq⟩ := CodeRun.exists_of_image?_eq_some himage
    have hmark := hcode (List.mem_singleton.mp hmem)
    have hmisses := hruns run hrun
    simp only [CodeRun.misses, Bool.or_eq_true, decide_eq_true_eq] at hmisses
    omega
  · split at hmem
    · next codes hcodes =>
      obtain ⟨code, hlisted, heq⟩ := List.mem_map.mp hmem
      rw [hcode heq.symm] at hlisted
      exact absurd hlisted (hsequences _ (mem_of_sequence?_eq_some hcodes))
    · exact (List.mem_singleton.mp hmem).symm

/-- A property of all ASCII codes holds of every ASCII character. -/
theorem forall_ascii {P : Char → Prop} (hcodes : ∀ code < 0x80, P (Char.ofNat code)) {c : Char}
    (hascii : c.toNat < 0x80) : P c := by
  simpa only [Char.ofNat_toNat] using hcodes c.toNat hascii

/-- On ASCII the lower-case form is that of the core library. -/
theorem lowerChar_of_ascii {c : Char} (hascii : c.toNat < 0x80) : lowerChar c = [c.toLower] :=
  forall_ascii (P := fun c => lowerChar c = [c.toLower]) (by decide +kernel) hascii

theorem upperChar_of_ascii {c : Char} (hascii : c.toNat < 0x80) : upperChar c = [c.toUpper] :=
  forall_ascii (P := fun c => upperChar c = [c.toUpper]) (by decide +kernel) hascii

theorem lowerChar_toLower {c : Char} (hascii : c.toNat < 0x80) : lowerChar c.toLower = lowerChar c :=
  forall_ascii (P := fun c => lowerChar c.toLower = lowerChar c) (by decide +kernel) hascii

theorem lowerChar_toUpper {c : Char} (hascii : c.toNat < 0x80) : lowerChar c.toUpper = lowerChar c :=
  forall_ascii (P := fun c => lowerChar c.toUpper = lowerChar c) (by decide +kernel) hascii

theorem toLower_ascii {c : Char} (hascii : c.toNat < 0x80) : c.toLower.toNat < 0x80 :=
  forall_ascii (P := fun c => c.toLower.toNat < 0x80) (by decide +kernel) hascii

theorem toUpper_ascii {c : Char} (hascii : c.toNat < 0x80) : c.toUpper.toNat < 0x80 :=
  forall_ascii (P := fun c => c.toUpper.toNat < 0x80) (by decide +kernel) hascii

theorem toLower_of_not_isUpper {c : Char} (h : c.isUpper = false) : c.toLower = c :=
  dif_neg (of_decide_eq_false h)

theorem ascii_of_isUpper {c : Char} (hupper : c.isUpper = true) : c.toNat < 0x80 := by
  have hrange : 'A'.val ≤ c.val ∧ c.val ≤ 'Z'.val := of_decide_eq_true hupper
  exact Nat.lt_of_le_of_lt (UInt32.le_iff_toNat_le.mp hrange.2) (by decide)

theorem ascii_of_isLower {c : Char} (hlower : c.isLower = true) : c.toNat < 0x80 := by
  have hrange : 'a'.val ≤ c.val ∧ c.val ≤ 'z'.val :=
    (Bool.and_eq_true_iff.mp hlower).imp of_decide_eq_true of_decide_eq_true
  exact Nat.lt_of_le_of_lt (UInt32.le_iff_toNat_le.mp hrange.2) (by decide)

theorem ascii_of_isDigit {c : Char} (hdigit : c.isDigit = true) : c.toNat < 0x80 := by
  have hrange : '0'.val ≤ c.val ∧ c.val ≤ '9'.val :=
    (Bool.and_eq_true_iff.mp hdigit).imp of_decide_eq_true of_decide_eq_true
  exact Nat.lt_of_le_of_lt (UInt32.le_iff_toNat_le.mp hrange.2) (by decide)

theorem ascii_of_isAlphanum {c : Char} (h : c.isAlphanum = true) : c.toNat < 0x80 := by
  have hkinds : (c.isUpper || c.isLower || c.isDigit) = true := h
  rw [Bool.or_eq_true, Bool.or_eq_true] at hkinds
  rcases hkinds with (hupper | hlower) | hdigit
  · exact ascii_of_isUpper hupper
  · exact ascii_of_isLower hlower
  · exact ascii_of_isDigit hdigit

theorem isUpper_toLower (c : Char) : c.toLower.isUpper = false := by
  by_cases hupper : c.isUpper = true
  · exact forall_ascii (P := fun c => c.toLower.isUpper = false) (by decide +kernel)
      (ascii_of_isUpper hupper)
  · rw [toLower_of_not_isUpper (Bool.eq_false_iff.mpr hupper)]
    exact Bool.eq_false_iff.mpr hupper

theorem isLower_toLower {c : Char} (hupper : c.isUpper = true) : c.toLower.isLower = true :=
  forall_ascii (P := fun c => c.isUpper = true → c.toLower.isLower = true) (by decide +kernel)
    (ascii_of_isUpper hupper) hupper

end PropertyKeys.Unicode

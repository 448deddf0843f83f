import PropertyKeys.Proofs.Naming.Canonical
import PropertyKeys.Proofs.Naming.RelaxedParts
import PropertyKeys.Proofs.Spelling.Rounds

/-!
# Relaxed binding and strict binding

The relaxed dialect binds more than the strict one, for it lets dots come and go. But it never binds
a raw key with other letters than the name, and where the raw key has as many dots as the name, the
strict dialect binds it too.

## Main results

* `Strict.canonical_eq_of_tracksDots`: a text with the letters of a name and as many dots has its
  canonical form, if it tracks the dots of the name.
* `Relaxed.letters_eq_and_binds_strict`: relaxed binding is sound.
-/

namespace PropertyKeys.Strict

open Unicode Text Spelling

/-- The canonical form is determined by the letters and the dots between them. -/
theorem canonical_eq_filter_dotted (text : Text) :
    canonical text = (dotted text).filter isCanonical := by
  have hkeep : ∀ c, (isCanonical c && (c = '.' || !isSeparator c)) = isCanonical c := by
    intro c
    by_cases hsep : isSeparator c = true
    · rcases eq_of_isSeparator hsep with rfl | rfl | rfl <;> rfl
    · simp [hsep]
  rw [canonical_eq_filter, dotted, List.filter_filter]
  simp only [hkeep]
  rfl

theorem letters_eq_filter_dotted (text : Text) :
    letters text = (dotted text).filter fun c => c != '.' := by
  have hdrop : ∀ c, (c != '.' && (c = '.' || !isSeparator c)) = !isSeparator c := by
    intro c
    by_cases hdot : c = '.'
    · subst hdot
      rfl
    · simp [hdot]
  rw [letters, dotted, List.filter_filter]
  simp only [hdrop]

theorem dotted_of_notMem {text : Text} (h : '.' ∉ text) : dotted text = letters text := by
  rw [letters_eq_filter_dotted, eq_comm, List.filter_eq_self]
  intro c hc
  rw [bne_iff_ne]
  rintro rfl
  exact h (dot_mem_dotted_iff.mp hc)

theorem count_dot_dotted (text : Text) : (dotted text).count '.' = text.count '.' := by
  rw [← count_dot_canonical text, canonical_eq_filter_dotted, List.count_filter rfl]

/-- The dotted letters are the letters and the dots. -/
theorem length_dotted (text : Text) :
    (dotted text).length = text.count '.' + (letters text).length := by
  have hcount : (letters text).length = (dotted text).countP fun c => c != '.' := by
    rw [letters_eq_filter_dotted, List.countP_eq_length_filter]
  rw [List.length_eq_countP_add_countP (· == '.'), ← count_dot_dotted, List.count, hcount]
  congr 2
  funext c
  by_cases hdot : c = '.' <;> simp [hdot]

/-- A text that tracks the dots of a name, and has its letters and as many dots, has its canonical
form: what is a part of the dotted letters of the text and equally long is all of them. -/
theorem canonical_eq_of_tracksDots {name text : Text} (htracks : TracksDots name text)
    (hletters : letters text = letters name) (hdots : text.count '.' = name.count '.') :
    canonical text = canonical name := by
  have hdotted : dotted name = dotted text := by
    rcases htracks with hkept | hnone
    · apply hkept.eq_of_length
      rw [length_dotted, length_dotted, hletters, hdots]
    · -- as many dots as the text has is none, so there are none to compare
      have hname : '.' ∉ name := by
        rw [← List.count_eq_zero, ← hdots, List.count_eq_zero]
        exact hnone
      rw [dotted_of_notMem hname, dotted_of_notMem hnone, hletters]
  rw [canonical_eq_filter_dotted, canonical_eq_filter_dotted, hdotted]

end PropertyKeys.Strict

namespace PropertyKeys.Relaxed

open Unicode Text Spelling

/-- A spelling of a plain name is equal to it up to case, or has its letters and tracks its dots. -/
theorem eq_folded_or_tracksDots_of_same {name text : Text} (h : IsPlain name)
    (hsame : same name text = true) :
    name.map lowerChar = text.map lowerChar ∨
      letters text = letters name ∧ TracksDots name text := by
  rw [same, Bool.or_eq_true, Bool.and_eq_true, equalsIgnoringCase_iff] at hsame
  rcases hsame with hequal | ⟨-, hvariant⟩
  · exact Or.inl hequal
  · right
    have hmem : text ∈ variants (camelLastSegment name) := by simpa [keyVariants] using hvariant
    have hstart := h.camelLastSegment
    have hletters : letters (camelLastSegment name) = letters name :=
      filter_folded_camelLastSegment rfl h.ascii
    have hdotted : dotted (camelLastSegment name) = dotted name :=
      filter_folded_camelLastSegment rfl h.ascii
    refine ⟨(letters_of_mem_variants hstart hmem).trans hletters, ?_⟩
    exact TracksDots.trans_sublist (hdotted ▸ List.Sublist.refl _)
      (tracksDots_of_mem_variants hstart hmem)

/-- **Relaxed binding is sound.** A raw key that the relaxed dialect binds to a scalar has the
letters of its name, in any case and with any separators. If it also has as many dots as the name,
then the strict dialect binds it. The name has to be ASCII and must not end with a separator. -/
theorem letters_eq_and_binds_strict (key : Key) (raw : Text) (hnormal : key.access = .normal)
    (hascii : IsAscii key.name)
    (hend : ∀ c, key.name.getLast? = some c → isSeparator c = false)
    (hbinds : binds key raw = true) :
    letters raw = letters key.name ∧
      (raw.count '.' = key.name.count '.' → Strict.binds key raw = true) := by
  obtain ⟨hfirst, hsame⟩ := (binds_of_normal_iff hnormal).mp hbinds
  have hplain := IsPlain.of_getLast? hascii hend
  rcases eq_folded_or_tracksDots_of_same hplain hsame with hequal | ⟨hletters, htracks⟩
  · refine ⟨?_, fun _ => ?_⟩
    · rw [letters, letters, folded, folded, List.flatMap_def, List.flatMap_def, hequal]
    · exact (Strict.binds_of_normal_iff hnormal).mpr
        ⟨hfirst, Strict.canonical_eq_of_map_lowerChar_eq hequal.symm⟩
  · refine ⟨hletters, fun hdots => ?_⟩
    exact (Strict.binds_of_normal_iff hnormal).mpr
      ⟨hfirst, Strict.canonical_eq_of_tracksDots htracks hletters hdots⟩

/-- A dashed spelling of a key in camel case is bound by both dialects. -/
theorem letters_eq_and_binds_strict_maxSize :
    binds (.scalar "app.maxSize".toList) "app.max-size".toList = true ∧
      letters "app.max-size".toList = letters "app.maxSize".toList ∧
      Strict.binds (.scalar "app.maxSize".toList) "app.max-size".toList = true := by
  have hbinds : binds (.scalar "app.maxSize".toList) "app.max-size".toList = true := by
    decide +kernel
  obtain ⟨hletters, hstrict⟩ := letters_eq_and_binds_strict (.scalar "app.maxSize".toList)
    "app.max-size".toList (Key.access_scalar _) (by decide) (by rintro c ⟨⟩; rfl) hbinds
  exact ⟨hbinds, hletters, hstrict rfl⟩

/-- A spelling without the dots of the name is bound by the relaxed dialect only. -/
example :
    binds (.scalar "app.maxSize".toList) "app_maxSize".toList = true ∧
      Strict.binds (.scalar "app.maxSize".toList) "app_maxSize".toList = false := by
  decide +kernel

end PropertyKeys.Relaxed

import PropertyKeys.Proofs.Naming.RelaxedParts
import PropertyKeys.Proofs.Spelling.Ends

/-!
# Comparing the ends first

The relaxed dialect compares the first characters, and for the most part the last ones too, before it
generates the variants of a name. For a name that starts and ends with an ASCII letter or digit that
saves work and nothing else: each variant has the same ends, so what the comparison would turn down
is no variant.

## Main definitions

* `Relaxed.HasAlphanumericEnds`: a name starts and ends with an ASCII letter or digit.

## Main results

* `Relaxed.same_iff_of_hasAlphanumericEnds`: spelling a name without a look at the last characters.
* `Relaxed.answers_iff_mem_variants`: all comparisons without a look at the ends.
-/

namespace PropertyKeys.Relaxed

open Text Spelling

/-- A name starts and ends with an ASCII letter or digit. -/
structure HasAlphanumericEnds (name : Text) : Prop where
  first : ∃ c, name.head? = some c ∧ c.isAlphanum = true
  last : ∃ c, name.getLast? = some c ∧ c.isAlphanum = true

theorem isCaseOf_toLower {c : Char} (h : c.isAlphanum = true) : IsCaseOf c.toLower c :=
  ⟨Unicode.forall_ascii (P := fun c => c.isAlphanum = true → isWordChar c.toLower = true)
    (by decide +kernel) (Unicode.ascii_of_isAlphanum h) h, rfl⟩

theorem HasAlphanumericEnds.exists_hasEnds {name : Text} (h : HasAlphanumericEnds name) :
    ∃ first last, HasEnds first last name := by
  obtain ⟨a, hhead, ha⟩ := h.first
  obtain ⟨b, hlast, hb⟩ := h.last
  obtain ⟨rest, rfl⟩ := List.head?_eq_some_iff.mp hhead
  obtain ⟨start, hstart⟩ := List.getLast?_eq_some_iff.mp hlast
  refine ⟨a.toLower, b.toLower, .intro (isCaseOf_toLower ha) rest, ?_⟩
  rw [hstart]
  exact (EndsLike.last (isCaseOf_toLower hb)).prepend start

theorem HasAlphanumericEnds.ne_nil {name : Text} (h : HasAlphanumericEnds name) : name ≠ [] := by
  obtain ⟨c, hhead, -⟩ := h.first
  rintro rfl
  simp at hhead

section Filters

variable {key : Key} {name text : Text}

/-- A variant of a name, or of its form with the last segment in camel case, has the ends that are
compared. -/
theorem HasAlphanumericEnds.sameFirst_and_sameLast (h : HasAlphanumericEnds name)
    (hmem : text ∈ variants name ∨ text ∈ keyVariants name) :
    sameFirst name text = true ∧ sameLast name text = true := by
  obtain ⟨first, last, hends⟩ := h.exists_hasEnds
  rcases hmem with hmem | hmem
  · exact hends.sameFirst_and_sameLast (hends.of_mem_variants hmem)
  · exact hends.sameFirst_and_sameLast (hends.of_mem_keyVariants hmem)

/-- The last characters of a spelling need not be compared. -/
theorem same_iff_of_hasAlphanumericEnds (h : HasAlphanumericEnds name) :
    same name text = true ↔ equalsIgnoringCase name text = true ∨ text ∈ keyVariants name := by
  rw [same, Bool.or_eq_true, Bool.and_eq_true, List.contains_iff_mem]
  exact or_congr_right (and_iff_right_of_imp fun hmem => (h.sameFirst_and_sameLast (.inr hmem)).2)

theorem sameFirst_of_same (h : HasAlphanumericEnds name) (hsame : same name text = true) :
    sameFirst name text = true := by
  rcases (same_iff_of_hasAlphanumericEnds h).mp hsame with hequal | hmem
  · exact (sameFirst_and_sameLast_of_equalsIgnoringCase h.ne_nil hequal).1
  · exact (h.sameFirst_and_sameLast (.inr hmem)).1

theorem completes_iff : completes key text = true ↔ sameFirst key.name text = true ∧
    (text <+: key.name ∨ ∃ spelling ∈ keyVariants key.name, text <+: spelling) := by
  simp [completes, List.any_eq_true]

theorem namesPart_iff_of_hasAlphanumericEnds (h : HasAlphanumericEnds name) :
    namesPart name text = true ↔ equalsIgnoringCase name text = true ∨ text ∈ variants name := by
  rw [namesPart, Bool.and_eq_true, Bool.and_eq_true, Bool.or_eq_true, List.contains_iff_mem]
  refine and_iff_right_of_imp ?_
  rintro (hequal | hmem)
  · exact sameFirst_and_sameLast_of_equalsIgnoringCase h.ne_nil hequal
  · exact h.sameFirst_and_sameLast (.inl hmem)

/-- A scalar is bound by what is equal up to case and by the variants. -/
theorem binds_iff_of_hasAlphanumericEnds (hnormal : key.access = .normal)
    (h : HasAlphanumericEnds key.name) :
    binds key text = true ↔
      equalsIgnoringCase key.name text = true ∨ text ∈ keyVariants key.name := by
  rw [binds_of_normal_iff hnormal, ← same_iff_of_hasAlphanumericEnds h]
  exact and_iff_right_of_imp (sameFirst_of_same h)

theorem completes_iff_of_hasAlphanumericEnds (h : HasAlphanumericEnds key.name) :
    completes key text = true ↔ text ≠ [] ∧
      (text <+: key.name ∨ ∃ spelling ∈ keyVariants key.name, text <+: spelling) := by
  have hstart : ∀ {whole : Text}, sameFirst key.name whole = true → text ≠ [] → text <+: whole →
      sameFirst key.name text = true := by
    rintro whole hwhole hne ⟨rest, rfl⟩
    rwa [sameFirst_append_right _ hne] at hwhole
  rw [completes_iff]
  -- the start of a text starts like the text
  refine and_congr_left fun hprefix => ⟨ne_nil_of_sameFirst, fun hne => ?_⟩
  rcases hprefix with hname | ⟨spelling, hmem, hspelling⟩
  · exact hstart (sameFirst_iff.mpr ⟨h.ne_nil, rfl⟩) hne hname
  · exact hstart (h.sameFirst_and_sameLast (.inr hmem)).1 hne hspelling

/-- **Comparing the ends rules nothing out.** For a name that starts and ends with an ASCII letter or
digit, whatever is in between, the relaxed dialect answers as if it compared the texts up to case and
looked at the variants only: when it binds a scalar, when it takes a text for a part of a name, and
when it completes what was typed. -/
theorem answers_iff_mem_variants (key : Key) (text : Text) (h : HasAlphanumericEnds key.name) :
    (key.access = .normal → (binds key text = true ↔
      equalsIgnoringCase key.name text = true ∨ text ∈ keyVariants key.name)) ∧
    (namesPart key.name text = true ↔
      equalsIgnoringCase key.name text = true ∨ text ∈ variants key.name) ∧
    (completes key text = true ↔ text ≠ [] ∧
      (text <+: key.name ∨ ∃ spelling ∈ keyVariants key.name, text <+: spelling)) :=
  ⟨fun hnormal => binds_iff_of_hasAlphanumericEnds hnormal h,
    namesPart_iff_of_hasAlphanumericEnds h, completes_iff_of_hasAlphanumericEnds h⟩

/-- A name with a sharp s inside: in capitals the name is longer. -/
theorem answers_iff_mem_variants_sharpS :
    HasAlphanumericEnds "app.maß-einheit".toList ∧
      binds (.scalar "app.maß-einheit".toList) "APP_MASS_EINHEIT".toList = true ∧
      namesPart "app.maß-einheit".toList "APP_MASS_EINHEIT".toList = true ∧
      completes (.scalar "app.maß-einheit".toList) "APP_MASS_EINHEIT".toList = true := by
  have hends : HasAlphanumericEnds "app.maß-einheit".toList :=
    ⟨⟨'a', rfl, by decide⟩, 't', rfl, by decide⟩
  have hmem : "APP_MASS_EINHEIT".toList ∈ keyVariants "app.maß-einheit".toList := by
    have hform : Casing.upper.apply (Separation.dotToUnderscore.apply
        (Separation.camelToUnderscore.apply (camelLastSegment "app.maß-einheit".toList))) =
          "APP_MASS_EINHEIT".toList := by decide +kernel
    rw [← hform]
    exact apply_mem_variants _ _ _ _
  have hmemPart : "APP_MASS_EINHEIT".toList ∈ variants "app.maß-einheit".toList := by
    have hform : Casing.upper.apply (Separation.dotToUnderscore.apply
        (Separation.hyphenToUnderscore.apply "app.maß-einheit".toList)) =
          "APP_MASS_EINHEIT".toList := by decide +kernel
    rw [← hform]
    exact apply_mem_variants _ _ _ _
  obtain ⟨hbinds, hpart, hcompletes⟩ :=
    answers_iff_mem_variants (.scalar "app.maß-einheit".toList) "APP_MASS_EINHEIT".toList hends
  exact ⟨hends, (hbinds (Key.access_scalar _)).mpr (Or.inr hmem),
    hpart.mpr (Or.inr hmemPart),
    hcompletes.mpr ⟨by decide, Or.inr ⟨_, hmem, List.prefix_refl _⟩⟩⟩

/-- A name that ends with a separator loses a spelling to the comparison of the last characters. -/
example :
    equalsIgnoringCase "app.a_".toList "app.a.".toList = false ∧
      "app.a.".toList ∈ keyVariants "app.a_".toList ∧
      binds (.scalar "app.a_".toList) "app.a.".toList = false := by
  decide +kernel

end Filters

end PropertyKeys.Relaxed

import PropertyKeys.Proofs.Naming.RelaxedEnds
import PropertyKeys.Proofs.Naming.RelaxedSoundness

/-!
# What the relaxed dialect completes

A text that was typed is offered a key if one of the variants of its name starts with it. For a
scalar and for a list the variant itself is then bound. A map is bound by a portion with as many
segments as the name, and a variant may have lost the dots of the name or have got more of them. So
what has been typed of such a variant may be the start of no raw key that is bound to the map.

## Main definitions

* `Relaxed.StartsDottedSpelling`: a text is the start of a spelling with the dots of the name.

## Main results

* `Relaxed.binds_of_same`: which spellings are bound as they are.
* `Relaxed.exists_binds_iff_of_completes`: which completed texts go on to a raw key that is bound.
-/

namespace PropertyKeys.Spelling

open Unicode Text

/-- A mark that is no separator is found among the letters wherever it stands. -/
theorem mark_mem_letters_iff {mark : Char} (hascii : mark.toNat < 0x80)
    (hlower : mark.isLower = false) (hself : lowerChar mark = [mark])
    (hseparator : isSeparator mark = false) {text : Text} :
    mark ∈ letters text ↔ mark ∈ text := by
  rw [letters, List.mem_filter, folded, List.mem_flatMap]
  constructor
  · rintro ⟨⟨c, hc, hmem⟩, -⟩
    rwa [eq_of_mark_mem_lowerChar hascii hlower hmem] at hc
  · intro hmem
    exact ⟨⟨mark, hmem, by rw [hself]; exact List.mem_cons_self⟩, by rw [hseparator]; rfl⟩

end PropertyKeys.Spelling

namespace PropertyKeys.Relaxed

open Text Spelling KeyPath KeyParts

/-- What was typed is the start of a spelling of the name that has as many dots as the name. -/
def StartsDottedSpelling (name typed : Text) : Prop :=
  ∃ spelling, typed <+: spelling ∧ same name spelling = true ∧
    spelling.count '.' = name.count '.'

section Spellings

variable {key : Key} {name spelling typed : Text}

theorem HasAlphanumericEnds.isPlain (h : HasAlphanumericEnds name) (hascii : IsAscii name) :
    IsPlain name := by
  obtain ⟨first, last, hends⟩ := h.exists_hasEnds
  obtain ⟨final, hfinal, hcase⟩ := hends.ends.exists_getLast?
  refine IsPlain.of_getLast? hascii fun c hc => ?_
  rw [hfinal, Option.some.injEq] at hc
  exact hc ▸ hcase.isSeparator_eq_false

theorem letters_eq_of_same (hplain : IsPlain name) (hsame : same name spelling = true) :
    letters spelling = letters name := by
  rcases eq_folded_or_tracksDots_of_same hplain hsame with hequal | ⟨hletters, -⟩
  · rw [letters, letters, folded, folded, List.flatMap_def, List.flatMap_def, hequal]
  · exact hletters

theorem bracket_notMem_of_same (hplain : IsPlain name) (hopen : '[' ∉ name)
    (hsame : same name spelling = true) : '[' ∉ spelling := by
  have hmem : ∀ text : Text, '[' ∈ letters text ↔ '[' ∈ text := fun _ =>
    mark_mem_letters_iff (by decide) (by decide) (by decide) (by decide)
  rwa [← hmem, letters_eq_of_same hplain hsame, hmem]

/-- A spelling with as many dots as the name has the canonical form of the name. -/
theorem canonical_eq_of_same (hplain : IsPlain name) (hsame : same name spelling = true)
    (hdots : spelling.count '.' = name.count '.') :
    Strict.canonical spelling = Strict.canonical name := by
  rcases eq_folded_or_tracksDots_of_same hplain hsame with hequal | ⟨hletters, htracks⟩
  · exact Strict.canonical_eq_of_map_lowerChar_eq hequal.symm
  · exact Strict.canonical_eq_of_tracksDots htracks hletters hdots

/-- The strict dialect completes the start of a spelling with the dots of the name as well. -/
theorem StartsDottedSpelling.canonical_isPrefix (hplain : IsPlain name)
    (h : StartsDottedSpelling name typed) : Strict.canonical typed <+: Strict.canonical name := by
  obtain ⟨spelling, ⟨rest, rfl⟩, hsame, hdots⟩ := h
  refine ⟨Strict.canonical rest, ?_⟩
  rw [← Strict.canonical_append, canonical_eq_of_same hplain hsame hdots]

/-- A spelling without brackets is bound as it is. For a map it has to have the dots of the name. -/
theorem binds_of_same (hends : HasAlphanumericEnds key.name) (hopen : '[' ∉ key.name)
    (hspelling : '[' ∉ spelling) (hsame : same key.name spelling = true)
    (hdots : key.access.isMap = true → spelling.count '.' = key.name.count '.') :
    binds key spelling = true := by
  have hfirst := sameFirst_of_same hends hsame
  rcases Access.isMap_or key.access with hmap | hnormal | hindexed
  · refine (binds_of_isMap_iff hmap).mpr ⟨hfirst, Or.inr ?_⟩
    rw [shape?_of_isMap hmap,
      exists_splitMap?_iff (P := fun portion => same key.name portion = true)]
    refine ⟨⟨spelling, .ending, []⟩, ?_, by simp, hsame⟩
    rw [segmentCount_of_notMem hopen, ← hdots hmap, boundary?_self hspelling]
  · exact (binds_of_normal_iff hnormal).mpr ⟨hfirst, hsame⟩
  · refine (binds_of_indexed_iff hindexed).mpr ⟨hfirst, ?_⟩
    rwa [bracketBase_of_notMem hspelling]

/-- A raw key that is bound to a map starts with a spelling that has the dots of the name. -/
theorem exists_spelling_of_binds (hplain : IsPlain key.name) (hopen : '[' ∉ key.name)
    (hmap : key.access.isMap = true) {raw : Text} (hbinds : binds key raw = true) :
    ∃ spelling, spelling <+: raw ∧ same key.name spelling = true ∧
      spelling.count '.' = key.name.count '.' := by
  obtain ⟨-, hequal | hshape⟩ := (binds_of_isMap_iff hmap).mp hbinds
  · refine ⟨raw, List.prefix_refl raw, by simp [same, hequal], ?_⟩
    exact (count_eq_of_map_lowerChar_eq (by decide) rfl (by decide)
      (equalsIgnoringCase_iff.mp hequal)).symm
  · rw [shape?_of_isMap hmap,
      exists_splitMap?_iff (P := fun portion => same key.name portion = true)] at hshape
    obtain ⟨boundary, hboundary, -, hsame⟩ := hshape
    have hportion := bracket_notMem_of_same hplain hopen hsame
    have hcount := count_portion_of_boundary?_eq_some hboundary hportion
    rw [segmentCount_of_notMem hopen] at hcount
    refine ⟨boundary.portion, ?_, hsame, by omega⟩
    rw [(eq_of_boundary?_eq_some hboundary).1, List.append_assoc]
    exact List.prefix_append _ _

/-- What is completed is the start of the name or of one of its variants, and these end with a letter
or digit. -/
theorem exists_spelling_of_completes (hends : HasAlphanumericEnds key.name)
    (hcompletes : completes key typed = true) :
    ∃ spelling letter, typed <+: spelling ∧ same key.name spelling = true ∧
      EndsLike letter spelling := by
  obtain ⟨first, last, hname⟩ := hends.exists_hasEnds
  obtain ⟨-, hstart | ⟨spelling, hmem, hstart⟩⟩ := completes_iff.mp hcompletes
  · exact ⟨key.name, last, hstart, by simp [same, equalsIgnoringCase_iff], hname.ends⟩
  · exact ⟨spelling, last, hstart, (same_iff_of_hasAlphanumericEnds hends).mpr (Or.inr hmem),
      (hname.of_mem_keyVariants hmem).ends⟩

/-- What is completed, and goes on to a raw key that is bound to a map, is the start of a spelling
with the dots of the name. -/
theorem startsDottedSpelling_of_binds (hplain : IsPlain key.name)
    (hends : HasAlphanumericEnds key.name) (hopen : '[' ∉ key.name)
    (hmap : key.access.isMap = true) (hcompletes : completes key typed = true) {rest : Text}
    (hbinds : binds key (typed ++ rest) = true) : StartsDottedSpelling key.name typed := by
  obtain ⟨spelling, hstart, hsame, hdots⟩ := exists_spelling_of_binds hplain hopen hmap hbinds
  rcases List.prefix_or_prefix_of_prefix (List.prefix_append typed rest) hstart with
    hshort | hlong
  · exact ⟨spelling, hshort, hsame, hdots⟩
  -- what was typed is no longer than the spelling: one letter more would be too many for the name
  · obtain ⟨whole, letter, htyped, hwhole, hletter⟩ :=
      exists_spelling_of_completes hends hcompletes
    have hletters : letters spelling = letters whole := by
      rw [letters_eq_of_same hplain hsame, letters_eq_of_same hplain hwhole]
    have heq : spelling = whole := hletter.eq_of_isPrefix (hlong.trans htyped) hletters
    exact ⟨spelling, heq ▸ htyped, hsame, hdots⟩

/-- **Which completed texts can be finished.** Take a name of ASCII characters without an opening
bracket that starts and ends with a letter or digit. What is completed to a key with this name goes
on to a raw key that is bound to it, if the key is no map. If it is a map, then that is so exactly if
the text is the start of a spelling that has as many dots as the name. -/
theorem exists_binds_iff_of_completes (key : Key) (typed : Text) (hascii : IsAscii key.name)
    (hopen : '[' ∉ key.name) (hends : HasAlphanumericEnds key.name)
    (hcompletes : completes key typed = true) :
    (∃ rest, binds key (typed ++ rest) = true) ↔
      (key.access.isMap = true → StartsDottedSpelling key.name typed) := by
  have hplain := hends.isPlain hascii
  constructor
  · rintro ⟨rest, hbinds⟩ hmap
    exact startsDottedSpelling_of_binds hplain hends hopen hmap hcompletes hbinds
  · intro hdotted
    obtain ⟨spelling, ⟨rest, rfl⟩, hsame, hdots⟩ : ∃ spelling, typed <+: spelling ∧
        same key.name spelling = true ∧
        (key.access.isMap = true → spelling.count '.' = key.name.count '.') := by
      by_cases hmap : key.access.isMap = true
      · obtain ⟨spelling, hstart, hsame, hdots⟩ := hdotted hmap
        exact ⟨spelling, hstart, hsame, fun _ => hdots⟩
      · obtain ⟨spelling, -, hstart, hsame, -⟩ := exists_spelling_of_completes hends hcompletes
        exact ⟨spelling, hstart, hsame, fun h => absurd h hmap⟩
    exact ⟨rest, binds_of_same hends hopen (bracket_notMem_of_same hplain hopen hsame) hsame hdots⟩

/-- The start of a spelling without dots can be finished for a list, and the start of one with dots
for a map. -/
theorem exists_binds_iff_of_completes_serversAndLabels :
    (∃ rest, binds (.textList "app.servers".toList) ("APP_SER".toList ++ rest) = true) ∧
      ∃ rest, binds (.textMap "app.labels".toList) ("APP.LAB".toList ++ rest) = true := by
  have hservers : HasAlphanumericEnds "app.servers".toList :=
    ⟨⟨'a', rfl, by decide⟩, 's', rfl, by decide⟩
  have hlabels : HasAlphanumericEnds "app.labels".toList :=
    ⟨⟨'a', rfl, by decide⟩, 's', rfl, by decide⟩
  have hlist := exists_binds_iff_of_completes (.textList "app.servers".toList) "APP_SER".toList
    (by decide) (by decide) hservers (by decide +kernel)
  have hmap := exists_binds_iff_of_completes (.textMap "app.labels".toList) "APP.LAB".toList
    (by decide) (by decide) hlabels (by decide +kernel)
  refine ⟨hlist.mpr fun h => absurd h (by decide), hmap.mpr fun _ => ?_⟩
  exact ⟨"APP.LABELS".toList, ⟨"ELS".toList, rfl⟩, by decide +kernel, rfl⟩

/-- The start of a spelling without the dots of the name is completed to a map, and no raw key that
goes on from there is bound to it. -/
theorem completes_and_not_exists_binds :
    IsAscii "app.labels".toList ∧ '[' ∉ "app.labels".toList ∧ ']' ∉ "app.labels".toList ∧
      HasAlphanumericEnds "app.labels".toList ∧
      completes (.textMap "app.labels".toList) "app_l".toList = true ∧
      ¬∃ rest, binds (.textMap "app.labels".toList) ("app_l".toList ++ rest) = true := by
  have hascii : IsAscii "app.labels".toList := by decide
  have hends : HasAlphanumericEnds "app.labels".toList :=
    ⟨⟨'a', rfl, by decide⟩, 's', rfl, by decide⟩
  have hcompletes : completes (.textMap "app.labels".toList) "app_l".toList = true := by
    decide +kernel
  refine ⟨hascii, by decide, by decide, hends, hcompletes, ?_⟩
  rintro ⟨rest, hbinds⟩
  have hdotted := startsDottedSpelling_of_binds (hends.isPlain hascii) hends (by decide)
    (by decide) hcompletes hbinds
  exact absurd (hdotted.canonical_isPrefix (hends.isPlain hascii)) (by decide)

end Spellings

end PropertyKeys.Relaxed

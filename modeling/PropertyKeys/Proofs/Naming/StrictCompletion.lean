import PropertyKeys.Proofs.Naming.Canonical

/-!
# What the strict dialect completes

A text that was typed is offered a key if its canonical form is the start of that of the name. Since
canonical forms are put together like the texts, what is missing can be typed as it stands in the
canonical form of the name. The result is bound to the key whatever its access, because all kinds of
keys are bound by their name.

## Main results

* `Strict.exists_binds_of_completes`: what is completed goes on to a raw key that is bound.
* `Strict.completes_iff_exists_binds`: for scalars nothing else does.
-/

namespace PropertyKeys.Strict

open Text

variable {key : Key} {typed : Text}

theorem completes_iff : completes key typed = true ↔
    sameFirst key.name typed = true ∧ canonical typed <+: canonical key.name := by
  rw [completes, Bool.and_eq_true, List.isPrefixOf_iff_prefix]

theorem exists_binds_of_completes (h : completes key typed = true) :
    ∃ rest, binds key (typed ++ rest) = true := by
  -- what is missing is typed as it stands in the canonical form of the name
  obtain ⟨hfirst, rest, hrest⟩ := completes_iff.mp h
  have hcanonical : canonical rest = rest := by
    refine canonical_eq_self fun c hc => ?_
    have hname : c ∈ canonical key.name := hrest ▸ List.mem_append_right _ hc
    exact isCanonical_of_mem_canonical hname
  refine ⟨rest, binds_of_canonical_eq ?_ ?_⟩
  · rwa [sameFirst_append_right _ (ne_nil_of_sameFirst hfirst)]
  · rw [canonical_append, hcanonical, hrest]

theorem completes_of_binds (hnormal : key.access = .normal) (htyped : typed ≠ []) {rest : Text}
    (hbinds : binds key (typed ++ rest) = true) : completes key typed = true := by
  obtain ⟨hfirst, hname⟩ := (binds_of_normal_iff hnormal).mp hbinds
  rw [sameFirst_append_right _ htyped] at hfirst
  rw [canonical_append] at hname
  exact completes_iff.mpr ⟨hfirst, canonical rest, hname⟩

/-- **Completion finds the starts of bound keys.** What is completed to a key is the start of a raw
key that is bound to it. For a scalar the converse is true as well: a start of a raw key that is
bound to it is completed, unless nothing has been typed yet. -/
theorem completes_iff_exists_binds (key : Key) (typed : Text) :
    (completes key typed = true → ∃ rest, binds key (typed ++ rest) = true) ∧
      (key.access = .normal →
        (completes key typed = true ↔
          typed ≠ [] ∧ ∃ rest, binds key (typed ++ rest) = true)) := by
  refine ⟨exists_binds_of_completes, fun hnormal => ⟨fun h => ?_, ?_⟩⟩
  · exact ⟨ne_nil_of_sameFirst (completes_iff.mp h).1, exists_binds_of_completes h⟩
  · rintro ⟨htyped, rest, hbinds⟩
    exact completes_of_binds hnormal htyped hbinds

/-- The start of a map key in another spelling, and of a raw key that is bound to a scalar. -/
theorem completes_iff_exists_binds_labelsAndName :
    (∃ rest, binds (.textMap "app.extra-labels".toList) ("App.ExtraL".toList ++ rest) = true) ∧
      completes (.scalar "server.display-name".toList) "Server.DISPLAY_".toList = true := by
  have hmap := completes_iff_exists_binds (.textMap "app.extra-labels".toList) "App.ExtraL".toList
  have hscalar :=
    completes_iff_exists_binds (.scalar "server.display-name".toList) "Server.DISPLAY_".toList
  exact ⟨hmap.1 (by decide),
    (hscalar.2 (Key.access_scalar _)).mpr ⟨by decide, "Name".toList, by decide⟩⟩

/-- A map is also bound by what goes on after its name, and that is not completed any more. -/
example :
    binds (.textMap "app.labels".toList) "app.labels.env".toList = true ∧
      completes (.textMap "app.labels".toList) "app.labels.e".toList = false := by
  decide

end PropertyKeys.Strict

import Mathlib.Data.List.Induction
import Mathlib.Data.List.Nodup
import Mathlib.Data.Set.Basic
import Mathlib.Logic.Function.Iterate
import Mathlib.Order.Monotone.Basic
import PropertyKeys.Proofs.Spelling.Rounds

/-!
# The search for variants

A search expands only the names that its last round found, and it leaves out what was found before.
Nothing is lost by that: what the rounds before have found has been expanded, so after each round
the search has found what respelling everything once more would find.

## Main definitions

* `Spelling.step`: everything that one respelling makes of a set of names.
* `Spelling.Search.add`: a search that comes upon one more name.
* `Spelling.Search.IsExpanded`: what each round keeps.

## Main results

* `Spelling.Search.advance_eq_foldl`: a round comes upon its respellings one by one.
* `Spelling.Search.IsExpanded.mem_found_advance_iff`: a round adds one step.
* `Spelling.Search.iterate_advance`: so many rounds find what so many steps reach.
* `Spelling.variants_list_steps`: the variants of a name are what two steps reach, each listed once.
-/

namespace PropertyKeys.Spelling

open Text

/-- The names that a change of the separation and then a change of the case make of some names. -/
def step (names : Set Text) : Set Text :=
  {text | ∃ name ∈ names, ∃ separation casing,
    text = Casing.apply casing (Separation.apply separation name)}

theorem mem_step_iff {names : Set Text} {text : Text} :
    text ∈ step names ↔ ∃ name ∈ names, text ∈ respellings name := by
  constructor
  · rintro ⟨name, hname, hspelled⟩
    exact ⟨name, hname, mem_respellings_iff.mpr hspelled⟩
  · rintro ⟨name, hname, hspelled⟩
    exact ⟨name, hname, mem_respellings_iff.mp hspelled⟩

/-- A name is a respelling of itself, so a step loses nothing. -/
theorem subset_step (names : Set Text) : names ⊆ step names :=
  fun name hname => mem_step_iff.mpr ⟨name, hname, self_mem_respellings name⟩

/-- More steps reach more. -/
theorem iterate_step_subset {few many : ℕ} (h : few ≤ many) (names : Set Text) :
    step^[few] names ⊆ step^[many] names := by
  have hmono : Monotone fun rounds => step^[rounds] names :=
    monotone_nat_of_le_succ fun rounds => by
      rw [Function.iterate_succ_apply']
      exact subset_step _
  exact hmono h

namespace Search

/-! ## One round -/

/-- The search after it has come upon a name, which counts only if it was not found before. -/
def add (search : Search) (name : Text) : Search :=
  if name ∈ search.found then search
  else { found := search.found ++ [name], newest := search.newest ++ [name] }

/-- Of the names that a search comes upon, those that were not found before are added, each of them
once. -/
theorem foldl_add (search : Search) (names : List Text) :
    names.foldl add search =
      { found := search.found ++ names.eraseDups.filter (!search.found.contains ·)
        newest := search.newest ++ names.eraseDups.filter (!search.found.contains ·) } := by
  induction names using List.reverseRecOn with
  | nil => simp
  | append_singleton names name ih =>
    rw [List.foldl_append, ih, List.foldl_cons, List.foldl_nil, add, List.eraseDups_append,
      List.filter_append]
    by_cases hold : name ∈ search.found
    · simp [hold, List.removeAll]
    · by_cases hnow : name ∈ names
      · simp [hold, hnow, List.removeAll]
      · simp [hold, hnow, List.removeAll, List.eraseDups_cons]

/-- **A round goes through its respellings one by one** and adds each one that was not found before,
be it in an earlier round or in this one. -/
theorem advance_eq_foldl (search : Search) :
    search.advance =
      (search.newest.flatMap respellings).foldl add { search with newest := [] } := by
  rw [foldl_add, List.nil_append]
  rfl

/-- What was found stays in front. -/
theorem found_isPrefix_advance (search : Search) : search.found <+: search.advance.found :=
  List.prefix_append ..

/-- What every round keeps: each name is listed once, the newest names are among those found, and
every other name has been expanded, so its respellings have been found. -/
structure IsExpanded (search : Search) : Prop where
  nodup : search.found.Nodup
  newest : ∀ name ∈ search.newest, name ∈ search.found
  expanded : ∀ name ∈ search.found, name ∉ search.newest →
    ∀ text ∈ respellings name, text ∈ search.found

/-- The search that starts with a name, and has it found. -/
def start (name : Text) : Search :=
  { found := [name], newest := [name] }

theorem isExpanded_start (name : Text) : (start name).IsExpanded where
  nodup := List.nodup_singleton name
  newest := fun _ h => h
  expanded := fun _ hfound hnewest => absurd hfound hnewest

theorem nodup_add {search : Search} (h : search.found.Nodup) (name : Text) :
    (search.add name).found.Nodup := by
  rw [add]
  split
  case isTrue => exact h
  case isFalse hnew => exact List.concat_eq_append ▸ h.concat hnew

theorem nodup_foldl_add {search : Search} (h : search.found.Nodup) (names : List Text) :
    (names.foldl add search).found.Nodup := by
  induction names generalizing search with
  | nil => exact h
  | cons name names ih => exact ih (nodup_add h name)

namespace IsExpanded

variable {search : Search}

/-- A round keeps the invariant: the names that were newest before it have been expanded by it. -/
theorem advance (h : search.IsExpanded) : search.advance.IsExpanded where
  nodup := by
    have hbefore : ({ search with newest := [] } : Search).found.Nodup := h.nodup
    rw [advance_eq_foldl]
    exact nodup_foldl_add hbefore _
  newest := by
    intro name hname
    obtain ⟨hmade, -⟩ := mem_newest_advance.mp hname
    exact mem_found_advance.mpr (.inr hmade)
  expanded := by
    intro name hname hold text htext
    refine mem_found_advance.mpr ?_
    have hfound : name ∈ search.found := by
      obtain hfound | hmade := mem_found_advance.mp hname
      · exact hfound
      · exact Classical.byContradiction fun hnew => hold (mem_newest_advance.mpr ⟨hmade, hnew⟩)
    by_cases hnewest : name ∈ search.newest
    · exact .inr ⟨name, hnewest, htext⟩
    · exact .inl (h.expanded name hfound hnewest text htext)

/-- **Expanding the newest names is enough.** A round finds what respelling all names that were
found would find. -/
theorem mem_found_advance_iff (h : search.IsExpanded) {text : Text} :
    text ∈ search.advance.found ↔ text ∈ step {name | name ∈ search.found} := by
  rw [mem_found_advance, mem_step_iff]
  constructor
  · rintro (hfound | ⟨name, hname, htext⟩)
    · exact ⟨text, hfound, self_mem_respellings text⟩
    · exact ⟨name, h.newest name hname, htext⟩
  · rintro ⟨name, hname, htext⟩
    by_cases hnewest : name ∈ search.newest
    · exact .inr ⟨name, hnewest, htext⟩
    · exact .inl (h.expanded name hname hnewest text htext)

end IsExpanded

/-! ## Any number of rounds -/

/-- So many rounds find what so many steps reach, and the name stays in front. -/
theorem iterate_advance (rounds : ℕ) (name : Text) :
    (advance^[rounds] (start name)).IsExpanded ∧
      [name] <+: (advance^[rounds] (start name)).found ∧
      ∀ text, text ∈ (advance^[rounds] (start name)).found ↔ text ∈ step^[rounds] {name} := by
  induction rounds with
  | zero => exact ⟨isExpanded_start name, List.prefix_rfl, fun text => List.mem_singleton⟩
  | succ rounds ih =>
    obtain ⟨hexpanded, hfront, hfound⟩ := ih
    rw [Function.iterate_succ_apply', Function.iterate_succ_apply']
    refine ⟨hexpanded.advance, hfront.trans (found_isPrefix_advance _), fun text => ?_⟩
    have hsame : {other | other ∈ (advance^[rounds] (start name)).found} = step^[rounds] {name} :=
      Set.ext hfound
    rw [hexpanded.mem_found_advance_iff, hsame]

end Search

/-! ## Variants -/

/-- **The variants of a name are listed once each**, the name itself first, and they are what two
steps of respelling reach. So a text is among them exactly if at most two steps reach it. -/
theorem variants_list_steps (name : Text) :
    (variants name).Nodup ∧ (variants name).head? = some name ∧
      (∀ text, text ∈ variants name ↔ text ∈ step (step {name})) ∧
      ∀ text, (variants name).contains text = true ↔ ∃ rounds ≤ 2, text ∈ step^[rounds] {name} := by
  obtain ⟨hexpanded, ⟨others, hfront⟩, hfound⟩ := Search.iterate_advance 2 name
  have hmem : ∀ text, text ∈ variants name ↔ text ∈ step (step {name}) := hfound
  refine ⟨hexpanded.nodup, ?_, hmem, fun text => ?_⟩
  · exact (congrArg List.head? hfront).symm
  · rw [List.contains_iff_mem, hmem]
    constructor
    · intro htwo
      exact ⟨2, Nat.le_refl 2, htwo⟩
    · rintro ⟨rounds, hrounds, htext⟩
      exact iterate_step_subset hrounds {name} htext

end PropertyKeys.Spelling

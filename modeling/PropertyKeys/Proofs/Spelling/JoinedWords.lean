import PropertyKeys.Proofs.Spelling.Folding
import PropertyKeys.Proofs.Text.Cuts

/-!
# Joined words

The words of a name that are joined in camel case hold no separator, since no character gets one for
its capital. So there is nothing left to join: only a separator at the very end of a name is kept,
and it is kept again.

## Main results

* `Spelling.joinWords_of_forall_not`: a name without separators is joined already.
* `Spelling.joinWords_joinWords`: joining words twice is joining them once.
-/

namespace PropertyKeys.Spelling

open Unicode Text

variable {name word : Text} {words : List Text}

/-- A separator stands in the upper-case form of no other character. -/
theorem eq_of_separator_mem_upperChar {separator c : Char} (h : isSeparator separator = true)
    (hmem : separator ∈ upperChar c) : c = separator := by
  rcases eq_of_isSeparator h with rfl | rfl | rfl <;>
    exact eq_of_mem_convertChar (by decide) (by decide +kernel) (by decide +kernel) hmem

theorem isSeparator_of_mem_splitBy (h : word ∈ splitBy isSeparator name) :
    ∀ c ∈ word, isSeparator c = false := by
  intro c hc
  have hmem : c ∈ (splitBy isSeparator name).flatten := List.mem_flatten.mpr ⟨word, h, hc⟩
  rw [flatten_splitBy, List.mem_filter] at hmem
  simpa using hmem.2

theorem isSeparator_of_mem_capitalize (h : ∀ c ∈ word, isSeparator c = false) :
    ∀ c ∈ capitalize word, isSeparator c = false := by
  cases word with
  | nil => exact h
  | cons first rest =>
    intro c hc
    rw [capitalize, List.mem_append] at hc
    rcases hc with hfirst | hrest
    · cases hseparator : isSeparator c with
      | false => rfl
      | true =>
        have hfirstNot := h first List.mem_cons_self
        rw [eq_of_separator_mem_upperChar hseparator hfirst, hseparator] at hfirstNot
        exact hfirstNot
    · exact h c (List.mem_cons_of_mem first hrest)

theorem isSeparator_of_mem_joinCamel (h : ∀ word ∈ words, ∀ c ∈ word, isSeparator c = false) :
    ∀ c ∈ joinCamel words, isSeparator c = false := by
  induction words with
  | nil => exact fun c hc => absurd hc List.not_mem_nil
  | cons word words ih =>
    have hwords : ∀ other ∈ words, ∀ c ∈ other, isSeparator c = false :=
      fun other hother => h other (List.mem_cons_of_mem word hother)
    intro c hc
    rw [joinCamel] at hc
    split at hc
    · exact ih hwords c hc
    · rcases List.mem_append.mp hc with hfirst | hrest
      · exact h word List.mem_cons_self c hfirst
      · obtain ⟨other, hother, hmem⟩ := List.mem_flatMap.mp hrest
        exact isSeparator_of_mem_capitalize (hwords other hother) c hmem

theorem joinCamel_ne_nil (hword : word ∈ words) (hne : word ≠ []) : joinCamel words ≠ [] := by
  induction words with
  | nil => exact absurd hword List.not_mem_nil
  | cons first words ih =>
    rw [joinCamel]
    split
    · next hempty =>
      refine ih ((List.mem_cons.mp hword).resolve_left fun heq => hne ?_)
      rw [heq, List.isEmpty_iff.mp hempty]
    · next hempty =>
      exact List.append_ne_nil_of_left_ne_nil (mt List.isEmpty_iff.mpr hempty) _

/-- What joining makes of a name: the joined words, and a separator if the name ends with it. -/
theorem joinWords_eq (name : Text) :
    joinWords false name =
      joinCamel (splitBy isSeparator name) ++ (name.getLast?.filter isSeparator).toList := by
  have hwords : (splitBy isSeparator name).map (fun word => if false then lower word else word) =
      splitBy isSeparator name := by simp
  rw [joinWords, hwords]
  cases name.getLast? with
  | none => simp
  | some c => by_cases hc : isSeparator c = true <;> simp [hc, Option.filter_some]

theorem joinWords_of_forall_not (h : ∀ c ∈ name, isSeparator c = false) :
    joinWords false name = name := by
  have hlast : name.getLast?.filter isSeparator = none := by
    rw [Option.filter_eq_none_iff]
    exact fun c hc => Bool.eq_false_iff.mp (h c (List.mem_of_getLast? hc))
  rw [joinWords_eq, hlast, splitBy_of_forall_not h, joinCamel]
  split
  · next hempty => rw [List.isEmpty_iff.mp hempty]; rfl
  · simp

theorem joinWords_concat (h : ∀ c ∈ name, isSeparator c = false) {separator : Char}
    (hseparator : isSeparator separator = true) :
    joinWords false (name ++ [separator]) = name ++ [separator] := by
  have hjoined : joinCamel [name, []] = name := by
    rw [joinCamel]
    split
    · next hempty => rw [List.isEmpty_iff.mp hempty]; rfl
    · exact List.append_nil name
  rw [joinWords_eq, splitBy_append_cons h hseparator, splitBy, hjoined, List.getLast?_concat,
    Option.filter_some, if_pos hseparator]
  rfl

/-- Joining words twice is joining them once. -/
theorem joinWords_joinWords (name : Text) :
    joinWords false (joinWords false name) = joinWords false name := by
  have hbody : ∀ c ∈ joinCamel (splitBy isSeparator name), isSeparator c = false :=
    isSeparator_of_mem_joinCamel fun _ => isSeparator_of_mem_splitBy
  rw [joinWords_eq name]
  cases hlast : name.getLast?.filter isSeparator with
  | none => rw [Option.toList_none, List.append_nil, joinWords_of_forall_not hbody]
  | some c => exact joinWords_concat hbody (Option.filter_eq_some_iff.mp hlast).2

theorem joinWords_ne_nil (h : name ≠ []) : joinWords false name ≠ [] := by
  rw [joinWords_eq]
  obtain ⟨c, hc⟩ := Option.ne_none_iff_exists'.mp (mt List.getLast?_eq_none_iff.mp h)
  rw [hc, Option.filter_some]
  by_cases hseparator : isSeparator c = true
  · rw [if_pos hseparator]
    exact List.append_ne_nil_of_right_ne_nil _ (List.cons_ne_nil c [])
  · -- the last character is no separator, so it stands in a word
    have hmem : c ∈ (splitBy isSeparator name).flatten := by
      rw [flatten_splitBy, List.mem_filter]
      exact ⟨List.mem_of_getLast? hc, by simpa using hseparator⟩
    obtain ⟨word, hword, hcword⟩ := List.mem_flatten.mp hmem
    exact List.append_ne_nil_of_left_ne_nil (joinCamel_ne_nil hword (List.ne_nil_of_mem hcword)) _

end PropertyKeys.Spelling

import PropertyKeys.Proofs.Spelling.JoinedWords

/-!
# Separated words

A name in camel case is separated in front of some of its capitals, and a capital that is separated
becomes small. Joining the words gives each of them its capital back, and there is no other change of
the name. So it does not matter which capitals are separated, and rows of capitals are no exception:
a name without separators comes back from each of its separated forms.

## Main definitions

* `Spelling.IsUnseparated`: a name without separators.

## Main results

* `Spelling.exists_splitBy_separateWords`: the words of a separated form.
* `Spelling.joinWords_separateWords`: joining the words of a separated form gives the name.
* `Spelling.separateWords_eq_self_or`: a separated form is the name itself or has a separator.
-/

namespace PropertyKeys.Spelling

open Unicode Text

variable {name : Text} {separator : Char}

/-- No character of a name separates words. -/
def IsUnseparated (name : Text) : Prop :=
  ∀ c ∈ name, isSeparator c = false

instance (name : Text) : Decidable (IsUnseparated name) :=
  List.decidableBAll (fun c => isSeparator c = false) name

/-- A capital that has become small is the capital of what it has become. -/
theorem upperChar_toLower {c : Char} (hupper : c.isUpper = true) : upperChar c.toLower = [c] :=
  forall_ascii (P := fun c => c.isUpper = true → upperChar c.toLower = [c]) (by decide +kernel)
    (ascii_of_isUpper hupper) hupper

theorem isSeparator_toLower {c : Char} (hupper : c.isUpper = true) :
    isSeparator c.toLower = false :=
  forall_ascii (P := fun c => c.isUpper = true → isSeparator c.toLower = false) (by decide +kernel)
    (ascii_of_isUpper hupper) hupper

theorem splitBy_cons {c : Char} (hc : isSeparator c = false) {text word : Text} {words : List Text}
    (h : splitBy isSeparator text = word :: words) :
    splitBy isSeparator (c :: text) = (c :: word) :: words := by
  rw [splitBy, if_neg (Bool.eq_false_iff.mp hc), h]

/-- The words of a separated form, all but the first one with a capital, make up the name. The first
of them is empty only if the name is. -/
theorem exists_splitBy_separateWords (hseparator : isSeparator separator = true)
    (hname : IsUnseparated name) :
    ∃ word words, splitBy isSeparator (separateWords separator name) = word :: words ∧
      word ++ words.flatMap capitalize = name ∧ (word = [] → name = []) := by
  fun_induction separateWords separator name with
  | case1 a b rest hword ih =>
    have hupper : b.isUpper = true := (Bool.and_eq_true_iff.mp hword).2
    obtain ⟨word, words, hsplit, hjoined, -⟩ := ih fun c hc =>
      hname c (List.mem_cons_of_mem a (List.mem_cons_of_mem b hc))
    -- a word ends here, and the next one begins with the small form of the capital
    have hnext := splitBy_cons (isSeparator_toLower hupper) hsplit
    have hmark : splitBy isSeparator (separator :: b.toLower :: separateWords separator rest) =
        [] :: (b.toLower :: word) :: words := by
      rw [splitBy, if_pos hseparator, hnext]
    refine ⟨[a], (b.toLower :: word) :: words, splitBy_cons (hname a List.mem_cons_self) hmark, ?_,
      by simp⟩
    rw [List.flatMap_cons, capitalize, upperChar_toLower hupper, List.append_assoc, hjoined]
    rfl
  | case2 a b rest hword ih =>
    obtain ⟨word, words, hsplit, hjoined, -⟩ := ih fun c hc => hname c (List.mem_cons_of_mem a hc)
    refine ⟨a :: word, words, splitBy_cons (hname a List.mem_cons_self) hsplit, ?_, by simp⟩
    rw [List.cons_append, hjoined]
  | case3 a => exact ⟨[a], [], splitBy_cons (hname a List.mem_cons_self) rfl, rfl, by simp⟩
  | case4 => exact ⟨[], [], rfl, rfl, fun _ => rfl⟩

/-- A separated form does not end with a separator. -/
theorem isSeparator_of_getLast?_separateWords (hname : IsUnseparated name) {c : Char}
    (hc : (separateWords separator name).getLast? = some c) : isSeparator c = false := by
  by_contra hseparator
  rw [Bool.not_eq_false] at hseparator
  obtain ⟨start, hstart⟩ := List.getLast?_eq_some_iff.mp hc
  have hlast : (folded (separateWords separator name)).getLast? = some c := by
    rw [hstart, folded_append, folded_cons, lowerChar_of_isSeparator hseparator]
    simp
  rw [getLast?_folded_separateWords] at hlast
  have hmem := (separator_mem_folded_iff hseparator).mp (List.mem_of_getLast? hlast)
  rw [hname c hmem] at hseparator
  exact Bool.false_ne_true hseparator

/-- **A name without separators comes back from each of its separated forms.** -/
theorem joinWords_separateWords (hseparator : isSeparator separator = true)
    (hname : IsUnseparated name) :
    joinWords false (separateWords separator name) = name := by
  obtain ⟨word, words, hsplit, hjoined, hempty⟩ := exists_splitBy_separateWords hseparator hname
  have hlast : (separateWords separator name).getLast?.filter isSeparator = none :=
    Option.filter_eq_none_iff.mpr fun c hc =>
      Bool.eq_false_iff.mp (isSeparator_of_getLast?_separateWords hname hc)
  rw [joinWords_eq, hlast, hsplit, joinCamel, Option.toList_none, List.append_nil]
  split
  · next hword =>
    obtain rfl := hempty (List.isEmpty_iff.mp hword)
    obtain ⟨-, rfl⟩ := List.cons.inj hsplit
    rfl
  · exact hjoined

/-- A separated form is the name itself, if no capital was separated, or it has a separator. -/
theorem separateWords_eq_self_or (separator : Char) (name : Text) :
    separateWords separator name = name ∨ separator ∈ separateWords separator name := by
  fun_induction separateWords separator name with
  | case1 a b rest hword ih => simp
  | case2 a b rest hword ih => exact ih.imp (congrArg (a :: ·)) (List.mem_cons_of_mem a)
  | case3 a => exact .inl rfl
  | case4 => exact .inl rfl

end PropertyKeys.Spelling

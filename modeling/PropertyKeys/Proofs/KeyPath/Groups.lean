import Mathlib.Data.List.Basic
import PropertyKeys.KeyPath

/-!
# Groups of brackets in a path

A group goes from an opening bracket to the closing one that belongs to it, and other groups may
stand in it. A place in a path lies inside a group if some opening bracket before it is not closed
yet: between the last bracket of this kind and the place stand whole groups and single characters
only. A closing bracket without an opening one belongs to no group. The number of open brackets tells
just this, so the dots that separate segments are those that stand outside every group.

## Main definitions

* `KeyPath.IsBalanced`: a text of single characters and whole groups.
* `KeyPath.LeavesGroup`: what follows a text lies inside a group.

## Main results

* `KeyPath.leavesGroup_iff`: the number of open brackets tells whether a group is left open.
* `KeyPath.segmentCount_concat`: a segment begins behind each dot outside every group.
-/

namespace PropertyKeys.KeyPath

variable {text more : Text} {depth : Nat}

/-- A text of single characters and whole groups: every bracket in it belongs to one of them. -/
inductive IsBalanced : Text → Prop
  | nil : IsBalanced []
  | cons {c : Char} {rest : Text} (hopen : c ≠ '[') (hclose : c ≠ ']') (hrest : IsBalanced rest) :
      IsBalanced (c :: rest)
  | group {inner rest : Text} (hinner : IsBalanced inner) (hrest : IsBalanced rest) :
      IsBalanced ('[' :: (inner ++ ']' :: rest))

/-- A group that is opened in the text is not closed in it, so what follows lies inside a group. -/
def LeavesGroup (text : Text) : Prop :=
  ∃ outer inner, text = outer ++ '[' :: inner ∧ IsBalanced inner

/-- The number of brackets that are open behind a text, where so many are open before it. -/
def depthBehind (depth : Nat) (text : Text) : Nat :=
  text.foldl depthAfter depth

theorem depthBehind_cons (depth : Nat) (c : Char) (text : Text) :
    depthBehind depth (c :: text) = depthBehind (depthAfter depth c) text := rfl

theorem depthBehind_append (depth : Nat) (text more : Text) :
    depthBehind depth (text ++ more) = depthBehind (depthBehind depth text) more :=
  List.foldl_append

theorem depthBehind_concat (depth : Nat) (text : Text) (c : Char) :
    depthBehind depth (text ++ [c]) = depthAfter (depthBehind depth text) c :=
  depthBehind_append depth text [c]

theorem depthAfter_of_ne {c : Char} (hopen : c ≠ '[') (hclose : c ≠ ']') (depth : Nat) :
    depthAfter depth c = depth := by
  rw [depthAfter, if_neg hopen, if_neg hclose]

namespace IsBalanced

theorem append (h : IsBalanced text) (hmore : IsBalanced more) : IsBalanced (text ++ more) := by
  induction h with
  | nil => exact hmore
  | cons hopen hclose _ ih => exact .cons hopen hclose ih
  | group hinner _ _ ih =>
    rw [List.cons_append, List.append_assoc, List.cons_append]
    exact .group hinner ih

/-- Behind whole groups as many brackets are open as before them. -/
theorem depthBehind_eq (h : IsBalanced text) (depth : Nat) : depthBehind depth text = depth := by
  induction h generalizing depth with
  | nil => rfl
  | cons hopen hclose _ ih => rw [depthBehind_cons, depthAfter_of_ne hopen hclose, ih]
  | group _ _ ihInner ihRest =>
    rw [depthBehind_cons, depthBehind_append, ihInner, depthBehind_cons, ihRest]
    rfl

end IsBalanced

/-- Behind the last bracket that is open stand whole groups, and before it one bracket less is
open. -/
theorem exists_bracket_of_depthBehind (h : depthBehind 0 text = depth + 1) :
    ∃ outer inner, text = outer ++ '[' :: inner ∧ IsBalanced inner ∧
      depthBehind 0 outer = depth := by
  -- a closing bracket ends the last open group, and what precedes that group is shorter
  induction hlength : text.length using Nat.strongRecOn generalizing text depth with
  | _ length ih =>
    obtain rfl | ⟨start, c, rfl⟩ := text.eq_nil_or_concat'
    · exact absurd h (by simp [depthBehind])
    · have hstart : start.length < length := by simp [← hlength]
      rw [depthBehind_concat] at h
      by_cases hopen : c = '['
      · subst hopen
        exact ⟨start, [], rfl, .nil, Nat.succ.inj h⟩
      · by_cases hclose : c = ']'
        · subst hclose
          have hdepth : depthBehind 0 start = depth + 1 + 1 := by
            rw [depthAfter, if_neg hopen, if_pos rfl] at h
            omega
          obtain ⟨outer, inner, rfl, hinner, houter⟩ := ih _ hstart hdepth rfl
          have hshorter : outer.length < length := by
            rw [List.length_append] at hstart
            omega
          obtain ⟨first, between, rfl, hbetween, hfirst⟩ := ih _ hshorter houter rfl
          refine ⟨first, between ++ '[' :: (inner ++ [']']), by simp, ?_, hfirst⟩
          exact hbetween.append (.group hinner .nil)
        · rw [depthAfter_of_ne hopen hclose] at h
          obtain ⟨outer, inner, rfl, hinner, houter⟩ := ih _ hstart h rfl
          exact ⟨outer, inner ++ [c], by simp, hinner.append (.cons hopen hclose .nil), houter⟩

/-- Counting the open brackets tells whether a group is left open. -/
theorem leavesGroup_iff : LeavesGroup text ↔ depthBehind 0 text ≠ 0 := by
  constructor
  · rintro ⟨outer, inner, rfl, hinner⟩
    rw [depthBehind_append, depthBehind_cons, hinner.depthBehind_eq]
    exact Nat.succ_ne_zero _
  · intro hdepth
    obtain ⟨outer, inner, heq, hinner, -⟩ :=
      exists_bracket_of_depthBehind (Nat.succ_pred_eq_of_ne_zero hdepth).symm
    exact ⟨outer, inner, heq, hinner⟩

instance (text : Text) : Decidable (LeavesGroup text) :=
  decidable_of_iff _ leavesGroup_iff.symm

/-! ## Counting separators -/

theorem separatorCount_append (depth : Nat) (text more : Text) :
    separatorCount depth (text ++ more) =
      separatorCount depth text + separatorCount (depthBehind depth text) more := by
  induction text generalizing depth with
  | nil => exact (Nat.zero_add _).symm
  | cons c cs ih =>
    rw [List.cons_append, separatorCount, ih, separatorCount, depthBehind_cons, Nat.add_assoc]

/-- A segment begins behind each dot that stands outside every group, and nowhere else. -/
theorem segmentCount_concat (text : Text) (c : Char) :
    segmentCount (text ++ [c]) =
      segmentCount text + if c = '.' ∧ ¬LeavesGroup text then 1 else 0 := by
  simp only [segmentCount, separatorCount_append, separatorCount, leavesGroup_iff, Ne, not_not]
  omega

theorem segmentCount_le_append (text more : Text) :
    segmentCount text ≤ segmentCount (text ++ more) := by
  rw [segmentCount, segmentCount, separatorCount_append]
  omega

end PropertyKeys.KeyPath

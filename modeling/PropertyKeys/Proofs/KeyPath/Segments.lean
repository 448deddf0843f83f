import PropertyKeys.Proofs.KeyPath.Boundary
import PropertyKeys.Proofs.KeyPath.Groups
import PropertyKeys.Proofs.Text.Offsets

/-!
# Where the first segments of a path end

Segments are counted in one pass over a path, and the boundary behind the first of them is looked for
in another one, which stops early. Both count the open brackets in the same way, so they agree: there
is a boundary behind any number of segments that the path has, and its portion has just so many. An
opening bracket outside every group ends the last of these segments, so none is passed there.

## Main definitions

* `KeyPath.Boundary.IsBehind`: the place of a boundary in a path.

## Main results

* `KeyPath.boundary?_eq_some_iff`: the one boundary behind a number of segments is found.
* `KeyPath.boundary?_agrees_with_segmentCount`: when there is a boundary, and where it is.
-/

namespace PropertyKeys.KeyPath

open Text

variable {segments missing depth : Nat} {path : Text} {boundary other : Boundary}

/-- The number of bytes of a path up to the boundary. -/
def Boundary.portionSize (boundary : Boundary) : Nat :=
  byteSize boundary.portion

/-- The boundary is the place in the path where the first `segments` segments end. -/
structure Boundary.IsBehind (segments : Nat) (path : Text) (boundary : Boundary) : Prop where
  /-- The place lies between two characters, and the path goes on with the mark and the rest. -/
  hasRestAt : HasRestAt path boundary.portionSize (boundary.mark.text ++ boundary.rest)
  /-- The portion is what the path has up to the place. -/
  takeBytes_eq : takeBytes boundary.portionSize path = boundary.portion
  segmentCount_eq : segmentCount boundary.portion = segments
  /-- A dot or bracket that ends the portion stands outside every group. -/
  not_leavesGroup : boundary.mark ≠ .ending → ¬LeavesGroup boundary.portion
  portion_eq : boundary.mark = .ending → boundary.portion = path
  /-- No bracket in the last segment of the portion opens outside every group. -/
  segmentCount_lt : ∀ start rest, boundary.portion = start ++ '[' :: rest → ¬LeavesGroup start →
    segmentCount start < segments

/-! ## What the search finds -/

/-- The mark of a boundary stands outside brackets. -/
theorem depthBehind_of_boundaryFrom?_eq_some (h : boundaryFrom? missing depth path = some boundary)
    (hmark : boundary.mark ≠ .ending) : depthBehind depth boundary.portion = 0 := by
  induction path generalizing missing depth boundary with
  | nil =>
    obtain ⟨-, rfl⟩ := boundaryFrom?_nil_eq_some h
    exact absurd rfl hmark
  | cons c cs ih =>
    obtain ⟨-, hdepth, -, hportion, -⟩ | ⟨fewer, inner, -, -, hinner, rfl⟩ :=
      boundaryFrom?_cons_eq_some h
    · rw [hportion]
      exact hdepth
    · show depthBehind (depthAfter depth c) inner.portion = 0
      exact ih hinner hmark

/-- A bracket that is passed outside brackets has separators behind it in the portion. -/
theorem separatorCount_lt_of_boundaryFrom?_eq_some {start rest : Text}
    (h : boundaryFrom? missing depth path = some boundary)
    (hportion : boundary.portion = start ++ '[' :: rest) (hstart : depthBehind depth start = 0) :
    separatorCount depth start < missing := by
  induction path generalizing missing depth boundary start with
  | nil =>
    obtain ⟨-, rfl⟩ := boundaryFrom?_nil_eq_some h
    simp at hportion
  | cons c cs ih =>
    obtain ⟨-, -, -, hnil, -⟩ | ⟨fewer, inner, hmissing, hpassed, hinner, rfl⟩ :=
      boundaryFrom?_cons_eq_some h
    · simp [hnil] at hportion
    · cases start with
      | nil => exact hpassed (List.cons.inj hportion).1 hstart
      | cons first start =>
        obtain ⟨rfl, hrest⟩ := List.cons.inj hportion
        have hfewer := ih hinner hrest hstart
        rw [separatorCount, hmissing]
        omega

theorem isBehind_of_boundary?_eq_some (h : boundary? segments path = some boundary) :
    boundary.IsBehind segments path := by
  obtain ⟨hpath, hending⟩ := eq_of_boundary?_eq_some h
  obtain ⟨missing, rfl, hfound⟩ := exists_of_boundary?_eq_some h
  rw [List.append_assoc] at hpath
  exact {
    hasRestAt := ⟨boundary.portion, hpath, rfl⟩
    takeBytes_eq := by
      conv => lhs; rw [hpath]
      exact takeBytes_append _ _
    segmentCount_eq := congrArg (· + 1) (separatorCount_of_boundaryFrom?_eq_some hfound)
    not_leavesGroup := fun hmark => by
      rw [leavesGroup_iff, not_not]
      exact depthBehind_of_boundaryFrom?_eq_some hfound hmark
    portion_eq := fun hmark => by
      rw [hpath, hmark, hending hmark]
      simp [Mark.text]
    segmentCount_lt := fun start rest hportion hstart => by
      rw [leavesGroup_iff, not_not] at hstart
      exact Nat.succ_lt_succ (separatorCount_lt_of_boundaryFrom?_eq_some hfound hportion hstart) }

/-! ## There is one such place -/

/-- A mark and what follows it are determined by the text they make up. -/
theorem Mark.eq_of_text_append_eq {mark other : Mark} {rest more : Text}
    (hrest : mark = .ending → rest = []) (hmore : other = .ending → more = [])
    (h : mark.text ++ rest = other.text ++ more) : mark = other ∧ rest = more := by
  cases mark <;> cases other <;> simp_all [Mark.text]

namespace Boundary.IsBehind

theorem path_eq (h : boundary.IsBehind segments path) :
    path = boundary.portion ++ (boundary.mark.text ++ boundary.rest) := by
  obtain ⟨start, rfl, hsize⟩ := h.hasRestAt
  have hstart := h.takeBytes_eq
  rw [← hsize, takeBytes_append] at hstart
  rw [hstart]

theorem pos (h : boundary.IsBehind segments path) : 0 < segments := by
  rw [← h.segmentCount_eq]
  exact Nat.succ_pos _

theorem le_segmentCount (h : boundary.IsBehind segments path) : segments ≤ segmentCount path := by
  rw [h.path_eq, ← h.segmentCount_eq]
  exact segmentCount_le_append _ _

/-- What lies behind a boundary belongs to further segments, or to a group that the last of the
segments may not have, so no portion of as many segments is longer. -/
theorem portion_eq_of_isPrefix (h : boundary.IsBehind segments path)
    (hother : other.IsBehind segments path) (hstarts : boundary.portion <+: other.portion) :
    boundary.portion = other.portion := by
  obtain ⟨more, hmore⟩ := hstarts
  cases more with
  | nil => rwa [List.append_nil] at hmore
  | cons c more =>
    exfalso
    have hgoes : boundary.mark.text ++ boundary.rest =
        c :: (more ++ (other.mark.text ++ other.rest)) := by
      have hpath := h.path_eq.symm.trans hother.path_eq
      rw [← hmore, List.append_assoc] at hpath
      exact List.append_cancel_left hpath
    cases hmark : boundary.mark with
    | ending =>
      have hlength := congrArg List.length hother.path_eq
      rw [← h.portion_eq hmark, ← hmore] at hlength
      simp only [List.length_append, List.length_cons] at hlength
      omega
    | dot =>
      have hgroup := h.not_leavesGroup (by simp [hmark])
      rw [hmark] at hgoes
      obtain ⟨rfl, -⟩ := List.cons.inj hgoes
      have hcount := segmentCount_le_append (boundary.portion ++ ['.']) more
      rw [segmentCount_concat, if_pos ⟨rfl, hgroup⟩, List.append_assoc, List.singleton_append, hmore,
        h.segmentCount_eq, hother.segmentCount_eq] at hcount
      omega
    | bracket =>
      have hgroup := h.not_leavesGroup (by simp [hmark])
      rw [hmark] at hgoes
      obtain ⟨rfl, -⟩ := List.cons.inj hgoes
      have hlt := hother.segmentCount_lt _ more hmore.symm hgroup
      rw [h.segmentCount_eq] at hlt
      exact Nat.lt_irrefl _ hlt

theorem rest_eq_nil (h : boundary.IsBehind segments path) (hmark : boundary.mark = .ending) :
    boundary.rest = [] := by
  have hpath := h.path_eq
  rw [h.portion_eq hmark, hmark] at hpath
  exact List.self_eq_append_right.mp hpath

/-- The first segments of a path end at one place only. -/
theorem unique (h : boundary.IsBehind segments path) (hother : other.IsBehind segments path) :
    boundary = other := by
  have hpath := h.path_eq.symm.trans hother.path_eq
  have hportion : boundary.portion = other.portion := by
    rcases List.prefix_or_prefix_of_prefix ⟨_, h.path_eq.symm⟩ ⟨_, hother.path_eq.symm⟩ with
      hstarts | hstarts
    · exact h.portion_eq_of_isPrefix hother hstarts
    · exact (hother.portion_eq_of_isPrefix h hstarts).symm
  rw [hportion] at hpath
  obtain ⟨hmark, hrest⟩ :=
    Mark.eq_of_text_append_eq h.rest_eq_nil hother.rest_eq_nil (List.append_cancel_left hpath)
  cases boundary
  cases other
  rw [Boundary.mk.injEq]
  exact ⟨hportion, hmark, hrest⟩

end Boundary.IsBehind

/-- The search finds just the place where the first segments of a path end. -/
theorem boundary?_eq_some_iff :
    boundary? segments path = some boundary ↔ boundary.IsBehind segments path := by
  refine ⟨isBehind_of_boundary?_eq_some, fun h => ?_⟩
  have hfound : boundary? segments path ≠ none := by
    rw [Ne, boundary?_eq_none_iff, not_or, Nat.not_lt]
    exact ⟨Nat.pos_iff_ne_zero.mp h.pos, h.le_segmentCount⟩
  obtain ⟨found, hfound⟩ := Option.ne_none_iff_exists'.mp hfound
  rw [hfound, (isBehind_of_boundary?_eq_some hfound).unique h]

/-- **Segment counting and the search for a boundary agree.** There is no boundary exactly if no
segments are asked for or more of them than the path has. Otherwise it is the one place where a
portion of just so many segments ends. -/
theorem boundary?_agrees_with_segmentCount (path : Text) (segments : Nat) :
    (boundary? segments path = none ↔ segments = 0 ∨ segmentCount path < segments) ∧
      ∀ boundary, boundary? segments path = some boundary ↔ boundary.IsBehind segments path :=
  ⟨boundary?_eq_none_iff, fun _ => boundary?_eq_some_iff⟩

/-- Behind a closing bracket without an opening one dots still separate, and the size of the portion
counts bytes. -/
example : (boundary? 2 "é]a.b[c.d].e".toList).map (fun found => (found.portionSize, found.mark)) =
    some (6, .bracket) := by
  decide

end PropertyKeys.KeyPath

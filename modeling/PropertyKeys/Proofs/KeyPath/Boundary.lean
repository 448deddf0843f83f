import PropertyKeys.KeyPath
import PropertyKeys.Proofs.Text.Cuts

/-!
# Boundaries of a path

A boundary cuts the path into its portion, the mark that ends it, and the rest. As long as no
bracket opens, every dot separates, so the search for a boundary passes such a start of a path by
counting its dots. For a path without brackets this gives the boundary in terms of its segments.

## Main results

* `boundaryFrom?_nil_eq_some` / `boundaryFrom?_cons_eq_some`: one step of the search.
* `separatorCount_of_boundaryFrom?_eq_some`: the separators of the portion.
* `boundary?_eq_none_iff`: where there is no boundary.
* `boundaryFrom?_append`: passing a start of a path in which no bracket opens.
* `boundary?_append_dot` / `boundary?_append_bracket` / `boundary?_self`: the boundary at a known
  place.
* `boundary?_of_notMem`: the boundary of a path without brackets.
-/

namespace PropertyKeys.KeyPath

open Text

/-- The text of a mark. -/
def Mark.text : Mark → Text
  | .ending => []
  | .dot => ['.']
  | .bracket => ['[']

/-- The boundary with more text before it. -/
def Boundary.extend (start : Text) (boundary : Boundary) : Boundary :=
  { boundary with portion := start ++ boundary.portion }

theorem depthAfter_zero {c : Char} (hc : c ≠ '[') : depthAfter 0 c = 0 := by
  rw [depthAfter, if_neg hc]
  split <;> rfl

/-- Where no bracket opens, every dot separates. -/
theorem separatorCount_of_notMem {path : Text} (hpath : '[' ∉ path) :
    separatorCount 0 path = path.count '.' := by
  induction path with
  | nil => rfl
  | cons c cs ih =>
    rw [List.mem_cons, not_or] at hpath
    rw [separatorCount, depthAfter_zero (Ne.symm hpath.1), ih hpath.2, List.count_cons]
    by_cases hdot : c = '.'
    · simp [hdot, Nat.add_comm]
    · simp [hdot]

theorem segmentCount_of_notMem {path : Text} (hpath : '[' ∉ path) :
    segmentCount path = path.count '.' + 1 := by
  rw [segmentCount, separatorCount_of_notMem hpath]

/-- At the end of the path the search stops, if no separator is missing. -/
theorem boundaryFrom?_nil_eq_some {missing depth : Nat} {boundary : Boundary}
    (h : boundaryFrom? missing depth [] = some boundary) :
    missing = 0 ∧ boundary = ⟨[], .ending, []⟩ := by
  rw [boundaryFrom?] at h
  split at h
  · next hmissing => exact ⟨hmissing, (Option.some.inj h).symm⟩
  · cases h

/-- The search either stops at the first character, which is then the mark, or puts it to the front
of a portion that it finds behind it. A separator uses up one of those that are missing, and an
opening bracket outside brackets is passed only while some are missing. -/
theorem boundaryFrom?_cons_eq_some {missing depth : Nat} {c : Char} {cs : Text} {boundary : Boundary}
    (h : boundaryFrom? missing depth (c :: cs) = some boundary) :
    (missing = 0 ∧ depth = 0 ∧ boundary.mark ≠ .ending ∧ boundary.portion = [] ∧
        c :: cs = boundary.mark.text ++ boundary.rest) ∨
      ∃ fewer inner, missing = (if c = '.' ∧ depth = 0 then 1 else 0) + fewer ∧
        (c = '[' → depth = 0 → 0 < missing) ∧
        boundaryFrom? fewer (depthAfter depth c) cs = some inner ∧ boundary = inner.push c := by
  rw [boundaryFrom?.eq_def] at h
  dsimp only at h
  split at h
  · next hbracket =>
    obtain ⟨rfl, rfl, rfl⟩ := hbracket
    rw [← Option.some.inj h]
    exact .inl ⟨rfl, rfl, by simp, rfl, rfl⟩
  · next hbracket =>
    have hpassed : c = '[' → depth = 0 → 0 < missing := fun hc hdepth =>
      Nat.pos_of_ne_zero fun hmissing => hbracket ⟨hc, hdepth, hmissing⟩
    split at h
    · next hdot =>
      obtain ⟨rfl, rfl⟩ := hdot
      cases missing with
      | zero =>
        rw [← Option.some.inj h]
        exact .inl ⟨rfl, rfl, by simp, rfl, rfl⟩
      | succ fewer =>
        obtain ⟨inner, hinner, rfl⟩ := Option.map_eq_some_iff.mp h
        exact .inr ⟨fewer, inner, by simp [Nat.add_comm], hpassed, hinner, rfl⟩
    · next hdot =>
      obtain ⟨inner, hinner, rfl⟩ := Option.map_eq_some_iff.mp h
      exact .inr ⟨missing, inner, by simp [hdot], hpassed, hinner, rfl⟩

/-- The portion, its mark and the rest make up the path, and nothing follows its end. -/
theorem eq_of_boundaryFrom?_eq_some {missing depth : Nat} {path : Text} {boundary : Boundary}
    (h : boundaryFrom? missing depth path = some boundary) :
    path = boundary.portion ++ boundary.mark.text ++ boundary.rest ∧
      (boundary.mark = .ending → boundary.rest = []) := by
  induction path generalizing missing depth boundary with
  | nil =>
    obtain ⟨-, rfl⟩ := boundaryFrom?_nil_eq_some h
    exact ⟨rfl, fun _ => rfl⟩
  | cons c cs ih =>
    obtain ⟨-, -, hmark, hportion, hrest⟩ | ⟨fewer, inner, -, -, hinner, rfl⟩ :=
      boundaryFrom?_cons_eq_some h
    · rw [hportion, List.nil_append]
      exact ⟨hrest, fun hending => absurd hending hmark⟩
    · exact ⟨congrArg (List.cons c) (ih hinner).1, (ih hinner).2⟩

/-- A boundary is found by the search for one separator less than the segments that are asked for. -/
theorem exists_of_boundary?_eq_some {segments : Nat} {path : Text} {boundary : Boundary}
    (h : boundary? segments path = some boundary) :
    ∃ missing, segments = missing + 1 ∧ boundaryFrom? missing 0 path = some boundary := by
  cases segments with
  | zero => cases h
  | succ missing => exact ⟨missing, rfl, h⟩

theorem eq_of_boundary?_eq_some {segments : Nat} {path : Text} {boundary : Boundary}
    (h : boundary? segments path = some boundary) :
    path = boundary.portion ++ boundary.mark.text ++ boundary.rest ∧
      (boundary.mark = .ending → boundary.rest = []) := by
  obtain ⟨missing, -, h⟩ := exists_of_boundary?_eq_some h
  exact eq_of_boundaryFrom?_eq_some h

/-- The portion has the separators that were asked for. -/
theorem separatorCount_of_boundaryFrom?_eq_some {missing depth : Nat} {path : Text}
    {boundary : Boundary} (h : boundaryFrom? missing depth path = some boundary) :
    separatorCount depth boundary.portion = missing := by
  induction path generalizing missing depth boundary with
  | nil =>
    obtain ⟨rfl, rfl⟩ := boundaryFrom?_nil_eq_some h
    rfl
  | cons c cs ih =>
    obtain ⟨hmissing, -, -, hportion, -⟩ | ⟨fewer, inner, hmissing, -, hinner, rfl⟩ :=
      boundaryFrom?_cons_eq_some h
    · rw [hportion, hmissing]
      rfl
    · rw [Boundary.push, separatorCount, ih hinner, hmissing]

/-- The search finds nothing exactly if the path has too few separators. -/
theorem boundaryFrom?_eq_none_iff {missing depth : Nat} {path : Text} :
    boundaryFrom? missing depth path = none ↔ separatorCount depth path < missing := by
  induction path generalizing missing depth with
  | nil => simp [boundaryFrom?, separatorCount, Nat.pos_iff_ne_zero]
  | cons c cs ih =>
    rw [boundaryFrom?.eq_def, separatorCount]
    dsimp only
    split
    · next hbracket => simp [hbracket.2.2]
    · split
      · next hdot =>
        obtain ⟨rfl, rfl⟩ := hdot
        have hdepth : depthAfter 0 '.' = 0 := rfl
        cases missing with
        | zero => simp
        | succ fewer =>
          rw [Option.map_eq_none_iff, ih, hdepth]
          omega
      · rw [Option.map_eq_none_iff, ih, Nat.zero_add]

/-- A path has a boundary after as many segments as it has, and after any smaller number of them. -/
theorem boundary?_eq_none_iff {segments : Nat} {path : Text} :
    boundary? segments path = none ↔ segments = 0 ∨ segmentCount path < segments := by
  cases segments with
  | zero => simp [boundary?]
  | succ missing =>
    rw [boundary?, boundaryFrom?_eq_none_iff, segmentCount]
    omega

/-- A portion in which no bracket opens has one dot less than the segments that were asked for. -/
theorem count_portion_of_boundary?_eq_some {segments : Nat} {path : Text} {boundary : Boundary}
    (h : boundary? segments path = some boundary) (hopen : '[' ∉ boundary.portion) :
    boundary.portion.count '.' + 1 = segments := by
  obtain ⟨missing, rfl, h⟩ := exists_of_boundary?_eq_some h
  rw [← separatorCount_of_notMem hopen, separatorCount_of_boundaryFrom?_eq_some h]

/-- A start in which no bracket opens is passed by counting its dots. -/
theorem boundaryFrom?_append {start : Text} (hstart : '[' ∉ start) (missing : Nat) (rest : Text) :
    boundaryFrom? (start.count '.' + missing) 0 (start ++ rest) =
      (boundaryFrom? missing 0 rest).map (Boundary.extend start) := by
  -- a dot of the start uses up one missing separator, any other character none
  induction start with
  | nil =>
    rw [List.count_nil, Nat.zero_add, List.nil_append]
    cases boundaryFrom? missing 0 rest <;> rfl
  | cons c cs ih =>
    rw [List.mem_cons, not_or] at hstart
    have hc : ¬(c = '[' ∧ 0 = 0 ∧ (c :: cs).count '.' + missing = 0) :=
      fun h => hstart.1 h.1.symm
    rw [List.cons_append, boundaryFrom?.eq_def]
    dsimp only
    rw [if_neg hc]
    by_cases hdot : c = '.'
    · have hcount : (c :: cs).count '.' + missing = cs.count '.' + missing + 1 := by
        rw [hdot, List.count_cons_self]
        omega
      rw [if_pos ⟨hdot, rfl⟩, hcount]
      simp only [ih hstart.2, Option.map_map]
      rfl
    · have hcount : (c :: cs).count '.' = cs.count '.' := List.count_cons_of_ne hdot
      rw [if_neg (fun h => hdot h.1), hcount, depthAfter_zero (Ne.symm hstart.1), ih hstart.2,
        Option.map_map]
      rfl

theorem boundary?_append_dot {start : Text} (hstart : '[' ∉ start) (rest : Text) :
    boundary? (start.count '.' + 1) (start ++ '.' :: rest) = some ⟨start, .dot, rest⟩ := by
  have h := boundaryFrom?_append hstart 0 ('.' :: rest)
  simpa [boundary?, boundaryFrom?, Boundary.extend] using h

theorem boundary?_append_bracket {start : Text} (hstart : '[' ∉ start) (rest : Text) :
    boundary? (start.count '.' + 1) (start ++ '[' :: rest) = some ⟨start, .bracket, rest⟩ := by
  have h := boundaryFrom?_append hstart 0 ('[' :: rest)
  simpa [boundary?, boundaryFrom?, Boundary.extend] using h

theorem boundary?_self {path : Text} (hpath : '[' ∉ path) :
    boundary? (path.count '.' + 1) path = some ⟨path, .ending, []⟩ := by
  have h := boundaryFrom?_append hpath 0 []
  simpa [boundary?, boundaryFrom?, Boundary.extend] using h

/-- A path in which no bracket opens has no boundary after more segments than it has. -/
theorem boundary?_eq_none {path : Text} (hpath : '[' ∉ path) {segments : Nat}
    (hsegments : path.count '.' + 1 < segments) : boundary? segments path = none := by
  rw [boundary?_eq_none_iff, segmentCount_of_notMem hpath]
  exact .inr hsegments

theorem splitOn_intercalate_take (path : Text) {segments : Nat} (hpos : 0 < segments) :
    (['.'].intercalate ((path.splitOn '.').take segments)).splitOn '.' =
      (path.splitOn '.').take segments := by
  apply List.splitOn_intercalate
  · intro piece hpiece
    exact notMem_of_mem_splitOn (List.mem_of_mem_take hpiece)
  · rw [Ne, List.take_eq_nil_iff, not_or]
    exact ⟨Nat.pos_iff_ne_zero.mp hpos, List.splitOn_ne_nil '.' path⟩

/-- The first segments of a path in which no bracket opens end at a dot or with the path, and they
are the portion of the boundary. -/
theorem boundary?_of_notMem {path : Text} (hpath : '[' ∉ path) {segments : Nat}
    (hpos : 0 < segments) (hsegments : segments ≤ (path.splitOn '.').length) :
    ∃ mark rest, mark ≠ .bracket ∧ boundary? segments path =
      some ⟨['.'].intercalate ((path.splitOn '.').take segments), mark, rest⟩ := by
  let portion := ['.'].intercalate ((path.splitOn '.').take segments)
  have hsplit : portion.splitOn '.' = (path.splitOn '.').take segments :=
    splitOn_intercalate_take path hpos
  have hcount : portion.count '.' + 1 = segments := by
    rw [← length_splitOn, hsplit, List.length_take]
    omega
  have hjoin : ['.'].intercalate (path.splitOn '.') = path := List.intercalate_splitOn '.'
  by_cases hrest : (path.splitOn '.').drop segments = []
  · -- all segments are asked for, so the portion is the whole path
    have hwhole : portion = path := by
      have htakeAll := List.take_append_drop segments (path.splitOn '.')
      rw [hrest, List.append_nil] at htakeAll
      change ['.'].intercalate ((path.splitOn '.').take segments) = path
      rw [htakeAll, hjoin]
    refine ⟨.ending, [], by decide, ?_⟩
    change boundary? segments path = some ⟨portion, .ending, []⟩
    rw [← hcount, hwhole, boundary?_self hpath]
  · -- what is left over is joined in the same way and stands after a dot
    let rest := ['.'].intercalate ((path.splitOn '.').drop segments)
    have htake : (path.splitOn '.').take segments ≠ [] := by
      rw [← hsplit]
      exact List.splitOn_ne_nil '.' portion
    have hcut : path = portion ++ '.' :: rest := by
      have happend := intercalate_append ['.'] htake hrest
      rw [List.take_append_drop, hjoin] at happend
      simpa using happend
    have hportion : '[' ∉ portion := by
      intro hmem
      exact hpath (hcut ▸ List.mem_append_left _ hmem)
    refine ⟨.dot, rest, by decide, ?_⟩
    change boundary? segments path = some ⟨portion, .dot, rest⟩
    rw [← hcount]
    conv => lhs; rw [hcut]
    exact boundary?_append_dot hportion rest

end PropertyKeys.KeyPath

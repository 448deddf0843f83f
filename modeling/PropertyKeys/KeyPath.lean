import PropertyKeys.Text.Basic

/-!
# Segments of a path

Dots separate the segments of a path, except for those inside brackets: `app.map[a.b].c` has the
segments `app`, `map[a.b]` and `c`. Brackets may be nested or unbalanced; a closing bracket without
an opening one changes nothing.

## Main definitions

* `KeyPath.segmentCount`: the number of segments of a path.
* `KeyPath.boundary?`: where the first segments of a path end.
-/

namespace PropertyKeys.KeyPath

/-- The bracket depth after a character. -/
def depthAfter (depth : Nat) (c : Char) : Nat :=
  if c = '[' then depth + 1 else if c = ']' then depth - 1 else depth

/-- The number of dots outside brackets, where so many brackets are open at the start. -/
def separatorCount (depth : Nat) : Text → Nat
  | [] => 0
  | c :: cs => (if c = '.' ∧ depth = 0 then 1 else 0) + separatorCount (depthAfter depth c) cs

/-- The number of segments of a path. -/
def segmentCount (path : Text) : Nat :=
  separatorCount 0 path + 1

/-- What ends the first segments of a path. -/
inductive Mark where
  /-- The path ends with them. -/
  | ending
  /-- A dot follows. -/
  | dot
  /-- An opening bracket follows. -/
  | bracket
  deriving DecidableEq, Repr

/-- The first segments of a path: their text, what ends them, and what follows that mark. -/
structure Boundary where
  portion : Text
  mark : Mark
  rest : Text
  deriving DecidableEq, Repr

/-- The boundary with one more character before it. -/
def Boundary.push (c : Char) (boundary : Boundary) : Boundary :=
  { boundary with portion := c :: boundary.portion }

/-- The boundary after `missing` more separators, where so many brackets are open at the start. -/
def boundaryFrom? (missing depth : Nat) : Text → Option Boundary
  | [] => if missing = 0 then some ⟨[], .ending, []⟩ else none
  | c :: cs =>
    if c = '[' ∧ depth = 0 ∧ missing = 0 then some ⟨[], .bracket, cs⟩
    else if c = '.' ∧ depth = 0 then
      match missing with
      | 0 => some ⟨[], .dot, cs⟩
      | missing + 1 => (boundaryFrom? missing depth cs).map (Boundary.push c)
    else (boundaryFrom? missing (depthAfter depth c) cs).map (Boundary.push c)

/-- Where the first `segments` segments of a path end, or nothing if it has fewer or if none are
asked for. An opening bracket in the last of them ends it. -/
def boundary? : (segments : Nat) → Text → Option Boundary
  | 0, _ => none
  | missing + 1, path => boundaryFrom? missing 0 path

end PropertyKeys.KeyPath

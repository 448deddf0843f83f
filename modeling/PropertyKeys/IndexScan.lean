import PropertyKeys.Key.Basic
import PropertyKeys.Text.Range

/-!
# Scanning for indices

An editor marks the indices of a raw key and what is wrong with them. The scan goes through the
text once, from left to right, and reports every group in brackets. A group starts at an opening
bracket outside any group and ends at the next closing bracket, so groups are not nested.

## Main definitions

* `IndexEvent`: what can be reported.
* `IndexScan.events`: the reports on a raw key.
-/

namespace PropertyKeys

/-- A report of the scan. Places are byte offsets in the scanned text. -/
inductive IndexEvent where
  /-- A group opens here. -/
  | opening (place : Nat)
  /-- The index between the brackets. -/
  | index (range : TextRange)
  /-- The group that opens here is never closed. -/
  | unclosed (place : Nat)
  /-- The brackets are empty, and an index is missing here. -/
  | missing (place : Nat)
  /-- The index of a list is not a sequence of digits. -/
  | notInteger (range : TextRange)
  deriving DecidableEq, Repr

namespace IndexScan

/-- Where the scan stands between two characters. -/
inductive State where
  /-- Outside any group. -/
  | outside
  /-- In the group that opened at `place`, with digits only so far or not. -/
  | inside (place : Nat) (digits : Bool)
  deriving DecidableEq, Repr

/-- The reports on a group that has opened at `place` and closes at `close`. -/
def groupEvents (integers digits : Bool) (place close : Nat) : List IndexEvent :=
  let range : TextRange := ⟨place + 1, close⟩
  if range.isEmpty then [.missing range.start]
  else .index range :: (if integers && !digits then [.notInteger range] else [])

/-- The reports on the rest of a text that starts at `offset`. `integers` tells whether an index has
to be a sequence of digits. -/
def eventsFrom (integers : Bool) (offset : Nat) : State → Text → List IndexEvent
  | .outside, [] => []
  | .inside place _, [] => [.unclosed place]
  | .outside, c :: cs =>
    if c = '[' then .opening offset :: eventsFrom integers (offset + 1) (.inside offset true) cs
    else eventsFrom integers (offset + c.utf8Size) .outside cs
  | .inside place digits, c :: cs =>
    if c = ']' then
      groupEvents integers digits place offset ++ eventsFrom integers (offset + 1) .outside cs
    else eventsFrom integers (offset + c.utf8Size) (.inside place (digits && c.isDigit)) cs

/-- The reports on a raw key that is meant for a declared key. An index has to be a sequence of
digits if the values of the key are reached by an index. -/
def events (key : Key) (raw : Text) : List IndexEvent :=
  eventsFrom (key.access == .indexed) 0 .outside raw

end IndexScan

end PropertyKeys

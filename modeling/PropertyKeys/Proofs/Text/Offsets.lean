import PropertyKeys.Text.Range

/-!
# Offsets in a text

An offset counts the bytes that precede a place in a text. It lies between two characters, or at an
end of the text, if some start of the text has just as many bytes. A range between two such offsets
cuts no character, so its slice is the part of the text between them.

## Main definitions

* `Text.HasRestAt`: what a text goes on with at an offset.

## Main results

* `TextRange.slice_eq_of_hasRestAt`: the slice of a range that cuts no character.
-/

namespace PropertyKeys.Text

/-- The text goes on with `rest` at a byte offset, which therefore cuts no character. -/
def HasRestAt (text : Text) (offset : Nat) (rest : Text) : Prop :=
  ∃ start, text = start ++ rest ∧ byteSize start = offset

@[simp]
theorem byteSize_nil : byteSize [] = 0 := rfl

@[simp]
theorem byteSize_cons (c : Char) (cs : Text) : byteSize (c :: cs) = c.utf8Size + byteSize cs := rfl

@[simp]
theorem byteSize_append (a b : Text) : byteSize (a ++ b) = byteSize a + byteSize b := by
  induction a with
  | nil => simp
  | cons c cs ih => rw [List.cons_append, byteSize_cons, byteSize_cons, ih, Nat.add_assoc]

@[simp]
theorem byteSize_eq_zero_iff {text : Text} : byteSize text = 0 ↔ text = [] := by
  cases text with
  | nil => simp
  | cons c cs =>
    have hpos := c.utf8Size_pos
    simp only [byteSize_cons, reduceCtorEq, iff_false]
    omega

theorem dropBytes_append (start rest : Text) :
    dropBytes (byteSize start) (start ++ rest) = rest := by
  induction start with
  | nil => cases rest <;> rfl
  | cons c cs ih =>
    have hpos := c.utf8Size_pos
    rw [List.cons_append, byteSize_cons, dropBytes, if_neg (by omega), Nat.add_sub_cancel_left, ih]

theorem takeBytes_zero (text : Text) : takeBytes 0 text = [] := by
  cases text with
  | nil => rfl
  | cons c cs =>
    have hpos := c.utf8Size_pos
    rw [takeBytes, if_neg (by omega)]

theorem takeBytes_append (part rest : Text) : takeBytes (byteSize part) (part ++ rest) = part := by
  induction part with
  | nil => exact takeBytes_zero rest
  | cons c cs ih =>
    rw [List.cons_append, byteSize_cons, takeBytes, if_pos (by omega), Nat.add_sub_cancel_left, ih]

theorem hasRestAt_append (start rest : Text) : HasRestAt (start ++ rest) (byteSize start) rest :=
  ⟨start, rfl, rfl⟩

end PropertyKeys.Text

namespace PropertyKeys.TextRange

open Text

/-- The slice of a range that starts and stops between characters is what stands there. -/
theorem slice_eq_of_hasRestAt {range : TextRange} {text part rest : Text}
    (hstart : HasRestAt text range.start (part ++ rest))
    (hstop : range.stop = range.start + byteSize part) : range.slice text = part := by
  obtain ⟨start, rfl, hsize⟩ := hstart
  rw [slice, size, hstop, Nat.add_sub_cancel_left, ← hsize, dropBytes_append, takeBytes_append]

end PropertyKeys.TextRange

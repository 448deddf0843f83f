import PropertyKeys.Text.Basic

/-!
# Readings

A reader takes something off the front of a text. Its result is what was read together with the
rest of the text, or the reason why nothing could be read.

## Main definitions

* `Reading`: the result of a reader.
* `Reading.andThen`: reading on after what was read.
-/

namespace PropertyKeys

/-- What a reader returns: a value and the rest of the text, or a refusal. -/
abbrev Reading (ε α : Type) := Except ε (α × Text)

namespace Reading

variable {ε α β : Type}

/-- Reads on where an earlier reading ended. A refusal stays. -/
def andThen : Reading ε α → (α → Text → Reading ε β) → Reading ε β
  | .error refusal, _ => .error refusal
  | .ok (value, rest), next => next value rest

@[simp]
theorem andThen_error (refusal : ε) (next : α → Text → Reading ε β) :
    andThen (.error refusal) next = .error refusal := rfl

@[simp]
theorem andThen_ok (value : α) (rest : Text) (next : α → Text → Reading ε β) :
    andThen (.ok (value, rest)) next = next value rest := rfl

/-- Reading on succeeds exactly if both parts do. -/
theorem andThen_eq_ok_iff {first : Reading ε α} {next : α → Text → Reading ε β}
    {result : β × Text} :
    first.andThen next = .ok result ↔
      ∃ value rest, first = .ok (value, rest) ∧ next value rest = .ok result := by
  rcases first with refusal | ⟨value, rest⟩
  · simp
  · simp [and_assoc]

/-- Reading on fails exactly if one of the parts does, the second one on what the first one left. -/
theorem andThen_eq_error_iff {first : Reading ε α} {next : α → Text → Reading ε β} {refusal : ε} :
    first.andThen next = .error refusal ↔ first = .error refusal ∨
      ∃ value rest, first = .ok (value, rest) ∧ next value rest = .error refusal := by
  rcases first with other | ⟨value, rest⟩
  · simp
  · simp [and_assoc]

end Reading

end PropertyKeys

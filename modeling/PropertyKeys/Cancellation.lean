import PropertyKeys.KnownTypes

/-!
# Cancellation

Loading can be cancelled from outside. A token is raised to ask for it, and the work stops at the
next place where it looks at the token. The host may also raise the token while it answers a lookup
of a type; the lookup itself is still answered.

## Main definitions

* `CancelToken`: whether cancellation was asked for, and at which lookup it will be.
* `CancelToken.afterLookups`: the token after some lookups.
* `CancelToken.RaisesIn`: whether a token will be raised at a lookup to come.
* `Cancelled`: the outcome of work that was given up.
-/

namespace PropertyKeys

/-- The outcome of work that was given up because its token was raised. -/
inductive Cancelled where
  | cancelled
  deriving DecidableEq, Repr

/-- A token that asks for cancellation once it is raised. -/
@[ext]
structure CancelToken where
  /-- Whether cancellation is asked for. -/
  raised : Bool := false
  /-- What was looked up so far, in order. -/
  lookups : List Lookup := []
  /-- The lookup that raises the token, if there is one: its kind, and its number among the lookups
  of this kind, counted from one. -/
  raiseAt? : Option (Lookup × Nat) := none
  deriving DecidableEq, Repr

namespace CancelToken

/-- The token with cancellation asked for. -/
def raise (token : CancelToken) : CancelToken :=
  { token with raised := true }

/-- A new token in place of an old one. The count of lookups goes on. -/
def renew (token : CancelToken) : CancelToken :=
  { token with raised := false }

/-- How many lookups of a kind were made. -/
def count (token : CancelToken) (kind : Lookup) : Nat :=
  token.lookups.count kind

/-- The token after some more lookups. -/
def afterLookups (token : CancelToken) (made : List Lookup) : CancelToken :=
  { token with
    raised := token.raised || token.raiseAt?.any fun (kind, number) =>
      token.count kind < number && number ≤ token.count kind + made.count kind
    lookups := token.lookups ++ made }

/-- The token is not raised, and it will be at a lookup of this kind: the one with this number among
those to come. -/
def RaisesIn (token : CancelToken) (kind : Lookup) (number : Nat) : Prop :=
  token.raised = false ∧ token.raiseAt? = some (kind, token.count kind + number)

@[simp]
theorem count_afterLookups (token : CancelToken) (made : List Lookup) (kind : Lookup) :
    (token.afterLookups made).count kind = token.count kind + made.count kind :=
  List.count_append

/-- A token is raised after some lookups if it was raised before them, or if the lookup that raises
it is among them. -/
theorem raised_afterLookups_iff {token : CancelToken} {made : List Lookup} :
    (token.afterLookups made).raised = true ↔
      token.raised = true ∨ ∃ kind number, token.raiseAt? = some (kind, number) ∧
        token.count kind < number ∧ number ≤ token.count kind + made.count kind := by
  rw [afterLookups, Bool.or_eq_true, Option.any_eq_true]
  simp only [Prod.exists, Bool.and_eq_true, decide_eq_true_eq]

@[simp]
theorem afterLookups_nil (token : CancelToken) : token.afterLookups [] = token := by
  have hsame : (token.afterLookups []).raised = token.raised := by
    rw [Bool.eq_iff_iff, raised_afterLookups_iff]
    refine or_iff_left ?_
    rintro ⟨kind, number, -, hlt, hle⟩
    exact absurd hlt (Nat.not_lt.mpr hle)
  exact CancelToken.ext hsame (List.append_nil _) rfl

/-- Some lookups and then some more are the lookups of both. -/
theorem afterLookups_append (token : CancelToken) (first later : List Lookup) :
    token.afterLookups (first ++ later) = (token.afterLookups first).afterLookups later := by
  have hsame : (token.afterLookups (first ++ later)).raised =
      ((token.afterLookups first).afterLookups later).raised := by
    rw [Bool.eq_iff_iff, raised_afterLookups_iff, raised_afterLookups_iff,
      raised_afterLookups_iff, or_assoc]
    refine or_congr_right ?_
    simp only [count_afterLookups, List.count_append]
    constructor
    · rintro ⟨kind, number, hat, hlt, hle⟩
      obtain hfirst | hlater := Nat.lt_or_ge (token.count kind + first.count kind) number
      · exact .inr ⟨kind, number, hat, hfirst, by omega⟩
      · exact .inl ⟨kind, number, hat, hlt, hlater⟩
    · rintro (⟨kind, number, hat, hlt, hle⟩ | ⟨kind, number, hat, hlt, hle⟩)
      · exact ⟨kind, number, hat, hlt, by omega⟩
      · exact ⟨kind, number, hat, by omega, by omega⟩
  exact CancelToken.ext hsame (List.append_assoc ..).symm rfl

/-- The token is raised by lookups if the one that raises it is among them. -/
theorem RaisesIn.raised_afterLookups_iff {token : CancelToken} {kind : Lookup} {number : Nat}
    (h : token.RaisesIn kind number) (hpos : 0 < number) {made : List Lookup} :
    (token.afterLookups made).raised = true ↔ number ≤ made.count kind := by
  rw [CancelToken.raised_afterLookups_iff, h.1, h.2]
  constructor
  · rintro (hraised | ⟨_, _, hat, -, hle⟩)
    · cases hraised
    · cases hat
      omega
  · intro hle
    exact .inr ⟨kind, _, rfl, by omega, by omega⟩

end CancelToken

end PropertyKeys

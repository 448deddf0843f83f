import PropertyKeys.IndexScan
import PropertyKeys.Proofs.KeyParts.Shape

/-!
# Scanned groups and cut raw keys

The scan for indices and the search for a boundary look at brackets in different ways: groups of the
scan are not nested, while the search counts how many brackets are open. They agree where it matters.
Within a group of the scan some bracket is open, so a bracket that ends a portion opens a group, and
if the scan finds nothing wrong then an index can be read there.

## Main results

* `IndexScan.isSome_closeBracket?_of_boundary`: the bracket at a boundary of a raw key in which the
  scan finds nothing wrong holds an index.
-/

namespace PropertyKeys

/-- Whether a report says that a group is not closed or that its index is missing. -/
def IndexEvent.isFault : IndexEvent → Bool
  | .unclosed _ | .missing _ => true
  | .opening _ | .index _ | .notInteger _ => false

end PropertyKeys

namespace PropertyKeys.IndexScan

open Text KeyPath KeyParts

/-- Every group that is reported is closed and holds an index. -/
def Faultless (events : List IndexEvent) : Prop :=
  ∀ event ∈ events, event.isFault = false

instance (events : List IndexEvent) : Decidable (Faultless events) :=
  inferInstanceAs (Decidable (∀ event ∈ events, event.isFault = false))

theorem Faultless.of_append (events : List IndexEvent) {more : List IndexEvent}
    (h : Faultless (events ++ more)) : Faultless more :=
  fun event hevent => h event (List.mem_append_right events hevent)

theorem close_mem_of_faultless {integers digits : Bool} {place offset : Nat} {text : Text}
    (h : Faultless (eventsFrom integers offset (.inside place digits) text)) : ']' ∈ text := by
  induction text generalizing offset digits with
  | nil => exact absurd (h _ List.mem_cons_self) (by simp [IndexEvent.isFault])
  | cons c cs ih =>
    by_cases hclose : c = ']'
    · exact hclose ▸ List.mem_cons_self
    · rw [eventsFrom, if_neg hclose] at h
      exact List.mem_cons_of_mem _ (ih h)

theorem head?_ne_close_of_faultless {integers digits : Bool} {place : Nat} {text : Text}
    (h : Faultless (eventsFrom integers (place + 1) (.inside place digits) text)) :
    text.head? ≠ some ']' := by
  cases text with
  | nil => simp
  | cons c cs =>
    intro hhead
    rw [List.head?_cons, Option.some.injEq] at hhead
    rw [eventsFrom, if_pos hhead] at h
    have hmissing := h (.missing (place + 1)) (by simp [groupEvents, TextRange.isEmpty])
    exact absurd hmissing (by simp [IndexEvent.isFault])

/-- One character of the scan. Where no bracket is open in the search for a boundary, the scan is
outside any group, and this is so again after the character. -/
theorem exists_faultless_tail {integers : Bool} {offset depth : Nat} {state : State} {c : Char}
    {cs : Text} (hstate : depth = 0 → state = .outside)
    (h : Faultless (eventsFrom integers offset state (c :: cs))) :
    ∃ offset' state', (depthAfter depth c = 0 → state' = .outside) ∧
      Faultless (eventsFrom integers offset' state' cs) := by
  cases state with
  | outside =>
    by_cases hopen : c = '['
    · rw [eventsFrom, if_pos hopen] at h
      refine ⟨offset + 1, .inside offset true, ?_, Faultless.of_append [_] h⟩
      intro hdepth
      rw [depthAfter, if_pos hopen] at hdepth
      omega
    · rw [eventsFrom, if_neg hopen] at h
      exact ⟨_, .outside, fun _ => rfl, h⟩
  | inside place digits =>
    by_cases hclose : c = ']'
    · rw [eventsFrom, if_pos hclose] at h
      exact ⟨_, .outside, fun _ => rfl, h.of_append _⟩
    · rw [eventsFrom, if_neg hclose] at h
      refine ⟨_, .inside place (digits && c.isDigit), ?_, h⟩
      intro hdepth
      have hzero : depth = 0 := by
        rw [depthAfter, if_neg hclose] at hdepth
        split at hdepth <;> omega
      exact absurd (hstate hzero) (by simp)

/-- The bracket at a boundary holds an index, given where the scan stands before the text. -/
theorem isSome_closeBracket?_of_boundaryFrom {integers : Bool} {offset missing depth : Nat}
    {state : State} {text portion rest : Text} (hstate : depth = 0 → state = .outside)
    (h : Faultless (eventsFrom integers offset state text))
    (hboundary : boundaryFrom? missing depth text = some ⟨portion, .bracket, rest⟩) :
    (closeBracket? rest).isSome = true := by
  -- the induction carries along that the scan is outside any group where no bracket is open
  induction text generalizing offset state missing depth portion with
  | nil =>
    have hending := congrArg Boundary.mark (boundaryFrom?_nil_eq_some hboundary).2
    simp at hending
  | cons c cs ih =>
    obtain ⟨-, hdepth, -, -, hgoes⟩ | ⟨fewer, inner, -, -, hinner, hpush⟩ :=
      boundaryFrom?_cons_eq_some hboundary
    · -- the boundary is here, so the scan opens a group with the same rest
      obtain ⟨rfl, rfl⟩ := List.cons.inj hgoes
      rw [hstate hdepth, eventsFrom, if_pos rfl] at h
      have hgroup := Faultless.of_append [_] h
      rw [isSome_closeBracket?_iff]
      exact ⟨close_mem_of_faultless hgroup, head?_ne_close_of_faultless hgroup⟩
    · obtain ⟨offset', state', hstate', htail⟩ := exists_faultless_tail hstate h
      obtain ⟨start, mark, after⟩ := inner
      obtain ⟨-, rfl, rfl⟩ := Boundary.mk.inj hpush
      exact ih hstate' htail hinner

/-- If the scan finds nothing wrong in a raw key, the bracket at a boundary holds an index. -/
theorem isSome_closeBracket?_of_boundary {key : Key} {raw : Text} {segments : Nat}
    {boundary : Boundary} (h : Faultless (events key raw))
    (hboundary : boundary? segments raw = some boundary) (hmark : boundary.mark = .bracket) :
    (closeBracket? boundary.rest).isSome = true := by
  obtain ⟨portion, mark, rest⟩ := boundary
  subst hmark
  obtain ⟨missing, -, hboundary⟩ := exists_of_boundary?_eq_some hboundary
  exact isSome_closeBracket?_of_boundaryFrom (fun _ => rfl) h hboundary

end PropertyKeys.IndexScan

import PropertyKeys.IndexScan
import PropertyKeys.Proofs.Text.Cuts
import PropertyKeys.Proofs.Text.Offsets

/-!
# What the scan for indices reports

Every text is cut at its groups of brackets in one way only. A group opens at the first opening
bracket that is left and closes at the next closing one, whatever stands between them. The scan goes
over the text character by character and reports these groups in order, each with the byte offsets
of its opening bracket and of its index, and nothing else.

## Main definitions

* `Bracketing`: a text cut at its groups.
* `Bracketing.reports`: the reports on a text that is cut at its groups.
* `IndexEvent.StandsIn`: the offsets of a report are places of a text that hold what it says.

## Main results

* `exists_bracketing` / `Bracketing.text_injective`: every text is cut in one way.
* `eventsFrom_text`: the scan reports the groups.
* `events_eq_reports`: all of this for the reports on a raw key.
-/

namespace PropertyKeys

open Text

/-- The offsets of a report lie between characters, and what it says of these places is so. -/
def IndexEvent.StandsIn (text : Text) : IndexEvent → Prop
  | .opening place => ∃ rest, HasRestAt text place ('[' :: rest)
  | .unclosed place => ∃ rest, HasRestAt text place ('[' :: rest) ∧ ']' ∉ rest
  | .missing place => ∃ rest, HasRestAt text place (']' :: rest)
  | .index range | .notInteger range =>
    ∃ index rest, range.slice text = index ∧ index ≠ [] ∧ ']' ∉ index ∧
      HasRestAt text range.start (index ++ ']' :: rest) ∧ HasRestAt text range.stop (']' :: rest)

namespace IndexScan

/-- A text cut at its groups of brackets. What precedes a group has no opening bracket, and the
index in a group has no closing one. -/
inductive Bracketing where
  /-- No group is left. -/
  | plain (text : Text) (hplain : '[' ∉ text)
  /-- The last group is not closed. -/
  | unclosed (lead rest : Text) (hlead : '[' ∉ lead) (hrest : ']' ∉ rest)
  /-- A group, and the text after it. -/
  | group (lead index : Text) (hlead : '[' ∉ lead) (hindex : ']' ∉ index) (next : Bracketing)

/-- The reports on the index of a group that opens at `place` and is closed. -/
def indexReports (integers : Bool) (place : Nat) (index : Text) : List IndexEvent :=
  let range : TextRange := ⟨place + 1, place + 1 + byteSize index⟩
  if index = [] then [.missing (place + 1)]
  else if integers && !index.all Char.isDigit then [.index range, .notInteger range]
  else [.index range]

namespace Bracketing

/-- The text that is cut. -/
def text : Bracketing → Text
  | plain text _ => text
  | unclosed lead rest _ _ => lead ++ '[' :: rest
  | group lead index _ _ next => lead ++ '[' :: (index ++ ']' :: next.text)

/-- The reports on the groups, where the text starts at `offset`. -/
def reports (integers : Bool) (offset : Nat) : Bracketing → List IndexEvent
  | plain _ _ => []
  | unclosed lead _ _ _ =>
    let place := offset + byteSize lead
    [.opening place, .unclosed place]
  | group lead index _ _ next =>
    let place := offset + byteSize lead
    .opening place :: (indexReports integers place index ++
      next.reports integers (place + byteSize index + 2))

/-! ## Every text is cut in one way -/

theorem eq_plain {bracketing : Bracketing} {start : Text} (hstart : '[' ∉ start)
    (h : bracketing.text = start) : bracketing = plain start hstart := by
  subst h
  cases bracketing with
  | plain => rfl
  | unclosed => exact absurd (by simp [text]) hstart
  | group => exact absurd (by simp [text]) hstart

theorem eq_unclosed {bracketing : Bracketing} {lead rest : Text} (hlead : '[' ∉ lead)
    (hrest : ']' ∉ rest) (h : bracketing.text = lead ++ '[' :: rest) :
    bracketing = unclosed lead rest hlead hrest := by
  cases bracketing with
  | plain start hstart =>
    obtain rfl : start = _ := h
    exact absurd (by simp) hstart
  | unclosed other more hother =>
    obtain ⟨rfl, rfl⟩ := append_cons_inj hother hlead h
    rfl
  | group other index hother =>
    obtain ⟨-, rfl⟩ := append_cons_inj hother hlead h
    exact absurd (by simp) hrest

theorem exists_eq_group {bracketing : Bracketing} {lead index rest : Text} (hlead : '[' ∉ lead)
    (hindex : ']' ∉ index) (h : bracketing.text = lead ++ '[' :: (index ++ ']' :: rest)) :
    ∃ next, bracketing = group lead index hlead hindex next ∧ next.text = rest := by
  cases bracketing with
  | plain start hstart =>
    obtain rfl : start = _ := h
    exact absurd (by simp) hstart
  | unclosed other more hother hmore =>
    obtain ⟨-, rfl⟩ := append_cons_inj hother hlead h
    exact absurd (by simp) hmore
  | group other inner hother hinner next =>
    obtain ⟨rfl, hafter⟩ := append_cons_inj hother hlead h
    obtain ⟨rfl, rfl⟩ := append_cons_inj hinner hindex hafter
    exact ⟨next, rfl, rfl⟩

/-- A text is cut at its groups in one way only. -/
theorem text_injective : Function.Injective text := by
  intro bracketing other heq
  induction bracketing generalizing other with
  | plain start hstart => exact (eq_plain hstart heq.symm).symm
  | unclosed lead rest hlead hrest => exact (eq_unclosed hlead hrest heq.symm).symm
  | group lead index hlead hindex next ih =>
    obtain ⟨after, rfl, hafter⟩ := exists_eq_group hlead hindex heq.symm
    rw [ih hafter.symm]

end Bracketing

/-- Every text is cut at its groups. -/
theorem exists_bracketing (raw : Text) : ∃ bracketing : Bracketing, bracketing.text = raw := by
  -- what follows a group is shorter than the text
  induction hlength : raw.length using Nat.strong_induction_on generalizing raw with
  | _ length ih =>
    by_cases hopen : '[' ∈ raw
    · obtain ⟨lead, rest, rfl, hlead⟩ := List.eq_append_cons_of_mem hopen
      by_cases hclose : ']' ∈ rest
      · obtain ⟨index, more, rfl, hindex⟩ := List.eq_append_cons_of_mem hclose
        have hshorter : more.length < length := by
          simp only [List.length_append, List.length_cons] at hlength
          omega
        obtain ⟨next, rfl⟩ := ih more.length hshorter more rfl
        exact ⟨.group lead index hlead hindex next, rfl⟩
      · exact ⟨.unclosed lead rest hlead hclose, rfl⟩
    · exact ⟨.plain raw hopen, rfl⟩

/-! ## The scan reports the groups -/

/-- Outside any group the scan passes what has no opening bracket. -/
theorem eventsFrom_outside_append {lead : Text} (hlead : '[' ∉ lead) (integers : Bool)
    (offset : Nat) (rest : Text) :
    eventsFrom integers offset .outside (lead ++ rest) =
      eventsFrom integers (offset + byteSize lead) .outside rest := by
  induction lead generalizing offset with
  | nil => rfl
  | cons c cs ih =>
    rw [List.mem_cons, not_or] at hlead
    rw [List.cons_append, eventsFrom, if_neg (Ne.symm hlead.1), ih hlead.2, byteSize_cons,
      Nat.add_assoc]

/-- In a group the scan passes what has no closing bracket, and sees whether it is all digits. -/
theorem eventsFrom_inside_append {index : Text} (hindex : ']' ∉ index) (integers : Bool)
    (offset place : Nat) (digits : Bool) (rest : Text) :
    eventsFrom integers offset (.inside place digits) (index ++ rest) =
      eventsFrom integers (offset + byteSize index)
        (.inside place (digits && index.all Char.isDigit)) rest := by
  induction index generalizing offset digits with
  | nil => simp
  | cons c cs ih =>
    rw [List.mem_cons, not_or] at hindex
    rw [List.cons_append, eventsFrom, if_neg (Ne.symm hindex.1), ih hindex.2, byteSize_cons,
      Nat.add_assoc, List.all_cons, Bool.and_assoc]

theorem eventsFrom_outside_of_notMem {text : Text} (htext : '[' ∉ text) (integers : Bool)
    (offset : Nat) : eventsFrom integers offset .outside text = [] := by
  have h := eventsFrom_outside_append htext integers offset []
  rwa [List.append_nil, eventsFrom] at h

theorem eventsFrom_inside_of_notMem {text : Text} (htext : ']' ∉ text) (integers : Bool)
    (offset place : Nat) (digits : Bool) :
    eventsFrom integers offset (.inside place digits) text = [.unclosed place] := by
  have h := eventsFrom_inside_append htext integers offset place digits []
  rwa [List.append_nil, eventsFrom] at h

theorem groupEvents_eq_indexReports (integers : Bool) (place : Nat) (index : Text) :
    groupEvents integers (index.all Char.isDigit) place (place + 1 + byteSize index) =
      indexReports integers place index := by
  rw [groupEvents, indexReports]
  by_cases hindex : index = []
  · subst hindex
    simp [TextRange.isEmpty]
  · have hsize : byteSize index ≠ 0 := fun hzero => hindex (byteSize_eq_zero_iff.mp hzero)
    rw [if_neg hindex, TextRange.isEmpty, if_neg (by simp [hsize])]
    split <;> rfl

/-- The scan of a text that is cut at its groups reports them. -/
theorem eventsFrom_text (integers : Bool) (offset : Nat) (bracketing : Bracketing) :
    eventsFrom integers offset .outside bracketing.text = bracketing.reports integers offset := by
  induction bracketing generalizing offset with
  | plain start hstart => exact eventsFrom_outside_of_notMem hstart integers offset
  | unclosed lead rest hlead hrest =>
    rw [Bracketing.text, eventsFrom_outside_append hlead, eventsFrom, if_pos rfl,
      eventsFrom_inside_of_notMem hrest]
    rfl
  | group lead index hlead hindex next ih =>
    rw [Bracketing.text, eventsFrom_outside_append hlead, eventsFrom, if_pos rfl,
      eventsFrom_inside_append hindex, eventsFrom, if_pos rfl, Bool.true_and,
      groupEvents_eq_indexReports, ih, Bracketing.reports]
    congr 3
    omega

/-! ## Where the reports stand -/

/-- The reports on a group stand where it stands, if the text before it has as many bytes as its
place says. -/
theorem standsIn_of_mem_indexReports {integers : Bool} {start index : Text} (rest : Text)
    (hindex : ']' ∉ index) {event : IndexEvent}
    (hevent : event ∈ indexReports integers (byteSize start) index) :
    event.StandsIn (start ++ '[' :: (index ++ ']' :: rest)) := by
  have hcut : start ++ '[' :: (index ++ ']' :: rest) =
      (start ++ ['[']) ++ (index ++ ']' :: rest) := by simp
  have hsize : byteSize (start ++ ['[']) = byteSize start + 1 := byteSize_append start ['[']
  rw [indexReports] at hevent
  by_cases hempty : index = []
  · rw [if_pos hempty, List.mem_singleton] at hevent
    subst hevent hempty
    exact ⟨rest, _, hcut, hsize⟩
  · rw [if_neg hempty] at hevent
    let range : TextRange := ⟨byteSize start + 1, byteSize start + 1 + byteSize index⟩
    have hstart : HasRestAt (start ++ '[' :: (index ++ ']' :: rest)) range.start
        (index ++ ']' :: rest) := ⟨_, hcut, hsize⟩
    have hstop : HasRestAt (start ++ '[' :: (index ++ ']' :: rest)) range.stop (']' :: rest) :=
      ⟨start ++ ['['] ++ index, by simp, by rw [byteSize_append, hsize]⟩
    have hslice : range.slice (start ++ '[' :: (index ++ ']' :: rest)) = index :=
      TextRange.slice_eq_of_hasRestAt hstart rfl
    have hrange : event = .index range ∨ event = .notInteger range := by
      split at hevent
      · simpa using hevent
      · exact Or.inl (List.mem_singleton.mp hevent)
    rcases hrange with rfl | rfl <;>
      exact ⟨index, rest, hslice, hempty, hindex, hstart, hstop⟩

/-- The reports on a text that is cut at its groups stand in it, after any start. -/
theorem standsIn_of_mem_reports {integers : Bool} (start : Text) {bracketing : Bracketing}
    {event : IndexEvent} (hevent : event ∈ bracketing.reports integers (byteSize start)) :
    event.StandsIn (start ++ bracketing.text) := by
  induction bracketing generalizing start with
  | plain => exact absurd hevent List.not_mem_nil
  | unclosed lead rest hlead hrest =>
    have hplace : HasRestAt (start ++ (lead ++ '[' :: rest)) (byteSize start + byteSize lead)
        ('[' :: rest) := ⟨start ++ lead, by simp, byteSize_append start lead⟩
    rcases List.mem_cons.mp hevent with rfl | hevent
    · exact ⟨rest, hplace⟩
    · rw [List.mem_singleton] at hevent
      subst hevent
      exact ⟨rest, hplace, hrest⟩
  | group lead index hlead hindex next ih =>
    have hplace : byteSize start + byteSize lead = byteSize (start ++ lead) :=
      (byteSize_append start lead).symm
    have hgroup : byteSize (start ++ lead) + byteSize index + 2 =
        byteSize (start ++ lead ++ '[' :: (index ++ [']'])) := by
      have hbracket : byteSize ('[' :: (index ++ [']'])) = 1 + (byteSize index + 1) :=
        congrArg (1 + ·) (byteSize_append index [']'])
      rw [byteSize_append _ ('[' :: _), hbracket]
      omega
    have hcut : start ++ (lead ++ '[' :: (index ++ ']' :: next.text)) =
        (start ++ lead) ++ '[' :: (index ++ ']' :: next.text) := by simp
    rw [Bracketing.text, hcut]
    rw [Bracketing.reports, hplace] at hevent
    rcases List.mem_cons.mp hevent with rfl | hevent
    · exact ⟨_, hasRestAt_append _ _⟩
    rcases List.mem_append.mp hevent with hevent | hevent
    · exact standsIn_of_mem_indexReports next.text hindex hevent
    · rw [hgroup] at hevent
      simpa using ih _ hevent

/-- **The scan reports exactly the bracket structure.** A raw key is cut at its groups in one way.
The reports are those on its groups, in order and nothing else, and an index has to be digits if the
key is for a list. Every report stands in the raw key, so no offset of it cuts a character. -/
theorem events_eq_reports (key : Key) (raw : Text) :
    ∃ bracketing : Bracketing, bracketing.text = raw ∧
      (∀ other : Bracketing, other.text = raw → other = bracketing) ∧
      events key raw = bracketing.reports (key.access == .indexed) 0 ∧
      ∀ event ∈ events key raw, event.StandsIn raw := by
  obtain ⟨bracketing, rfl⟩ := exists_bracketing raw
  have hevents : events key bracketing.text = bracketing.reports (key.access == .indexed) 0 :=
    eventsFrom_text _ 0 bracketing
  refine ⟨bracketing, rfl, fun other heq => Bracketing.text_injective heq, hevents, ?_⟩
  intro event hevent
  rw [hevents] at hevent
  exact standsIn_of_mem_reports [] hevent

/-- Offsets count bytes, a bracket in a group opens no other one, and the last group is not
closed. -/
example :
    eventsFrom true 0 .outside "é[ü[7][][7[".toList =
      [.opening 2, .index ⟨3, 7⟩, .notInteger ⟨3, 7⟩, .opening 8, .missing 9, .opening 10,
        .unclosed 10] := by
  decide

end IndexScan

end PropertyKeys

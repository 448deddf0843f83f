import PropertyKeys.Proofs.Json.WordLocality

/-!
# What the reader needs of a text

An array or an object ends with its closing mark. What is read of it decides on the value, whatever
follows the mark: in it, a literal or a number is followed by a blank or a mark and ends there. So
the reader of values is local, level by level.

## Main definitions

* `Json.IsClosedBy`: the rest of an array or an object is read up to its closing mark.
* `Json.ReadsAs`: how a value is read.

## Main results

* `Json.isLocal_readValue`: the reader of values is local.
* `Json.exists_of_readFirst?_object`: an object that is read first ends with its closing brace, and
  it is read first whatever follows the brace.
-/

namespace PropertyKeys.Json

/-! ## Gaps -/

theorem exists_gap_of_skipSpace {c : Char} {text rest : Text} (h : skipSpace text = c :: rest) :
    ∃ gap, gap.all isSpace = true ∧ isSpace c = false ∧ text = gap ++ c :: rest := by
  refine ⟨text.takeWhile isSpace, List.all_takeWhile, ?_, ?_⟩
  · have hhead := List.head?_dropWhile_not isSpace text
    rw [← skipSpace, h] at hhead
    exact hhead
  · rw [← h]
    exact List.takeWhile_append_dropWhile.symm

theorem skipSpace_cons {c : Char} (hc : isSpace c = false) (rest : Text) :
    skipSpace (c :: rest) = c :: rest :=
  List.dropWhile_cons_of_neg (Bool.eq_false_iff.mp hc)

theorem skipSpace_append {gap : Text} (hgap : gap.all isSpace = true) {c : Char}
    (hc : isSpace c = false) (rest : Text) : skipSpace (gap ++ c :: rest) = c :: rest := by
  rw [skipSpace, List.dropWhile_append_of_pos (List.all_eq_true.mp hgap)]
  exact skipSpace_cons hc rest

/-- A mark, perhaps with blanks before it, ends a literal or a number. -/
theorem endsScalar_gap {gap : Text} (hgap : gap.all isSpace = true) {mark : Char}
    (hmark : mark ∈ "\"[]\x7b\x7d,:".toList) (rest : Text) :
    endsScalar (gap ++ mark :: rest) = true := by
  cases gap with
  | nil => exact Bool.or_eq_true_iff.mpr (.inr (List.contains_iff_mem.mpr hmark))
  | cons c cs => exact Bool.or_eq_true_iff.mpr (.inl (Bool.and_eq_true_iff.mp hgap).1)

/-! ## Closing marks -/

/-- What is left of an array or an object is read up to its closing mark, with any fuel that exceeds
the characters in front of the mark, and an item that stands before it ends there. -/
structure IsClosedBy {α : Type} (mark : Char) (readMore : Nat → Text → Reading ReadError (List α))
    (inside : Text) (items : List α) : Prop where
  endsScalar (after : Text) : endsScalar (inside ++ mark :: after) = true
  readsUpTo {fuel : Nat} (hfuel : inside.length < fuel) :
    ReadsUpTo mark (readMore fuel) inside items

namespace IsClosedBy

variable {α : Type} {mark : Char} {readMore : Nat → Text → Reading ReadError (List α)} {gap : Text}

/-- The closing mark comes next. -/
theorem nil (hgap : gap.all isSpace = true) (hmark : mark ∈ "\"[]\x7b\x7d,:".toList)
    (hclose : ∀ fuel after, readMore (fuel + 1) (gap ++ mark :: after) = .ok ([], after)) :
    IsClosedBy mark readMore gap [] where
  endsScalar := endsScalar_gap hgap hmark
  readsUpTo hfuel after := by
    obtain ⟨fuel, rfl⟩ := Nat.exists_eq_add_one_of_ne_zero (Nat.ne_zero_of_lt hfuel)
    exact hclose fuel after

/-- A comma comes next, and behind it an item, which is read if it ends where the others begin. -/
theorem cons {before inside : Text} {item : α} {items : List α} (hgap : gap.all isSpace = true)
    (hcomma : ∀ fuel other, Json.endsScalar other = true →
      readMore (fuel + 1) (gap ++ ',' :: (before ++ other)) =
        (readMore fuel other).andThen fun items rest => .ok (item :: items, rest))
    (h : IsClosedBy mark readMore inside items) :
    IsClosedBy mark readMore (gap ++ ',' :: (before ++ inside)) (item :: items) where
  endsScalar after := by
    rw [List.append_assoc, List.cons_append]
    exact endsScalar_gap hgap (by decide) _
  readsUpTo {fuel} hfuel after := by
    obtain ⟨fuel, rfl⟩ := Nat.exists_eq_add_one_of_ne_zero (Nat.ne_zero_of_lt hfuel)
    have hshorter : inside.length < fuel := by
      simp only [List.length_append, List.length_cons] at hfuel
      omega
    rw [List.append_assoc, List.cons_append, List.append_assoc, hcomma fuel _ (h.endsScalar after),
      h.readsUpTo hshorter after, Reading.andThen_ok]

end IsClosedBy

/-! ## Arrays -/

variable {readItem : Text → Reading ReadError Json} {text rest : Text}

theorem readMoreItems_close {gap : Text} (hgap : gap.all isSpace = true) (fuel : Nat)
    (after : Text) :
    readMoreItems readItem (fuel + 1) (gap ++ ']' :: after) = .ok ([], after) := by
  have hspace : isSpace ']' = false := by decide
  simp [readMoreItems, skipSpace_append hgap hspace]

theorem readMoreItems_comma {gap next more : Text} {c : Char} (hgap : gap.all isSpace = true)
    (hnext : skipSpace next = c :: more) (hc : c ≠ ']') (fuel : Nat) :
    readMoreItems readItem (fuel + 1) (gap ++ ',' :: next) =
      (readItem (c :: more)).andThen fun item rest =>
        (readMoreItems readItem fuel rest).andThen fun items rest => .ok (item :: items, rest) := by
  have hspace : isSpace ',' = false := by decide
  simp [readMoreItems, skipSpace_append hgap hspace, hnext, hc]

/-- What is read behind blanks starts with a character that is no blank. -/
theorem exists_cons_of_isLocal (hitem : IsLocal readItem) {item : Json}
    (h : readItem (skipSpace text) = .ok (item, rest)) :
    ∃ gap c used, text = gap ++ c :: (used ++ rest) ∧
      (∀ other, skipSpace (gap ++ c :: other) = c :: other) ∧
      ∀ other, endsScalar other = true → readItem (c :: (used ++ other)) = .ok (item, other) := by
  obtain ⟨used, hne, hused, hagain⟩ := hitem _ _ _ h
  obtain ⟨c, used, rfl⟩ := List.exists_cons_of_ne_nil hne
  obtain ⟨gap, hgap, hspace, rfl⟩ := exists_gap_of_skipSpace hused
  exact ⟨gap, c, used, rfl, skipSpace_append hgap hspace, hagain⟩

theorem exists_of_readMoreItems (hitem : IsLocal readItem) {fuel : Nat} {items : List Json}
    (h : readMoreItems readItem fuel text = .ok (items, rest)) :
    ∃ inside, text = inside ++ ']' :: rest ∧
      IsClosedBy ']' (readMoreItems readItem) inside items := by
  induction fuel generalizing text items with
  | zero => cases h
  | succ fuel ih =>
    rw [readMoreItems] at h
    split at h
    case h_1 => cases h
    case h_2 more hstart =>
      obtain ⟨rfl, rfl⟩ : [] = items ∧ more = rest := by simpa using h
      obtain ⟨gap, hgap, -, rfl⟩ := exists_gap_of_skipSpace hstart
      exact ⟨gap, rfl, .nil hgap (by decide) (readMoreItems_close hgap)⟩
    case h_3 more hstart =>
      obtain ⟨gap, hgap, -, rfl⟩ := exists_gap_of_skipSpace hstart
      split at h
      case h_1 => cases h
      case h_2 => cases h
      case h_3 hopen =>
        obtain ⟨item, next, hread, hnext⟩ := Reading.andThen_eq_ok_iff.mp h
        obtain ⟨others, last, hothers, hend⟩ := Reading.andThen_eq_ok_iff.mp hnext
        obtain ⟨rfl, rfl⟩ : item :: others = items ∧ last = rest := by simpa using hend
        obtain ⟨inside, rfl, hinside⟩ := ih hothers
        obtain ⟨before, c, used, rfl, hskip, hagain⟩ := exists_cons_of_isLocal hitem hread
        have hc : c ≠ ']' := by
          rintro rfl
          exact hopen _ (hskip _)
        refine ⟨gap ++ ',' :: (before ++ c :: used ++ inside), by simp,
          hinside.cons hgap fun fuel other hother => ?_⟩
        rw [List.append_assoc, List.cons_append, readMoreItems_comma hgap (hskip _) hc,
          hagain other hother, Reading.andThen_ok]
    case h_4 => cases h

theorem readItems_open {more : Text} {c : Char} (hstart : skipSpace text = c :: more)
    (hc : c ≠ ']') :
    readItems readItem text =
      (readItem (c :: more)).andThen fun item rest =>
        (readMoreItems readItem rest.length rest).andThen fun items rest =>
          .ok (item :: items, rest) := by
  simp [readItems, hstart, hc]

theorem exists_of_readItems_local (hitem : IsLocal readItem) {items : List Json}
    (h : readItems readItem text = .ok (items, rest)) :
    ∃ inside, text = inside ++ ']' :: rest ∧ ReadsUpTo ']' (readItems readItem) inside items := by
  rw [readItems] at h
  split at h
  case h_1 => cases h
  case h_2 more hstart =>
    obtain ⟨rfl, rfl⟩ : [] = items ∧ more = rest := by simpa using h
    obtain ⟨gap, hgap, hspace, rfl⟩ := exists_gap_of_skipSpace hstart
    refine ⟨gap, rfl, fun after => ?_⟩
    simp [readItems, skipSpace_append hgap hspace]
  case h_3 hopen =>
    obtain ⟨item, next, hread, hnext⟩ := Reading.andThen_eq_ok_iff.mp h
    obtain ⟨others, last, hothers, hend⟩ := Reading.andThen_eq_ok_iff.mp hnext
    obtain ⟨rfl, rfl⟩ : item :: others = items ∧ last = rest := by simpa using hend
    obtain ⟨inside, rfl, hinside⟩ := exists_of_readMoreItems hitem hothers
    obtain ⟨before, c, used, rfl, hskip, hagain⟩ := exists_cons_of_isLocal hitem hread
    have hc : c ≠ ']' := by
      rintro rfl
      exact hopen _ (hskip _)
    refine ⟨before ++ c :: (used ++ inside), by simp, fun after => ?_⟩
    have hfuel : inside.length < (inside ++ ']' :: after).length := by simp
    simp only [List.append_assoc, List.cons_append]
    rw [readItems_open (hskip _) hc, hagain _ (hinside.endsScalar after), Reading.andThen_ok,
      hinside.readsUpTo hfuel after, Reading.andThen_ok]

/-! ## Objects -/

theorem exists_of_readMember_local (hitem : IsLocal readItem) {member : Text × Json}
    (h : readMember readItem text = .ok (member, rest)) :
    ∃ used, text = used ++ rest ∧ ∀ other, endsScalar other = true →
      readMember readItem (used ++ other) = .ok (member, other) := by
  obtain ⟨name, middle, htext, hnext⟩ := Reading.andThen_eq_ok_iff.mp h
  obtain ⟨body, rfl, hbody⟩ := exists_of_readText htext
  split at hnext
  case h_1 => cases hnext
  case h_2 more hstart =>
    obtain ⟨item, last, hread, hend⟩ := Reading.andThen_eq_ok_iff.mp hnext
    obtain ⟨rfl, rfl⟩ : (name, item) = member ∧ last = rest := by simpa using hend
    obtain ⟨gap, hgap, hspace, rfl⟩ := exists_gap_of_skipSpace hstart
    obtain ⟨used, -, rfl, hagain⟩ := hitem _ _ _ hread
    refine ⟨body ++ '"' :: (gap ++ ':' :: used), by simp, fun other hother => ?_⟩
    simp only [List.append_assoc, List.cons_append]
    rw [readMember, readsUpTo_readText hbody, Reading.andThen_ok, skipSpace_append hgap hspace]
    simp [hagain other hother]
  case h_3 => cases hnext

theorem readMoreMembers_close {gap : Text} (hgap : gap.all isSpace = true) (fuel : Nat)
    (after : Text) :
    readMoreMembers readItem (fuel + 1) (gap ++ '\x7d' :: after) = .ok ([], after) := by
  have hspace : isSpace '\x7d' = false := by decide
  simp [readMoreMembers, skipSpace_append hgap hspace]

theorem readMoreMembers_comma {gap next more : Text} (hgap : gap.all isSpace = true)
    (hnext : skipSpace next = '"' :: more) (fuel : Nat) :
    readMoreMembers readItem (fuel + 1) (gap ++ ',' :: next) =
      (readMember readItem more).andThen fun member rest =>
        (readMoreMembers readItem fuel rest).andThen fun members rest =>
          .ok (member :: members, rest) := by
  have hspace : isSpace ',' = false := by decide
  simp [readMoreMembers, skipSpace_append hgap hspace, hnext]

theorem exists_of_readMoreMembers (hitem : IsLocal readItem) {fuel : Nat}
    {members : List (Text × Json)}
    (h : readMoreMembers readItem fuel text = .ok (members, rest)) :
    ∃ inside, text = inside ++ '\x7d' :: rest ∧
      IsClosedBy '\x7d' (readMoreMembers readItem) inside members := by
  induction fuel generalizing text members with
  | zero => cases h
  | succ fuel ih =>
    rw [readMoreMembers] at h
    split at h
    case h_1 => cases h
    case h_2 more hstart =>
      obtain ⟨rfl, rfl⟩ : [] = members ∧ more = rest := by simpa using h
      obtain ⟨gap, hgap, -, rfl⟩ := exists_gap_of_skipSpace hstart
      exact ⟨gap, rfl, .nil hgap (by decide) (readMoreMembers_close hgap)⟩
    case h_3 more hstart =>
      obtain ⟨gap, hgap, -, rfl⟩ := exists_gap_of_skipSpace hstart
      split at h
      case h_1 => cases h
      case h_2 => cases h
      case h_3 quoted hquote =>
        obtain ⟨member, next, hread, hnext⟩ := Reading.andThen_eq_ok_iff.mp h
        obtain ⟨others, last, hothers, hend⟩ := Reading.andThen_eq_ok_iff.mp hnext
        obtain ⟨rfl, rfl⟩ : member :: others = members ∧ last = rest := by simpa using hend
        obtain ⟨inside, rfl, hinside⟩ := ih hothers
        obtain ⟨used, rfl, hagain⟩ := exists_of_readMember_local hitem hread
        obtain ⟨before, hbefore, hspace, rfl⟩ := exists_gap_of_skipSpace hquote
        refine ⟨gap ++ ',' :: (before ++ '"' :: used ++ inside), by simp,
          hinside.cons hgap fun fuel other hother => ?_⟩
        rw [List.append_assoc, List.cons_append,
          readMoreMembers_comma hgap (skipSpace_append hbefore hspace _), hagain other hother,
          Reading.andThen_ok]
      case h_4 => cases h
    case h_4 => cases h

theorem readMembers_open {more : Text} (hstart : skipSpace text = '"' :: more) :
    readMembers readItem text =
      (readMember readItem more).andThen fun member rest =>
        (readMoreMembers readItem rest.length rest).andThen fun members rest =>
          .ok (member :: members, rest) := by
  simp [readMembers, hstart]

theorem exists_of_readMembers_local (hitem : IsLocal readItem) {members : List (Text × Json)}
    (h : readMembers readItem text = .ok (members, rest)) :
    ∃ inside, text = inside ++ '\x7d' :: rest ∧
      ReadsUpTo '\x7d' (readMembers readItem) inside members := by
  rw [readMembers] at h
  split at h
  case h_1 => cases h
  case h_2 more hstart =>
    obtain ⟨rfl, rfl⟩ : [] = members ∧ more = rest := by simpa using h
    obtain ⟨gap, hgap, hspace, rfl⟩ := exists_gap_of_skipSpace hstart
    refine ⟨gap, rfl, fun after => ?_⟩
    simp [readMembers, skipSpace_append hgap hspace]
  case h_3 quoted hquote =>
    obtain ⟨member, next, hread, hnext⟩ := Reading.andThen_eq_ok_iff.mp h
    obtain ⟨others, last, hothers, hend⟩ := Reading.andThen_eq_ok_iff.mp hnext
    obtain ⟨rfl, rfl⟩ : member :: others = members ∧ last = rest := by simpa using hend
    obtain ⟨inside, rfl, hinside⟩ := exists_of_readMoreMembers hitem hothers
    obtain ⟨used, rfl, hagain⟩ := exists_of_readMember_local hitem hread
    obtain ⟨before, hbefore, hspace, rfl⟩ := exists_gap_of_skipSpace hquote
    refine ⟨before ++ '"' :: (used ++ inside), by simp, fun after => ?_⟩
    have hfuel : inside.length < (inside ++ '\x7d' :: after).length := by simp
    simp only [List.append_assoc, List.cons_append]
    rw [readMembers_open (skipSpace_append hbefore hspace _), hagain _ (hinside.endsScalar after),
      Reading.andThen_ok, hinside.readsUpTo hfuel after, Reading.andThen_ok]
  case h_4 => cases h

/-! ## Values -/

theorem readValue_array {more : Text} (hstart : skipSpace text = '[' :: more) (depth : Nat) :
    readValue (depth + 1) text =
      (readItems (readValue depth) more).andThen fun items rest => .ok (.array items, rest) := by
  simp [readValue, hstart]

theorem readValue_object {more : Text} (hstart : skipSpace text = '\x7b' :: more) (depth : Nat) :
    readValue (depth + 1) text = (readMembers (readValue depth) more).andThen
      fun members rest => .ok (.object (OrderedMap.ofList members), rest) := by
  simp [readValue, hstart]

theorem readValue_scalar {c : Char} {more : Text} (hstart : skipSpace text = c :: more)
    (harray : c ≠ '[') (hobject : c ≠ '\x7b') (depth : Nat) :
    readValue depth text = readScalar (c :: more) := by
  unfold readValue
  simp [hstart, harray, hobject]

/-- How a value is read: as an array or an object of smaller depth, or as a scalar. -/
inductive ReadsAs (text rest : Text) : (depth : Nat) → (value : Json) → Prop
  | array {depth : Nat} {more : Text} {items : List Json} (hstart : skipSpace text = '[' :: more)
      (hread : readItems (readValue depth) more = .ok (items, rest)) :
    ReadsAs text rest (depth + 1) (.array items)
  | object {depth : Nat} {more : Text} {members : List (Text × Json)}
      (hstart : skipSpace text = '\x7b' :: more)
      (hread : readMembers (readValue depth) more = .ok (members, rest)) :
    ReadsAs text rest (depth + 1) (.object (OrderedMap.ofList members))
  | scalar {depth : Nat} {value : Json} (harray : ∀ more, skipSpace text ≠ '[' :: more)
      (hobject : ∀ more, skipSpace text ≠ '\x7b' :: more)
      (hread : readScalar (skipSpace text) = .ok (value, rest)) : ReadsAs text rest depth value

theorem readsAs_of_readValue {depth : Nat} {value : Json}
    (h : readValue depth text = .ok (value, rest)) : ReadsAs text rest depth value := by
  unfold readValue at h
  split at h
  case h_1 more hstart =>
    cases depth with
    | zero => cases h
    | succ depth =>
      obtain ⟨items, last, hread, hend⟩ := Reading.andThen_eq_ok_iff.mp h
      obtain ⟨rfl, rfl⟩ : .array items = value ∧ last = rest := by simpa using hend
      exact .array hstart hread
  case h_2 more hstart =>
    cases depth with
    | zero => cases h
    | succ depth =>
      obtain ⟨members, last, hread, hend⟩ := Reading.andThen_eq_ok_iff.mp h
      obtain ⟨rfl, rfl⟩ : .object (OrderedMap.ofList members) = value ∧ last = rest := by
        simpa using hend
      exact .object hstart hread
  case h_3 harray hobject => exact .scalar harray hobject h

/-- **The reader of values is local.** What it takes off a text decides on the value, unless what
follows goes on with a literal or a number. -/
theorem isLocal_readValue (depth : Nat) : IsLocal (readValue depth) := by
  intro text value rest h
  -- what stands in an array or an object is read with a smaller depth
  induction depth using Nat.strongRecOn generalizing text value rest with
  | _ depth ih =>
    cases readsAs_of_readValue h with
    | @array smaller more items hstart hread =>
      have hsmaller : IsLocal (readValue smaller) := fun _ _ _ => ih smaller (by omega) _ _ _
      obtain ⟨gap, hgap, hspace, rfl⟩ := exists_gap_of_skipSpace hstart
      obtain ⟨inside, rfl, hinside⟩ := exists_of_readItems_local hsmaller hread
      refine ⟨gap ++ '[' :: (inside ++ [']']), by simp, by simp, fun other _ => ?_⟩
      have hagain := hinside other
      simp only [List.append_assoc, List.cons_append, List.nil_append]
      rw [readValue_array (skipSpace_append hgap hspace _), hagain, Reading.andThen_ok]
    | @object smaller more members hstart hread =>
      have hsmaller : IsLocal (readValue smaller) := fun _ _ _ => ih smaller (by omega) _ _ _
      obtain ⟨gap, hgap, hspace, rfl⟩ := exists_gap_of_skipSpace hstart
      obtain ⟨inside, rfl, hinside⟩ := exists_of_readMembers_local hsmaller hread
      refine ⟨gap ++ '\x7b' :: (inside ++ ['\x7d']), by simp, by simp, fun other _ => ?_⟩
      have hagain := hinside other
      simp only [List.append_assoc, List.cons_append, List.nil_append]
      rw [readValue_object (skipSpace_append hgap hspace _), hagain, Reading.andThen_ok]
    | scalar harray hobject hread =>
      obtain ⟨gap, c, used, rfl, hskip, hagain⟩ := exists_cons_of_isLocal isLocal_readScalar hread
      refine ⟨gap ++ c :: used, by simp, by simp, fun other hother => ?_⟩
      have hbracket : c ≠ '[' := by
        rintro rfl
        exact harray _ (hskip _)
      have hbrace : c ≠ '\x7b' := by
        rintro rfl
        exact hobject _ (hskip _)
      rw [List.append_assoc, List.cons_append, readValue_scalar (hskip _) hbracket hbrace,
        hagain other hother]

/-- **An object ends with its closing brace.** If an object is read first, then it is read first
whatever follows the brace. -/
theorem exists_of_readFirst?_object {members : OrderedMap Text Json}
    (h : readFirst? text = some (.ok (.object members))) :
    ∃ inside after, text = inside ++ '\x7d' :: after ∧ ∀ other,
      readFirst? (inside ++ '\x7d' :: other) = some (.ok (.object members)) := by
  unfold readFirst? at h
  split at h
  case h_1 => cases h
  case h_2 c rest hstart =>
    obtain ⟨gap, hgap, hspace, rfl⟩ := exists_gap_of_skipSpace hstart
    split at h
    case h_1 => cases h
    case h_2 value after hread =>
      have hvalue : value = .object members := by
        split at h
        case isTrue => simpa using h
        case isFalse => cases h
      generalize hdepth : maxDepth = depth at hread
      cases readsAs_of_readValue hread with
      | array => cases hvalue
      | @object depth more entries hbrace hmembers =>
        obtain ⟨rfl, rfl⟩ := List.cons.inj ((skipSpace_cons hspace rest).symm.trans hbrace)
        obtain ⟨inside, rfl, hinside⟩ :=
          exists_of_readMembers_local (isLocal_readValue depth) hmembers
        refine ⟨gap ++ '\x7b' :: inside, after, by simp, fun other => ?_⟩
        have hagain : readValue maxDepth ('\x7b' :: (inside ++ '\x7d' :: other)) =
            .ok (.object members, other) := by
          rw [hdepth, readValue_object (skipSpace_cons hspace _), hinside other,
            Reading.andThen_ok, hvalue]
        rw [List.append_assoc, List.cons_append, readFirst?, skipSpace_append hgap hspace]
        simp [hagain]
      | scalar _ _ hscalar =>
        rw [hvalue] at hscalar
        obtain ⟨_, hdenotes, -⟩ := exists_of_readScalar hscalar
        cases hdenotes

end PropertyKeys.Json

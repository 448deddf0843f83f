import PropertyKeys.Proofs.Text.Offsets
import PropertyKeys.Proofs.TypeExpr.Reading

/-!
# Where reading stops

The reader never goes past the fault. What it has passed when it refuses a character can be
completed to a text that is accepted, and if it misses something at the end of the text, then the
text as a whole can. The completion closes what is open: a name that is missing is put in, and an
open list of arguments or a pair of brackets is closed.

## Main definitions

* `TypeExpr.IsViable`: the texts that can be completed to accepted ones.
* `TypeExpr.StopsWithin`: what holds where the reader refuses to go on.

## Main results

* `TypeExpr.stopsWithin_of_readType`: what has been read of a type can be completed.
* `TypeExpr.eq_or_exists_isViable_of_parse`: what has been read of a text can be completed.
* `TypeExpr.isViable_of_parse`: the place that a refusal names is where the fault is.
-/

namespace PropertyKeys.TypeExpr

open Unicode Text

/-- The text can go on in such a way that it is accepted. -/
def IsViable (start : Text) : Prop :=
  ∃ rest type, parse (start ++ rest) = .ok type

theorem isViable_of_writes {start more : Text} {type : TypeExpr}
    (h : Writes (start ++ more) (.type type)) : IsViable start :=
  ⟨more, type, parse_of_isTextOf ⟨start ++ more, [], (List.append_nil _).symm, h, rfl⟩⟩

/-! ## Names and array brackets -/

/-- The shortest name, which completes what misses a name. -/
theorem writesName_letter : WritesName ['a'] ['a'] := by
  refine .part ⟨List.cons_ne_nil _ _, ?_, ?_⟩
  · simp only [List.forall_mem_singleton]
    exact .inl (by decide +kernel)
  · rintro c ⟨⟩
    decide

theorem writes_letter {front : Text} (hfront : isBlankText front = true) :
    Writes (front ++ ['a']) (.type ⟨['a'], [], 0⟩) :=
  .plain hfront writesName_letter .none

/-- A missing name is missed where it should begin. -/
theorem eq_of_readName {text rest : Text} (h : readName text = .error (.unexpected rest)) :
    rest = text := by
  simp only [readName] at h
  split at h
  case isTrue => cases h; rfl
  case isFalse => split at h <;> cases h

/-- Array brackets stop in front of what is no closing bracket, and one could follow. -/
theorem exists_of_readDims_error {fuel : Nat} {text rest : Text}
    (h : readDims fuel text = .error (.unexpected rest)) :
    ∃ start more dims, text = start ++ rest ∧ WritesDims (start ++ more) dims := by
  induction fuel generalizing text with
  | zero => cases h
  | succ fuel ih =>
    obtain ⟨front, hfront, htext⟩ := exists_append_skipBlank text
    rw [readDims] at h
    split at h
    case h_2 => cases h
    case h_1 inside hopen =>
      obtain ⟨inner, hinner, hinside⟩ := exists_append_skipBlank inside
      split at h
      case h_1 behind hclose =>
        obtain hmore | ⟨_, _, -, hend⟩ := Reading.andThen_eq_error_iff.mp h
        · obtain ⟨start, more, dims, rfl, hdims⟩ := ih hmore
          refine ⟨front ++ '[' :: (inner ++ ']' :: start), more, dims + 1, ?_, ?_⟩
          · rw [htext, hopen, hinside, hclose]
            simp
          · simpa using WritesDims.pair hfront hinner hdims
        · cases hend
      case h_2 =>
        obtain rfl : skipBlank inside = rest := by simpa using h
        refine ⟨front ++ '[' :: inner, [']'], 1, ?_, ?_⟩
        · rw [List.append_assoc, List.cons_append, ← hinside, ← hopen]
          exact htext
        · simpa using WritesDims.pair hfront hinner .none

/-! ## Types -/

/-- The reader stops inside a type: behind its blanks the text holds the start of one, in front of
which other blanks could stand, and then comes the rest. -/
def StopsWithin (text rest : Text) : Prop :=
  ∃ core more type, skipBlank text = core ++ rest ∧
    ∀ front, isBlankText front = true → Writes (front ++ (core ++ more)) (.type type)

theorem StopsWithin.exists_writes {text rest : Text} (h : StopsWithin text rest) :
    ∃ start more type, text = start ++ rest ∧ Writes (start ++ more) (.type type) := by
  obtain ⟨core, more, type, hcore, hwrites⟩ := h
  obtain ⟨front, hfront, htext⟩ := exists_append_skipBlank text
  refine ⟨front ++ core, more, type, ?_, ?_⟩
  · rw [htext, hcore, List.append_assoc]
  · rw [List.append_assoc]
    exact hwrites front hfront

/-- If the text starts with a blank, the start of the type stands behind a gap. -/
theorem StopsWithin.exists_gap {text rest : Text} (h : StopsWithin text rest)
    (hblank : text.head?.any isBlank = true) :
    ∃ gap core more type, text = gap ++ (core ++ rest) ∧ gap ≠ [] ∧ isBlankText gap = true ∧
      Writes (core ++ more) (.type type) := by
  obtain ⟨core, more, type, hcore, hwrites⟩ := h
  obtain ⟨gap, hgap, hne, htext⟩ := exists_gap_append_skipBlank hblank
  exact ⟨gap, core, more, type, by rw [← hcore]; exact htext, hne, hgap, hwrites [] rfl⟩

/-- Arguments stop inside one of them, or behind one where no mark follows. There a comma and one
more argument could follow. -/
theorem exists_of_readArgs_error {readArg : Text → Reading Fault TypeExpr}
    (hread : ∀ text type rest, readArg text = .ok (type, rest) → IsReadFrom text type rest)
    (hstop : ∀ text rest, readArg text = .error (.unexpected rest) → StopsWithin text rest)
    {fuel : Nat} {text rest : Text} (h : readArgs readArg fuel text = .error (.unexpected rest)) :
    ∃ start more args, text = start ++ rest ∧ Writes (start ++ more) (.args args) := by
  have hnone : isBlankText [] = true := rfl
  induction fuel generalizing text with
  | zero =>
    cases h
    exact ⟨[], ['a'], _, rfl, .lastArg (writes_letter hnone)⟩
  | succ fuel ih =>
    rw [readArgs] at h
    obtain hinside | ⟨arg, behind, harg, hnext⟩ := Reading.andThen_eq_error_iff.mp h
    · obtain ⟨start, more, type, rfl, hwrites⟩ := (hstop _ _ hinside).exists_writes
      exact ⟨start, more, [type], rfl, .lastArg hwrites⟩
    · obtain ⟨written, back, rfl, hwrites, hback⟩ := (hread _ _ _ harg).exists_writes
      obtain ⟨gap, hgap, hbehind⟩ := exists_append_skipBlank behind
      have hboth : isBlankText (back ++ gap) = true := by
        rw [isBlankText, List.all_append, Bool.and_eq_true]
        exact ⟨hback, hgap⟩
      split at hnext
      case h_1 others hcomma =>
        obtain hmore | ⟨_, _, -, hend⟩ := Reading.andThen_eq_error_iff.mp hnext
        · obtain ⟨start, more, args, rfl, hargs⟩ := ih hmore
          refine ⟨written ++ ((back ++ gap) ++ ',' :: start), more, arg :: args, ?_, ?_⟩
          · rw [hbehind, hcomma]
            simp
          · simpa using Writes.arg hwrites hboth hargs
        · cases hend
      case h_2 => cases hnext
      case h_3 =>
        obtain rfl : skipBlank behind = rest := by simpa using hnext
        have hlist := Writes.arg hwrites hboth (.lastArg (writes_letter hnone))
        refine ⟨written ++ (back ++ gap), ',' :: ['a'], [arg, ⟨['a'], [], 0⟩], ?_, ?_⟩
        · rw [List.append_assoc, List.append_assoc, ← hbehind]
        · simpa using hlist

/-! One lemma for each place where reading a type can stop. -/

section Places

variable {text rest written name inner : Text}

theorem stopsWithin_name (text : Text) : StopsWithin text (skipBlank text) :=
  ⟨[], ['a'], _, rfl, fun _ hfront => writes_letter hfront⟩

theorem StopsWithin.upperBound {bound : Text} (h : StopsWithin bound rest)
    (htext : skipBlank text = '?' :: (inner ++ ("extends".toList ++ bound)))
    (hinner : isBlankText inner = true) (hblank : bound.head?.any isBlank = true) :
    StopsWithin text rest := by
  obtain ⟨gap, core, more, type, rfl, hne, hgap, hwrites⟩ := h.exists_gap hblank
  refine ⟨'?' :: (inner ++ ("extends".toList ++ (gap ++ core))), more, type, by simp [htext],
    fun front hfront => ?_⟩
  simpa using Writes.upperBound hfront hinner hgap hne hwrites

theorem StopsWithin.lowerBound {bound : Text} (h : StopsWithin bound rest)
    (htext : skipBlank text = '?' :: (inner ++ ("super".toList ++ bound)))
    (hinner : isBlankText inner = true) (hblank : bound.head?.any isBlank = true) :
    StopsWithin text rest := by
  obtain ⟨gap, core, more, type, rfl, hne, hgap, hwrites⟩ := h.exists_gap hblank
  refine ⟨'?' :: (inner ++ ("super".toList ++ (gap ++ core))), more, object, by simp [htext],
    fun front hfront => ?_⟩
  simpa using Writes.lowerBound hfront hinner hgap hne hwrites

theorem stopsWithin_args {start more : Text} {args : List TypeExpr}
    (htext : skipBlank text = written ++ (inner ++ '<' :: (start ++ rest)))
    (hname : WritesName written name) (hinner : isBlankText inner = true)
    (hargs : Writes (start ++ more) (.args args)) : StopsWithin text rest := by
  have hnone : isBlankText [] = true := rfl
  refine ⟨written ++ (inner ++ '<' :: start), more ++ ['>'], ⟨name, args, 0⟩, by simp [htext],
    fun front hfront => ?_⟩
  simpa using Writes.generic hfront hname hinner hargs hnone .none

theorem stopsWithin_dims_of_args {list close start more : Text} {args : List TypeExpr} {dims : Nat}
    (htext : skipBlank text =
      written ++ (inner ++ '<' :: (list ++ (close ++ '>' :: (start ++ rest)))))
    (hname : WritesName written name) (hinner : isBlankText inner = true)
    (hargs : Writes list (.args args)) (hclose : isBlankText close = true)
    (hdims : WritesDims (start ++ more) dims) : StopsWithin text rest := by
  refine ⟨written ++ (inner ++ '<' :: (list ++ (close ++ '>' :: start))), more, ⟨name, args, dims⟩,
    by simp [htext], fun front hfront => ?_⟩
  simpa using Writes.generic hfront hname hinner hargs hclose hdims

theorem stopsWithin_dims {start more : Text} {dims : Nat}
    (htext : skipBlank text = written ++ (start ++ rest)) (hname : WritesName written name)
    (hdims : WritesDims (start ++ more) dims) : StopsWithin text rest := by
  refine ⟨written ++ start, more, ⟨name, [], dims⟩, by simp [htext], fun front hfront => ?_⟩
  simpa using Writes.plain hfront hname hdims

end Places

/-- Where reading a type stops, what has been read can be completed. -/
theorem stopsWithin_of_readType {fuel : Nat} {text rest : Text}
    (h : readType fuel text = .error (.unexpected rest)) : StopsWithin text rest := by
  induction fuel generalizing text rest with
  | zero =>
    cases h
    exact stopsWithin_name text
  | succ fuel ih =>
    rw [readType] at h
    split at h
    case h_1 behind hmark =>
      obtain ⟨inner, hinner, hbehind⟩ := exists_append_skipBlank behind
      simp only at h
      split at h
      case h_1 bound hupper =>
        obtain ⟨hkeyword, hblank⟩ := afterKeyword?_eq_some hupper
        exact (ih h).upperBound (by rw [hmark, hbehind, hkeyword]) hinner hblank
      case h_2 =>
        split at h
        case h_1 bound hlower =>
          obtain ⟨hkeyword, hblank⟩ := afterKeyword?_eq_some hlower
          obtain hbound | ⟨_, _, -, hend⟩ := Reading.andThen_eq_error_iff.mp h
          · exact (ih hbound).lowerBound (by rw [hmark, hbehind, hkeyword]) hinner hblank
          · cases hend
        case h_2 => cases h
    case h_2 =>
      obtain hmissing | ⟨name, behind, hname, hnext⟩ := Reading.andThen_eq_error_iff.mp h
      · rw [eq_of_readName hmissing]
        exact stopsWithin_name text
      obtain ⟨written, hwritten, hwritesName, -⟩ := readName_eq_ok_iff.mp hname
      obtain ⟨inner, hinner, hbehind⟩ := exists_append_skipBlank behind
      split at hnext
      case h_1 opened hopen =>
        rw [hbehind, hopen] at hwritten
        obtain hargs | ⟨args, left, hargs, hleft⟩ := Reading.andThen_eq_error_iff.mp hnext
        · obtain ⟨start, more, args, rfl, hwrites⟩ :=
            exists_of_readArgs_error (fun _ _ _ harg => isReadFrom_of_readType harg)
              (fun _ _ harg => ih harg) hargs
          exact stopsWithin_args hwritten hwritesName hinner hwrites
        · obtain ⟨list, close, rfl, hwrites, hclose⟩ :=
            exists_of_readArgs (fun _ _ _ harg => isReadFrom_of_readType harg) hargs
          obtain hdims | ⟨_, _, -, hend⟩ := Reading.andThen_eq_error_iff.mp hleft
          · obtain ⟨start, more, dims, rfl, hwritesDims⟩ := exists_of_readDims_error hdims
            exact stopsWithin_dims_of_args hwritten hwritesName hinner hwrites hclose hwritesDims
          · cases hend
      case h_2 =>
        obtain hdims | ⟨_, _, -, hend⟩ := Reading.andThen_eq_error_iff.mp hnext
        · rw [readDims_skipBlank] at hdims
          obtain ⟨start, more, dims, rfl, hwritesDims⟩ := exists_of_readDims_error hdims
          exact stopsWithin_dims hwritten hwritesName hwritesDims
        · cases hend

/-! ## Whole texts -/

/-- A text is refused because it is blank, because of a malformed name, or in front of a rest such
that what precedes the rest is viable. -/
theorem eq_or_exists_isViable_of_parse {text : Text} {refusal : ParseError}
    (h : parse text = .error refusal) :
    refusal = .empty ∨ (∃ name, refusal = .invalidName name) ∨
      ∃ start rest, text = start ++ rest ∧ IsViable start ∧
        refusal = (Fault.unexpected rest).inText text := by
  rw [parse] at h
  split at h
  case isTrue => exact .inl (Except.error.inj h).symm
  case isFalse =>
    refine .inr ?_
    split at h
    case h_1 fault hread =>
      cases fault with
      | badName name => exact .inl ⟨name, (Except.error.inj h).symm⟩
      | unexpected rest =>
        obtain ⟨start, more, type, hsplit, hwrites⟩ :=
          (stopsWithin_of_readType hread).exists_writes
        exact .inr ⟨start, rest, hsplit, isViable_of_writes hwrites, (Except.error.inj h).symm⟩
    case h_2 type behind hread =>
      obtain ⟨written, back, hsplit, hwrites, hback⟩ :=
        (isReadFrom_of_readType hread).exists_writes
      obtain ⟨gap, hgap, hbehind⟩ := exists_append_skipBlank behind
      split at h
      case h_1 => cases h
      case h_2 =>
        -- a whole type has been read, which nothing needs to complete
        have hwhole : parse (written ++ (back ++ gap) ++ []) = .ok type := by
          refine parse_of_isTextOf ⟨written, back ++ gap, List.append_nil _, hwrites, ?_⟩
          rw [isBlankText, List.all_append, Bool.and_eq_true]
          exact ⟨hback, hgap⟩
        refine .inr ⟨written ++ (back ++ gap), skipBlank behind, ?_, ⟨[], type, hwhole⟩,
          (Except.error.inj h).symm⟩
        rw [List.append_assoc, List.append_assoc, ← hbehind]
        exact hsplit

/-- **A refusal names the place of the fault.** If a character is refused, then it stands at the
offset, which cuts no character, and the text in front of it can be completed to one that is
accepted. If the text ends too early, then it can be completed itself. -/
theorem isViable_of_parse (text : Text) :
    (∀ offset found, parse text = .error (.unexpectedChar offset found) →
      ∃ start rest, text = start ++ found :: rest ∧ byteSize start = offset ∧ IsViable start) ∧
    (parse text = .error .unexpectedEnd → IsViable text) := by
  constructor
  · intro offset found h
    obtain hempty | ⟨name, hname⟩ | ⟨start, rest, rfl, hviable, hfault⟩ :=
      eq_or_exists_isViable_of_parse h
    · cases hempty
    · cases hname
    · cases rest with
      | nil => cases hfault
      | cons c rest =>
        obtain ⟨rfl, rfl⟩ := ParseError.unexpectedChar.inj hfault
        refine ⟨start, rest, rfl, ?_, hviable⟩
        rw [byteSize_append, Nat.add_sub_cancel]
  · intro h
    obtain hempty | ⟨name, hname⟩ | ⟨start, rest, rfl, hviable, hfault⟩ :=
      eq_or_exists_isViable_of_parse h
    · cases hempty
    · cases hname
    · cases rest with
      | nil => rwa [List.append_nil]
      | cons c rest => cases hfault

/-- A list of arguments in which a stray mark follows the second one. -/
def strayMark : Text :=
  "Map<é[], ? super b<c ;>>".toList

/-- A list of arguments that ends behind the keyword of a bound. -/
def openBound : Text :=
  "List< ? extends ".toList

theorem isViable_of_parse_strayMark_openBound :
    (parse strayMark = .error (.unexpectedChar 22 ';') ∧
      ∃ start rest, strayMark = start ++ ';' :: rest ∧ byteSize start = 22 ∧ IsViable start) ∧
    parse openBound = .error .unexpectedEnd ∧ IsViable openBound := by
  have hstray : parse strayMark = .error (.unexpectedChar 22 ';') := rfl
  have hopen : parse openBound = .error .unexpectedEnd := rfl
  exact ⟨⟨hstray, (isViable_of_parse strayMark).1 22 ';' hstray⟩, hopen,
    (isViable_of_parse openBound).2 hopen⟩

end PropertyKeys.TypeExpr

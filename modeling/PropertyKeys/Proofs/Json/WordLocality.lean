import PropertyKeys.Proofs.Json.Reading

/-!
# What the reader needs of a word

The reader decides on a value from the text that it takes. A text ends with its quotation mark, and
it is read in the same way whatever follows the mark. A literal or a number ends where something
else begins, so that it is read in the same way if what follows cannot go on with it.

## Main definitions

* `Json.ReadsUpTo`: a reader finds a value in front of a mark, whatever follows the mark.
* `Json.IsLocal`: a reader of values takes the same off any other text that starts like the one it
  has read.

## Main results

* `Json.readsUpTo_readText`: a text is read up to its closing quotation mark.
* `Json.exists_of_readNumber_local`: a number is read in the same way if it ends there.
* `Json.isLocal_readScalar`: the reader of values without items is local.
-/

namespace PropertyKeys.Json

/-- The reader finds the value in what stands in front of a mark, whatever follows the mark. -/
def ReadsUpTo {α : Type} (mark : Char) (read : Text → Reading ReadError α) (inside : Text)
    (value : α) : Prop :=
  ∀ after, read (inside ++ mark :: after) = .ok (value, after)

/-! ## Texts -/

theorem readHex4_cons {a b c d : Char} {n : Nat} (h : hexValue4? a b c d = some n) (rest : Text) :
    readHex4 (a :: b :: c :: d :: rest) = .ok (n, rest) := by
  rw [readHex4, h]

theorem readEscape_short {c e : Char} (h : shortEscape? c = some e) (rest : Text) :
    readEscape (c :: rest) = .ok (e, rest) := by
  have hcode : c = 'u' → False := by
    rintro rfl
    cases h
  rw [readEscape, h]
  exact hcode

theorem readEscape_code {a b c d : Char} {n : Nat} (hcode : hexValue4? a b c d = some n)
    (hlow : isLowSurrogate n = false) (hhigh : isHighSurrogate n = false) (rest : Text) :
    readEscape ('u' :: a :: b :: c :: d :: rest) = .ok (Char.ofNat n, rest) := by
  simp [readEscape, readHex4_cons hcode, hlow, hhigh]

/-- No number is the first half of a code point and the second one. -/
theorem isLowSurrogate_eq_false {n : Nat} (h : isHighSurrogate n = true) :
    isLowSurrogate n = false := by
  simp only [isHighSurrogate, Bool.and_eq_true, decide_eq_true_eq] at h
  simp only [isLowSurrogate, Bool.and_eq_false_iff, decide_eq_false_iff_not]
  omega

theorem readEscape_halves {a b c d e f g h : Char} {high low : Nat}
    (hfirst : hexValue4? a b c d = some high) (hhigh : isHighSurrogate high = true)
    (hsecond : hexValue4? e f g h = some low) (hlow : isLowSurrogate low = true) (rest : Text) :
    readEscape ('u' :: a :: b :: c :: d :: '\\' :: 'u' :: e :: f :: g :: h :: rest) =
      .ok (Char.ofNat (0x10000 + (high - 0xD800) * 0x400 + (low - 0xDC00)), rest) := by
  simp [readEscape, readLowSurrogate, readHex4_cons hfirst, readHex4_cons hsecond, hhigh, hlow,
    isLowSurrogate_eq_false hhigh]

/-- Behind an escape the text goes on, with fuel for what is left. -/
theorem readTextWithin_escape (escape : Text) {body : Text} {c : Char} {value : Text} {fuel : Nat}
    (hescape : ∀ rest, readEscape (escape ++ rest) = .ok (c, rest))
    (hbody : ∀ {fuel : Nat}, body.length < fuel → ReadsUpTo '"' (readTextWithin fuel) body value)
    (hfuel : ('\\' :: (escape ++ body)).length < fuel) :
    ReadsUpTo '"' (readTextWithin fuel) ('\\' :: (escape ++ body)) (c :: value) := by
  intro after
  obtain ⟨fuel, rfl⟩ := Nat.exists_eq_add_one_of_ne_zero (Nat.ne_zero_of_lt hfuel)
  have hrest : body.length < fuel := by
    simp only [List.length_cons, List.length_append] at hfuel
    omega
  rw [List.cons_append, List.append_assoc, readTextWithin, if_neg (by decide), if_pos rfl, hescape,
    Reading.andThen_ok, hbody hrest after, Reading.andThen_ok]

theorem readsUpTo_readTextWithin {body value : Text} (h : DenotesText body value) {fuel : Nat}
    (hfuel : body.length < fuel) : ReadsUpTo '"' (readTextWithin fuel) body value := by
  induction h generalizing fuel with
  | nil =>
    intro after
    obtain ⟨fuel, rfl⟩ := Nat.exists_eq_add_one_of_ne_zero (Nat.ne_zero_of_lt hfuel)
    rfl
  | @char c body value hquote hbackslash hcontrol _ ih =>
    intro after
    obtain ⟨fuel, rfl⟩ := Nat.exists_eq_add_one_of_ne_zero (Nat.ne_zero_of_lt hfuel)
    rw [List.cons_append, readTextWithin, if_neg hquote, if_neg hbackslash,
      if_neg (Nat.not_lt.mpr hcontrol), ih (Nat.lt_of_succ_lt_succ hfuel) after,
      Reading.andThen_ok]
  | @escape c e body value hescape _ ih =>
    exact readTextWithin_escape [c] (readEscape_short hescape) ih hfuel
  | @code a b c d n body value hcode hlow hhigh _ ih =>
    exact readTextWithin_escape ['u', a, b, c, d] (readEscape_code hcode hlow hhigh)
      ih hfuel
  | @halves a b c d e f g h high low body value hfirst hhigh hsecond hlow _ ih =>
    exact readTextWithin_escape ['u', a, b, c, d, '\\', 'u', e, f, g, h]
      (readEscape_halves hfirst hhigh hsecond hlow) ih hfuel

/-- A text between quotation marks is read, whatever follows the closing one. -/
theorem readsUpTo_readText {body value : Text} (h : DenotesText body value) :
    ReadsUpTo '"' readText body value :=
  fun after => readsUpTo_readTextWithin h (by simp) after

/-! ## Numbers -/

/-- No number goes on with the text. -/
def EndsNumber (rest : Text) : Prop :=
  EndsDigits rest ∧ rest.head? ≠ some '.' ∧ startsExponent rest = false

theorem endsNumber_of_endsScalar {rest : Text} (h : endsScalar rest = true) : EndsNumber rest := by
  cases rest with
  | nil => exact ⟨rfl, by simp, rfl⟩
  | cons c cs =>
    have hmark : c ∈ " \t\n\r\"[]\x7b\x7d,:".toList := by
      simpa [endsScalar, isSpace, or_assoc] using h
    have hall : ∀ d ∈ " \t\n\r\"[]\x7b\x7d,:".toList,
        d.isDigit = false ∧ d ≠ '.' ∧ d ≠ 'e' ∧ d ≠ 'E' := by simp
    obtain ⟨hdigit, hpoint, hsmall, hcapital⟩ := hall c hmark
    exact ⟨hdigit, by simpa using hpoint, by simp [startsExponent, hsmall, hcapital]⟩

theorem doubleOf_append {negative : Bool} {digits : Nat} {exponent : Int} {number : JsonNumber}
    (h : doubleOf negative digits exponent [] = .ok (number, [])) (rest : Text) :
    doubleOf negative digits exponent rest = .ok (number, rest) := by
  unfold doubleOf at h ⊢
  cases hvalue : Binary64.ofDecimal? digits exponent with
  | none => simp [hvalue] at h
  | some x => simpa [hvalue] using h

theorem integerOf_append {negative : Bool} {digits : Nat} {number : JsonNumber}
    (h : integerOf negative digits [] = .ok (number, [])) (rest : Text) :
    integerOf negative digits rest = .ok (number, rest) := by
  unfold integerOf at h ⊢
  split at h
  case isTrue hsign =>
    rw [if_pos hsign]
    simpa using h
  case isFalse hsign =>
    rw [if_neg hsign]
    split at h
    case isTrue hzero => rw [if_pos hzero, doubleOf_append h]
    case isFalse hzero =>
      rw [if_neg hzero]
      simpa using h

theorem wholeOf_append {negative : Bool} {integer : Text} {number : JsonNumber}
    (h : wholeOf negative integer [] = .ok (number, [])) (rest : Text) :
    wholeOf negative integer rest = .ok (number, rest) := by
  unfold wholeOf at h ⊢
  split at h
  case isTrue hleft => rw [if_pos hleft, integerOf_append h]
  case isFalse hleft => rw [if_neg hleft, doubleOf_append h]

theorem EndsDigits.append {text rest : Text} (h : EndsDigits text) (hrest : EndsDigits rest) :
    EndsDigits (text ++ rest) := by
  cases text with
  | nil => exact hrest
  | cons c cs => exact h

section

variable {negative : Bool} {digits : Nat} {exponent : Int} {number : JsonNumber} {rest : Text}

/-- The exponent of a number, or where it is converted without one, is read in the same way if no
number goes on with what follows. -/
theorem exponent_append {used : Text} (hused : IsExponent used)
    (finish : Text → Reading ReadError JsonNumber)
    (hfinish : finish [] = .ok (number, []) → finish rest = .ok (number, rest))
    (h : (if startsExponent used then readExponent negative digits exponent used.tail
      else finish used) = .ok (number, [])) (hrest : EndsNumber rest) :
    (if startsExponent (used ++ rest) then
        readExponent negative digits exponent (used ++ rest).tail
      else finish (used ++ rest)) = .ok (number, rest) := by
  rcases hused with rfl | ⟨mark, sign, ds, rfl, hmark, hsign, hds⟩
  · have hnone : ¬startsExponent ([] ++ rest) = true := Bool.eq_false_iff.mp hrest.2.2
    rw [if_neg hnone]
    exact hfinish h
  · have hstarts : ∀ more, startsExponent (mark :: more) = true := fun more => by
      simpa [startsExponent] using hmark
    have hends : EndsDigits [] := rfl
    have halone := readExponent_append hsign hds hends negative digits exponent
    rw [List.append_nil] at halone
    rw [List.cons_append, if_pos (hstarts _), List.tail_cons, halone] at h
    rw [List.cons_append, List.cons_append, if_pos (hstarts _), List.tail_cons, List.append_assoc,
      readExponent_append hsign hds hrest.1, doubleOf_append h]

theorem readFraction_append_rest {ds used : Text} (hds : IsDigits ds) (hused : IsExponent used)
    (h : readFraction negative digits exponent (ds ++ used) = .ok (number, []))
    (hrest : EndsNumber rest) :
    readFraction negative digits exponent (ds ++ (used ++ rest)) = .ok (number, rest) := by
  rw [readFraction_append hds hused.endsDigits] at h
  rw [readFraction_append hds (hused.endsDigits.append hrest.1)]
  exact exponent_append hused _ (fun hdouble => doubleOf_append hdouble rest) h hrest

theorem readAfterInteger_append {integer fraction used : Text} (hfraction : IsFraction fraction)
    (hused : IsExponent used)
    (h : readAfterInteger negative integer (fraction ++ used) = .ok (number, []))
    (hrest : EndsNumber rest) :
    readAfterInteger negative integer (fraction ++ (used ++ rest)) = .ok (number, rest) := by
  rw [readAfterInteger_eq] at h ⊢
  rcases hfraction with rfl | ⟨ds, rfl, hds⟩
  · have hpoint : ∀ more : Text, more.head? ≠ some '.' → (used ++ more).head? ≠ some '.' := by
      intro more hmore
      rcases hused with rfl | ⟨mark, sign, ds, rfl, rfl | rfl, -, -⟩
      · exact hmore
      all_goals simp
    have halone : used.head? ≠ some '.' := by simpa using hpoint [] (by simp)
    rw [List.nil_append, if_neg halone] at h
    rw [List.nil_append, if_neg (hpoint rest hrest.2.1)]
    exact exponent_append hused _ (fun hwhole => wholeOf_append hwhole rest) h hrest
  · rw [List.cons_append, List.head?_cons, if_pos rfl, List.tail_cons] at h ⊢
    exact readFraction_append_rest hds hused h hrest

/-- A number is read from its integer part on if the digits are all of it. -/
theorem readNumber_append {integer : Text} (hinteger : IsDigits integer)
    (hzero : integer.head? = some '0' → integer = ['0']) (hrest : EndsDigits rest) :
    readNumber negative (integer ++ rest) = readAfterInteger negative integer rest := by
  obtain ⟨c, cs, rfl⟩ := List.exists_cons_of_ne_nil hinteger.1
  obtain ⟨hc, hcs⟩ := Bool.and_eq_true_iff.mp hinteger.2
  rw [List.cons_append, readNumber]
  by_cases hfirst : c = '0'
  · obtain rfl : cs = [] := (List.cons.inj (hzero (by rw [hfirst]; rfl))).2
    have hdigit : ¬([] ++ rest).head?.any Char.isDigit = true := Bool.eq_false_iff.mp hrest
    rw [if_pos hfirst, if_neg hdigit, hfirst, List.nil_append]
  · obtain ⟨htake, hdrop⟩ := span_isDigit hcs hrest
    rw [if_neg hfirst, if_pos hc, htake, hdrop]

/-- A number is read in the same way if it cannot go on with what follows. -/
theorem exists_of_readNumber_local {text : Text}
    (h : readNumber negative text = .ok (number, rest)) :
    ∃ used, used ≠ [] ∧ text = used ++ rest ∧
      ∀ other, EndsNumber other → readNumber negative (used ++ other) = .ok (number, other) := by
  obtain ⟨integer, fraction, used, rfl, hinteger, hzero, hfraction, hused, hread⟩ :=
    exists_parts_of_readNumber h
  rw [List.append_assoc, readNumber_append hinteger hzero (hfraction.endsDigits hused)] at hread
  refine ⟨integer ++ fraction ++ used, by simp [hinteger.1], rfl, fun other hother => ?_⟩
  have hends : EndsDigits (fraction ++ (used ++ other)) := by
    rw [← List.append_assoc]
    exact (hfraction.endsDigits hused).append hother.1
  rw [List.append_assoc, List.append_assoc, readNumber_append hinteger hzero hends]
  exact readAfterInteger_append hfraction hused hread hother

end

/-! ## Values without items -/

/-- Off another text that starts like one it has read, the reader takes the same, if no literal and
no number goes on with what follows. -/
def IsLocal (readItem : Text → Reading ReadError Json) : Prop :=
  ∀ text value rest, readItem text = .ok (value, rest) →
    ∃ used, used ≠ [] ∧ text = used ++ rest ∧
      ∀ other, endsScalar other = true → readItem (used ++ other) = .ok (value, other)

theorem readLiteral_append (expected rest : Text) :
    readLiteral expected (expected ++ rest) = .ok ((), rest) := by
  induction expected with
  | nil => rfl
  | cons e expected ih => rw [List.cons_append, readLiteral, if_pos rfl, ih]

/-- A literal, of which the first character has been found. -/
theorem eq_of_readLiteral_andThen {expected text rest : Text} {literal value : Json}
    (h : (readLiteral expected text).andThen (fun _ rest => .ok (literal, rest)) =
      .ok (value, rest)) :
    text = expected ++ rest ∧ ∀ other,
      (readLiteral expected (expected ++ other)).andThen (fun _ rest => .ok (literal, rest)) =
        (.ok (value, other) : Reading ReadError Json) := by
  obtain ⟨⟨⟩, last, hliteral, hend⟩ := Reading.andThen_eq_ok_iff.mp h
  obtain ⟨rfl, rfl⟩ : literal = value ∧ last = rest := by simpa using hend
  exact ⟨eq_of_readLiteral hliteral, fun other => by rw [readLiteral_append, Reading.andThen_ok]⟩

/-- A value that starts with a digit is a number. -/
theorem readScalar_digit {c : Char} (hc : c.isDigit = true) (rest : Text) :
    readScalar (c :: rest) =
      (readNumber false (c :: rest)).andThen fun value rest => .ok (.number value, rest) := by
  have hne : ∀ d : Char, d.isDigit = false → c ≠ d := by
    rintro d hd rfl
    exact absurd hc (by simp [hd])
  rw [readScalar, if_pos hc]
  all_goals exact fun hfirst => hne _ (by decide) hfirst

theorem isLocal_readScalar : IsLocal readScalar := by
  intro text value rest h
  unfold readScalar at h
  split at h
  case h_1 => cases h
  case h_2 =>
    obtain ⟨rfl, hagain⟩ := eq_of_readLiteral_andThen h
    exact ⟨'n' :: "ull".toList, by simp, rfl, fun other _ => hagain other⟩
  case h_3 =>
    obtain ⟨rfl, hagain⟩ := eq_of_readLiteral_andThen h
    exact ⟨'t' :: "rue".toList, by simp, rfl, fun other _ => hagain other⟩
  case h_4 =>
    obtain ⟨rfl, hagain⟩ := eq_of_readLiteral_andThen h
    exact ⟨'f' :: "alse".toList, by simp, rfl, fun other _ => hagain other⟩
  case h_5 =>
    obtain ⟨string, last, htext, hend⟩ := Reading.andThen_eq_ok_iff.mp h
    obtain ⟨rfl, rfl⟩ : .string string = value ∧ last = rest := by simpa using hend
    obtain ⟨body, rfl, hbody⟩ := exists_of_readText htext
    refine ⟨'"' :: (body ++ ['"']), by simp, by simp, fun other _ => ?_⟩
    rw [List.cons_append, List.append_assoc, List.singleton_append, readScalar,
      readsUpTo_readText hbody other, Reading.andThen_ok]
  case h_6 =>
    obtain ⟨number, last, hnumber, hend⟩ := Reading.andThen_eq_ok_iff.mp h
    obtain ⟨rfl, rfl⟩ : .number number = value ∧ last = rest := by simpa using hend
    obtain ⟨used, -, rfl, hagain⟩ := exists_of_readNumber_local hnumber
    refine ⟨'-' :: used, by simp, rfl, fun other hother => ?_⟩
    rw [List.cons_append, readScalar, hagain other (endsNumber_of_endsScalar hother),
      Reading.andThen_ok]
  case h_7 c more _ _ _ _ _ =>
    split at h
    case isTrue hdigit =>
      obtain ⟨number, last, hnumber, hend⟩ := Reading.andThen_eq_ok_iff.mp h
      obtain ⟨rfl, rfl⟩ : .number number = value ∧ last = rest := by simpa using hend
      obtain ⟨used, hne, hused, hagain⟩ := exists_of_readNumber_local hnumber
      obtain ⟨d, used, rfl⟩ := List.exists_cons_of_ne_nil hne
      obtain ⟨rfl, -⟩ := List.cons.inj hused
      refine ⟨c :: used, hne, hused, fun other hother => ?_⟩
      have hread := hagain other (endsNumber_of_endsScalar hother)
      rw [List.cons_append] at hread ⊢
      rw [readScalar_digit hdigit, hread, Reading.andThen_ok]
    case isFalse => cases h

end PropertyKeys.Json

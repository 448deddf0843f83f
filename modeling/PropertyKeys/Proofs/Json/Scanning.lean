import PropertyKeys.Proofs.Json.Denotation

/-!
# The scanner follows the grammar

Whatever the scanner takes off the front of a text is written as the grammar wants it, and it stands
for what is returned. A number is the hard case: its end is found by looking at what follows, so
each part is shown to be read in the same way if nothing follows it.

## Main results

* `Json.exists_of_readText`: what is read as a text stands in front of a quotation mark.
* `Json.exists_of_readNumber`: what is read as a number is one, and no more is needed to read it.
-/

namespace PropertyKeys.Json

/-! ## Texts -/

theorem exists_of_readHex4 {text after : Text} {n : Nat} (h : readHex4 text = .ok (n, after)) :
    ∃ a b c d, text = a :: b :: c :: d :: after ∧ hexValue4? a b c d = some n := by
  unfold readHex4 at h
  split at h
  case h_1 a b c d rest =>
    cases hvalue : hexValue4? a b c d with
    | none => simp [hvalue] at h
    | some value =>
      obtain ⟨rfl, rfl⟩ : value = n ∧ rest = after := by simpa [hvalue] using h
      exact ⟨a, b, c, d, rfl, hvalue⟩
  case h_2 => cases h

/-- An escape stands for the character that is read. -/
theorem exists_of_readEscape {text after : Text} {c : Char}
    (h : readEscape text = .ok (c, after)) :
    ∃ escape, text = escape ++ after ∧ ∀ body value, DenotesText body value →
      DenotesText ('\\' :: (escape ++ body)) (c :: value) := by
  unfold readEscape at h
  split at h
  case h_1 => cases h
  case h_2 rest =>
    obtain ⟨n, more, hcode, hnext⟩ := Reading.andThen_eq_ok_iff.mp h
    obtain ⟨a, b, c', d, rfl, hvalue⟩ := exists_of_readHex4 hcode
    split at hnext
    case isTrue => cases hnext
    case isFalse hlow =>
      split at hnext
      case isTrue hhigh =>
        unfold readLowSurrogate at hnext
        split at hnext
        case h_3 rest =>
          obtain ⟨low, last, hsecond, hend⟩ := Reading.andThen_eq_ok_iff.mp hnext
          obtain ⟨e, f, g, h', rfl, hlast⟩ := exists_of_readHex4 hsecond
          split at hend
          case isTrue hislow =>
            obtain ⟨rfl, rfl⟩ : _ = c ∧ last = after := by simpa using hend
            exact ⟨['u', a, b, c', d, '\\', 'u', e, f, g, h'], rfl,
              fun _ _ hbody => .halves hvalue hhigh hlast hislow hbody⟩
          case isFalse => cases hend
        all_goals cases hnext
      case isFalse hhigh =>
        obtain ⟨rfl, rfl⟩ : _ = c ∧ more = after := by simpa using hnext
        exact ⟨['u', a, b, c', d], rfl, fun _ _ hbody =>
          .code hvalue (Bool.eq_false_iff.mpr hlow) (Bool.eq_false_iff.mpr hhigh) hbody⟩
  case h_3 d rest _ =>
    cases hescape : shortEscape? d with
    | none => simp [hescape] at h
    | some e =>
      obtain ⟨rfl, rfl⟩ : e = c ∧ rest = after := by simpa [hescape] using h
      exact ⟨[d], rfl, fun _ _ hbody => .escape hescape hbody⟩

theorem exists_of_readTextWithin {fuel : Nat} {text after value : Text}
    (h : readTextWithin fuel text = .ok (value, after)) :
    ∃ body, text = body ++ '"' :: after ∧ DenotesText body value := by
  induction fuel generalizing text value with
  | zero => cases h
  | succ fuel ih =>
    cases text with
    | nil => cases h
    | cons c rest =>
      rw [readTextWithin] at h
      split at h
      case isTrue hquote =>
        obtain ⟨rfl, rfl⟩ : [] = value ∧ rest = after := by simpa using h
        exact ⟨[], by rw [hquote]; rfl, .nil⟩
      case isFalse hquote =>
        split at h
        case isTrue hbackslash =>
          obtain ⟨d, more, hescape, hnext⟩ := Reading.andThen_eq_ok_iff.mp h
          obtain ⟨cs, last, hrest, hend⟩ := Reading.andThen_eq_ok_iff.mp hnext
          obtain ⟨rfl, rfl⟩ : d :: cs = value ∧ last = after := by simpa using hend
          obtain ⟨escape, rfl, hdenotes⟩ := exists_of_readEscape hescape
          obtain ⟨body, rfl, hbody⟩ := ih hrest
          exact ⟨'\\' :: (escape ++ body), by simp [hbackslash], hdenotes body cs hbody⟩
        case isFalse hbackslash =>
          split at h
          case isTrue => cases h
          case isFalse hcontrol =>
            obtain ⟨cs, last, hrest, hend⟩ := Reading.andThen_eq_ok_iff.mp h
            obtain ⟨rfl, rfl⟩ : c :: cs = value ∧ last = after := by simpa using hend
            obtain ⟨body, rfl, hbody⟩ := ih hrest
            exact ⟨c :: body, rfl, .char hquote hbackslash (Nat.not_lt.mp hcontrol) hbody⟩

/-- What is read as a text is what stands in front of the closing quotation mark. -/
theorem exists_of_readText {text after value : Text} (h : readText text = .ok (value, after)) :
    ∃ body, text = body ++ '"' :: after ∧ DenotesText body value :=
  exists_of_readTextWithin h

/-! ## Literals and numbers -/

theorem eq_of_readLiteral {expected text after : Text}
    (h : readLiteral expected text = .ok ((), after)) : text = expected ++ after := by
  induction expected generalizing text with
  | nil =>
    obtain rfl : text = after := by simpa [readLiteral] using h
    rfl
  | cons e expected ih =>
    cases text with
    | nil => cases h
    | cons c rest =>
      rw [readLiteral] at h
      split at h
      case isTrue hc => rw [hc, ih h, List.cons_append]
      case isFalse => cases h

theorem doubleOf_eq_ok {negative : Bool} {digits : Nat} {exponent : Int} {rest after : Text}
    {number : JsonNumber} (h : doubleOf negative digits exponent rest = .ok (number, after)) :
    rest = after ∧ doubleOf negative digits exponent [] = .ok (number, []) := by
  unfold doubleOf at h ⊢
  cases hvalue : Binary64.ofDecimal? digits exponent with
  | none => simp [hvalue] at h
  | some x =>
    obtain ⟨rfl, rfl⟩ : _ = number ∧ rest = after := by simpa [hvalue] using h
    exact ⟨rfl, rfl⟩

theorem integerOf_eq_ok {negative : Bool} {digits : Nat} {rest after : Text}
    {number : JsonNumber} (h : integerOf negative digits rest = .ok (number, after)) :
    rest = after ∧ integerOf negative digits [] = .ok (number, []) := by
  unfold integerOf at h ⊢
  split at h
  case isTrue hsign =>
    obtain ⟨rfl, rfl⟩ : _ = number ∧ rest = after := by simpa using h
    exact ⟨rfl, by rw [if_pos hsign]⟩
  case isFalse hsign =>
    rw [if_neg hsign]
    split at h
    case isTrue hzero =>
      obtain ⟨rfl, hdouble⟩ := doubleOf_eq_ok h
      exact ⟨rfl, by rw [if_pos hzero, hdouble]⟩
    case isFalse hzero =>
      obtain ⟨rfl, rfl⟩ : _ = number ∧ rest = after := by simpa using h
      exact ⟨rfl, by rw [if_neg hzero]⟩

/-- The text does not go on with a digit. -/
def EndsDigits (rest : Text) : Prop :=
  rest.head?.any Char.isDigit = false

theorem span_isDigit {digits rest : Text} (hdigits : digits.all Char.isDigit = true)
    (hrest : EndsDigits rest) :
    (digits ++ rest).takeWhile Char.isDigit = digits ∧
      (digits ++ rest).dropWhile Char.isDigit = rest := by
  induction digits with
  | nil =>
    cases rest with
    | nil => exact ⟨rfl, rfl⟩
    | cons c cs =>
      have hc : c.isDigit = false := hrest
      simp [hc]
  | cons d ds ih =>
    obtain ⟨hd, hds⟩ := Bool.and_eq_true_iff.mp hdigits
    obtain ⟨htake, hdrop⟩ := ih hds
    simp [hd, htake, hdrop]

/-- A text that starts with a digit starts with as many digits as there are. -/
theorem exists_digits {text : Text} (h : text.head?.any Char.isDigit = true) :
    ∃ digits rest, text = digits ++ rest ∧ IsDigits digits ∧ EndsDigits rest := by
  refine ⟨text.takeWhile Char.isDigit, text.dropWhile Char.isDigit,
    List.takeWhile_append_dropWhile.symm, ⟨?_, List.all_takeWhile⟩, ?_⟩
  · cases text with
    | nil => cases h
    | cons c cs =>
      have hc : c.isDigit = true := h
      simp [hc]
  · have hhead := List.head?_dropWhile_not Char.isDigit text
    rw [EndsDigits]
    cases hdrop : (text.dropWhile Char.isDigit).head? with
    | none => rfl
    | some c => rw [hdrop] at hhead; exact hhead

/-- What a sign and digits behind the letter add to the exponent. -/
def exponentShift (sign digits : Text) : Int :=
  let size : Nat := digits.foldl (fun n d => n * 10 + (d.toNat - '0'.toNat)) 0
  if sign = ['-'] then -size else size

def IsSign (sign : Text) : Prop :=
  sign = [] ∨ sign = ['+'] ∨ sign = ['-']

theorem readExponent_append {sign ds rest : Text} (hsign : IsSign sign) (hds : IsDigits ds)
    (hrest : EndsDigits rest) (negative : Bool) (digits : Nat) (exponent : Int) :
    readExponent negative digits exponent (sign ++ (ds ++ rest)) =
      doubleOf negative digits (exponent + exponentShift sign ds) rest := by
  obtain ⟨htake, hdrop⟩ := span_isDigit hds.2 hrest
  obtain ⟨d, ds, rfl⟩ := List.exists_cons_of_ne_nil hds.1
  obtain ⟨hd, -⟩ := Bool.and_eq_true_iff.mp hds.2
  have hplus : d ≠ '+' := by rintro rfl; cases hd
  have hminus : d ≠ '-' := by rintro rfl; cases hd
  rw [List.cons_append] at htake hdrop
  rcases hsign with rfl | rfl | rfl
  · simp [readExponent, hplus, hminus, hd, htake, hdrop, exponentShift]
  · simp [readExponent, hd, htake, hdrop, exponentShift]
  · simp [readExponent, hd, htake, hdrop, exponentShift]

/-- Behind the letter of an exponent stands a digit, perhaps with a sign before it. -/
theorem exists_sign_of_readExponent {negative : Bool} {digits : Nat} {exponent : Int}
    {text after : Text} {number : JsonNumber}
    (h : readExponent negative digits exponent text = .ok (number, after)) :
    ∃ sign more, text = sign ++ more ∧ IsSign sign ∧ more.head?.any Char.isDigit = true := by
  cases text with
  | nil => cases h
  | cons c cs =>
    by_cases hplus : c = '+'
    · refine ⟨['+'], cs, by rw [hplus]; rfl, .inr (.inl rfl), ?_⟩
      rw [← Bool.not_eq_false]
      intro hdigit
      cases cs <;> simp_all [readExponent]
    by_cases hminus : c = '-'
    · refine ⟨['-'], cs, by rw [hminus]; rfl, .inr (.inr rfl), ?_⟩
      rw [← Bool.not_eq_false]
      intro hdigit
      cases cs <;> simp_all [readExponent]
    refine ⟨[], c :: cs, rfl, .inl rfl, ?_⟩
    rw [← Bool.not_eq_false]
    intro hdigit
    simp_all [readExponent]

theorem exists_of_readExponent {negative : Bool} {digits : Nat} {exponent : Int}
    {text after : Text} {number : JsonNumber}
    (h : readExponent negative digits exponent text = .ok (number, after)) :
    ∃ sign ds, text = sign ++ (ds ++ after) ∧ IsSign sign ∧ IsDigits ds ∧
      readExponent negative digits exponent (sign ++ ds) = .ok (number, []) := by
  obtain ⟨sign, more, rfl, hsign, hdigit⟩ := exists_sign_of_readExponent h
  obtain ⟨ds, rest, rfl, hds, hrest⟩ := exists_digits hdigit
  rw [readExponent_append hsign hds hrest] at h
  obtain ⟨rfl, hdouble⟩ := doubleOf_eq_ok h
  refine ⟨sign, ds, rfl, hsign, hds, ?_⟩
  have hends : EndsDigits [] := rfl
  have hagain := readExponent_append hsign hds hends negative digits exponent
  rw [List.append_nil] at hagain
  rw [hagain, hdouble]

/-- The part of a number behind its integer digits, up to the exponent. -/
def IsFraction (text : Text) : Prop :=
  text = [] ∨ ∃ digits, text = '.' :: digits ∧ IsDigits digits

/-- The exponent of a number, with its letter. -/
def IsExponent (text : Text) : Prop :=
  text = [] ∨ ∃ mark sign digits, text = mark :: sign ++ digits ∧
    (mark = 'e' ∨ mark = 'E') ∧ IsSign sign ∧ IsDigits digits

theorem IsExponent.endsDigits {text : Text} (h : IsExponent text) : EndsDigits text := by
  rcases h with rfl | ⟨mark, sign, digits, rfl, rfl | rfl, -, -⟩ <;> rfl

theorem IsFraction.endsDigits {fraction exponent : Text} (h : IsFraction fraction)
    (hexponent : IsExponent exponent) : EndsDigits (fraction ++ exponent) := by
  rcases h with rfl | ⟨digits, rfl, -⟩
  · exact hexponent.endsDigits
  · rfl

/-- A number ends with its exponent, if there is one, or else where it is converted. -/
theorem exists_of_exponent {negative : Bool} {digits : Nat} {exponent : Int}
    (finish : Text → Reading ReadError JsonNumber) {text after : Text} {number : JsonNumber}
    (hfinish : finish text = .ok (number, after) → text = after ∧ finish [] = .ok (number, []))
    (h : (if startsExponent text then readExponent negative digits exponent text.tail
      else finish text) = .ok (number, after)) :
    ∃ used, text = used ++ after ∧ IsExponent used ∧
      (if startsExponent used then readExponent negative digits exponent used.tail
        else finish used) = .ok (number, []) := by
  split at h
  case isTrue hstarts =>
    obtain ⟨mark, more, rfl⟩ : ∃ mark more, text = mark :: more := by
      cases text with
      | nil => cases hstarts
      | cons mark more => exact ⟨mark, more, rfl⟩
    have hmark : mark = 'e' ∨ mark = 'E' := by simpa [startsExponent] using hstarts
    obtain ⟨sign, ds, rfl, hsign, hds, hread⟩ := exists_of_readExponent h
    refine ⟨mark :: sign ++ ds, by simp, .inr ⟨mark, sign, ds, rfl, hmark, hsign, hds⟩, ?_⟩
    rw [if_pos (by simpa [startsExponent] using hmark)]
    exact hread
  case isFalse =>
    obtain ⟨rfl, hend⟩ := hfinish h
    exact ⟨[], rfl, .inl rfl, hend⟩

theorem readFraction_append {ds rest : Text} (hds : IsDigits ds) (hrest : EndsDigits rest)
    (negative : Bool) (digits : Nat) (exponent : Int) :
    readFraction negative digits exponent (ds ++ rest) =
      if startsExponent rest then
        readExponent negative (takeDigits digits ds).1
          (exponent - (ds.length - (takeDigits digits ds).2 : Nat)) rest.tail
      else doubleOf negative (takeDigits digits ds).1
        (exponent - (ds.length - (takeDigits digits ds).2 : Nat)) rest := by
  obtain ⟨htake, hdrop⟩ := span_isDigit hds.2 hrest
  have hsome : ds.isEmpty = false := by simpa using hds.1
  rw [readFraction, htake, hdrop]
  simp [hsome]

theorem exists_of_readFraction {negative : Bool} {digits : Nat} {exponent : Int}
    {text after : Text} {number : JsonNumber}
    (h : readFraction negative digits exponent text = .ok (number, after)) :
    ∃ ds used, text = ds ++ used ++ after ∧ IsDigits ds ∧ IsExponent used ∧
      readFraction negative digits exponent (ds ++ used) = .ok (number, []) := by
  have hdigit : text.head?.any Char.isDigit = true := by
    rw [← Bool.not_eq_false]
    intro hnone
    have hnil : ([] : Text).all Char.isDigit = true := rfl
    have hempty := (span_isDigit hnil hnone).1
    rw [readFraction, ← List.nil_append text, hempty] at h
    cases h
  obtain ⟨ds, rest, rfl, hds, hrest⟩ := exists_digits hdigit
  rw [readFraction_append hds hrest] at h
  obtain ⟨used, rfl, hused, hread⟩ := exists_of_exponent _ doubleOf_eq_ok h
  refine ⟨ds, used, by rw [List.append_assoc], hds, hused, ?_⟩
  rw [readFraction_append hds hused.endsDigits, hread]

/-- The number with the integer digits and nothing behind them. -/
def wholeOf (negative : Bool) (integer text : Text) : Reading ReadError JsonNumber :=
  if (takeDigits 0 integer).2 = 0 then integerOf negative (takeDigits 0 integer).1 text
  else doubleOf negative (takeDigits 0 integer).1 (takeDigits 0 integer).2 text

theorem wholeOf_eq_ok {negative : Bool} {integer text after : Text} {number : JsonNumber}
    (h : wholeOf negative integer text = .ok (number, after)) :
    text = after ∧ wholeOf negative integer [] = .ok (number, []) := by
  rw [wholeOf] at h ⊢
  split at h
  case isTrue hleft =>
    rw [if_pos hleft]
    exact integerOf_eq_ok h
  case isFalse hleft =>
    rw [if_neg hleft]
    exact doubleOf_eq_ok h

theorem readAfterInteger_eq (negative : Bool) (integer text : Text) :
    readAfterInteger negative integer text =
      if text.head? = some '.' then
        readFraction negative (takeDigits 0 integer).1 (takeDigits 0 integer).2 text.tail
      else if startsExponent text then
        readExponent negative (takeDigits 0 integer).1 (takeDigits 0 integer).2 text.tail
      else wholeOf negative integer text := rfl

theorem exists_of_readAfterInteger {negative : Bool} {integer text after : Text}
    {number : JsonNumber} (h : readAfterInteger negative integer text = .ok (number, after)) :
    ∃ fraction used, text = fraction ++ used ++ after ∧ IsFraction fraction ∧ IsExponent used ∧
      readAfterInteger negative integer (fraction ++ used) = .ok (number, []) := by
  rw [readAfterInteger_eq] at h
  split at h
  case isTrue hpoint =>
    obtain ⟨more, rfl⟩ := List.head?_eq_some_iff.mp hpoint
    obtain ⟨ds, used, rfl, hds, hused, hread⟩ := exists_of_readFraction h
    refine ⟨'.' :: ds, used, rfl, .inr ⟨ds, rfl, hds⟩, hused, ?_⟩
    rw [readAfterInteger_eq]
    simpa using hread
  case isFalse hpoint =>
    obtain ⟨used, rfl, hused, hread⟩ :=
      exists_of_exponent (wholeOf negative integer) wholeOf_eq_ok h
    refine ⟨[], used, rfl, .inl rfl, hused, ?_⟩
    have hnone : ([] ++ used).head? ≠ some '.' := by
      rcases hused with rfl | ⟨mark, sign, ds, rfl, rfl | rfl, -, -⟩ <;> simp
    rw [readAfterInteger_eq, if_neg hnone]
    exact hread

/-- A number is read in its parts, and in the same way if nothing follows it. -/
theorem exists_parts_of_readNumber {negative : Bool} {text after : Text} {number : JsonNumber}
    (h : readNumber negative text = .ok (number, after)) :
    ∃ integer fraction exponent, text = integer ++ fraction ++ exponent ++ after ∧
      IsDigits integer ∧ (integer.head? = some '0' → integer = ['0']) ∧ IsFraction fraction ∧
      IsExponent exponent ∧
      readNumber negative (integer ++ fraction ++ exponent) = .ok (number, []) := by
  cases text with
  | nil => cases h
  | cons c rest =>
    rw [readNumber] at h
    split at h
    case isTrue hc =>
      subst hc
      split at h
      case isTrue => cases h
      case isFalse hdigit =>
        obtain ⟨fraction, used, rfl, hfraction, hused, hread⟩ := exists_of_readAfterInteger h
        refine ⟨['0'], fraction, used, by simp, ⟨by simp, rfl⟩, fun _ => rfl, hfraction, hused, ?_⟩
        have hends : ¬(fraction ++ used).head?.any Char.isDigit = true :=
          Bool.eq_false_iff.mp (hfraction.endsDigits hused)
        rw [List.append_assoc, List.singleton_append, readNumber, if_pos rfl, if_neg hends, hread]
    case isFalse hc =>
      split at h
      case isTrue hdigit =>
        obtain ⟨fraction, used, hrest, hfraction, hused, hread⟩ := exists_of_readAfterInteger h
        have hdigits : (rest.takeWhile Char.isDigit).all Char.isDigit = true := List.all_takeWhile
        refine ⟨c :: rest.takeWhile Char.isDigit, fraction, used, ?_, ⟨by simp, ?_⟩, ?_,
          hfraction, hused, ?_⟩
        · rw [List.append_assoc, List.append_assoc, ← List.append_assoc fraction, ← hrest,
            List.cons_append, List.takeWhile_append_dropWhile]
        · rw [List.all_cons, hdigit, hdigits, Bool.true_and]
        · intro hhead
          exact absurd (Option.some.inj hhead) hc
        · obtain ⟨htake, hdrop⟩ := span_isDigit hdigits (hfraction.endsDigits hused)
          rw [List.append_assoc, List.cons_append, readNumber, if_neg hc, if_pos hdigit, htake,
            hdrop, hread]
      case isFalse => cases h

/-- What is read as a number is a number, and it is read like that if nothing follows it. -/
theorem exists_of_readNumber {negative : Bool} {text after : Text} {number : JsonNumber}
    (h : readNumber negative text = .ok (number, after)) :
    ∃ used, text = used ++ after ∧
      DenotesNumber ((if negative then ['-'] else []) ++ used) number := by
  obtain ⟨integer, fraction, exponent, rfl, hinteger, hzero, hfraction, hexponent, hread⟩ :=
    exists_parts_of_readNumber h
  have hminus : (if negative then ['-'] else []) = [] ∨
      (if negative then ['-'] else []) = ['-'] := by
    cases negative
    · exact .inl rfl
    · exact .inr rfl
  refine ⟨integer ++ fraction ++ exponent, rfl, ?_, negative, _, rfl, hread⟩
  exact ⟨_, integer, fraction, exponent, by simp, hminus, hinteger, hzero, hfraction, hexponent⟩

end PropertyKeys.Json

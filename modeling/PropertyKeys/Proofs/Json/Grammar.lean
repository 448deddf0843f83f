import PropertyKeys.Json.Scanner

/-!
# The grammar of JSON

The strict grammar in two layers: characters make tokens, and tokens make values. Blanks and
comments belong to neither of them, they stand in the gaps between tokens.

## Main definitions

* `Json.Token` / `Json.Token.text`: the tokens and how they are written.
* `Json.Derives`: the token sequences of values, and of what stands in an array or an object.

## Main results

* `Json.Derives.isWellFormed`: all tokens of a value are well formed.
* `Json.Derives.commasContinue`: behind a comma the array or the object goes on.
-/

namespace PropertyKeys.Json

/-! ## Characters of tokens -/

/-- Whether a character is a hexadecimal digit, in either case. -/
def isHexDigit (c : Char) : Bool :=
  c.isDigit || ('a' ≤ c && c ≤ 'f') || ('A' ≤ c && c ≤ 'F')

/-- What may stand between quotation marks: no mark that ends the text, no control character, and
only complete escapes. -/
inductive IsTextBody : Text → Prop
  | nil : IsTextBody []
  | char {c : Char} {rest : Text} (hquote : c ≠ '"') (hbackslash : c ≠ '\\')
      (hcontrol : 0x20 ≤ c.toNat) (hrest : IsTextBody rest) : IsTextBody (c :: rest)
  | escape {c : Char} {rest : Text} (hc : c ∈ "\"\\/bfnrt".toList) (hrest : IsTextBody rest) :
    IsTextBody ('\\' :: c :: rest)
  | code {a b c d : Char} {rest : Text} (hdigits : [a, b, c, d].all isHexDigit = true)
      (hrest : IsTextBody rest) : IsTextBody ('\\' :: 'u' :: a :: b :: c :: d :: rest)

/-- One or more digits. -/
def IsDigits (text : Text) : Prop :=
  text ≠ [] ∧ text.all Char.isDigit = true

/-- A number: an integer without superfluous zeros at the front, perhaps with a minus sign, a
fraction and an exponent. -/
def IsNumber (text : Text) : Prop :=
  ∃ minus integer fraction exponent,
    text = minus ++ integer ++ fraction ++ exponent ∧
    (minus = [] ∨ minus = ['-']) ∧
    IsDigits integer ∧ (integer.head? = some '0' → integer = ['0']) ∧
    (fraction = [] ∨ ∃ digits, fraction = '.' :: digits ∧ IsDigits digits) ∧
    (exponent = [] ∨ ∃ mark sign digits, exponent = mark :: sign ++ digits ∧
      (mark = 'e' ∨ mark = 'E') ∧ (sign = [] ∨ sign = ['+'] ∨ sign = ['-']) ∧ IsDigits digits)

/-! ## Tokens -/

/-- A token. A text is given by what stands between its quotation marks. -/
inductive Token where
  | openArray
  | closeArray
  | openObject
  | closeObject
  | colon
  | comma
  | literal (text : Text)
  | number (text : Text)
  | string (body : Text)
  deriving DecidableEq, Repr

namespace Token

/-- How a token is written. -/
def text : Token → Text
  | .openArray => ['[']
  | .closeArray => [']']
  | .openObject => ['\x7b']
  | .closeObject => ['\x7d']
  | .colon => [':']
  | .comma => [',']
  | .literal text => text
  | .number text => text
  | .string body => '"' :: body ++ ['"']

/-- Whether a token ends an array or an object. -/
def closes : Token → Bool
  | .closeArray | .closeObject => true
  | _ => false

/-- A token that is a value by itself. -/
def IsScalar : Token → Prop
  | .literal text => text = "null".toList ∨ text = "true".toList ∨ text = "false".toList
  | .number text => IsNumber text
  | .string body => IsTextBody body
  | _ => False

/-- A mark, or a value that is written as it should be. -/
def IsWellFormed : Token → Prop
  | .literal text => IsScalar (.literal text)
  | .number text => IsScalar (.number text)
  | .string body => IsScalar (.string body)
  | _ => True

theorem IsScalar.isWellFormed {token : Token} (h : token.IsScalar) : token.IsWellFormed := by
  cases token with
  | literal text => exact h
  | number text => exact h
  | string body => exact h
  | _ => trivial

theorem IsScalar.ne_comma {token : Token} (h : token.IsScalar) : token ≠ .comma := by
  rintro rfl
  exact h

theorem IsScalar.closes_eq_false {token : Token} (h : token.IsScalar) : token.closes = false := by
  cases token with
  | closeArray => exact absurd h id
  | closeObject => exact absurd h id
  | _ => rfl

end Token

/-! ## Values -/

/-- What a sequence of tokens makes up. -/
inductive Phrase where
  | value
  /-- The items of an array, at least one. -/
  | items
  /-- The members of an object, at least one. -/
  | members

/-- The token sequences of each phrase. -/
inductive Derives : Phrase → List Token → Prop
  | scalar {token : Token} (h : token.IsScalar) : Derives .value [token]
  | emptyArray : Derives .value [.openArray, .closeArray]
  | array {items : List Token} (h : Derives .items items) :
    Derives .value (.openArray :: items ++ [.closeArray])
  | emptyObject : Derives .value [.openObject, .closeObject]
  | object {members : List Token} (h : Derives .members members) :
    Derives .value (.openObject :: members ++ [.closeObject])
  | lastItem {value : List Token} (h : Derives .value value) : Derives .items value
  | item {value items : List Token} (h : Derives .value value) (hmore : Derives .items items) :
    Derives .items (value ++ .comma :: items)
  | lastMember {name : Text} {value : List Token} (hname : IsTextBody name)
      (h : Derives .value value) : Derives .members (.string name :: .colon :: value)
  | member {name : Text} {value members : List Token} (hname : IsTextBody name)
      (h : Derives .value value) (hmore : Derives .members members) :
    Derives .members (.string name :: .colon :: value ++ .comma :: members)

namespace Derives

variable {phrase : Phrase} {tokens : List Token}

/-- All tokens of a phrase are well formed. -/
theorem isWellFormed (h : Derives phrase tokens) : ∀ token ∈ tokens, token.IsWellFormed := by
  induction h with
  | scalar h => simpa using h.isWellFormed
  | emptyArray => simp [Token.IsWellFormed]
  | array _ ih => simpa [Token.IsWellFormed, or_imp, forall_and] using ih
  | emptyObject => simp [Token.IsWellFormed]
  | object _ ih => simpa [Token.IsWellFormed, or_imp, forall_and] using ih
  | lastItem _ ih => exact ih
  | item _ _ ih ihmore => simpa [Token.IsWellFormed, or_imp, forall_and] using ⟨ih, ihmore⟩
  | lastMember hname _ ih =>
    simpa [Token.IsWellFormed, Token.IsScalar, or_imp, forall_and] using ⟨hname, ih⟩
  | member hname _ _ ih ihmore =>
    simpa [Token.IsWellFormed, Token.IsScalar, or_imp, forall_and] using ⟨hname, ih, ihmore⟩

/-- No phrase starts with a mark that closes an array or an object. -/
theorem exists_cons (h : Derives phrase tokens) :
    ∃ first rest, tokens = first :: rest ∧ first.closes = false := by
  induction h with
  | scalar h => exact ⟨_, _, rfl, h.closes_eq_false⟩
  | emptyArray => exact ⟨_, _, rfl, rfl⟩
  | array _ _ => exact ⟨_, _, rfl, rfl⟩
  | emptyObject => exact ⟨_, _, rfl, rfl⟩
  | object _ _ => exact ⟨_, _, rfl, rfl⟩
  | lastItem _ ih => exact ih
  | item _ _ ih _ =>
    obtain ⟨first, rest, rfl, hfirst⟩ := ih
    exact ⟨first, _, rfl, hfirst⟩
  | lastMember _ _ _ => exact ⟨_, _, rfl, rfl⟩
  | member _ _ _ _ _ => exact ⟨_, _, rfl, rfl⟩

end Derives

/-- Behind each comma something comes that closes nothing. -/
def CommasContinue : List Token → Prop
  | [] => True
  | token :: tokens =>
    (token = .comma → ∃ next rest, tokens = next :: rest ∧ next.closes = false) ∧
      CommasContinue tokens

theorem CommasContinue.cons {token : Token} {tokens : List Token} (hne : token ≠ .comma)
    (h : CommasContinue tokens) : CommasContinue (token :: tokens) :=
  ⟨fun heq => absurd heq hne, h⟩

/-- Behind a comma the array or the object goes on. -/
theorem Derives.commasContinue {phrase : Phrase} {tokens : List Token}
    (h : Derives phrase tokens) : CommasContinue tokens := by
  -- the induction carries along what follows the phrase
  have hbefore : ∀ rest, CommasContinue rest → CommasContinue (tokens ++ rest) := by
    induction h with
    | scalar h => exact fun rest hrest => .cons h.ne_comma hrest
    | emptyArray => exact fun rest hrest => .cons (by decide) (.cons (by decide) hrest)
    | array _ ih =>
      intro rest hrest
      simp only [List.cons_append, List.append_assoc]
      exact .cons (by decide) (ih _ (.cons (by decide) hrest))
    | emptyObject => exact fun rest hrest => .cons (by decide) (.cons (by decide) hrest)
    | object _ ih =>
      intro rest hrest
      simp only [List.cons_append, List.append_assoc]
      exact .cons (by decide) (ih _ (.cons (by decide) hrest))
    | lastItem _ ih => exact ih
    | item _ hmore ih ihmore =>
      intro rest hrest
      obtain ⟨first, more, rfl, hfirst⟩ := hmore.exists_cons
      rw [List.append_assoc]
      exact ih _ ⟨fun _ => ⟨first, _, rfl, hfirst⟩, ihmore rest hrest⟩
    | lastMember _ _ ih =>
      exact fun rest hrest => .cons (by simp) (.cons (by decide) (ih rest hrest))
    | member _ _ hmore ih ihmore =>
      intro rest hrest
      obtain ⟨first, more, rfl, hfirst⟩ := hmore.exists_cons
      rw [List.append_assoc]
      exact .cons (by simp) (.cons (by decide)
        (ih _ ⟨fun _ => ⟨first, _, rfl, hfirst⟩, ihmore rest hrest⟩))
  simpa using hbefore [] trivial

end PropertyKeys.Json

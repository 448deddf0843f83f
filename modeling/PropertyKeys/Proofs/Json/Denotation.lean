import PropertyKeys.Proofs.Json.Grammar

/-!
# What JSON tokens denote

The strict grammar with the values: which value a sequence of tokens stands for. A text stands for
its characters, where two escapes may write one character in two halves, but a half alone is
nothing. An object whose members repeat a name keeps the last value.

## Main definitions

* `Json.DenotesText`: the text that stands between quotation marks.
* `Json.Denotes`: the values, items and members that tokens denote.

## Main results

* `Json.Denotes.derives`: tokens that denote something follow the grammar.
-/

namespace PropertyKeys.Json

/-! ## Tokens -/

/-- The characters that a text between quotation marks stands for. -/
inductive DenotesText : Text → Text → Prop
  | nil : DenotesText [] []
  | char {c : Char} {body value : Text} (hquote : c ≠ '"') (hbackslash : c ≠ '\\')
      (hcontrol : 0x20 ≤ c.toNat) (hbody : DenotesText body value) :
    DenotesText (c :: body) (c :: value)
  | escape {c e : Char} {body value : Text} (hescape : shortEscape? c = some e)
      (hbody : DenotesText body value) : DenotesText ('\\' :: c :: body) (e :: value)
  | code {a b c d : Char} {n : Nat} {body value : Text} (hcode : hexValue4? a b c d = some n)
      (hlow : isLowSurrogate n = false) (hhigh : isHighSurrogate n = false)
      (hbody : DenotesText body value) :
    DenotesText ('\\' :: 'u' :: a :: b :: c :: d :: body) (Char.ofNat n :: value)
  | halves {a b c d e f g h : Char} {high low : Nat} {body value : Text}
      (hfirst : hexValue4? a b c d = some high) (hhigh : isHighSurrogate high = true)
      (hsecond : hexValue4? e f g h = some low) (hlow : isLowSurrogate low = true)
      (hbody : DenotesText body value) :
    DenotesText
      ('\\' :: 'u' :: a :: b :: c :: d :: '\\' :: 'u' :: e :: f :: g :: h :: body)
      (Char.ofNat (0x10000 + (high - 0xD800) * 0x400 + (low - 0xDC00)) :: value)

/-- The number that a text stands for if nothing else follows it. -/
def DenotesNumber (text : Text) (number : JsonNumber) : Prop :=
  IsNumber text ∧ ∃ negative digits, text = (if negative then ['-'] else []) ++ digits ∧
    readNumber negative digits = .ok (number, [])

/-- The value that a token stands for by itself. -/
inductive DenotesScalar : Token → Json → Prop
  | null : DenotesScalar (.literal "null".toList) .null
  | true : DenotesScalar (.literal "true".toList) (.bool true)
  | false : DenotesScalar (.literal "false".toList) (.bool false)
  | number {text : Text} {number : JsonNumber} (h : DenotesNumber text number) :
    DenotesScalar (.number text) (.number number)
  | string {body value : Text} (h : DenotesText body value) :
    DenotesScalar (.string body) (.string value)

theorem isHexDigit_of_hexValue? {c : Char} {n : Nat} (h : hexValue? c = some n) :
    isHexDigit c = true := by
  unfold hexValue? at h
  unfold isHexDigit
  split at h
  case isTrue hdigit =>
    have : c.isDigit = true := by simpa [Char.isDigit, Char.le_def] using hdigit
    simp [this]
  case isFalse =>
    split at h
    case isTrue hsmall => simp [hsmall]
    case isFalse =>
      split at h
      case isTrue hcapital => simp [hcapital]
      case isFalse => cases h

theorem isHexDigit_of_hexValue4? {a b c d : Char} {n : Nat} (h : hexValue4? a b c d = some n) :
    [a, b, c, d].all isHexDigit = true := by
  simp only [hexValue4?, bind, Option.bind_eq_some_iff] at h
  obtain ⟨_, ha, _, hb, _, hc, _, hd, -⟩ := h
  simp [isHexDigit_of_hexValue? ha, isHexDigit_of_hexValue? hb, isHexDigit_of_hexValue? hc,
    isHexDigit_of_hexValue? hd]

theorem mem_of_shortEscape? {c e : Char} (h : shortEscape? c = some e) :
    c ∈ "\"\\/bfnrt".toList := by
  unfold shortEscape? at h
  split at h
  case h_9 => cases h
  all_goals decide

theorem DenotesText.isTextBody {body value : Text} (h : DenotesText body value) :
    IsTextBody body := by
  induction h with
  | nil => exact .nil
  | char hquote hbackslash hcontrol _ ih => exact .char hquote hbackslash hcontrol ih
  | escape hescape _ ih => exact .escape (mem_of_shortEscape? hescape) ih
  | code hcode _ _ _ ih => exact .code (isHexDigit_of_hexValue4? hcode) ih
  | halves hfirst _ hsecond _ _ ih =>
    exact .code (isHexDigit_of_hexValue4? hfirst) (.code (isHexDigit_of_hexValue4? hsecond) ih)

theorem DenotesScalar.isScalar {token : Token} {value : Json} (h : DenotesScalar token value) :
    token.IsScalar := by
  cases h with
  | null => exact .inl rfl
  | true => exact .inr (.inl rfl)
  | false => exact .inr (.inr rfl)
  | number h => exact h.1
  | string h => exact h.isTextBody

/-! ## Values -/

/-- What tokens can stand for: one value, the items of an array or the members of an object. -/
inductive Denoted where
  | value (value : Json)
  | items (items : List Json)
  | members (members : List (Text × Json))

/-- The phrase of the grammar that stands for such a thing. -/
def Denoted.phrase : Denoted → Phrase
  | .value _ => .value
  | .items _ => .items
  | .members _ => .members

/-- What the token sequences of the grammar stand for. -/
inductive Denotes : Denoted → List Token → Prop
  | scalar {token : Token} {value : Json} (h : DenotesScalar token value) :
    Denotes (.value value) [token]
  | emptyArray : Denotes (.value (.array [])) [.openArray, .closeArray]
  | array {items : List Json} {tokens : List Token} (h : Denotes (.items items) tokens) :
    Denotes (.value (.array items)) (.openArray :: tokens ++ [.closeArray])
  | emptyObject : Denotes (.value (.object [])) [.openObject, .closeObject]
  | object {members : List (Text × Json)} {tokens : List Token}
      (h : Denotes (.members members) tokens) :
    Denotes (.value (.object (OrderedMap.ofList members))) (.openObject :: tokens ++ [.closeObject])
  | lastItem {value : Json} {tokens : List Token} (h : Denotes (.value value) tokens) :
    Denotes (.items [value]) tokens
  | item {value : Json} {items : List Json} {tokens more : List Token}
      (h : Denotes (.value value) tokens) (hmore : Denotes (.items items) more) :
    Denotes (.items (value :: items)) (tokens ++ .comma :: more)
  | lastMember {body name : Text} {value : Json} {tokens : List Token}
      (hname : DenotesText body name) (h : Denotes (.value value) tokens) :
    Denotes (.members [(name, value)]) (.string body :: .colon :: tokens)
  | member {body name : Text} {value : Json} {members : List (Text × Json)}
      {tokens more : List Token} (hname : DenotesText body name)
      (h : Denotes (.value value) tokens) (hmore : Denotes (.members members) more) :
    Denotes (.members ((name, value) :: members))
      (.string body :: .colon :: tokens ++ .comma :: more)

/-- Tokens that stand for something follow the strict grammar. -/
theorem Denotes.derives {denoted : Denoted} {tokens : List Token} (h : Denotes denoted tokens) :
    Derives denoted.phrase tokens := by
  induction h with
  | scalar h => exact .scalar h.isScalar
  | emptyArray => exact .emptyArray
  | array _ ih => exact .array ih
  | emptyObject => exact .emptyObject
  | object _ ih => exact .object ih
  | lastItem _ ih => exact .lastItem ih
  | item _ _ ih ihmore => exact .item ih ihmore
  | lastMember hname _ ih => exact .lastMember hname.isTextBody ih
  | member hname _ _ ih ihmore => exact .member hname.isTextBody ih ihmore

end PropertyKeys.Json

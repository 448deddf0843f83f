import PropertyKeys.Json.Reader
import PropertyKeys.Proofs.Json.Scanning

/-!
# The reader follows the grammar

Whatever the reader takes off the front of a text is a sequence of tokens with blanks between them,
and the tokens denote the value that it returns.

## Main definitions

* `Json.Spells`: whether a text starts with tokens, with blanks between them.

## Main results

* `Json.exists_of_readValue`: what is read is denoted by tokens at the front of the text.
-/

namespace PropertyKeys.Json

/-- The text starts with the tokens and nothing but blanks between them, and it goes on with the
rest. -/
inductive Spells : List Token → (text rest : Text) → Prop
  | nil (text : Text) : Spells [] text text
  | cons {gap text rest : Text} {token : Token} {tokens : List Token}
      (hgap : gap.all isSpace = true) (h : Spells tokens text rest) :
    Spells (token :: tokens) (gap ++ (token.text ++ text)) rest

namespace Spells

theorem append {tokens more : List Token} {text middle rest : Text} (h : Spells tokens text middle)
    (hmore : Spells more middle rest) : Spells (tokens ++ more) text rest := by
  induction h with
  | nil => exact hmore
  | cons hgap _ ih => exact .cons hgap (ih hmore)

/-- Blanks in front of the first token do not matter. -/
theorem of_skipSpace {token : Token} {tokens : List Token} {text rest : Text}
    (h : Spells (token :: tokens) (skipSpace text) rest) : Spells (token :: tokens) text rest := by
  have hblanks : (text.takeWhile isSpace).all isSpace = true := List.all_takeWhile
  have hsplit : text = text.takeWhile isSpace ++ skipSpace text :=
    List.takeWhile_append_dropWhile.symm
  generalize skipSpace text = start at h hsplit
  cases h with
  | @cons gap more _ _ _ hgap h =>
    rw [hsplit, ← List.append_assoc]
    exact .cons (by rw [List.all_append, hblanks, hgap]; rfl) h

/-- The first token is found behind the blanks. -/
theorem of_skipSpace_eq {token : Token} {tokens : List Token} {text more rest : Text}
    (hstart : skipSpace text = token.text ++ more) (h : Spells tokens more rest) :
    Spells (token :: tokens) text rest := by
  refine of_skipSpace ?_
  have hgap : ([] : Text).all isSpace = true := rfl
  rw [hstart]
  exact .cons hgap h

end Spells

/-! ## Values -/

/-- What a reader of values does if it is right: it takes tokens off the front of a text that denote
the value. -/
def ReadsValues (readItem : Text → Reading ReadError Json) : Prop :=
  ∀ text value rest, readItem text = .ok (value, rest) →
    ∃ tokens, Denotes (.value value) tokens ∧ Spells tokens text rest

theorem exists_of_readScalar {text rest : Text} {value : Json}
    (h : readScalar text = .ok (value, rest)) :
    ∃ token : Token, DenotesScalar token value ∧ text = token.text ++ rest := by
  unfold readScalar at h
  split at h
  case h_1 => cases h
  case h_2 more =>
    obtain ⟨⟨⟩, last, hliteral, hend⟩ := Reading.andThen_eq_ok_iff.mp h
    obtain ⟨rfl, rfl⟩ : .null = value ∧ last = rest := by simpa using hend
    exact ⟨_, .null, by rw [eq_of_readLiteral hliteral]; rfl⟩
  case h_3 more =>
    obtain ⟨⟨⟩, last, hliteral, hend⟩ := Reading.andThen_eq_ok_iff.mp h
    obtain ⟨rfl, rfl⟩ : .bool true = value ∧ last = rest := by simpa using hend
    exact ⟨_, .true, by rw [eq_of_readLiteral hliteral]; rfl⟩
  case h_4 more =>
    obtain ⟨⟨⟩, last, hliteral, hend⟩ := Reading.andThen_eq_ok_iff.mp h
    obtain ⟨rfl, rfl⟩ : .bool false = value ∧ last = rest := by simpa using hend
    exact ⟨_, .false, by rw [eq_of_readLiteral hliteral]; rfl⟩
  case h_5 more =>
    obtain ⟨string, last, htext, hend⟩ := Reading.andThen_eq_ok_iff.mp h
    obtain ⟨rfl, rfl⟩ : .string string = value ∧ last = rest := by simpa using hend
    obtain ⟨body, rfl, hbody⟩ := exists_of_readText htext
    exact ⟨_, .string hbody, by simp [Token.text]⟩
  case h_6 more =>
    obtain ⟨number, last, hnumber, hend⟩ := Reading.andThen_eq_ok_iff.mp h
    obtain ⟨rfl, rfl⟩ : .number number = value ∧ last = rest := by simpa using hend
    obtain ⟨used, rfl, hdenotes⟩ := exists_of_readNumber hnumber
    exact ⟨_, .number hdenotes, rfl⟩
  case h_7 c more _ _ _ _ _ =>
    split at h
    case isTrue =>
      obtain ⟨number, last, hnumber, hend⟩ := Reading.andThen_eq_ok_iff.mp h
      obtain ⟨rfl, rfl⟩ : .number number = value ∧ last = rest := by simpa using hend
      obtain ⟨used, hused, hdenotes⟩ := exists_of_readNumber hnumber
      exact ⟨_, .number hdenotes, hused⟩
    case isFalse => cases h

variable {readItem : Text → Reading ReadError Json} {text rest : Text}

/-! ## Arrays -/

/-- The text goes on with further items of an array, each behind a comma, and the array is closed in
front of the rest. -/
def GoesOnWithItems (items : List Json) (text rest : Text) : Prop :=
  (items = [] ∧ Spells [.closeArray] text rest) ∨
    ∃ tokens, Denotes (.items items) tokens ∧ Spells (.comma :: tokens ++ [.closeArray]) text rest

/-- An item with the items that follow it. -/
theorem GoesOnWithItems.cons (hitem : ReadsValues readItem) {item : Json} {items : List Json}
    {next : Text} (hread : readItem (skipSpace text) = .ok (item, next))
    (hmore : GoesOnWithItems items next rest) :
    ∃ tokens, Denotes (.items (item :: items)) tokens ∧
      Spells (tokens ++ [.closeArray]) text rest := by
  obtain ⟨tokens, hdenotes, hspells⟩ := hitem _ _ _ hread
  obtain ⟨first, tokens, rfl, -⟩ := hdenotes.derives.exists_cons
  have hspells := hspells.of_skipSpace
  obtain ⟨rfl, hclose⟩ | ⟨later, hlater, hclose⟩ := hmore
  · exact ⟨_, .lastItem hdenotes, hspells.append hclose⟩
  · have hall := hspells.append hclose
    exact ⟨_, .item hdenotes hlater, by simpa using hall⟩

theorem goesOnWithItems_of_readMoreItems (hitem : ReadsValues readItem) {fuel : Nat}
    {items : List Json} (h : readMoreItems readItem fuel text = .ok (items, rest)) :
    GoesOnWithItems items text rest := by
  induction fuel generalizing text items with
  | zero => cases h
  | succ fuel ih =>
    rw [readMoreItems] at h
    split at h
    case h_1 => cases h
    case h_2 more hstart =>
      obtain ⟨rfl, rfl⟩ : [] = items ∧ more = rest := by simpa using h
      exact .inl ⟨rfl, .of_skipSpace_eq hstart (.nil more)⟩
    case h_3 more hstart =>
      split at h
      case h_1 => cases h
      case h_2 => cases h
      case h_3 =>
        obtain ⟨item, next, hread, hnext⟩ := Reading.andThen_eq_ok_iff.mp h
        obtain ⟨others, last, hothers, hend⟩ := Reading.andThen_eq_ok_iff.mp hnext
        obtain ⟨rfl, rfl⟩ : item :: others = items ∧ last = rest := by simpa using hend
        obtain ⟨tokens, hdenotes, hspells⟩ := (ih hothers).cons hitem hread
        exact .inr ⟨tokens, hdenotes, .of_skipSpace_eq hstart hspells⟩
    case h_4 => cases h

theorem exists_of_readItems (hitem : ReadsValues readItem) {items : List Json}
    (h : readItems readItem text = .ok (items, rest)) :
    (items = [] ∧ Spells [.closeArray] text rest) ∨
      ∃ tokens, Denotes (.items items) tokens ∧ Spells (tokens ++ [.closeArray]) text rest := by
  rw [readItems] at h
  split at h
  case h_1 => cases h
  case h_2 more hstart =>
    obtain ⟨rfl, rfl⟩ : [] = items ∧ more = rest := by simpa using h
    exact .inl ⟨rfl, .of_skipSpace_eq hstart (.nil more)⟩
  case h_3 =>
    obtain ⟨item, next, hread, hnext⟩ := Reading.andThen_eq_ok_iff.mp h
    obtain ⟨others, last, hothers, hend⟩ := Reading.andThen_eq_ok_iff.mp hnext
    obtain ⟨rfl, rfl⟩ : item :: others = items ∧ last = rest := by simpa using hend
    exact .inr ((goesOnWithItems_of_readMoreItems hitem hothers).cons hitem hread)

/-! ## Objects -/

theorem exists_of_readMember (hitem : ReadsValues readItem) {name : Text} {value : Json}
    (h : readMember readItem text = .ok ((name, value), rest)) :
    ∃ body tokens middle, text = body ++ '"' :: middle ∧ DenotesText body name ∧
      Denotes (.value value) tokens ∧ Spells (.colon :: tokens) middle rest := by
  obtain ⟨read, middle, htext, hnext⟩ := Reading.andThen_eq_ok_iff.mp h
  obtain ⟨body, rfl, hbody⟩ := exists_of_readText htext
  split at hnext
  case h_1 => cases hnext
  case h_2 more hstart =>
    obtain ⟨item, last, hread, hend⟩ := Reading.andThen_eq_ok_iff.mp hnext
    obtain ⟨⟨rfl, rfl⟩, rfl⟩ : (read = name ∧ item = value) ∧ last = rest := by simpa using hend
    obtain ⟨tokens, hdenotes, hspells⟩ := hitem _ _ _ hread
    exact ⟨body, tokens, middle, rfl, hbody, hdenotes, .of_skipSpace_eq hstart hspells⟩
  case h_3 => cases hnext

/-- The text goes on with further members of an object, each behind a comma, and the object is
closed in front of the rest. -/
def GoesOnWithMembers (members : List (Text × Json)) (text rest : Text) : Prop :=
  (members = [] ∧ Spells [.closeObject] text rest) ∨
    ∃ tokens, Denotes (.members members) tokens ∧
      Spells (.comma :: tokens ++ [.closeObject]) text rest

/-- A member, behind the quotation mark that begins its name, with the members that follow it. -/
theorem GoesOnWithMembers.cons (hitem : ReadsValues readItem) {member : Text × Json}
    {members : List (Text × Json)} {quoted next : Text} (hquote : skipSpace text = '"' :: quoted)
    (hread : readMember readItem quoted = .ok (member, next))
    (hmore : GoesOnWithMembers members next rest) :
    ∃ tokens, Denotes (.members (member :: members)) tokens ∧
      Spells (tokens ++ [.closeObject]) text rest := by
  obtain ⟨name, value⟩ := member
  obtain ⟨body, tokens, middle, rfl, hbody, hdenotes, hspells⟩ := exists_of_readMember hitem hread
  have hname : skipSpace text = (Token.string body).text ++ middle := by
    rw [hquote]
    simp [Token.text]
  have hmember := Spells.of_skipSpace_eq hname hspells
  obtain ⟨rfl, hclose⟩ | ⟨later, hlater, hclose⟩ := hmore
  · exact ⟨_, .lastMember hbody hdenotes, hmember.append hclose⟩
  · have hall := hmember.append hclose
    exact ⟨_, .member hbody hdenotes hlater, by simpa using hall⟩

theorem goesOnWithMembers_of_readMoreMembers (hitem : ReadsValues readItem) {fuel : Nat}
    {members : List (Text × Json)}
    (h : readMoreMembers readItem fuel text = .ok (members, rest)) :
    GoesOnWithMembers members text rest := by
  induction fuel generalizing text members with
  | zero => cases h
  | succ fuel ih =>
    rw [readMoreMembers] at h
    split at h
    case h_1 => cases h
    case h_2 more hstart =>
      obtain ⟨rfl, rfl⟩ : [] = members ∧ more = rest := by simpa using h
      exact .inl ⟨rfl, .of_skipSpace_eq hstart (.nil more)⟩
    case h_3 more hstart =>
      split at h
      case h_1 => cases h
      case h_2 => cases h
      case h_3 quoted hquote =>
        obtain ⟨member, next, hread, hnext⟩ := Reading.andThen_eq_ok_iff.mp h
        obtain ⟨others, last, hothers, hend⟩ := Reading.andThen_eq_ok_iff.mp hnext
        obtain ⟨rfl, rfl⟩ : member :: others = members ∧ last = rest := by simpa using hend
        obtain ⟨tokens, hdenotes, hspells⟩ := (ih hothers).cons hitem hquote hread
        exact .inr ⟨tokens, hdenotes, .of_skipSpace_eq hstart hspells⟩
      case h_4 => cases h
    case h_4 => cases h

theorem exists_of_readMembers (hitem : ReadsValues readItem) {members : List (Text × Json)}
    (h : readMembers readItem text = .ok (members, rest)) :
    (members = [] ∧ Spells [.closeObject] text rest) ∨
      ∃ tokens, Denotes (.members members) tokens ∧
        Spells (tokens ++ [.closeObject]) text rest := by
  rw [readMembers] at h
  split at h
  case h_1 => cases h
  case h_2 more hstart =>
    obtain ⟨rfl, rfl⟩ : [] = members ∧ more = rest := by simpa using h
    exact .inl ⟨rfl, .of_skipSpace_eq hstart (.nil more)⟩
  case h_3 quoted hquote =>
    obtain ⟨member, next, hread, hnext⟩ := Reading.andThen_eq_ok_iff.mp h
    obtain ⟨others, last, hothers, hend⟩ := Reading.andThen_eq_ok_iff.mp hnext
    obtain ⟨rfl, rfl⟩ : member :: others = members ∧ last = rest := by simpa using hend
    exact .inr ((goesOnWithMembers_of_readMoreMembers hitem hothers).cons hitem hquote hread)
  case h_4 => cases h

/-- The reader takes tokens off the front of a text, with blanks between them, and the tokens denote
the value that it returns. -/
theorem exists_of_readValue (depth : Nat) : ReadsValues (readValue depth) := by
  induction depth with
  | zero =>
    intro text value rest h
    rw [readValue] at h
    split at h
    case h_1 => cases h
    case h_2 => cases h
    case h_3 =>
      obtain ⟨token, hdenotes, hstart⟩ := exists_of_readScalar h
      exact ⟨_, .scalar hdenotes, .of_skipSpace_eq hstart (.nil rest)⟩
  | succ depth ih =>
    intro text value rest h
    rw [readValue] at h
    split at h
    case h_1 more hstart =>
      obtain ⟨items, last, hread, hend⟩ := Reading.andThen_eq_ok_iff.mp h
      obtain ⟨rfl, rfl⟩ : .array items = value ∧ last = rest := by simpa using hend
      obtain ⟨rfl, hspells⟩ | ⟨tokens, hdenotes, hspells⟩ := exists_of_readItems ih hread
      · exact ⟨_, .emptyArray, .of_skipSpace_eq hstart hspells⟩
      · exact ⟨_, .array hdenotes, .of_skipSpace_eq hstart hspells⟩
    case h_2 more hstart =>
      obtain ⟨members, last, hread, hend⟩ := Reading.andThen_eq_ok_iff.mp h
      obtain ⟨rfl, rfl⟩ : .object (OrderedMap.ofList members) = value ∧ last = rest := by
        simpa using hend
      obtain ⟨rfl, hspells⟩ | ⟨tokens, hdenotes, hspells⟩ := exists_of_readMembers ih hread
      · exact ⟨_, .emptyObject, .of_skipSpace_eq hstart hspells⟩
      · exact ⟨_, .object hdenotes, .of_skipSpace_eq hstart hspells⟩
    case h_3 =>
      obtain ⟨token, hdenotes, hstart⟩ := exists_of_readScalar h
      exact ⟨_, .scalar hdenotes, .of_skipSpace_eq hstart (.nil rest)⟩

end PropertyKeys.Json

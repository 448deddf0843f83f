import PropertyKeys.Proofs.Json.Reading
import PropertyKeys.Proofs.Json.Stripping

/-!
# What may have been stripped

From what stripping leaves one can tell what the text was before: where tokens are left with blanks
between them, the text had the same tokens, with gaps between them and at most one superfluous comma
in front of a closing mark. Only a comment in the middle of a number or of a literal cannot be told
from no comment at all.

## Main definitions

* `Json.IsInterrupted`: a word with comments between its characters.
* `Json.LoosePiece`: a token that may be interrupted, with what stands before it.
* `Lenient.HasLead`: whether a character stands behind what may stand in front of it.

## Main results

* `Lenient.hasLead_of_stripFrom`: what stood in front of a character that is left.
* `Lenient.exists_pieces_of_spells`: what stood where tokens are left.
-/

namespace PropertyKeys

namespace Json

/-! ## Loose layouts -/

/-- Complete comments between marks, one behind the other. -/
inductive IsBlockComments : Text → Prop
  | nil : IsBlockComments []
  | cons {body rest : Text} (hbody : ¬['*', '/'] <:+: body) (hrest : IsBlockComments rest) :
    IsBlockComments ('/' :: '*' :: (body ++ '*' :: '/' :: rest))

/-- A word with comments between some of its characters. -/
inductive IsInterrupted : (word text : Text) → Prop
  | last (c : Char) : IsInterrupted [c] [c]
  | cons {c d : Char} {word comments text : Text} (hcomments : IsBlockComments comments)
      (h : IsInterrupted (d :: word) text) :
    IsInterrupted (c :: d :: word) (c :: (comments ++ text))

/-- How a token may be written: a literal or a number with comments in between, anything else as it
is. -/
def Token.IsWrittenAs (written : Text) : Token → Prop
  | .literal text => IsInterrupted text written
  | .number text => IsInterrupted text written
  | token => written = token.text

/-- What stands before a token: a gap, and perhaps a superfluous comma with another gap. -/
def lead (gap : Text) : Option Text → Text
  | none => gap
  | some after => gap ++ ',' :: after

/-- A token that may be interrupted by comments, with what stands before it. -/
structure LoosePiece extends Piece where
  written : Text

/-- How a loose piece is written. -/
def LoosePiece.text (piece : LoosePiece) : Text :=
  lead piece.gap piece.afterComma? ++ piece.written

/-- Blanks and comments stand before the token, and a superfluous comma only in front of a closing
mark. Comments may stand inside the token as well. -/
def LoosePiece.IsLoose (piece : LoosePiece) : Prop :=
  piece.toPiece.IsLenient ∧ piece.token.IsWrittenAs piece.written

theorem Piece.text_eq (piece : Piece) :
    piece.text = lead piece.gap piece.afterComma? ++ piece.token.text := by
  rw [Piece.text]
  cases piece.afterComma? with
  | none => rfl
  | some after => simp [lead]

end Json

namespace Lenient

open Unicode Json

/-! ## Steps of the scanner -/

/-- A text that holds a mark holds it for the first time somewhere. -/
theorem exists_first_close {text : Text} (h : ['*', '/'] <:+: text) :
    ∃ body rest, text = body ++ '*' :: '/' :: rest ∧ ¬['*', '/'] <:+: body := by
  induction text with
  | nil => simp at h
  | cons c cs ih =>
    rcases List.infix_cons_iff.mp h with ⟨rest, hfront⟩ | hlater
    · exact ⟨[], rest, hfront.symm, by simp⟩
    · obtain ⟨body, rest, rfl, hbody⟩ := ih hlater
      by_cases hfront : ['*', '/'] <+: c :: body
      · obtain ⟨more, hmore⟩ := hfront
        exact ⟨[], more ++ '*' :: '/' :: rest, by rw [← List.cons_append, ← hmore]; rfl, by simp⟩
      · refine ⟨c :: body, rest, rfl, fun hboth => ?_⟩
        exact (List.infix_cons_iff.mp hboth).elim hfront hbody

/-- Nothing is left of a comment that is not closed. -/
theorem stripFrom_openBlock {text : Text} (h : ¬['*', '/'] <:+: text) (star : Bool)
    (hstar : star = true → text.head? ≠ some '/') : stripFrom (.blockComment star) text = [] := by
  induction text generalizing star with
  | nil => rfl
  | cons c cs ih =>
    have hopen : ¬(star && c = '/') = true := by
      intro hclose
      obtain ⟨hs, hc⟩ := Bool.and_eq_true_iff.mp hclose
      exact hstar hs (by simpa using hc)
    rw [stripFrom, if_neg hopen]
    refine ih (fun hclosed => h (hclosed.trans (List.infix_cons (List.infix_refl cs)))) _ ?_
    intro hc hhead
    obtain ⟨more, rfl⟩ := List.head?_eq_some_iff.mp hhead
    exact h ⟨[], more, by simp [of_decide_eq_true hc]⟩

/-- The scanner in its plain mode either leaves nothing, or passes a comment or a superfluous comma,
or copies a character. -/
inductive PlainStep : Text → Prop
  | none {text : Text} (h : stripFrom .plain text = []) : PlainStep text
  | lineComment {mark body rest : Text} (hmark : IsLineMark mark) (hbody : '\n' ∉ body) :
    PlainStep (mark ++ (body ++ '\n' :: rest))
  | blockComment {body rest : Text} (hbody : ¬['*', '/'] <:+: body) :
    PlainStep ('/' :: '*' :: (body ++ '*' :: '/' :: rest))
  | comma {rest : Text} (h : closesNext .plain rest = true) : PlainStep (',' :: rest)
  | copy {c : Char} {rest : Text} (h : stripFrom .plain (c :: rest) =
      c :: stripFrom (if c = '"' then .quoted else .plain) rest) : PlainStep (c :: rest)

theorem plainStep_lineMark {mark : Text} (hmark : IsLineMark mark) (rest : Text) :
    PlainStep (mark ++ rest) := by
  by_cases hbreak : '\n' ∈ rest
  · obtain ⟨body, more, rfl, hbody⟩ := List.eq_append_cons_of_mem hbreak
    exact .lineComment hmark hbody
  · exact .none (strip_lineComment hmark hbreak)

theorem plainStep (text : Text) : PlainStep text := by
  cases text with
  | nil => exact .none rfl
  | cons c rest =>
    by_cases hhash : c = '#'
    · subst hhash
      exact plainStep_lineMark (.inr rfl) rest
    by_cases hslash : c = '/'
    · subst hslash
      by_cases hline : rest.head? = some '/'
      · obtain ⟨more, rfl⟩ := List.head?_eq_some_iff.mp hline
        exact plainStep_lineMark (.inl rfl) more
      by_cases hblock : rest.head? = some '*'
      · obtain ⟨more, rfl⟩ := List.head?_eq_some_iff.mp hblock
        by_cases hclose : ['*', '/'] <:+: more
        · obtain ⟨body, last, rfl, hbody⟩ := exists_first_close hclose
          exact .blockComment hbody
        · refine .none ?_
          have hopen := stripFrom_openBlock hclose false (fun h => absurd h Bool.false_ne_true)
          simpa [stripFrom] using hopen
      · refine .copy ?_
        cases rest <;> simp_all [stripFrom]
    by_cases hcomma : c = ','
    · subst hcomma
      cases hcloses : closesNext .plain rest with
      | true => exact .comma hcloses
      | false => exact .copy (by rw [stripFrom_comma, hcloses]; simp)
    exact .copy (stripFrom_cons hslash hhash hcomma rest)

/-! ## Gaps -/

/-- What may stand in front of a character that is neither blank nor the start of a comment: a gap
that leaves the blanks, and perhaps a superfluous comma if the character is a closing mark. -/
structure IsLead (blanks gap : Text) (after? : Option Text) (c : Char) : Prop where
  isGap : IsGap gap
  after : ∀ after, after? = some after → IsGap after ∧ (c = ']' ∨ c = '\x7d')
  blockComments : blanks = [] → IsBlockComments gap

/-- The character stands in the text behind what may stand in front of it, and stripping what follows
it leaves the rest. -/
def HasLead (text blanks : Text) (c : Char) (out : Text) : Prop :=
  ∃ gap after? rest, text = lead gap after? ++ c :: rest ∧ IsLead blanks gap after? c ∧
    stripFrom (if c = '"' then .quoted else .plain) rest = out

section Steps

variable {rest body blanks out : Text} {c : Char}

theorem HasLead.lineComment (h : HasLead rest blanks c out) {mark : Text}
    (hmark : IsLineMark mark) (hbody : '\n' ∉ body) (blank : Char) :
    HasLead (mark ++ (body ++ '\n' :: rest)) (blank :: blanks) c out := by
  obtain ⟨gap, after?, last, rfl, hlead, hout⟩ := h
  refine ⟨mark ++ (body ++ '\n' :: gap), after?, last, ?_,
    ⟨.lineComment hmark hbody hlead.isGap, hlead.after, nofun⟩, hout⟩
  cases after? <;> simp [lead]

theorem HasLead.blockComment (h : HasLead rest blanks c out) (hbody : ¬['*', '/'] <:+: body) :
    HasLead ('/' :: '*' :: (body ++ '*' :: '/' :: rest)) blanks c out := by
  obtain ⟨gap, after?, last, rfl, hlead, hout⟩ := h
  refine ⟨'/' :: '*' :: (body ++ '*' :: '/' :: gap), after?, last, ?_,
    ⟨.blockComment hbody hlead.isGap, hlead.after,
      fun hnil => .cons hbody (hlead.blockComments hnil)⟩, hout⟩
  cases after? <;> simp [lead]

theorem HasLead.space (h : HasLead rest blanks c out) {blank : Char}
    (hblank : isSpace blank = true) : HasLead (blank :: rest) (blank :: blanks) c out := by
  obtain ⟨gap, after?, last, rfl, hlead, hout⟩ := h
  refine ⟨blank :: gap, after?, last, ?_, ⟨.space hblank hlead.isGap, hlead.after, nofun⟩, hout⟩
  cases after? <;> simp [lead]

/-- The scanner sees a closing mark behind a comma that it drops, so there is no other comma in
between and the mark is the character. -/
theorem HasLead.comma (h : HasLead rest blanks c out) (hcloses : closesNext .plain rest = true)
    (hc : isBlank c = false) (hslash : c ≠ '/') (hhash : c ≠ '#') :
    HasLead (',' :: rest) blanks c out := by
  obtain ⟨gap, after?, last, rfl, hlead, hout⟩ := h
  cases after? with
  | some after =>
    rw [lead, List.append_assoc, (stripFrom_gap hlead.isGap _).2, List.cons_append,
      closesNext_cons (by decide) (by decide)] at hcloses
    have hblank : isBlank ',' = false := by decide
    exact absurd hcloses (by simp [hblank])
  | none =>
    rw [lead, (stripFrom_gap hlead.isGap _).2, closesNext_cons hslash hhash, hc] at hcloses
    refine ⟨[], some gap, last, by simp [lead], ⟨.nil, ?_, fun _ => .nil⟩, hout⟩
    rintro after ⟨⟩
    exact ⟨hlead.isGap, by simpa using hcloses⟩

end Steps

/-- If blanks and another character are left, then a gap stood in front of the character, and
perhaps a superfluous comma. -/
theorem hasLead_of_stripFrom {text blanks out : Text} {c : Char}
    (hblanks : blanks.all isSpace = true) (hc : isBlank c = false) (hslash : c ≠ '/')
    (hhash : c ≠ '#') (h : stripFrom .plain text = blanks ++ c :: out) :
    HasLead text blanks c out := by
  induction hlength : text.length using Nat.strongRecOn generalizing text blanks with
  | _ length ih =>
    subst hlength
    cases plainStep text with
    | none hnone =>
      rw [hnone] at h
      cases blanks <;> cases h
    | @lineComment mark body rest hmark hbody =>
      rw [(stripFrom_lineComment hmark hbody rest).1] at h
      cases blanks with
      | nil =>
        obtain rfl : '\n' = c := (List.cons.inj h).1
        exact absurd hc (by decide)
      | cons blank blanks =>
        obtain ⟨-, hblanks⟩ := Bool.and_eq_true_iff.mp hblanks
        have hrest := ih rest.length (by simp; omega) hblanks (List.cons.inj h).2 rfl
        exact hrest.lineComment hmark hbody blank
    | @blockComment body rest hbody =>
      rw [(stripFrom_blockComment hbody rest).1] at h
      exact (ih rest.length (by simp; omega) hblanks h rfl).blockComment hbody
    | @comma rest hcloses =>
      rw [stripFrom_comma, hcloses, if_pos rfl] at h
      exact (ih rest.length (by simp) hblanks h rfl).comma hcloses hc hslash hhash
    | @copy d rest hcopy =>
      rw [hcopy] at h
      cases blanks with
      | nil =>
        obtain ⟨rfl, hout⟩ := List.cons.inj h
        exact ⟨[], none, rest, rfl, ⟨.nil, nofun, fun _ => .nil⟩, hout⟩
      | cons blank blanks =>
        obtain ⟨rfl, hmore⟩ := List.cons.inj h
        obtain ⟨hblank, hblanks⟩ := Bool.and_eq_true_iff.mp hblanks
        have hquote : d ≠ '"' := by
          rintro rfl
          cases hblank
        rw [if_neg hquote] at hmore
        exact (ih rest.length (by simp) hblanks hmore rfl).space hblank

/-! ## Tokens -/

theorem exists_of_stripFrom_quoted_cons {text out : Text} {c : Char}
    (h : stripFrom .quoted text = c :: out) : ∃ rest, text = c :: rest ∧ stripFrom
      (if c = '\\' then .escaped else if c = '"' then .plain else .quoted) rest = out := by
  cases text with
  | nil => cases h
  | cons d rest =>
    obtain ⟨rfl, hout⟩ := List.cons.inj h
    exact ⟨rest, rfl, hout⟩

theorem exists_of_stripFrom_escaped_cons {text out : Text} {c : Char}
    (h : stripFrom .quoted text = '\\' :: c :: out) :
    ∃ rest, text = '\\' :: c :: rest ∧ stripFrom .quoted rest = out := by
  obtain ⟨more, rfl, hmore⟩ := exists_of_stripFrom_quoted_cons h
  rw [if_pos rfl] at hmore
  cases more with
  | nil => cases hmore
  | cons d rest =>
    obtain ⟨rfl, hout⟩ := List.cons.inj hmore
    exact ⟨rest, rfl, hout⟩

/-- If characters that do not end the text are left, then they were there. -/
theorem exists_of_stripFrom_quoted_append {plain : Text}
    (hplain : ∀ c ∈ plain, c ≠ '"' ∧ c ≠ '\\') {text out : Text}
    (h : stripFrom .quoted text = plain ++ out) :
    ∃ rest, text = plain ++ rest ∧ stripFrom .quoted rest = out := by
  induction plain generalizing text with
  | nil => exact ⟨text, rfl, h⟩
  | cons c plain ih =>
    obtain ⟨hquote, hbackslash⟩ := hplain c List.mem_cons_self
    obtain ⟨more, rfl, hmore⟩ := exists_of_stripFrom_quoted_cons h
    rw [if_neg hbackslash, if_neg hquote] at hmore
    obtain ⟨rest, rfl, hout⟩ := ih (fun d hd => hplain d (List.mem_cons_of_mem _ hd)) hmore
    exact ⟨rest, rfl, hout⟩

/-- If a text and its closing quotation mark are left, then they were there. -/
theorem exists_of_stripFrom_quoted {body : Text} (hbody : IsTextBody body) {text out : Text}
    (h : stripFrom .quoted text = body ++ '"' :: out) :
    ∃ rest, text = body ++ '"' :: rest ∧ stripFrom .plain rest = out := by
  induction hbody generalizing text with
  | nil => exact exists_of_stripFrom_quoted_cons h
  | @char c body hquote hbackslash _ _ ih =>
    have hplain : ∀ d ∈ [c], d ≠ '"' ∧ d ≠ '\\' := by simp [hquote, hbackslash]
    obtain ⟨more, rfl, hmore⟩ := exists_of_stripFrom_quoted_append hplain h
    obtain ⟨rest, rfl, hout⟩ := ih hmore
    exact ⟨rest, rfl, hout⟩
  | escape _ _ ih =>
    obtain ⟨more, rfl, hmore⟩ := exists_of_stripFrom_escaped_cons h
    obtain ⟨rest, rfl, hout⟩ := ih hmore
    exact ⟨rest, rfl, hout⟩
  | @code a b c d body hdigits _ ih =>
    obtain ⟨more, rfl, hmore⟩ := exists_of_stripFrom_escaped_cons h
    obtain ⟨last, rfl, hlast⟩ := exists_of_stripFrom_quoted_append
      (fun e he => ne_of_isHexDigit (List.all_eq_true.mp hdigits e he)) hmore
    obtain ⟨rest, rfl, hout⟩ := ih hlast
    exact ⟨rest, rfl, hout⟩

/-- Whether a character means nothing to the scanner and is no blank and no closing mark. -/
def IsBare (c : Char) : Prop :=
  (c ≠ '/' ∧ c ≠ '#' ∧ c ≠ ',' ∧ c ≠ '"') ∧ isBlank c = false ∧ c ≠ ']' ∧ c ≠ '\x7d'

instance : DecidablePred IsBare := fun c =>
  inferInstanceAs (Decidable
    ((c ≠ '/' ∧ c ≠ '#' ∧ c ≠ ',' ∧ c ≠ '"') ∧ isBlank c = false ∧ c ≠ ']' ∧ c ≠ '\x7d'))

/-- If a word is left, then it was there, and perhaps there were comments in it. -/
theorem exists_of_stripFrom_word {c : Char} {word : Text} (hword : ∀ d ∈ c :: word, IsBare d)
    {text out : Text} (h : stripFrom .plain text = word ++ out) :
    ∃ written rest, c :: text = written ++ rest ∧ IsInterrupted (c :: word) written ∧
      stripFrom .plain rest = out := by
  induction word generalizing c text with
  | nil => exact ⟨[c], text, rfl, .last c, h⟩
  | cons d word ih =>
    obtain ⟨⟨hslash, hhash, -, hquote⟩, hblank, hbracket, hbrace⟩ := hword d (by simp)
    have hnone : ([] : Text).all isSpace = true := rfl
    obtain ⟨gap, after?, rest, rfl, hlead, hrest⟩ :=
      hasLead_of_stripFrom hnone hblank hslash hhash h
    rw [if_neg hquote] at hrest
    cases after? with
    | some after => exact absurd (hlead.after after rfl).2 (by simp [hbracket, hbrace])
    | none =>
      obtain ⟨written, last, hwritten, hinterrupted, hout⟩ :=
        ih (fun e he => hword e (List.mem_cons_of_mem _ he)) hrest
      refine ⟨c :: (gap ++ written), last, ?_, .cons (hlead.blockComments rfl) hinterrupted, hout⟩
      rw [lead, hwritten, List.cons_append, List.append_assoc]

theorem isBare_of_isNumber {text : Text} (h : IsNumber text) : ∀ c ∈ text, IsBare c :=
  fun c hc => isNumberChar_spec (isNumberChar_of_isNumber h c hc)

theorem isBare_of_isLiteral {text : Text} (h : Token.IsScalar (.literal text)) :
    ∀ c ∈ text, IsBare c := by
  have hlower : ∀ c ∈ text, c.isLower = true := by
    rcases h with rfl | rfl | rfl <;> simp
  exact fun c hc => forall_ascii (P := fun c => c.isLower = true → IsBare c) (by decide +kernel)
    (ascii_of_isLower (hlower c hc)) (hlower c hc)

/-- If a token is left, of which the first character has been found, then the token was there. -/
theorem exists_of_stripFrom_token {token : Token} (hwell : token.IsWellFormed) {c : Char}
    {more text out : Text} (htoken : token.text = c :: more)
    (h : stripFrom (if c = '"' then .quoted else .plain) text = more ++ out) :
    ∃ written rest, c :: text = written ++ rest ∧ token.IsWrittenAs written ∧
      stripFrom .plain rest = out := by
  have hmark : ∀ {mark : Char}, mark ≠ '"' → mark :: [] = c :: more →
      [c] = [mark] ∧ stripFrom .plain text = out := by
    intro mark hquote hmark
    obtain ⟨rfl, rfl⟩ := List.cons.inj hmark
    rw [if_neg hquote] at h
    exact ⟨rfl, h⟩
  cases token with
  | string body =>
    obtain ⟨rfl, rfl⟩ := List.cons.inj htoken
    rw [if_pos rfl] at h
    obtain ⟨rest, rfl, hout⟩ :=
      exists_of_stripFrom_quoted hwell (h.trans (List.append_assoc body ['"'] out))
    exact ⟨'"' :: body ++ ['"'], rest, by simp, rfl, hout⟩
  | number word =>
    obtain rfl : word = c :: more := htoken
    have hbare := isBare_of_isNumber hwell
    rw [if_neg (hbare c List.mem_cons_self).1.2.2.2] at h
    exact exists_of_stripFrom_word hbare h
  | literal word =>
    obtain rfl : word = c :: more := htoken
    have hbare := isBare_of_isLiteral hwell
    rw [if_neg (hbare c List.mem_cons_self).1.2.2.2] at h
    exact exists_of_stripFrom_word hbare h
  | _ =>
    obtain ⟨hwritten, hout⟩ := hmark (by decide) htoken
    exact ⟨[c], text, rfl, hwritten, hout⟩

/-- A token starts with a character that no gap can take for its own. -/
theorem exists_cons_text {token : Token} (hwell : token.IsWellFormed) :
    ∃ c more, token.text = c :: more ∧ isBlank c = false ∧ c ≠ '/' ∧ c ≠ '#' ∧
      (c = ']' ∨ c = '\x7d' → token.closes = true) := by
  have hbare : ∀ {word : Text} {closes : Bool}, word ≠ [] → (∀ c ∈ word, IsBare c) →
      ∃ c more, word = c :: more ∧ isBlank c = false ∧ c ≠ '/' ∧ c ≠ '#' ∧
        (c = ']' ∨ c = '\x7d' → closes = true) := by
    intro word closes hne hword
    obtain ⟨c, more, rfl⟩ := List.exists_cons_of_ne_nil hne
    obtain ⟨⟨hslash, hhash, -, -⟩, hblank, hbracket, hbrace⟩ := hword c List.mem_cons_self
    exact ⟨c, more, rfl, hblank, hslash, hhash, fun hclose => by simp [hbracket, hbrace] at hclose⟩
  cases token with
  | number word => exact hbare (ne_nil_of_isNumber hwell) (isBare_of_isNumber hwell)
  | literal word =>
    refine hbare ?_ (isBare_of_isLiteral hwell)
    rcases hwell with rfl | rfl | rfl <;> decide
  | string body =>
    exact ⟨'"', body ++ ['"'], rfl, by decide, by decide, by decide,
      fun hclose => absurd hclose (by decide)⟩
  | _ => exact ⟨_, _, rfl, by decide, by decide, by decide, by decide⟩

/-- If tokens are left with nothing but blanks between them, then the text had these tokens, with
gaps and superfluous commas between them. -/
theorem exists_pieces_of_spells {tokens : List Token} (hwell : ∀ token ∈ tokens, token.IsWellFormed)
    {text out : Text} (h : Spells tokens (stripFrom .plain text) out) :
    ∃ pieces : List LoosePiece, ∃ rest, text = pieces.flatMap LoosePiece.text ++ rest ∧
      pieces.map (fun piece => piece.token) = tokens ∧ (∀ piece ∈ pieces, piece.IsLoose) ∧
        stripFrom .plain rest = out := by
  induction tokens generalizing text with
  | nil =>
    cases h
    exact ⟨[], text, rfl, rfl, by simp, rfl⟩
  | cons token tokens ih =>
    obtain ⟨hwell, hothers⟩ := List.forall_mem_cons.mp hwell
    generalize hleft : stripFrom .plain text = left at h
    cases h with
    | @cons gap more _ _ _ hgap h =>
      obtain ⟨c, word, htoken, hblank, hslash, hhash, hcloses⟩ := exists_cons_text hwell
      rw [htoken, List.cons_append] at hleft
      obtain ⟨before, after?, next, rfl, hlead, hnext⟩ :=
        hasLead_of_stripFrom hgap hblank hslash hhash hleft
      obtain ⟨written, last, hsplit, hwritten, hlast⟩ :=
        exists_of_stripFrom_token hwell htoken hnext
      obtain ⟨pieces, rest, rfl, rfl, hloose, hout⟩ := ih hothers (hlast ▸ h)
      refine ⟨⟨⟨before, after?, token⟩, written⟩ :: pieces, rest, ?_, rfl, ?_, hout⟩
      · rw [hsplit, List.flatMap_cons, LoosePiece.text]
        simp
      · refine List.forall_mem_cons.mpr ⟨⟨⟨hlead.isGap, fun after hafter => ?_⟩, hwritten⟩, hloose⟩
        obtain ⟨hafter, hclosing⟩ := hlead.after after hafter
        exact ⟨hafter, hcloses hclosing⟩

end Lenient

end PropertyKeys

import Mathlib.Data.List.Chain
import PropertyKeys.Metadata.Document
import PropertyKeys.Proofs.Json.Unstripping

/-!
# What documents are accepted

A text is accepted as a document if it starts with one, up to two slips: comments may stand in the
middle of a literal or of a number, and a comma may stand alone in an empty array or object. A text
without them is accepted only if it starts with an object in the lenient grammar. A text that does
not even start with a document that has slips is reported as malformed.

## Main definitions

* `Json.StartsWith`: whether a text starts with a document of the lenient grammar.
* `Json.IsLooseStart`: whether a text starts with a document that may have slips.

## Main results

* `Metadata.startsWith_of_readDocument`: what is accepted, and what is reported as malformed.
-/

namespace PropertyKeys

namespace Json

/-- Whether a mark opens an array or an object. -/
def Token.opens : Token → Bool
  | .openArray | .openObject => true
  | _ => false

/-- A superfluous comma stands behind an item or a member, and not directly behind an opening
mark. -/
def CommasFollowItems (pieces : List Piece) : Prop :=
  pieces.IsChain fun previous piece => previous.token.opens = true → piece.afterComma? = none

/-- The text starts with a document of the lenient grammar that denotes the value. -/
def StartsWith (text : Text) (value : Json) : Prop :=
  ∃ (pieces : List Piece) (rest : Text), text = pieces.flatMap Piece.text ++ rest ∧
    Denotes (.value value) (pieces.map Piece.token) ∧ (∀ piece ∈ pieces, piece.IsLenient) ∧
      CommasFollowItems pieces

/-- The text starts with pieces that denote the value. Tokens may be interrupted by comments, and a
superfluous comma may stand in front of any closing mark. -/
def IsLooseStart (text : Text) (value : Json) (pieces : List LoosePiece) : Prop :=
  (∃ rest, text = pieces.flatMap LoosePiece.text ++ rest) ∧
    Denotes (.value value) (pieces.map fun piece => piece.token) ∧
      ∀ piece ∈ pieces, piece.IsLoose

/-- Some token is interrupted, or some comma stands directly behind an opening mark. -/
def HasSlip (pieces : List LoosePiece) : Prop :=
  (∃ piece ∈ pieces, piece.written ≠ piece.token.text) ∨
    ¬CommasFollowItems (pieces.map LoosePiece.toPiece)

/-- Without slips a loose document is one of the lenient grammar. -/
theorem IsLooseStart.startsWith {text : Text} {value : Json} {pieces : List LoosePiece}
    (h : IsLooseStart text value pieces) (hslip : ¬HasSlip pieces) : StartsWith text value := by
  obtain ⟨⟨rest, rfl⟩, hdenotes, hloose⟩ := h
  obtain ⟨hwhole, hcommas⟩ := not_or.mp hslip
  refine ⟨pieces.map LoosePiece.toPiece, rest, ?_, by rwa [List.map_map], ?_,
    Classical.not_not.mp hcommas⟩
  · have htexts : pieces.map LoosePiece.text = pieces.map (Piece.text ∘ LoosePiece.toPiece) := by
      refine List.map_congr_left fun piece hpiece => ?_
      have hwritten : piece.written = piece.token.text :=
        Classical.byContradiction fun hne => hwhole ⟨piece, hpiece, hne⟩
      rw [LoosePiece.text, hwritten, Function.comp_apply, Piece.text_eq]
    rw [List.flatMap_def, List.flatMap_def, htexts, List.map_map]
  · intro piece hpiece
    obtain ⟨loose, hmem, rfl⟩ := List.mem_map.mp hpiece
    exact (hloose loose hmem).1

/-! ## The front of a document -/

theorem Token.IsWrittenAs.ne_nil {token : Token} {written : Text} (h : token.IsWrittenAs written) :
    written ≠ [] := by
  cases token with
  | literal word => cases h <;> simp
  | number word => cases h <;> simp
  | _ => exact fun hnil => by cases h.symm.trans hnil

/-- No document is empty. -/
theorem IsLooseStart.ne_nil {text : Text} {value : Json} {pieces : List LoosePiece}
    (h : IsLooseStart text value pieces) : text ≠ [] := by
  obtain ⟨⟨rest, rfl⟩, hdenotes, hloose⟩ := h
  obtain ⟨first, more, hpieces, -⟩ := hdenotes.derives.exists_cons
  obtain ⟨piece, others, rfl, -, -⟩ := List.map_eq_cons_iff.mp hpieces
  have hwritten := (hloose piece List.mem_cons_self).2.ne_nil
  simp [LoosePiece.text, hwritten]

/-- A gap starts with a blank or with a comment. -/
theorem IsGap.eq_nil {gap text : Text} (h : IsGap gap) {c : Char} {more : Text}
    (hc : isSpace c = false ∧ c ≠ '/' ∧ c ≠ '#') (heq : c :: text = gap ++ more) : gap = [] := by
  obtain ⟨hspace, hslash, hhash⟩ := hc
  cases h with
  | nil => rfl
  | space hd _ =>
    obtain rfl := (List.cons.inj heq).1
    exact absurd (hspace.symm.trans hd) Bool.false_ne_true
  | lineComment hmark _ _ =>
    rcases hmark with rfl | rfl
    · exact absurd (List.cons.inj heq).1 hslash
    · exact absurd (List.cons.inj heq).1 hhash
  | blockComment _ _ => exact absurd (List.cons.inj heq).1 hslash

/-- A piece that starts with a character of no gap starts with its token or with a superfluous
comma. -/
theorem Piece.IsLenient.eq_token_or {piece : Piece} (h : piece.IsLenient) {c : Char}
    {text more : Text} (hc : isSpace c = false ∧ c ≠ '/' ∧ c ≠ '#')
    (heq : c :: text = piece.text ++ more) :
    c :: text = piece.token.text ++ more ∨ c = ',' ∧ piece.afterComma? ≠ none := by
  rw [Piece.text_eq, List.append_assoc] at heq
  cases hafter : piece.afterComma? with
  | none =>
    rw [hafter, lead] at heq
    rw [h.1.eq_nil hc heq] at heq
    exact .inl heq
  | some after =>
    rw [hafter, lead, List.append_assoc] at heq
    rw [h.1.eq_nil hc heq] at heq
    exact .inr ⟨(List.cons.inj heq).1, Option.some_ne_none after⟩

/-- The first token of a document stands at its front, unless a gap or a comma does. -/
theorem exists_of_flatMap_text {pieces : List Piece} {token : Token} {tokens : List Token}
    (htokens : pieces.map Piece.token = token :: tokens)
    (hlenient : ∀ piece ∈ pieces, piece.IsLenient) {c : Char} {text rest : Text}
    (hc : isSpace c = false ∧ c ≠ '/' ∧ c ≠ '#') (hcomma : c ≠ ',')
    (htext : c :: text = pieces.flatMap Piece.text ++ rest) :
    ∃ piece others, pieces = piece :: others ∧ piece.token = token ∧
      others.map Piece.token = tokens ∧
        c :: text = token.text ++ (others.flatMap Piece.text ++ rest) := by
  obtain ⟨piece, others, rfl, rfl, rfl⟩ := List.map_eq_cons_iff.mp htokens
  rw [List.flatMap_cons, List.append_assoc] at htext
  obtain htoken | ⟨rfl, -⟩ := (hlenient piece List.mem_cons_self).eq_token_or hc htext
  · exact ⟨piece, others, rfl, rfl, rfl, htoken⟩
  · exact absurd rfl hcomma

/-- A value starts with a scalar or with an opening mark. -/
theorem Denotes.exists_first {value : Json} {tokens : List Token}
    (h : Denotes (.value value) tokens) :
    ∃ first more, tokens = first :: more ∧ (first.IsScalar ∨ first.opens = true) := by
  cases h with
  | scalar h => exact ⟨_, _, rfl, .inl h.isScalar⟩
  | _ => exact ⟨_, _, rfl, .inr rfl⟩

/-- An object is empty or starts with the name and the value of a member. -/
theorem Denotes.object_cases {members : List (Text × Json)} {tokens : List Token}
    (h : Denotes (.value (.object members)) tokens) :
    tokens = [.openObject, .closeObject] ∨
      ∃ body first more, tokens = .openObject :: .string body :: .colon :: first :: more ∧
        IsTextBody body ∧ (first.IsScalar ∨ first.opens = true) := by
  cases h with
  | scalar h => cases h
  | emptyObject => exact .inl rfl
  | object h =>
    cases h with
    | lastMember hname h =>
      obtain ⟨first, more, rfl, hfirst⟩ := h.exists_first
      exact .inr ⟨_, first, _, rfl, hname.isTextBody, hfirst⟩
    | member hname h _ =>
      obtain ⟨first, more, rfl, hfirst⟩ := h.exists_first
      exact .inr ⟨_, first, _, rfl, hname.isTextBody, hfirst⟩

/-- A comma alone in an object is not in the lenient grammar. -/
theorem not_startsWith_loneComma (members : List (Text × Json)) :
    ¬StartsWith ['\x7b', ',', '\x7d'] (.object members) := by
  rintro ⟨pieces, rest, htext, hdenotes, hlenient, hcommas⟩
  obtain ⟨second, more, htokens, c, word, hsecond, hne⟩ : ∃ second more,
      pieces.map Piece.token = .openObject :: second :: more ∧
        ∃ c word, second.text = c :: word ∧ ',' ≠ c := by
    obtain htokens | ⟨body, first, more, htokens, -, -⟩ := hdenotes.object_cases
    · exact ⟨_, _, htokens, _, _, rfl, by decide⟩
    · exact ⟨_, _, htokens, _, _, rfl, by decide⟩
  obtain ⟨opening, others, rfl, hopening, hothers, hafter⟩ :=
    exists_of_flatMap_text htokens hlenient (by decide) (by decide) htext
  obtain ⟨piece, last, rfl, rfl, rfl⟩ := List.map_eq_cons_iff.mp hothers
  have hafter : [',', '\x7d'] = piece.text ++ (last.flatMap Piece.text ++ rest) := by
    rw [← List.append_assoc, ← List.flatMap_cons]
    exact (List.cons.inj hafter).2
  obtain htoken | ⟨-, hcomma⟩ := (hlenient piece (by simp)).eq_token_or (by decide) hafter
  · rw [hsecond] at htoken
    exact hne (List.cons.inj htoken).1
  · exact hcomma ((List.isChain_cons_cons.mp hcommas).1 (by rw [hopening]; rfl))

/-- A text whose first character is followed by a quotation mark has no other. -/
theorem IsTextBody.eq_singleton {body text more : Text} (h : IsTextBody body) {c : Char}
    (hquote : c ≠ '"') (hbackslash : c ≠ '\\') (heq : c :: '"' :: text = body ++ '"' :: more) :
    body = [c] ∧ text = more := by
  cases h with
  | nil => exact absurd (List.cons.inj heq).1 hquote
  | char _ _ _ hrest =>
    obtain ⟨rfl, htail⟩ := List.cons.inj heq
    cases hrest with
    | nil => exact ⟨rfl, (List.cons.inj htail).2⟩
    | char hne _ _ _ => exact absurd (List.cons.inj htail).1.symm hne
    | escape _ _ => cases (List.cons.inj htail).1
    | code _ _ => cases (List.cons.inj htail).1
  | escape _ _ => exact absurd (List.cons.inj heq).1 hbackslash
  | code _ _ => exact absurd (List.cons.inj heq).1 hbackslash

/-- No value starts with a literal that is cut off. -/
theorem text_append_ne_cutTrue {first : Token} (h : first.IsScalar ∨ first.opens = true)
    (more : Text) : first.text ++ more ≠ "tr/**/ue\x7d".toList := by
  intro heq
  cases first with
  | openArray => cases (List.cons.inj heq).1
  | openObject => cases (List.cons.inj heq).1
  | string body => cases (List.cons.inj heq).1
  | literal word =>
    rcases h.resolve_right Bool.false_ne_true with rfl | rfl | rfl <;> cases heq
  | number word =>
    have hnumber : IsNumber word := h.resolve_right Bool.false_ne_true
    obtain ⟨c, cs, rfl⟩ := List.exists_cons_of_ne_nil (Lenient.ne_nil_of_isNumber hnumber)
    have hc := Lenient.isNumberChar_of_isNumber hnumber c List.mem_cons_self
    obtain rfl : c = 't' := (List.cons.inj heq).1
    exact absurd hc (by decide)
  | _ => exact h.elim id (fun hopens => Bool.false_ne_true hopens)

/-- A comment in the middle of a literal is not in the lenient grammar. -/
theorem not_startsWith_joined (members : List (Text × Json)) :
    ¬StartsWith ('\x7b' :: "\"a\":tr/**/ue\x7d".toList) (.object members) := by
  rintro ⟨pieces, rest, htext, hdenotes, hlenient, -⟩
  obtain htokens | ⟨body, first, more, htokens, hbody, hfirst⟩ := hdenotes.object_cases
  · obtain ⟨_, others, rfl, -, hothers, htext⟩ :=
      exists_of_flatMap_text htokens hlenient (by decide) (by decide) htext
    obtain ⟨_, _, -, -, -, htext⟩ := exists_of_flatMap_text hothers
      (fun piece hpiece => hlenient piece (List.mem_cons_of_mem _ hpiece)) (by decide) (by decide)
      (List.cons.inj htext).2
    cases (List.cons.inj htext).1
  · -- the brace, the name, the colon and then the value
    obtain ⟨_, named, rfl, -, hnamed, htext⟩ :=
      exists_of_flatMap_text htokens hlenient (by decide) (by decide) htext
    have hlenient := (List.forall_mem_cons.mp hlenient).2
    obtain ⟨_, valued, rfl, -, hvalued, htext⟩ :=
      exists_of_flatMap_text hnamed hlenient (by decide) (by decide) (List.cons.inj htext).2
    have hlenient := (List.forall_mem_cons.mp hlenient).2
    obtain ⟨-, htext⟩ := hbody.eq_singleton (by decide) (by decide)
      ((List.cons.inj htext).2.trans (List.append_assoc ..))
    obtain ⟨_, last, rfl, -, hlast, htext⟩ :=
      exists_of_flatMap_text hvalued hlenient (by decide) (by decide) htext
    have hlenient := (List.forall_mem_cons.mp hlenient).2
    obtain ⟨_, _, -, -, -, htext⟩ :=
      exists_of_flatMap_text hlast hlenient (by decide) (by decide) (List.cons.inj htext).2
    exact text_append_ne_cutTrue hfirst _ htext.symm

/-! ## What is read -/

/-- The first value that is read from a stripped text stood at the start of the text. -/
theorem exists_of_readFirst? {text : Text} {value : Json}
    (h : readFirst? (Lenient.strip text) = some (.ok value)) :
    ∃ pieces, IsLooseStart text value pieces := by
  unfold readFirst? at h
  split at h
  case h_1 => cases h
  case h_2 c rest hstart =>
    cases hread : readValue maxDepth (c :: rest) with
    | error refusal => simp [hread] at h
    | ok result =>
      obtain ⟨read, after⟩ := result
      obtain rfl : read = value := by
        simp only [hread] at h
        split at h
        · exact Except.ok.inj (Option.some.inj h)
        · cases h
      rw [← hstart] at hread
      obtain ⟨tokens, hdenotes, hspells⟩ := exists_of_readValue _ _ _ _ hread
      obtain ⟨first, others, rfl, -⟩ := hdenotes.derives.exists_cons
      obtain ⟨pieces, last, htext, hpieces, hloose, -⟩ :=
        Lenient.exists_pieces_of_spells hdenotes.derives.isWellFormed hspells.of_skipSpace
      exact ⟨pieces, ⟨last, htext⟩, hpieces ▸ hdenotes, hloose⟩

end Json

namespace Metadata

open Json

/-- **What is accepted as a document.** If an object is read, then the text starts with it, perhaps
with slips, and without a slip the lenient grammar has it. If the text starts with no document at
all, not even with one that has slips, then it is reported as malformed. -/
theorem startsWith_of_readDocument (text : Text) :
    (∀ members, readDocument text = .ok members →
      ∃ pieces, IsLooseStart (dropByteOrderMark text) (.object members) pieces ∧
        (StartsWith (dropByteOrderMark text) (.object members) ∨ HasSlip pieces)) ∧
    ((∀ value pieces, ¬IsLooseStart (dropByteOrderMark text) value pieces) →
      ∃ cause, readDocument text = .error (.malformed cause)) := by
  constructor
  · intro members h
    rw [readDocument] at h
    split at h
    case h_3 found hfirst =>
      obtain rfl : found = members := Except.ok.inj h
      obtain ⟨pieces, hpieces⟩ := exists_of_readFirst? hfirst
      refine ⟨pieces, hpieces, ?_⟩
      by_cases hslip : HasSlip pieces
      · exact .inr hslip
      · exact .inl (hpieces.startsWith hslip)
    all_goals cases h
  · intro hnone
    rw [readDocument]
    split
    case h_1 => exact ⟨_, rfl⟩
    case h_2 => exact ⟨_, rfl⟩
    case h_3 hfirst =>
      obtain ⟨pieces, hpieces⟩ := exists_of_readFirst? hfirst
      exact absurd hpieces (hnone _ pieces)
    case h_4 hfirst =>
      obtain ⟨pieces, hpieces⟩ := exists_of_readFirst? hfirst
      exact absurd hpieces (hnone _ pieces)

/-- An object with a comment, a byte order mark in front of it and a superfluous comma. -/
def markedObject : Text :=
  ("\ufeff\x7b/* one */\"a\":[1,],# two\n\x7d!").toList

theorem startsWith_of_readDocument_markedObject :
    (readDocument markedObject =
        .ok [(['a'], .array [.number (.integer 1)])] ∧
      ∃ pieces, IsLooseStart (dropByteOrderMark markedObject)
          (.object [(['a'], .array [.number (.integer 1)])]) pieces ∧
        (StartsWith (dropByteOrderMark markedObject)
          (.object [(['a'], .array [.number (.integer 1)])]) ∨ HasSlip pieces)) ∧
    (∀ value pieces, ¬IsLooseStart (dropByteOrderMark []) value pieces) ∧
      ∃ cause, readDocument [] = .error (.malformed cause) := by
  have hread : readDocument markedObject = .ok [(['a'], .array [.number (.integer 1)])] := rfl
  have hnone : ∀ value pieces, ¬IsLooseStart (dropByteOrderMark []) value pieces :=
    fun _ _ hstart => hstart.ne_nil rfl
  exact ⟨⟨hread, (startsWith_of_readDocument markedObject).1 _ hread⟩, hnone,
    (startsWith_of_readDocument []).2 hnone⟩

/-- A comma may stand alone in an object, and comments may join what they separate. -/
theorem readDocument_slips :
    (readDocument ['\x7b', ',', '\x7d'] = .ok [] ∧
      ¬StartsWith ['\x7b', ',', '\x7d'] (.object [])) ∧
    readDocument ('\x7b' :: "\"a\":tr/**/ue\x7d".toList) = .ok [(['a'], .bool true)] ∧
      ¬StartsWith ('\x7b' :: "\"a\":tr/**/ue\x7d".toList) (.object [(['a'], .bool true)]) ∧
      readDocument ('\x7b' :: "\"a\":tr ue\x7d".toList) =
        .error (.malformed (.unreadable .expectedLiteral)) :=
  ⟨⟨rfl, not_startsWith_loneComma []⟩, rfl, not_startsWith_joined _, rfl⟩

end Metadata

end PropertyKeys

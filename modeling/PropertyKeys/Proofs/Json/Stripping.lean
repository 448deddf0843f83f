import PropertyKeys.Json.Lenient
import PropertyKeys.Proofs.Json.Layout
import PropertyKeys.Proofs.Unicode.Letters

/-!
# Stripping keeps the tokens

Stripping takes the comments and the superfluous commas out of a document and leaves all else. The
scanner is in its plain mode in front of every gap and of every token: a gap is turned into its
blanks, a token is copied as it is, and in front of a comma the scanner looks past the next gap to
see whether a closing mark follows.

## Main results

* `Lenient.stripFrom_gap` / `Lenient.stripFrom_token` / `Lenient.stripFrom_piece`: the steps of the
  scanner over a gap, over a token and over both.
* `Lenient.strip_text`: stripping a lenient document leaves its tokens with blanks between them, and
  a plain document is left alone.
-/

namespace PropertyKeys.Lenient

open Unicode Json

/-! ## Gaps -/

theorem isBlank_of_isSpace {c : Char} (h : isSpace c = true) : isBlank c = true := by
  have hspaces : c = ' ' ∨ c = '\t' ∨ c = '\n' ∨ c = '\r' := by
    simpa [isSpace, or_assoc] using h
  rcases hspaces with rfl | rfl | rfl | rfl <;> decide

/-- A character that neither starts a comment nor is a comma is copied. -/
theorem stripFrom_cons {c : Char} (hslash : c ≠ '/') (hhash : c ≠ '#') (hcomma : c ≠ ',')
    (rest : Text) :
    stripFrom .plain (c :: rest) =
      c :: stripFrom (if c = '"' then .quoted else .plain) rest := by
  simp [stripFrom, hslash, hhash, hcomma]

theorem stripFrom_comma (rest : Text) :
    stripFrom .plain (',' :: rest) =
      if closesNext .plain rest then stripFrom .plain rest else ',' :: stripFrom .plain rest := by
  simp [stripFrom]

theorem closesNext_cons {c : Char} (hslash : c ≠ '/') (hhash : c ≠ '#') (rest : Text) :
    closesNext .plain (c :: rest) =
      if isBlank c then closesNext .plain rest else c = ']' || c = '\x7d' := by
  simp [closesNext, hslash, hhash]

theorem stripFrom_space {c : Char} (hc : isSpace c = true) (rest : Text) :
    stripFrom .plain (c :: rest) = c :: stripFrom .plain rest ∧
      closesNext .plain (c :: rest) = closesNext .plain rest := by
  obtain ⟨hslash, hhash, hcomma, hquote⟩ : c ≠ '/' ∧ c ≠ '#' ∧ c ≠ ',' ∧ c ≠ '"' := by
    refine ⟨?_, ?_, ?_, ?_⟩ <;> rintro rfl <;> exact absurd hc (by decide)
  rw [stripFrom_cons hslash hhash hcomma, if_neg hquote, closesNext_cons hslash hhash,
    if_pos (isBlank_of_isSpace hc)]
  exact ⟨rfl, rfl⟩

/-- A mark of a line comment changes the mode of the scanner. -/
theorem stripFrom_lineMark {mark : Text} (hmark : IsLineMark mark) (rest : Text) :
    stripFrom .plain (mark ++ rest) = stripFrom .lineComment rest ∧
      closesNext .plain (mark ++ rest) = closesNext .lineComment rest := by
  rcases hmark with rfl | rfl <;> exact ⟨by simp [stripFrom], by simp [closesNext]⟩

/-- Of a line comment only the line break is left. -/
theorem stripFrom_lineComment {mark body : Text} (hmark : IsLineMark mark) (hbody : '\n' ∉ body)
    (rest : Text) :
    stripFrom .plain (mark ++ (body ++ '\n' :: rest)) = '\n' :: stripFrom .plain rest ∧
      closesNext .plain (mark ++ (body ++ '\n' :: rest)) = closesNext .plain rest := by
  rw [(stripFrom_lineMark hmark _).1, (stripFrom_lineMark hmark _).2]
  induction body with
  | nil => exact ⟨by simp [stripFrom], by simp [closesNext]⟩
  | cons c cs ih =>
    obtain ⟨hc, hcs⟩ : '\n' ≠ c ∧ '\n' ∉ cs := by simpa using hbody
    obtain ⟨hstrip, hcloses⟩ := ih hcs
    rw [List.cons_append, stripFrom, if_neg hc.symm, closesNext, if_neg hc.symm]
    exact ⟨hstrip, hcloses⟩

/-- A line comment that the end of the text ends leaves nothing. -/
theorem strip_lineComment {mark body : Text} (hmark : IsLineMark mark) (hbody : '\n' ∉ body) :
    strip (mark ++ body) = [] := by
  rw [strip, (stripFrom_lineMark hmark body).1]
  induction body with
  | nil => rfl
  | cons c cs ih =>
    obtain ⟨hc, hcs⟩ : '\n' ≠ c ∧ '\n' ∉ cs := by simpa using hbody
    rw [stripFrom, if_neg hc.symm, ih hcs]

/-- The closing mark of a comment between marks is found behind the body, and not at its front if a
star has just been passed. -/
theorem stripFrom_blockBody {body : Text} (hbody : ¬['*', '/'] <:+: body) (star : Bool)
    (hstar : star = true → body.head? ≠ some '/') (rest : Text) :
    stripFrom (.blockComment star) (body ++ '*' :: '/' :: rest) = stripFrom .plain rest ∧
      closesNext (.blockComment star) (body ++ '*' :: '/' :: rest) = closesNext .plain rest := by
  induction body generalizing star with
  | nil => exact ⟨by simp [stripFrom], by simp [closesNext]⟩
  | cons c cs ih =>
    have hopen : ¬(star && c = '/') = true := by
      intro h
      obtain ⟨hs, hc⟩ := Bool.and_eq_true_iff.mp h
      exact hstar hs (by simpa using hc)
    have hcs : ¬['*', '/'] <:+: cs := fun h =>
      hbody (h.trans (List.infix_cons (List.infix_refl cs)))
    have hnext : decide (c = '*') = true → cs.head? ≠ some '/' := by
      intro hc hhead
      obtain ⟨more, rfl⟩ := List.head?_eq_some_iff.mp hhead
      exact hbody ⟨[], more, by simp [of_decide_eq_true hc]⟩
    obtain ⟨hstrip, hcloses⟩ := ih hcs (decide (c = '*')) hnext
    rw [List.cons_append, stripFrom, if_neg hopen, closesNext, if_neg hopen]
    exact ⟨hstrip, hcloses⟩

/-- Nothing is left of a comment between marks. -/
theorem stripFrom_blockComment {body : Text} (hbody : ¬['*', '/'] <:+: body) (rest : Text) :
    stripFrom .plain ('/' :: '*' :: (body ++ '*' :: '/' :: rest)) = stripFrom .plain rest ∧
      closesNext .plain ('/' :: '*' :: (body ++ '*' :: '/' :: rest)) = closesNext .plain rest := by
  obtain ⟨hstrip, hcloses⟩ := stripFrom_blockBody hbody false
    (fun h => absurd h Bool.false_ne_true) rest
  exact ⟨by simpa [stripFrom] using hstrip, by simpa [closesNext] using hcloses⟩

/-- The scanner passes a gap, and leaves of it what it leaves of it alone. -/
theorem stripFrom_gap {gap : Text} (h : IsGap gap) (rest : Text) :
    stripFrom .plain (gap ++ rest) = strip gap ++ stripFrom .plain rest ∧
      closesNext .plain (gap ++ rest) = closesNext .plain rest := by
  induction h with
  | nil => exact ⟨rfl, rfl⟩
  | @space c cs hc _ ih =>
    rw [strip, List.cons_append, (stripFrom_space hc cs).1, (stripFrom_space hc (cs ++ rest)).1,
      (stripFrom_space hc (cs ++ rest)).2, ih.1, ih.2]
    exact ⟨rfl, rfl⟩
  | @lineComment mark body cs hmark hbody _ ih =>
    have hall := stripFrom_lineComment hmark hbody (cs ++ rest)
    rw [strip, List.append_assoc, List.append_assoc, List.cons_append,
      (stripFrom_lineComment hmark hbody cs).1, hall.1, hall.2, ih.1, ih.2]
    exact ⟨rfl, rfl⟩
  | @blockComment body cs hbody _ ih =>
    have hall := stripFrom_blockComment hbody (cs ++ rest)
    simp only [strip, List.cons_append, List.append_assoc]
    rw [(stripFrom_blockComment hbody cs).1, hall.1, hall.2, ih.1, ih.2]
    exact ⟨rfl, rfl⟩

/-- What is left of a gap are blanks. -/
theorem all_isSpace_strip {gap : Text} (h : IsGap gap) : (strip gap).all isSpace = true := by
  induction h with
  | nil => rfl
  | space hc _ ih =>
    rw [strip, (stripFrom_space hc _).1, List.all_cons, hc, Bool.true_and]
    exact ih
  | lineComment hmark hbody _ ih =>
    rw [strip, (stripFrom_lineComment hmark hbody _).1, List.all_cons]
    exact ih
  | blockComment hbody _ ih =>
    rw [strip, (stripFrom_blockComment hbody _).1]
    exact ih

theorem all_isSpace_strip_last {gap : Text} (h : IsLastGap gap) :
    (strip gap).all isSpace = true := by
  cases h with
  | gap h => exact all_isSpace_strip h
  | @lineComment gap mark body h hmark hbody =>
    have hcomment := strip_lineComment hmark hbody
    rw [strip] at hcomment
    rw [strip, (stripFrom_gap h (mark ++ body)).1, hcomment, List.append_nil]
    exact all_isSpace_strip h

/-- Blanks are left alone. -/
theorem strip_eq_self {gap : Text} (h : gap.all isSpace = true) : strip gap = gap := by
  induction gap with
  | nil => rfl
  | cons c cs ih =>
    obtain ⟨hc, hcs⟩ := Bool.and_eq_true_iff.mp h
    rw [strip, (stripFrom_space hc cs).1]
    exact congrArg (c :: ·) (ih hcs)

/-! ## Tokens -/

/-- A text of characters that mean nothing to the scanner is copied. -/
theorem stripFrom_append {text : Text}
    (h : ∀ c ∈ text, c ≠ '/' ∧ c ≠ '#' ∧ c ≠ ',' ∧ c ≠ '"') (rest : Text) :
    stripFrom .plain (text ++ rest) = text ++ stripFrom .plain rest := by
  induction text with
  | nil => rfl
  | cons c cs ih =>
    obtain ⟨hslash, hhash, hcomma, hquote⟩ := h c List.mem_cons_self
    rw [List.cons_append, stripFrom_cons hslash hhash hcomma, if_neg hquote,
      ih fun d hd => h d (List.mem_cons_of_mem _ hd), List.cons_append]

theorem ne_of_isHexDigit {c : Char} (h : isHexDigit c = true) : c ≠ '"' ∧ c ≠ '\\' := by
  constructor <;> rintro rfl <;> exact absurd h (by decide)

/-- A text between quotation marks is copied, whatever it holds. -/
theorem stripFrom_quoted {body : Text} (h : IsTextBody body) (rest : Text) :
    stripFrom .quoted (body ++ '"' :: rest) = body ++ '"' :: stripFrom .plain rest := by
  have hescape : ∀ (c : Char) (more : Text), stripFrom .quoted ('\\' :: c :: more) =
      '\\' :: c :: stripFrom .quoted more := fun c more => by simp [stripFrom]
  have hcopy : ∀ (c : Char) (more : Text), c ≠ '"' → c ≠ '\\' →
      stripFrom .quoted (c :: more) = c :: stripFrom .quoted more := by
    intro c more hquote hbackslash
    rw [stripFrom, if_neg hbackslash, if_neg hquote]
  induction h with
  | nil => simp [stripFrom]
  | char hquote hbackslash _ _ ih =>
    rw [List.cons_append, hcopy _ _ hquote hbackslash, ih, List.cons_append]
  | escape _ _ ih =>
    simp only [List.cons_append]
    rw [hescape, ih]
  | @code a b c d more hdigits _ ih =>
    have hdigit : ∀ e ∈ [a, b, c, d], e ≠ '"' ∧ e ≠ '\\' :=
      fun e he => ne_of_isHexDigit (List.all_eq_true.mp hdigits e he)
    simp only [List.mem_cons, List.not_mem_nil, or_false, forall_eq_or_imp, forall_eq] at hdigit
    obtain ⟨ha, hb, hc, hd⟩ := hdigit
    simp only [List.cons_append]
    rw [hescape, hcopy _ _ ha.1 ha.2, hcopy _ _ hb.1 hb.2, hcopy _ _ hc.1 hc.2,
      hcopy _ _ hd.1 hd.2, ih]

/-- Whether a character may stand in a number. -/
def isNumberChar (c : Char) : Bool :=
  c.isDigit || "+-.eE".toList.contains c

theorem isNumberChar_of_isNumber {text : Text} (h : IsNumber text) :
    ∀ c ∈ text, isNumberChar c = true := by
  have hdigits : ∀ {digits : Text}, IsDigits digits → ∀ c ∈ digits, isNumberChar c = true :=
    fun hdigits c hc => Bool.or_eq_true_iff.mpr (Or.inl (List.all_eq_true.mp hdigits.2 c hc))
  obtain ⟨minus, integer, fraction, exponent, rfl, hminus, hinteger, -, hfraction, hexponent⟩ := h
  intro c hc
  simp only [List.mem_append] at hc
  rcases hc with ((hc | hc) | hc) | hc
  · rcases hminus with rfl | rfl
    · exact absurd hc List.not_mem_nil
    · rw [List.mem_singleton.mp hc]; rfl
  · exact hdigits hinteger c hc
  · rcases hfraction with rfl | ⟨digits, rfl, hfraction⟩
    · exact absurd hc List.not_mem_nil
    · rcases List.mem_cons.mp hc with rfl | hc
      · rfl
      · exact hdigits hfraction c hc
  · rcases hexponent with rfl | ⟨mark, sign, digits, rfl, hmark, hsign, hexponent⟩
    · exact absurd hc List.not_mem_nil
    · rcases List.mem_append.mp hc with hc | hc
      · rcases List.mem_cons.mp hc with rfl | hc
        · rcases hmark with rfl | rfl <;> rfl
        · rcases hsign with rfl | rfl | rfl
          · exact absurd hc List.not_mem_nil
          · rw [List.mem_singleton.mp hc]; rfl
          · rw [List.mem_singleton.mp hc]; rfl
      · exact hdigits hexponent c hc

theorem ne_nil_of_isNumber {text : Text} (h : IsNumber text) : text ≠ [] := by
  obtain ⟨minus, integer, fraction, exponent, rfl, -, hinteger, -, -, -⟩ := h
  simp [hinteger.1]

/-- A character of a number is no blank and no mark. -/
theorem isNumberChar_spec {c : Char} (h : isNumberChar c = true) :
    (c ≠ '/' ∧ c ≠ '#' ∧ c ≠ ',' ∧ c ≠ '"') ∧ isBlank c = false ∧ c ≠ ']' ∧ c ≠ '\x7d' := by
  have hascii : c.toNat < 0x80 := by
    rcases Bool.or_eq_true_iff.mp h with hdigit | hmark
    · exact ascii_of_isDigit hdigit
    · have hmarks : ∀ d ∈ "+-.eE".toList, d.toNat < 0x80 := by simp
      exact hmarks c (List.contains_iff_mem.mp hmark)
  exact forall_ascii
    (P := fun c => isNumberChar c = true →
      (c ≠ '/' ∧ c ≠ '#' ∧ c ≠ ',' ∧ c ≠ '"') ∧ isBlank c = false ∧ c ≠ ']' ∧ c ≠ '\x7d')
    (by decide +kernel) hascii h

/-- Any token but a comma is copied. -/
theorem stripFrom_token {token : Token} (h : token.IsWellFormed) (hcomma : token ≠ .comma)
    (rest : Text) :
    stripFrom .plain (token.text ++ rest) = token.text ++ stripFrom .plain rest := by
  cases token with
  | comma => exact absurd rfl hcomma
  | string body =>
    rw [Token.text, List.append_assoc, List.cons_append,
      stripFrom_cons (by decide) (by decide) (by decide), if_pos rfl, List.singleton_append,
      stripFrom_quoted h]
    simp
  | number text =>
    exact stripFrom_append
      (fun c hc => (isNumberChar_spec (isNumberChar_of_isNumber h c hc)).1) rest
  | literal text =>
    rcases h with rfl | rfl | rfl <;> exact stripFrom_append (by simp [Token.text]) rest
  | _ => exact stripFrom_append (by simp [Token.text]) rest

/-- The scanner sees a closing mark in front of it exactly if the next token is one. -/
theorem closesNext_token {token : Token} (h : token.IsWellFormed) (rest : Text) :
    closesNext .plain (token.text ++ rest) = token.closes := by
  -- the first character decides, unless it is a blank or may start a comment
  have hfirst : ∀ (c : Char) (more : Text), c ≠ '/' → c ≠ '#' → isBlank c = false →
      closesNext .plain (c :: more) = (c = ']' || c = '\x7d') := by
    intro c more hslash hhash hblank
    rw [closesNext_cons hslash hhash, hblank, if_neg Bool.false_ne_true]
  cases token with
  | number text =>
    obtain ⟨c, cs, rfl⟩ := List.exists_cons_of_ne_nil (ne_nil_of_isNumber h)
    obtain ⟨⟨hslash, hhash, -, -⟩, hblank, hbracket, hbrace⟩ :=
      isNumberChar_spec (isNumberChar_of_isNumber h c List.mem_cons_self)
    exact (hfirst c (cs ++ rest) hslash hhash hblank).trans
      (by simp [hbracket, hbrace, Token.closes])
  | literal text =>
    rcases h with rfl | rfl | rfl <;>
      exact hfirst _ _ (by decide) (by decide) (by decide)
  | _ => exact hfirst _ _ (by decide) (by decide) (by decide)

/-! ## Documents -/

/-- What stripping leaves of a piece. -/
def stripPiece (piece : Piece) : Piece :=
  { gap := strip piece.gap ++ strip (piece.afterComma?.getD [])
    token := piece.token }

theorem isPlain_stripPiece {piece : Piece} (h : piece.IsLenient) : (stripPiece piece).IsPlain := by
  refine ⟨?_, rfl⟩
  rw [stripPiece, List.all_append, all_isSpace_strip h.1, Bool.true_and]
  cases hcomma : piece.afterComma? with
  | none => rfl
  | some after => exact all_isSpace_strip (h.2 after hcomma).1

theorem stripPiece_eq_self {piece : Piece} (h : piece.IsPlain) : stripPiece piece = piece := by
  obtain ⟨gap, afterComma?, token⟩ := piece
  obtain ⟨hgap, rfl⟩ := h
  rw [stripPiece, strip_eq_self hgap]
  exact congrArg (fun gap => (⟨gap, none, token⟩ : Piece)) (List.append_nil gap)

/-- In front of a token that closes nothing there is no superfluous comma, and the scanner sees that
nothing is closed. -/
theorem closesNext_piece {piece : Piece} (h : piece.IsLenient) (hwell : piece.token.IsWellFormed)
    (hopen : piece.token.closes = false) (rest : Text) :
    closesNext .plain (piece.text ++ rest) = false := by
  rw [Piece.text]
  cases hcomma : piece.afterComma? with
  | none =>
    rw [List.append_assoc, (stripFrom_gap h.1 _).2, closesNext_token hwell, hopen]
  | some after =>
    rw [(h.2 after hcomma).2] at hopen
    exact absurd hopen.symm Bool.false_ne_true

/-- The scanner passes a piece, if it copies the token: a superfluous comma is dropped, since the
token behind it is a closing mark. -/
theorem stripFrom_piece {piece : Piece} (h : piece.IsLenient) (hwell : piece.token.IsWellFormed)
    {rest : Text} (htoken : stripFrom .plain (piece.token.text ++ rest) =
      piece.token.text ++ stripFrom .plain rest) :
    stripFrom .plain (piece.text ++ rest) = (stripPiece piece).text ++ stripFrom .plain rest := by
  rw [Piece.text]
  cases hcomma : piece.afterComma? with
  | none =>
    rw [List.append_assoc, (stripFrom_gap h.1 _).1, htoken]
    simp [stripPiece, Piece.text, hcomma, strip, stripFrom]
  | some after =>
    obtain ⟨hafter, hcloses⟩ := h.2 after hcomma
    have hgap := stripFrom_gap hafter (piece.token.text ++ rest)
    have hclosesNext : closesNext .plain (after ++ (piece.token.text ++ rest)) = true := by
      rw [hgap.2, closesNext_token hwell, hcloses]
    simp only [List.append_assoc, List.cons_append]
    rw [(stripFrom_gap h.1 _).1, stripFrom_comma, hclosesNext, if_pos rfl, hgap.1, htoken]
    simp [stripPiece, Piece.text, hcomma]

/-- The scanner passes the pieces of a document in turn. -/
theorem stripFrom_pieces {pieces : List Piece} {last : Text}
    (hlenient : ∀ piece ∈ pieces, piece.IsLenient)
    (hwell : ∀ token ∈ pieces.map Piece.token, token.IsWellFormed)
    (hcommas : CommasContinue (pieces.map Piece.token)) :
    stripFrom .plain (pieces.flatMap Piece.text ++ last) =
      (pieces.map stripPiece).flatMap Piece.text ++ strip last := by
  induction pieces with
  | nil => rfl
  | cons piece pieces ih =>
    rw [List.map_cons, List.forall_mem_cons] at hwell
    rw [List.forall_mem_cons] at hlenient
    obtain ⟨hnext, hcommas⟩ := hcommas
    have ih := ih hlenient.2 hwell.2 hcommas
    have htoken : stripFrom .plain (piece.token.text ++ (pieces.flatMap Piece.text ++ last)) =
        piece.token.text ++ stripFrom .plain (pieces.flatMap Piece.text ++ last) := by
      by_cases hcomma : piece.token = .comma
      · -- behind a comma of the document the array or the object goes on, so the comma is kept
        obtain ⟨next, more, hpieces, hopen⟩ := hnext hcomma
        obtain ⟨nextPiece, others, rfl, rfl, rfl⟩ := List.map_eq_cons_iff.mp hpieces
        have hkept :
            closesNext .plain ((nextPiece :: others).flatMap Piece.text ++ last) = false := by
          rw [List.flatMap_cons, List.append_assoc]
          exact closesNext_piece (hlenient.2 nextPiece List.mem_cons_self)
            (hwell.2 nextPiece.token List.mem_cons_self) hopen _
        rw [hcomma, Token.text, List.singleton_append, stripFrom_comma, hkept,
          if_neg Bool.false_ne_true, List.singleton_append]
      · exact stripFrom_token hwell.1 hcomma _
    rw [List.flatMap_cons, List.append_assoc, stripFrom_piece hlenient.1 hwell.1 htoken, ih,
      List.map_cons, List.flatMap_cons, List.append_assoc]

/-- What stripping leaves of a document. -/
def stripLayout (layout : Layout) : Layout :=
  { pieces := layout.pieces.map stripPiece, last := strip layout.last }

theorem strip_text_eq {layout : Layout} (hvalid : Derives .value layout.tokens)
    (h : layout.IsLenient) : strip layout.text = (stripLayout layout).text :=
  stripFrom_pieces h.1 hvalid.isWellFormed hvalid.commasContinue

/-- **Stripping keeps the tokens of a document.** If the tokens make up a value, then what is left
of a lenient document are the same tokens with nothing but blanks between them, and a plain document
is left alone. -/
theorem strip_text (layout : Layout) (hvalid : Derives .value layout.tokens) :
    (layout.IsLenient → ∃ plain : Layout,
      plain.IsPlain ∧ plain.tokens = layout.tokens ∧ strip layout.text = plain.text) ∧
    (layout.IsPlain → strip layout.text = layout.text) := by
  constructor
  · intro h
    refine ⟨stripLayout layout, ⟨?_, all_isSpace_strip_last h.2⟩, ?_, strip_text_eq hvalid h⟩
    · intro piece hpiece
      obtain ⟨original, horiginal, rfl⟩ := List.mem_map.mp hpiece
      exact isPlain_stripPiece (h.1 original horiginal)
    · rw [stripLayout, Layout.tokens, List.map_map]
      rfl
  · intro h
    have hpieces : layout.pieces.map stripPiece = layout.pieces :=
      (List.map_congr_left fun piece hpiece => stripPiece_eq_self (h.1 piece hpiece)).trans
        (List.map_id _)
    rw [strip_text_eq hvalid h.isLenient, stripLayout, hpieces, strip_eq_self h.2]

/-- An object with a superfluous comma in an array, with comments before and behind that comma and
at the end, and with a text that looks like a comment. -/
def commentedLayout : Layout where
  pieces :=
    [{ gap := [], token := .openObject },
      { gap := [], token := .string "list".toList },
      { gap := [], token := .colon },
      { gap := [' '], token := .openArray },
      { gap := [], token := .string "//,]".toList },
      { gap := ['#'] ++ ("] ".toList ++ '\n' :: []),
        afterComma? := some ('/' :: '*' :: ("\"*".toList ++ '*' :: '/' :: [])),
        token := .closeArray },
      { gap := [], token := .closeObject }]
  last := [] ++ (['/', '/'] ++ " end".toList)

/-- The commented object without its comments and without the superfluous comma. -/
theorem strip_text_commentedLayout :
    Derives .value commentedLayout.tokens ∧ commentedLayout.IsLenient ∧
      (∃ plain : Layout, plain.IsPlain ∧ plain.tokens = commentedLayout.tokens ∧
        strip commentedLayout.text = plain.text) ∧
      strip commentedLayout.text =
        '\x7b' :: ("\"list\": [\"//,]\"\n]".toList ++ ['\x7d']) := by
  have hname : IsTextBody "list".toList := by
    repeat refine .char (by decide) (by decide) (by decide) ?_
    exact .nil
  have hitem : IsTextBody "//,]".toList := by
    repeat refine .char (by decide) (by decide) (by decide) ?_
    exact .nil
  have hvalid : Derives .value commentedLayout.tokens :=
    .object (.lastMember hname (.array (.lastItem
      (.scalar (show Token.IsScalar (.string "//,]".toList) from hitem)))))
  have hplain : ∀ piece : Piece, piece.IsPlain → piece.IsLenient := fun _ h => h.isLenient
  have hlenient : commentedLayout.IsLenient := by
    refine ⟨?_, .lineComment .nil (Or.inl rfl) (by decide)⟩
    simp only [commentedLayout, List.forall_mem_cons]
    refine ⟨hplain _ ⟨rfl, rfl⟩, hplain _ ⟨rfl, rfl⟩, hplain _ ⟨rfl, rfl⟩, hplain _ ⟨rfl, rfl⟩,
      hplain _ ⟨rfl, rfl⟩, ?_, hplain _ ⟨rfl, rfl⟩, by simp⟩
    refine ⟨.lineComment (Or.inr rfl) (by decide) .nil, ?_⟩
    rintro after ⟨⟩
    exact ⟨.blockComment (by decide) .nil, rfl⟩
  exact ⟨hvalid, hlenient, (strip_text commentedLayout hvalid).1 hlenient, by decide⟩

end PropertyKeys.Lenient

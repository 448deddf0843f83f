import PropertyKeys.Proofs.Json.Grammar

/-!
# Layouts of a document

The same tokens can be laid out in many ways. Between them stand gaps of blanks and comments, and a
lenient document may have one comma more in front of a mark that closes an array or an object.

## Main definitions

* `Json.IsGap` / `Json.IsLastGap`: blanks and comments between tokens and at the end of a document.
* `Json.Layout`: tokens with what stands between them.
* `Json.Layout.IsLenient` / `Json.Layout.IsPlain`: layouts with comments and further commas, and
  layouts with nothing but blanks.
-/

namespace PropertyKeys.Json

/-- The marks behind which a comment runs to the end of the line. -/
def IsLineMark (mark : Text) : Prop :=
  mark = ['/', '/'] ∨ mark = ['#']

/-- Blanks and complete comments. A comment at the end of a line takes the line break along. -/
inductive IsGap : Text → Prop
  | nil : IsGap []
  | space {c : Char} {rest : Text} (hc : isSpace c = true) (hrest : IsGap rest) : IsGap (c :: rest)
  | lineComment {mark body rest : Text} (hmark : IsLineMark mark) (hbody : '\n' ∉ body)
      (hrest : IsGap rest) : IsGap (mark ++ (body ++ '\n' :: rest))
  | blockComment {body rest : Text} (hbody : ¬['*', '/'] <:+: body) (hrest : IsGap rest) :
    IsGap ('/' :: '*' :: (body ++ '*' :: '/' :: rest))

/-- A gap at the end of a document, where the end of the text may end a comment. -/
inductive IsLastGap : Text → Prop
  | gap {gap : Text} (h : IsGap gap) : IsLastGap gap
  | lineComment {gap mark body : Text} (h : IsGap gap) (hmark : IsLineMark mark)
      (hbody : '\n' ∉ body) : IsLastGap (gap ++ (mark ++ body))

/-- A token with what stands before it: a gap, and perhaps a superfluous comma with another gap. -/
structure Piece where
  gap : Text
  /-- The gap behind a superfluous comma, if there is one. -/
  afterComma? : Option Text := none
  token : Token

/-- How a piece is written. -/
def Piece.text (piece : Piece) : Text :=
  match piece.afterComma? with
  | none => piece.gap ++ piece.token.text
  | some after => piece.gap ++ ',' :: (after ++ piece.token.text)

/-- Only blanks and comments stand between the tokens, and a superfluous comma only in front of a
mark that closes an array or an object. -/
def Piece.IsLenient (piece : Piece) : Prop :=
  IsGap piece.gap ∧
    ∀ after, piece.afterComma? = some after → IsGap after ∧ piece.token.closes = true

/-- Only blanks stand before the token. -/
def Piece.IsPlain (piece : Piece) : Prop :=
  piece.gap.all isSpace = true ∧ piece.afterComma? = none

/-- The tokens of a document with what stands between them. -/
structure Layout where
  pieces : List Piece
  /-- What stands behind the last token. -/
  last : Text

namespace Layout

/-- How a document is written. -/
def text (layout : Layout) : Text :=
  layout.pieces.flatMap Piece.text ++ layout.last

/-- The tokens of a document. -/
def tokens (layout : Layout) : List Token :=
  layout.pieces.map Piece.token

/-- A document with blanks, comments and superfluous commas. -/
def IsLenient (layout : Layout) : Prop :=
  (∀ piece ∈ layout.pieces, piece.IsLenient) ∧ IsLastGap layout.last

/-- A document with nothing but blanks between its tokens. -/
def IsPlain (layout : Layout) : Prop :=
  (∀ piece ∈ layout.pieces, piece.IsPlain) ∧ layout.last.all isSpace = true

end Layout

theorem isGap_of_all_isSpace {text : Text} (h : text.all isSpace = true) : IsGap text := by
  induction text with
  | nil => exact .nil
  | cons c cs ih =>
    obtain ⟨hc, hcs⟩ := Bool.and_eq_true_iff.mp h
    exact .space hc (ih hcs)

/-- Nothing but blanks is lenient. -/
theorem Piece.IsPlain.isLenient {piece : Piece} (h : piece.IsPlain) : piece.IsLenient := by
  refine ⟨isGap_of_all_isSpace h.1, fun after hafter => ?_⟩
  rw [h.2] at hafter
  exact absurd hafter (by simp)

theorem Layout.IsPlain.isLenient {layout : Layout} (h : layout.IsPlain) : layout.IsLenient :=
  ⟨fun piece hpiece => (h.1 piece hpiece).isLenient, .gap (isGap_of_all_isSpace h.2)⟩

end PropertyKeys.Json

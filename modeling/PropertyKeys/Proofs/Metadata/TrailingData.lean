import PropertyKeys.Metadata.Document
import PropertyKeys.Proofs.Json.Locality
import PropertyKeys.Proofs.Json.Stripping

/-!
# What follows the object of a document

The whole text is stripped before its first value is read, and what follows the object may hold
quotation marks, comments and commas of its own. None of it has an influence on what is left of the
text up to the last closing brace: the scanner looks ahead only behind a comma, and it looks no
further than the next closing mark. As an object is read up to its closing brace, a document and any
text behind it are read like the document alone.

## Main definitions

* `Lenient.AgreesToBraces`: whether two texts are the same up to each closing brace of the first.

## Main results

* `Lenient.agreesToBraces_stripFrom_append`: what is left of a text does not change up to its
  closing braces if the text goes on.
* `Metadata.parse_append`: what follows the object of a document does not count, and a byte order
  mark in front of it neither.
-/

namespace PropertyKeys

namespace Lenient

open Unicode

variable {mode : Mode} {text : Text}

/-- What starts no comment starts none either if the text goes on, unless it is a slash at the
end. -/
theorem ne_cons_of_append {c mark : Char} {rest : Text}
    (h : ∀ more, c = '/' → rest = mark :: more → False) (hlone : c = '/' → rest ≠ [])
    (later : Text) : ∀ more, c = '/' → rest ++ later = mark :: more → False := by
  intro more hc hrest
  cases rest with
  | nil => exact hlone hc rfl
  | cons d rest => exact h rest hc (by rw [(List.cons.inj hrest).1])

/-- A closing brace is left, so the scanner that looks ahead stops at a mark in front of it. -/
theorem closesNext_append (h : '\x7d' ∈ stripFrom mode text) (later : Text) :
    closesNext mode (text ++ later) = closesNext mode text := by
  fun_induction closesNext mode text with
  | case1 mode => cases mode <;> exact absurd h List.not_mem_nil
  | case2 c rest ih =>
    refine ih ?_
    rw [stripFrom] at h
    split at h
    case isTrue hbreak => simpa [hbreak] using h
    case isFalse hbreak => simpa [hbreak] using h
  | case3 star c rest ih => exact ih h
  | case4 rest ih => exact ih h
  | case5 rest ih => exact ih h
  | case6 rest _ _ ih => exact ih h
  | case7 c rest _ _ hhash hblank ih =>
    have hne : ∀ mark, isBlank mark = false → c ≠ mark := by
      rintro mark hmark rfl
      exact absurd hblank (by simp [hmark])
    rw [stripFrom_cons (hne _ (by decide)) hhash (hne _ (by decide)), if_neg (hne _ (by decide))]
      at h
    rw [List.cons_append, closesNext_cons (hne _ (by decide)) hhash, if_pos hblank]
    exact ih (List.mem_of_ne_of_mem (hne _ (by decide)).symm h)
  | case8 c rest hline hblock hhash hblank =>
    have hlone : c = '/' → rest ≠ [] := by
      rintro rfl rfl
      exact absurd h (by simp [stripFrom])
    rw [List.cons_append, closesNext, if_neg hhash, if_neg hblank]
    · exact ne_cons_of_append hline hlone later
    · exact ne_cons_of_append hblock hlone later
  | case9 => rfl
  | case10 => rfl

/-- Up to each closing brace of the first text the second text is the same. -/
def AgreesToBraces (left other : Text) : Prop :=
  ∀ out after, left = out ++ '\x7d' :: after → ∃ later, other = out ++ '\x7d' :: later

theorem AgreesToBraces.of_notMem {left other : Text} (h : '\x7d' ∉ left) :
    AgreesToBraces left other := by
  rintro out after rfl
  exact absurd h (by simp)

theorem AgreesToBraces.cons {left other : Text} (h : AgreesToBraces left other) (c : Char) :
    AgreesToBraces (c :: left) (c :: other) := by
  intro out after hleft
  cases out with
  | nil =>
    obtain ⟨rfl, -⟩ := List.cons.inj hleft
    exact ⟨other, rfl⟩
  | cons d out =>
    obtain ⟨rfl, hrest⟩ := List.cons.inj hleft
    obtain ⟨later, rfl⟩ := h out after hrest
    exact ⟨later, rfl⟩

/-- What is left of a text is the same up to its closing braces if the text goes on, in whatever
mode the scanner starts. -/
theorem agreesToBraces_stripFrom_append (mode : Mode) (text later : Text) :
    AgreesToBraces (stripFrom mode text) (stripFrom mode (text ++ later)) := by
  fun_induction stripFrom mode text with
  | case1 => exact .of_notMem List.not_mem_nil
  | case2 rest ih =>
    rw [List.cons_append, stripFrom, if_pos rfl]
    exact ih.cons _
  | case3 c rest hbreak ih =>
    rw [List.cons_append, stripFrom, if_neg hbreak]
    exact ih
  | case4 star c rest ih => exact ih
  | case5 c rest ih => exact ih.cons c
  | case6 c rest ih => exact ih.cons c
  | case7 rest ih => exact ih
  | case8 rest ih => exact ih
  | case9 rest _ _ ih => exact ih
  | case10 rest hcloses _ _ _ ih =>
    -- the comma is dropped as before, if a brace behind it is left
    by_cases hbrace : '\x7d' ∈ stripFrom .plain rest
    · rw [List.cons_append, stripFrom_comma, closesNext_append hbrace, if_pos hcloses]
      exact ih
    · exact .of_notMem hbrace
  | case11 rest hcloses _ _ _ ih =>
    by_cases hbrace : '\x7d' ∈ stripFrom .plain rest
    · rw [List.cons_append, stripFrom_comma, closesNext_append hbrace, if_neg hcloses]
      exact ih.cons _
    · exact .of_notMem (by simp [hbrace])
  | case12 c rest hline hblock hhash hcomma ih =>
    by_cases hlone : c = '/' ∧ rest = []
    · obtain ⟨rfl, rfl⟩ := hlone
      exact .of_notMem (by simp [stripFrom])
    · have hlone : c = '/' → rest ≠ [] := fun hc hrest => hlone ⟨hc, hrest⟩
      rw [List.cons_append, stripFrom, if_neg hhash, if_neg hcomma]
      · exact ih.cons c
      · exact ne_cons_of_append hline hlone later
      · exact ne_cons_of_append hblock hlone later

end Lenient

namespace Metadata

variable {document : Text} {members : OrderedMap Text Json}

theorem dropByteOrderMark_append (h : document ≠ []) (later : Text) :
    dropByteOrderMark (document ++ later) = dropByteOrderMark document ++ later := by
  obtain ⟨c, rest, rfl⟩ := List.exists_cons_of_ne_nil h
  by_cases hmark : c = '\ufeff'
  · simp [dropByteOrderMark, hmark]
  · simp [dropByteOrderMark, hmark]

theorem dropByteOrderMark_of_head? (h : document.head? ≠ some '\ufeff') :
    dropByteOrderMark document = document := by
  cases document with
  | nil => rfl
  | cons c rest =>
    have hmark : c ≠ '\ufeff' := by simpa using h
    simp [dropByteOrderMark, hmark]

theorem readDocument_eq_ok_iff {text : Text} :
    readDocument text = .ok members ↔
      Json.readFirst? (Lenient.strip (dropByteOrderMark text)) = some (.ok (.object members)) := by
  unfold readDocument
  split <;> simp_all

/-- The object of a document is found whatever follows the document. -/
theorem readDocument_append (h : readDocument document = .ok members) (later : Text) :
    readDocument (document ++ later) = .ok members := by
  have hne : document ≠ [] := by
    rintro rfl
    cases h
  rw [readDocument_eq_ok_iff] at h ⊢
  obtain ⟨inside, after, hleft, hread⟩ := Json.exists_of_readFirst?_object h
  obtain ⟨other, hother⟩ :=
    Lenient.agreesToBraces_stripFrom_append .plain (dropByteOrderMark document) later _ _ hleft
  rw [dropByteOrderMark_append hne, Lenient.strip, hother]
  exact hread other

/-- **What follows the object of a document does not count.** If an object is read from a document,
then the document with any text behind it yields the same keys and the same diagnostics, and so it
does behind a byte order mark, if it has none itself. -/
theorem parse_append (known : KnownTypes) (provenance : Provenance) (token : CancelToken)
    (h : readDocument document = .ok members) (later : Text) :
    parse known provenance token (document ++ later) = parse known provenance token document ∧
      (document.head? ≠ some '\ufeff' →
        parse known provenance token ('\ufeff' :: (document ++ later)) =
          parse known provenance token document) := by
  have hsame : ∀ {text : Text}, readDocument text = .ok members →
      parse known provenance token text = parse known provenance token document := by
    intro text htext
    rw [parse, parse, htext, h]
  refine ⟨hsame (readDocument_append h later), fun hmark => hsame ?_⟩
  have hmarked : readDocument ('\ufeff' :: document) = .ok members := by
    rw [readDocument_eq_ok_iff] at h ⊢
    rw [dropByteOrderMark_of_head? hmark] at h
    exact h
  exact readDocument_append hmarked later

/-- A document with one key, with comments and superfluous commas in it and a comma behind it. -/
def commentedDocument : Text :=
  "\x7b/* keys */\"properties\":[\x7b\"name\":\"a\"\x7d,],# one\n\x7d,".toList

/-- Marks that close the comma, a text that is not closed and the start of a comment in it. -/
theorem parse_append_commentedDocument :
    let later := "]\x7d,\"/*#\x7d".toList
    readDocument commentedDocument =
        .ok [("properties".toList, .array [.object [("name".toList, .string ['a'])]])] ∧
      commentedDocument.head? ≠ some '\ufeff' ∧
        parse {} { library := ['l'] } {} (commentedDocument ++ later) =
          parse {} { library := ['l'] } {} commentedDocument ∧
        parse {} { library := ['l'] } {} ('\ufeff' :: (commentedDocument ++ later)) =
          parse {} { library := ['l'] } {} commentedDocument := by
  intro later
  have hread : readDocument commentedDocument =
      .ok [("properties".toList, .array [.object [("name".toList, .string ['a'])]])] := rfl
  have hmark : commentedDocument.head? ≠ some '\ufeff' := by decide
  obtain ⟨hbehind, hmarked⟩ := parse_append {} { library := ['l'] } {} hread later
  exact ⟨hread, hmark, hbehind, hmarked hmark⟩

end Metadata

end PropertyKeys

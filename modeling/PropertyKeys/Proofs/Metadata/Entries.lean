import Mathlib.Data.List.Forall2
import PropertyKeys.Proofs.Metadata.Contents

/-!
# The entries of a document

The entries of a document are read one by one, and none of them depends on the others: the keys of a
document are those that it would yield with one entry at a time, and each entry reports what is
wrong with it alone. That types are read only once is not seen.

## Main definitions

* `Metadata.StatesNoType`: whether an entry states a text that is no type.
* `Metadata.Reports`: what an entry reports.
* `Metadata.YieldsAlone`: the keys of a document that has one entry only.

## Main results

* `Metadata.parse_entries`: the contents of a document, entry by entry.
-/

namespace PropertyKeys.Metadata

/-- The entry has a name and states a text for the type, which is no type even if it is an alias. -/
def StatesNoType (entry : OrderedMap Text Json) (name typeText : Text) : Prop :=
  Json.memberText? "name".toList entry = some name ∧ Text.isBlankText name = false ∧
    ∃ stated, Json.memberText? "type".toList entry = some stated ∧
      Text.isBlankText stated = false ∧ typeText = Access.expandAlias stated ∧
        ∀ type, TypeExpr.parse typeText ≠ .ok type

/-- What an entry at a place of the list of keys reports: that it is no object, or that its type
cannot be read, or nothing. -/
inductive Reports (place : Nat) : Json → List Diagnostic → Prop
  | invalid {entry : Json} (hentry : ∀ members, entry ≠ .object members) :
    Reports place entry [.invalidEntry .properties place]
  | unparseable {members : OrderedMap Text Json} {name typeText : Text}
    (hstates : StatesNoType members name typeText) :
    Reports place (.object members) [.unparseableType name typeText]
  | nothing {members : OrderedMap Text Json}
    (hstates : ∀ name typeText, ¬StatesNoType members name typeText) :
    Reports place (.object members) []

/-- An object with the list of keys cut down to one entry. -/
def withEntry (document : OrderedMap Text Json) (entry : Json) : OrderedMap Text Json :=
  document.set Section.properties.member (.array [entry])

/-- The document yields the keys if the entry is the only one, and so does every text of that. -/
def YieldsAlone (known : KnownTypes) (provenance : Provenance) (document : OrderedMap Text Json)
    (entry : Json) (keys : List Key) : Prop :=
  ∃ diagnostics,
    (parseMembers known provenance {} (withEntry document entry)).1 = .ok { keys, diagnostics } ∧
      ∀ text, readDocument text = .ok (withEntry document entry) →
        (parse known provenance {} text).1 = .ok { keys, diagnostics }


/-! ## What an entry reports -/

theorem nameOf?_eq_some_iff {entry : OrderedMap Text Json} {name : Text} :
    nameOf? entry = some name ↔
      Json.memberText? "name".toList entry = some name ∧ Text.isBlankText name = false := by
  rw [nameOf?, Option.filter_eq_some_iff, Bool.not_eq_true']

/-- A type is reported if and only if the text of it is no type. -/
theorem diagnostics_typeOf {members : OrderedMap Text Json} {name : Text}
    (hname : nameOf? members = some name) :
    (∃ typeText, StatesNoType members name typeText ∧
        (typeOf [] name members).1.2 = [.unparseableType name typeText]) ∨
      (∀ other typeText, ¬StatesNoType members other typeText) ∧
        (typeOf [] name members).1.2 = [] := by
  obtain ⟨hmember, hblank⟩ := nameOf?_eq_some_iff.mp hname
  unfold typeOf
  cases hstated : (Json.memberText? "type".toList members).filter
      fun text => !Text.isBlankText text with
  | none =>
    refine .inr ⟨?_, rfl⟩
    rintro other typeText ⟨-, -, stated, htype, hsome, -⟩
    rw [htype, Option.filter_some, hsome] at hstated
    cases hstated
  | some stated =>
    obtain ⟨htype, hsome⟩ := Option.filter_eq_some_iff.mp hstated
    rw [Bool.not_eq_true'] at hsome
    obtain ⟨hread, -⟩ := TypeMemo.isFaithful_nil.read (Access.expandAlias stated)
    cases hmemo : TypeMemo.read [] (Access.expandAlias stated) with
    | mk type? memo =>
      rw [hmemo] at hread
      cases hparse : TypeExpr.parse (Access.expandAlias stated) with
      | error failure =>
        obtain rfl : type? = none := hread.trans (by rw [hparse]; rfl)
        exact .inl ⟨_, ⟨hmember, hblank, stated, htype, hsome, rfl, by simp [hparse]⟩,
          by simp only [hmemo]⟩
      | ok type =>
        obtain rfl : type? = some type := hread.trans (by rw [hparse]; rfl)
        refine .inr ⟨?_, by simp only [hmemo]⟩
        rintro other typeText ⟨-, -, again, hagain, -, rfl, hnone⟩
        obtain rfl : stated = again := Option.some.inj (htype.symm.trans hagain)
        exact hnone type hparse

theorem reports_declareAt (context : Context) (place : Nat) (entry : Json) :
    Reports place entry (declareAt context [] place entry).1.diagnostics := by
  cases entry with
  | object members =>
    rw [declareAt, declare]
    cases hname : nameOf? members with
    | none =>
      refine .nothing ?_
      rintro name typeText ⟨hmember, hblank, -⟩
      rw [nameOf?_eq_some_iff.mpr ⟨hmember, hblank⟩] at hname
      cases hname
    | some name =>
      obtain ⟨typeText, hstates, hreports⟩ | ⟨hstates, hreports⟩ := diagnostics_typeOf hname
      · simp only [hreports]
        exact .unparseable hstates
      · simp only [hreports]
        exact .nothing hstates
  | _ =>
    refine .invalid ?_
    intro members heq
    cases heq

/-! ## What an entry declares -/

/-- The place of an entry does not matter for its key. -/
theorem key?_declareAt (context : Context) (place : Nat) (entry : Json) :
    (declareAt context [] place entry).1.key? = (declareAt context [] 0 entry).1.key? := by
  cases entry <;> rfl

theorem declarations_eq (context : Context) (entries : List (Json × Nat)) :
    declarations context entries =
      { keys := (entries.map fun entry =>
          (declareAt context [] entry.2 entry.1).1.key?.toList).flatten
        diagnostics := (entries.map fun entry =>
          (declareAt context [] entry.2 entry.1).1.diagnostics).flatten } := by
  induction entries with
  | nil => rfl
  | cons entry entries ih =>
    rw [declarations, ih]
    rfl

/-- The hints of a document do not depend on its keys. -/
theorem hintIndex_withEntry (document : OrderedMap Text Json) (entry : Json) :
    hintIndex (withEntry document entry) = hintIndex document := by
  have hne : Section.hints.member ≠ Section.properties.member := by decide
  rw [hintIndex, hintIndex, withEntry, OrderedMap.get?_set_of_ne hne]

theorem memberContents_withEntry (known : KnownTypes) (provenance : Provenance)
    (document : OrderedMap Text Json) (entry : Json) :
    (memberContents known provenance (withEntry document entry)).keys =
      (declareAt { known, provenance, hints := (hintIndex document).1 } [] 0
        entry).1.key?.toList := by
  rw [memberContents, hintIndex_withEntry, withEntry, OrderedMap.get?_set_self]
  exact List.append_nil _

theorem yieldsAlone_declareAt (known : KnownTypes) (provenance : Provenance)
    (document : OrderedMap Text Json) (entry : Json) :
    YieldsAlone known provenance document entry
      (declareAt { known, provenance, hints := (hintIndex document).1 } [] 0
        entry).1.key?.toList := by
  rw [← memberContents_withEntry]
  have hquiet : CancelToken.IsQuiet {} := ⟨rfl, rfl⟩
  refine ⟨(memberContents known provenance (withEntry document entry)).diagnostics, ?_,
    fun text hread => ?_⟩
  · exact (endsIn_parseMembers known provenance {} _).cases.resolve_right
      fun hcancelled => hcancelled.2.1 hquiet
  · rw [parse_new, contents, hread]

/-- **Entries are read independently and in order.** If nobody raises the token, the keys of a
document are those that the document yields with one entry at a time. The hints report first, and
then each of the entries. -/
theorem parse_entries (known : KnownTypes) (provenance : Provenance) {token : CancelToken}
    {text : Text} {document : OrderedMap Text Json} {entries : List Json}
    (hread : readDocument text = .ok document)
    (hentries : document.get? Section.properties.member = some (.array entries))
    (hraised : (parse known provenance token text).2.raised = false) :
    ∃ keys reports,
      (parse known provenance token text).1 = .ok
        { keys := keys.flatten, diagnostics := (hintIndex document).2 ++ reports.flatten } ∧
      List.Forall₂ (YieldsAlone known provenance document) entries keys ∧
      List.Forall₂ (fun entry report => Reports entry.2 entry.1 report) entries.zipIdx reports := by
  let context : Context := { known, provenance, hints := (hintIndex document).1 }
  refine ⟨entries.map fun entry => (declareAt context [] 0 entry).1.key?.toList,
    entries.zipIdx.map fun entry => (declareAt context [] entry.2 entry.1).1.diagnostics,
    ?_, ?_, ?_⟩
  · have hok := (endsIn_parse known provenance token text).cases.resolve_right
      fun hcancelled => Bool.eq_false_iff.mp hraised hcancelled.2.2
    have hkeys : (entries.zipIdx.map fun entry =>
          (declareAt context [] entry.2 entry.1).1.key?.toList) =
        entries.map fun entry => (declareAt context [] 0 entry).1.key?.toList := by
      conv_rhs => rw [← List.zipIdx_map_fst 0 entries, List.map_map]
      simp only [key?_declareAt context _ _, Function.comp_def]
    rw [hok, contents, hread]
    simp only [memberContents, hentries, declarations_eq, hkeys, context]
  · rw [List.forall₂_map_right_iff, List.forall₂_same]
    exact fun entry _ => yieldsAlone_declareAt known provenance document entry
  · rw [List.forall₂_map_right_iff, List.forall₂_same]
    exact fun entry _ => reports_declareAt context entry.2 entry.1

/-- Two entries state the same text, which is no type, and the entry between them is no object. -/
def unreadableTwice : List Json :=
  let entry (name : Text) : Json :=
    .object [("name".toList, .string name), ("type".toList, .string "x y".toList)]
  [entry ['a'], .number (.integer 7), entry ['b']]

/-- A text of the entries, with a trailing comma. -/
def unreadableTwiceText : Text :=
  ("\x7b\"properties\":[\x7b\"name\":\"a\",\"type\":\"x y\"\x7d,7," ++
    "\x7b\"name\":\"b\",\"type\":\"x y\"\x7d],\x7d").toList

theorem parse_entries_unreadableTwice :
    let document : OrderedMap Text Json := [("properties".toList, .array unreadableTwice)]
    readDocument unreadableTwiceText = .ok document ∧
      document.get? Section.properties.member = some (.array unreadableTwice) ∧
        (parse {} { library := ['l'] } {} unreadableTwiceText).2.raised = false ∧
          ∃ keys reports,
            (parse {} { library := ['l'] } {} unreadableTwiceText).1 = .ok
              { keys := keys.flatten
                diagnostics := (hintIndex document).2 ++ reports.flatten } ∧
            List.Forall₂ (YieldsAlone {} { library := ['l'] } document) unreadableTwice keys ∧
            List.Forall₂ (fun entry report => Reports entry.2 entry.1 report)
              unreadableTwice.zipIdx reports := by
  have hread : readDocument unreadableTwiceText =
      .ok [("properties".toList, .array unreadableTwice)] := rfl
  have hraised : (parse {} { library := ['l'] } {} unreadableTwiceText).2.raised = false := by
    decide +kernel
  exact ⟨hread, rfl, hraised, parse_entries _ _ hread rfl hraised⟩

end PropertyKeys.Metadata

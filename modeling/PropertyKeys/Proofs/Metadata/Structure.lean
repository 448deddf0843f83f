import PropertyKeys.Proofs.Metadata.Entries

/-!
# The structure of documents

Each of the two parts of a document should be a list, and its entries should be objects. Whatever
else stands there is reported, with the place of the entry. The keys are always looked at, and the
hints only if the keys are a list.

## Main definitions

* `Metadata.IsNoList`: whether a part of a document is there and is no list.
* `Metadata.IsNoObjectAt`: whether an entry of a part is no object.
* `Metadata.IsLookedAt`: whether a part of a document is looked at.

## Main results

* `Metadata.mem_diagnostics_parse_iff`: what is reported about the parts of a document.
-/

namespace PropertyKeys.Metadata

/-- The part is there, and it is no list. -/
def IsNoList (document : OrderedMap Text Json) (part : Section) : Prop :=
  ∃ value, document.get? part.member = some value ∧ ∀ entries, value ≠ .array entries

/-- The part is a list, and what it has at the place is no object. -/
def IsNoObjectAt (document : OrderedMap Text Json) (part : Section) (place : Nat) : Prop :=
  ∃ entries entry, document.get? part.member = some (.array entries) ∧
    entries[place]? = some entry ∧ ∀ members, entry ≠ .object members

/-- The keys are always looked at, and the hints if the keys are a list. -/
def IsLookedAt (document : OrderedMap Text Json) : Section → Prop
  | .properties => True
  | .hints => ∃ entries, document.get? Section.properties.member = some (.array entries)

/-! ## What the lists report -/

/-- What stands at the place is no object. -/
def IsOddAt (entries : List (Json × Nat)) (place : Nat) : Prop :=
  ∃ entry, (entry, place) ∈ entries ∧ ∀ members, entry ≠ .object members

theorem isOddAt_cons_iff {entry : Json} {first place : Nat} {entries : List (Json × Nat)} :
    IsOddAt ((entry, first) :: entries) place ↔
      (place = first ∧ ∀ members, entry ≠ .object members) ∨ IsOddAt entries place := by
  simp only [IsOddAt, List.mem_cons, Prod.mk.injEq, or_and_right, exists_or, and_assoc,
    exists_eq_left]

theorem isOddAt_zipIdx_iff {entries : List Json} {place : Nat} :
    IsOddAt entries.zipIdx place ↔
      ∃ entry, entries[place]? = some entry ∧ ∀ members, entry ≠ .object members := by
  simp only [IsOddAt, List.mem_zipIdx_iff_getElem?]

/-- The list of hints reports the entries that are no objects, and nothing else. -/
theorem mem_diagnostics_addHints_iff {index : HintIndex} {entries : List (Json × Nat)}
    {diagnostic : Diagnostic} :
    diagnostic ∈ (addHints index entries).2 ↔
      ∃ place, diagnostic = .invalidEntry .hints place ∧ IsOddAt entries place := by
  induction entries generalizing index with
  | nil => simp [addHints, IsOddAt]
  | cons entry entries ih =>
    obtain ⟨entry, first⟩ := entry
    simp only [isOddAt_cons_iff, and_or_left, exists_or]
    cases entry with
    | object members =>
      rw [addHints]
      cases Json.memberText? "name".toList members <;> simp [ih]
    | _ => simp [addHints, ih]

/-- An entry of the list of keys reports that it is no object, if it is none. -/
theorem Reports.invalidEntry_mem_iff {first place : Nat} {entry : Json} {part : Section}
    {report : List Diagnostic} (h : Reports first entry report) :
    .invalidEntry part place ∈ report ↔
      part = .properties ∧ place = first ∧ ∀ members, entry ≠ .object members := by
  cases h with
  | invalid hentry => simp [hentry]
  | unparseable _ => simp
  | nothing _ => simp

theorem Reports.notAnArray_not_mem {first : Nat} {entry : Json} {report : List Diagnostic}
    (h : Reports first entry report) (part : Section) : .notAnArray part ∉ report := by
  cases h <;> simp

/-- The list of keys reports the entries that are no objects. -/
theorem invalidEntry_mem_declarations_iff {context : Context} {entries : List (Json × Nat)}
    {part : Section} {place : Nat} :
    .invalidEntry part place ∈ (declarations context entries).diagnostics ↔
      part = .properties ∧ IsOddAt entries place := by
  induction entries with
  | nil => simp [declarations, IsOddAt]
  | cons entry entries ih =>
    obtain ⟨entry, first⟩ := entry
    rw [declarations, Contents.addFirst, List.mem_append, isOddAt_cons_iff, ih,
      (reports_declareAt context first entry).invalidEntry_mem_iff, ← and_or_left]

theorem notAnArray_not_mem_declarations (context : Context) (entries : List (Json × Nat))
    (part : Section) : .notAnArray part ∉ (declarations context entries).diagnostics := by
  induction entries with
  | nil => simp [declarations]
  | cons entry entries ih =>
    rw [declarations, Contents.addFirst, List.mem_append, not_or]
    exact ⟨(reports_declareAt context entry.2 entry.1).notAnArray_not_mem part, ih⟩

/-! ## What the parts report -/

/-- The hints report that they are no list, or which of their entries are no objects. -/
theorem mem_diagnostics_hintIndex_iff {document : OrderedMap Text Json}
    {diagnostic : Diagnostic} :
    diagnostic ∈ (hintIndex document).2 ↔
      (diagnostic = .notAnArray .hints ∧ IsNoList document .hints) ∨
        ∃ place, diagnostic = .invalidEntry .hints place ∧ IsNoObjectAt document .hints place := by
  unfold hintIndex IsNoList IsNoObjectAt
  cases document.get? Section.hints.member with
  | none => simp
  | some list =>
    cases list with
    | array entries => simp [mem_diagnostics_addHints_iff, isOddAt_zipIdx_iff]
    | _ => simp

/-- A document reports that its keys are no list. If they are one, it reports what the hints and the
keys report. -/
theorem mem_diagnostics_memberContents_iff {known : KnownTypes} {provenance : Provenance}
    {document : OrderedMap Text Json} {diagnostic : Diagnostic} :
    diagnostic ∈ (memberContents known provenance document).diagnostics ↔
      (diagnostic = .notAnArray .properties ∧ IsNoList document .properties) ∨
        ∃ entries, document.get? Section.properties.member = some (.array entries) ∧
          (diagnostic ∈ (hintIndex document).2 ∨
            diagnostic ∈ (declarations { known, provenance, hints := (hintIndex document).1 }
              entries.zipIdx).diagnostics) := by
  unfold memberContents IsNoList
  cases document.get? Section.properties.member with
  | none => simp
  | some list => cases list <;> simp

theorem notAnArray_mem_memberContents_iff {known : KnownTypes} {provenance : Provenance}
    {document : OrderedMap Text Json} {part : Section} :
    .notAnArray part ∈ (memberContents known provenance document).diagnostics ↔
      IsNoList document part ∧ IsLookedAt document part := by
  rw [mem_diagnostics_memberContents_iff]
  simp only [mem_diagnostics_hintIndex_iff, notAnArray_not_mem_declarations]
  cases part <;> simp [IsLookedAt, and_comm]

theorem invalidEntry_mem_memberContents_iff {known : KnownTypes} {provenance : Provenance}
    {document : OrderedMap Text Json} {part : Section} {place : Nat} :
    .invalidEntry part place ∈ (memberContents known provenance document).diagnostics ↔
      IsNoObjectAt document part place ∧ IsLookedAt document part := by
  rw [mem_diagnostics_memberContents_iff]
  simp only [mem_diagnostics_hintIndex_iff, invalidEntry_mem_declarations_iff,
    isOddAt_zipIdx_iff]
  cases part <;> simp [IsNoObjectAt, IsLookedAt, and_comm]

/-- **What stands in the place of a list or of an object is reported.** A part of a document that is
no list is reported, and so is each entry that is no object, with its place. Nothing of that is
reported about the hints unless the keys are a list. -/
theorem mem_diagnostics_parse_iff {known : KnownTypes} {provenance : Provenance}
    {token : CancelToken} {text : Text} {document : OrderedMap Text Json}
    (hread : readDocument text = .ok document)
    (hdone : (parse known provenance token text).1 ≠ .error .cancelled) :
    ∃ contents, (parse known provenance token text).1 = .ok contents ∧
      ∀ part,
        (.notAnArray part ∈ contents.diagnostics ↔
            IsNoList document part ∧ IsLookedAt document part) ∧
          ∀ place, .invalidEntry part place ∈ contents.diagnostics ↔
            IsNoObjectAt document part place ∧ IsLookedAt document part :=
  ⟨_, parse_eq_ok hread hdone, fun _ =>
    ⟨notAnArray_mem_memberContents_iff, fun _ => invalidEntry_mem_memberContents_iff⟩⟩

/-- A document in which one of the hints and one of the keys is no object. -/
def oddText : Text :=
  "\x7b\"hints\":[\x7b\x7d,1],\"properties\":[2]\x7d".toList

theorem mem_diagnostics_parse_iff_oddText :
    let document : OrderedMap Text Json :=
      [("hints".toList, .array [.object [], .number (.integer 1)]),
        ("properties".toList, .array [.number (.integer 2)])]
    readDocument oddText = .ok document ∧
      (parse {} { library := ['l'] } {} oddText).1 ≠ .error .cancelled ∧
        IsNoObjectAt document .hints 1 ∧ IsNoObjectAt document .properties 0 ∧
          ∃ contents, (parse {} { library := ['l'] } {} oddText).1 = .ok contents ∧
            ∀ part,
              (.notAnArray part ∈ contents.diagnostics ↔
                  IsNoList document part ∧ IsLookedAt document part) ∧
                ∀ place, .invalidEntry part place ∈ contents.diagnostics ↔
                  IsNoObjectAt document part place ∧ IsLookedAt document part := by
  intro document
  have hread : readDocument oddText = .ok document := rfl
  have hdone := parse_new_ne_cancelled {} { library := ['l'] } oddText
  exact ⟨hread, hdone, ⟨_, _, rfl, rfl, nofun⟩, ⟨_, _, rfl, rfl, nofun⟩,
    mem_diagnostics_parse_iff hread hdone⟩

/-- Hints that are no list are not reported if the document has no keys, although the same hints are
reported beside an empty list of keys. -/
theorem exists_isNoList_and_not_reported :
    (∃ document contents, readDocument "\x7b\"hints\":5\x7d".toList = .ok document ∧
      IsNoList document .hints ∧
        (parse {} { library := ['l'] } {} "\x7b\"hints\":5\x7d".toList).1 = .ok contents ∧
          contents.diagnostics = []) ∧
      ∃ contents,
        (parse {} { library := ['l'] } {} "\x7b\"hints\":5,\"properties\":[]\x7d".toList).1 =
            .ok contents ∧
          contents.diagnostics = [.notAnArray .hints] := by
  constructor
  · exact ⟨[("hints".toList, .number (.integer 5))], _, rfl, ⟨_, rfl, nofun⟩, parse_new .., by
      decide +kernel⟩
  · exact ⟨_, parse_new .., by decide +kernel⟩

end PropertyKeys.Metadata

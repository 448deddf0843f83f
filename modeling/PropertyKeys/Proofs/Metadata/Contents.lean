import PropertyKeys.Metadata.Document

/-!
# Contents of documents

A reading of a document is either given up or yields the contents of the document, which do not
depend on the token. It is given up only if somebody raises the token. What an entry declares does
not depend on which types were read before it.

## Main definitions

* `Metadata.TypeMemo.IsFaithful`: whether types that were read are those of their texts.
* `Metadata.contents`: what a document holds, whoever reads it.
* `CancelToken.IsQuiet` / `CancelToken.Cancels`: a token that nobody raises, and one that work was
  given up for.
* `Provenance.IsCarriedBy`: whether a key tells where it was declared.

## Main results

* `Metadata.endsIn_parse`: how a reading ends.
* `Metadata.isCarriedBy_contents`: the keys of a document tell where it comes from.
-/

namespace PropertyKeys

/-- Nobody raises the token: it is not raised, and no lookup will raise it. -/
def CancelToken.IsQuiet (token : CancelToken) : Prop :=
  token.raised = false ∧ token.raiseAt? = none

instance : DecidablePred CancelToken.IsQuiet := fun token =>
  inferInstanceAs (Decidable (token.raised = false ∧ token.raiseAt? = none))

/-- Work that began with one token and left the other may have been given up: somebody was to raise
the token, and now it is raised. -/
def CancelToken.Cancels (before after : CancelToken) : Prop :=
  ¬before.IsQuiet ∧ after.raised = true

theorem CancelToken.Cancels.of_raised {token : CancelToken} (h : token.raised = true) :
    token.Cancels token :=
  ⟨fun hquiet => Bool.eq_false_iff.mp hquiet.1 h, h⟩

theorem CancelToken.IsQuiet.afterLookups {token : CancelToken} (h : token.IsQuiet)
    (made : List Lookup) : (token.afterLookups made).IsQuiet := by
  obtain ⟨hraised, hraise⟩ := h
  simp [IsQuiet, CancelToken.afterLookups, hraised, hraise]

namespace Metadata

/-! ## Types that were read before -/

/-- What is known of each text is what reading it yields. -/
def TypeMemo.IsFaithful (memo : TypeMemo) : Prop :=
  ∀ typeText type?, OrderedMap.get? typeText memo = some type? →
    type? = (TypeExpr.parse typeText).toOption

theorem TypeMemo.isFaithful_nil : TypeMemo.IsFaithful [] := nofun

/-- A faithful memo gives out what reading the text yields, and it stays faithful. -/
theorem TypeMemo.IsFaithful.read {memo : TypeMemo} (h : memo.IsFaithful) (typeText : Text) :
    (memo.read typeText).1 = (TypeExpr.parse typeText).toOption ∧
      (memo.read typeText).2.IsFaithful := by
  rw [TypeMemo.read]
  cases hget : OrderedMap.get? typeText memo with
  | some type? => exact ⟨h typeText type? hget, h⟩
  | none =>
    refine ⟨rfl, fun other type? hother => ?_⟩
    by_cases hne : other = typeText
    · subst hne
      rw [OrderedMap.get?_set_self] at hother
      exact (Option.some.inj hother).symm
    · rw [OrderedMap.get?_set_of_ne hne] at hother
      exact h other type? hother

theorem typeOf_of_isFaithful {memo : TypeMemo} (h : memo.IsFaithful) (name : Text)
    (entry : OrderedMap Text Json) :
    (typeOf memo name entry).1 = (typeOf [] name entry).1 ∧
      (typeOf memo name entry).2.IsFaithful := by
  unfold typeOf
  cases (Json.memberText? "type".toList entry).filter fun text => !Text.isBlankText text with
  | none => exact ⟨rfl, h⟩
  | some stated =>
    obtain ⟨hread, hfaithful⟩ := h.read (Access.expandAlias stated)
    obtain ⟨hnew, -⟩ := TypeMemo.isFaithful_nil.read (Access.expandAlias stated)
    rw [← hnew] at hread
    cases hmemo : memo.read (Access.expandAlias stated) with
    | mk type? after =>
      cases hfirst : TypeMemo.read [] (Access.expandAlias stated) with
      | mk read? new =>
        rw [hmemo] at hfaithful
        obtain rfl : type? = read? := by rw [hmemo, hfirst] at hread; exact hread
        cases type? <;> exact ⟨by simp only [hmemo, hfirst], by simpa only [hmemo] using hfaithful⟩

/-- An entry declares the same whatever types were read before, and the memo stays faithful. -/
theorem declareAt_of_isFaithful {memo : TypeMemo} (h : memo.IsFaithful) (context : Context)
    (place : Nat) (entry : Json) :
    (declareAt context memo place entry).1 = (declareAt context [] place entry).1 ∧
      (declareAt context memo place entry).2.IsFaithful := by
  cases entry with
  | object members =>
    rw [declareAt, declareAt, declare, declare]
    cases nameOf? members with
    | none => exact ⟨rfl, h⟩
    | some name =>
      obtain ⟨htype, hfaithful⟩ := typeOf_of_isFaithful h name members
      simp only [htype]
      exact ⟨trivial, hfaithful⟩
  | _ => exact ⟨rfl, h⟩

/-! ## The contents -/

/-- What some entries declare, each with its place. -/
def declarations (context : Context) : List (Json × Nat) → Contents
  | [] => {}
  | (entry, place) :: entries =>
    (declarations context entries).addFirst (declareAt context [] place entry).1

/-- What an object holds. -/
def memberContents (known : KnownTypes) (provenance : Provenance)
    (document : OrderedMap Text Json) : Contents :=
  match document.get? Section.properties.member with
  | none => {}
  | some (.array entries) =>
    let (hints, diagnostics) := hintIndex document
    let contents := declarations { known, provenance, hints } entries.zipIdx
    { contents with diagnostics := diagnostics ++ contents.diagnostics }
  | some _ => { diagnostics := [.notAnArray .properties] }

/-- What a document holds. -/
def contents (known : KnownTypes) (provenance : Provenance) (text : Text) : Contents :=
  match readDocument text with
  | .error diagnostic => { diagnostics := [diagnostic] }
  | .ok document => memberContents known provenance document

/-- Every key is declared by one of the entries. -/
theorem exists_of_mem_declarations {context : Context} {entries : List (Json × Nat)} {key : Key}
    (h : key ∈ (declarations context entries).keys) :
    ∃ entry ∈ entries, (declareAt context [] entry.2 entry.1).1.key? = some key := by
  induction entries with
  | nil => cases h
  | cons entry entries ih =>
    rw [declarations, Contents.addFirst, List.mem_append, Option.mem_toList] at h
    obtain hfirst | hlater := h
    · exact ⟨entry, List.mem_cons_self, hfirst⟩
    · obtain ⟨other, hmem, hdeclared⟩ := ih hlater
      exact ⟨other, List.mem_cons_of_mem _ hmem, hdeclared⟩

/-- Every key of a document is declared by an entry that is read with the hints of the document. -/
theorem exists_of_mem_memberContents {known : KnownTypes} {provenance : Provenance}
    {document : OrderedMap Text Json} {key : Key}
    (h : key ∈ (memberContents known provenance document).keys) :
    ∃ place entry, (declareAt { known, provenance, hints := (hintIndex document).1 } [] place
      entry).1.key? = some key := by
  unfold memberContents at h
  cases hlist : document.get? Section.properties.member with
  | none =>
    rw [hlist] at h
    cases h
  | some list =>
    rw [hlist] at h
    cases list with
    | array entries =>
      obtain ⟨⟨entry, place⟩, -, hdeclared⟩ := exists_of_mem_declarations h
      exact ⟨place, entry, hdeclared⟩
    | _ => cases h

/-! ## How a reading ends -/

/-- Work with a token ends: it yields a value, or it is given up. It raises no token by itself. -/
structure EndsIn {α : Type} (token : CancelToken) (value : α) (work : Cancellable α) : Prop where
  cases : work.1 = .ok value ∨ work.1 = .error .cancelled ∧ token.Cancels work.2
  quiet : token.IsQuiet → work.2.IsQuiet

theorem EndsIn.ok {α : Type} (token : CancelToken) (value : α) :
    EndsIn token value (.ok value, token) :=
  ⟨.inl rfl, id⟩

theorem EndsIn.of_raised {α : Type} {token : CancelToken} (h : token.raised = true) (value : α) :
    EndsIn token value (.error .cancelled, token) :=
  ⟨.inr ⟨rfl, .of_raised h⟩, id⟩

theorem EndsIn.of_token {α : Type} {before token : CancelToken} {value : α}
    {work : Cancellable α} (h : EndsIn token value work)
    (htoken : before.IsQuiet → token.IsQuiet) : EndsIn before value work :=
  ⟨h.cases.imp_right (And.imp_right (And.imp_left (mt htoken))),
    fun hquiet => h.quiet (htoken hquiet)⟩

theorem EndsIn.map {α β : Type} {token : CancelToken} {value : α} {work : Cancellable α}
    (h : EndsIn token value work) (f : α → β) :
    EndsIn token (f value) (work.1.map f, work.2) := by
  refine ⟨?_, h.quiet⟩
  obtain hok | ⟨herror, hcancels⟩ := h.cases
  · exact .inl (by rw [hok]; rfl)
  · exact .inr ⟨by rw [herror]; rfl, hcancels⟩

theorem endsIn_declareAll (context : Context) {memo : TypeMemo} (hmemo : memo.IsFaithful)
    (token : CancelToken) (entries : List (Json × Nat)) :
    EndsIn token (declarations context entries) (declareAll context memo token entries) := by
  induction entries generalizing token memo with
  | nil => exact .ok token _
  | cons entry entries ih =>
    obtain ⟨entry, place⟩ := entry
    obtain ⟨hdeclared, hfaithful⟩ := declareAt_of_isFaithful hmemo context place entry
    rw [declareAll, declarations, ← hdeclared]
    split
    case isTrue hraised => exact .of_raised hraised _
    case isFalse =>
      have hlater := ih hfaithful
        (token.afterLookups (declareAt context memo place entry).1.lookups)
      exact (hlater.map (Contents.addFirst (declareAt context memo place entry).1)).of_token
        fun hquiet => hquiet.afterLookups _

theorem endsIn_parseMembers (known : KnownTypes) (provenance : Provenance) (token : CancelToken)
    (document : OrderedMap Text Json) :
    EndsIn token (memberContents known provenance document)
      (parseMembers known provenance token document) := by
  unfold parseMembers memberContents
  cases document.get? Section.properties.member with
  | none => exact .ok token _
  | some list =>
    cases list with
    | array entries =>
      exact (endsIn_declareAll _ TypeMemo.isFaithful_nil token _).map fun contents =>
        { contents with diagnostics := (hintIndex document).2 ++ contents.diagnostics }
    | _ => exact .ok token _

/-- A reading yields the contents of the document or is given up. -/
theorem endsIn_parse (known : KnownTypes) (provenance : Provenance) (token : CancelToken)
    (text : Text) : EndsIn token (contents known provenance text)
      (parse known provenance token text) := by
  unfold parse contents
  by_cases hraised : token.raised = true
  · rw [if_pos hraised]
    exact .of_raised hraised _
  · rw [if_neg hraised]
    cases readDocument text with
    | error diagnostic => exact .ok token _
    | ok document => exact endsIn_parseMembers known provenance token document

/-- A reading with a new token, which nobody raises, yields the contents of the document. -/
theorem parse_new (known : KnownTypes) (provenance : Provenance) (text : Text) :
    (parse known provenance {} text).1 = .ok (contents known provenance text) :=
  (endsIn_parse known provenance {} text).cases.resolve_right fun hcancelled =>
    hcancelled.2.1 ⟨rfl, rfl⟩

theorem parse_new_ne_cancelled (known : KnownTypes) (provenance : Provenance) (text : Text) :
    (parse known provenance {} text).1 ≠ .error .cancelled := by
  rw [parse_new]
  exact nofun

/-- A reading that is not given up yields what the object of the document holds. -/
theorem parse_eq_ok {known : KnownTypes} {provenance : Provenance} {token : CancelToken}
    {text : Text} {document : OrderedMap Text Json} (hread : readDocument text = .ok document)
    (hdone : (parse known provenance token text).1 ≠ .error .cancelled) :
    (parse known provenance token text).1 = .ok (memberContents known provenance document) := by
  have hok := (endsIn_parse known provenance token text).cases.resolve_right
    fun hcancelled => hdone hcancelled.1
  rwa [contents, hread] at hok

end Metadata

/-! ## Where keys come from -/

/-- A key tells where it is declared: in which library and, unless the declaration is traced by a
source type, in a document of which kind. -/
structure Provenance.IsCarriedBy (provenance : Provenance) (key : Key) : Prop where
  library : key.origin.library = provenance.library
  kind : key.origin.sourceType? = none →
    key.origin.trace = if provenance.kind = .handwritten then .handwritten else .document

/-- The origin of a key names the library, and if there is no source type it tells whether the
document is written by hand. -/
theorem Origin.of_spec (known : KnownTypes) (library name : Text) (sourceType? : Option Text)
    (handwritten : Bool) :
    (Origin.of known library name sourceType? handwritten).library = library ∧
      ((Origin.of known library name sourceType? handwritten).sourceType? = none →
        (Origin.of known library name sourceType? handwritten).trace =
          if handwritten then .handwritten else .document) := by
  cases sourceType? with
  | none => exact ⟨rfl, fun _ => rfl⟩
  | some sourceType =>
    rw [Origin.of]
    by_cases hknown : known.contains sourceType
    · rw [if_pos hknown]
      exact ⟨rfl, nofun⟩
    · rw [if_neg hknown]
      exact ⟨rfl, nofun⟩

namespace Metadata

theorem exists_origin_of_declare {context : Context} {entry : OrderedMap Text Json} {key : Key}
    (h : (declare context [] entry).1.key? = some key) :
    ∃ name, key.origin = Origin.of context.known context.provenance.library name
      (sourceTypeOf? entry) (context.provenance.kind = .handwritten) := by
  unfold declare at h
  cases hname : nameOf? entry with
  | none =>
    rw [hname] at h
    cases h
  | some name =>
    rw [hname] at h
    exact ⟨name, congrArg Key.origin (Option.some.inj h.symm)⟩

theorem isCarriedBy_of_declareAt {context : Context} {place : Nat} {entry : Json} {key : Key}
    (h : (declareAt context [] place entry).1.key? = some key) :
    context.provenance.IsCarriedBy key := by
  cases entry with
  | object members =>
    obtain ⟨name, horigin⟩ := exists_origin_of_declare h
    obtain ⟨hlibrary, htrace⟩ := Origin.of_spec context.known context.provenance.library name
      (sourceTypeOf? members) (context.provenance.kind = .handwritten)
    rw [← horigin] at hlibrary htrace
    refine ⟨hlibrary, fun hnone => ?_⟩
    rw [htrace hnone]
    simp only [decide_eq_true_eq]
  | _ => cases h

theorem isCarriedBy_memberContents (known : KnownTypes) (provenance : Provenance)
    (document : OrderedMap Text Json) :
    ∀ key ∈ (memberContents known provenance document).keys, provenance.IsCarriedBy key := by
  intro key hkey
  obtain ⟨place, entry, hdeclared⟩ := exists_of_mem_memberContents hkey
  exact isCarriedBy_of_declareAt hdeclared

/-- The keys of a document tell where the document comes from. -/
theorem isCarriedBy_contents (known : KnownTypes) (provenance : Provenance) (text : Text) :
    ∀ key ∈ (contents known provenance text).keys, provenance.IsCarriedBy key := by
  unfold contents
  cases readDocument text with
  | error diagnostic => simp
  | ok document => exact isCarriedBy_memberContents known provenance document

end Metadata

end PropertyKeys

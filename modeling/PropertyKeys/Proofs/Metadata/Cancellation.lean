import Mathlib.Data.List.Basic
import PropertyKeys.Proofs.Metadata.Contents

/-!
# Readings that are given up

The token is looked at before each entry of a document. A lookup that an entry makes may raise it,
and this is noticed before the next entry, if there is one: then the reading is given up and nothing
more is looked up. Otherwise the reading yields all that it yields if nobody raises the token. So
there is never a part of the keys.

## Main definitions

* `Metadata.entriesOf`: the entries of a document.
* `Metadata.lookupsOf`: what an entry looks up.
* `Metadata.looksUpSource`: whether an entry looks up its source type.
* `Metadata.StaysDown`: whether the token is not raised before any of some entries.

## Main results

* `Metadata.parse_of_staysDown`, `Metadata.parse_of_raised`: a reading with any token.
* `Metadata.parse_of_raisesIn`: a reading whose token is raised at a lookup of a source type.
-/

namespace PropertyKeys.Metadata

/-! ## What entries look up -/

/-- The entries of the list of keys in an object. -/
def entriesIn (document : OrderedMap Text Json) : List Json :=
  match document.get? Section.properties.member with
  | some (.array entries) => entries
  | _ => []

/-- The entries of the list of keys in a document. There are none if the document cannot be read or
has no such list. -/
def entriesOf (text : Text) : List Json :=
  match readDocument text with
  | .ok document => entriesIn document
  | .error _ => []

/-- What an entry looks up. Nothing is looked up for an entry that declares no key. -/
def lookupsOf : Json → List Lookup
  | .object members =>
    match nameOf? members with
    | none => []
    | some name =>
      let type? := (typeOf [] name members).1.1
      Access.lookups type? ++ Origin.lookups (sourceTypeOf? members) ++ Access.lookups type?
  | _ => []

/-- What some entries look up, one after the other. -/
def lookupsOfAll (entries : List Json) : List Lookup :=
  entries.flatMap lookupsOf

/-- Whether an entry looks up if its source type exists: if it declares a key and states one. -/
def looksUpSource : Json → Bool
  | .object members => (nameOf? members).isSome && (sourceTypeOf? members).isSome
  | _ => false

theorem lookupsOfAll_cons (entry : Json) (entries : List Json) :
    lookupsOfAll (entry :: entries) = lookupsOf entry ++ lookupsOfAll entries :=
  List.flatMap_cons

/-- The existence of one type at most is looked up for an entry, and that only once. -/
theorem count_existence_lookupsOf (entry : Json) :
    (lookupsOf entry).count .existence = if looksUpSource entry then 1 else 0 := by
  cases entry with
  | object members =>
    rw [lookupsOf, looksUpSource]
    cases nameOf? members with
    | none => rfl
    | some name => simp [List.count_append]
  | _ => rfl

theorem count_existence_lookupsOfAll (entries : List Json) :
    (lookupsOfAll entries).count .existence = entries.countP looksUpSource := by
  induction entries with
  | nil => rfl
  | cons entry entries ih =>
    rw [lookupsOfAll_cons, List.count_append, ih, count_existence_lookupsOf, List.countP_cons,
      Nat.add_comm]

/-- An entry looks up the same whatever types were read before. -/
theorem lookups_declareAt {memo : TypeMemo} (hmemo : memo.IsFaithful) (context : Context)
    (place : Nat) (entry : Json) :
    (declareAt context memo place entry).1.lookups = lookupsOf entry := by
  rw [(declareAt_of_isFaithful hmemo context place entry).1]
  cases entry with
  | object members =>
    rw [declareAt, declare, lookupsOf]
    cases nameOf? members <;> rfl
  | _ => rfl

/-- The element with a property that has a number among those with it stands somewhere. -/
theorem exists_append_of_le_countP {α : Type} {p : α → Bool} {list : List α} {number : Nat}
    (hpos : 0 < number) (hle : number ≤ list.countP p) :
    ∃ before element after, list = before ++ element :: after ∧ p element = true ∧
      before.countP p + 1 = number := by
  induction list generalizing number with
  | nil => exact absurd hpos (Nat.not_lt.mpr hle)
  | cons first list ih =>
    by_cases hfirst : p first = true
    · rw [List.countP_cons_of_pos hfirst] at hle
      obtain hone | hmore := Nat.eq_or_lt_of_le (Nat.succ_le_of_lt hpos)
      · exact ⟨[], first, list, rfl, hfirst, hone⟩
      · obtain ⟨before, element, after, rfl, helement, hcount⟩ :=
          @ih (number - 1) (by omega) (by omega)
        refine ⟨first :: before, element, after, rfl, helement, ?_⟩
        rw [List.countP_cons_of_pos hfirst]
        omega
    · rw [List.countP_cons_of_neg hfirst] at hle
      obtain ⟨before, element, after, rfl, helement, hcount⟩ := ih hpos hle
      refine ⟨first :: before, element, after, rfl, helement, ?_⟩
      rw [List.countP_cons_of_neg hfirst]
      exact hcount

/-! ## Where the token is looked at -/

/-- The token is not raised when it is looked at before any of the entries. -/
def StaysDown (token : CancelToken) (entries : List Json) : Prop :=
  ∀ before entry after, entries = before ++ entry :: after →
    (token.afterLookups (lookupsOfAll before)).raised = false

section Tokens

variable {token : CancelToken}

theorem StaysDown.head {entry : Json} {entries : List Json}
    (h : StaysDown token (entry :: entries)) : token.raised = false := by
  have hfirst := h [] entry entries rfl
  rwa [lookupsOfAll, List.flatMap_nil, CancelToken.afterLookups_nil] at hfirst

theorem StaysDown.tail {entry : Json} {entries : List Json}
    (h : StaysDown token (entry :: entries)) :
    StaysDown (token.afterLookups (lookupsOf entry)) entries := by
  intro before next after hsplit
  have hnext := h (entry :: before) next after (by rw [hsplit]; rfl)
  rwa [lookupsOfAll_cons, CancelToken.afterLookups_append] at hnext

theorem StaysDown.of_isQuiet (h : token.IsQuiet) (entries : List Json) :
    StaysDown token entries :=
  fun _ _ _ _ => (h.afterLookups _).1

/-- The token is raised by the last of the entries at the earliest. -/
theorem StaysDown.of_raisesIn {number : Nat} (h : token.RaisesIn .existence number)
    (hpos : 0 < number) {entries : List Json}
    (hlast : entries.dropLast.countP looksUpSource < number) : StaysDown token entries := by
  rintro before entry after rfl
  rw [Bool.eq_false_iff, ne_eq, h.raised_afterLookups_iff hpos, count_existence_lookupsOfAll,
    Nat.not_le]
  rw [List.dropLast_append_of_ne_nil (List.cons_ne_nil entry after), List.countP_append] at hlast
  exact Nat.lt_of_le_of_lt (Nat.le_add_right _ _) hlast

end Tokens

/-! ## Entries one after the other -/

section Entries

variable (context : Context) {memo : TypeMemo} {token : CancelToken}

/-- What some entries declare, in front of the contents of later ones. -/
def addDeclarations (entries : List (Json × Nat)) (later : Contents) : Contents :=
  entries.foldr (fun entry => Contents.addFirst (declareAt context [] entry.2 entry.1).1) later

theorem addDeclarations_nil (entries : List (Json × Nat)) :
    addDeclarations context entries {} = declarations context entries := by
  induction entries with
  | nil => rfl
  | cons entry entries ih => exact congrArg (Contents.addFirst _) ih

/-- An entry before which the token is not raised is read, and then the others are. -/
theorem declareAll_cons (hmemo : memo.IsFaithful) (hraised : token.raised = false)
    (entry : Json × Nat) (entries : List (Json × Nat)) :
    declareAll context memo token (entry :: entries) =
      let (later, token) := declareAll context (declareAt context memo entry.2 entry.1).2
        (token.afterLookups (lookupsOf entry.1)) entries
      (later.map (Contents.addFirst (declareAt context [] entry.2 entry.1).1), token) := by
  rw [declareAll, if_neg (Bool.eq_false_iff.mp hraised),
    ← lookups_declareAt hmemo context entry.2, ← (declareAt_of_isFaithful hmemo context _ _).1]

/-- Entries before which the token is not raised are read, and then the others are. -/
theorem declareAll_append (hmemo : memo.IsFaithful) {before : List (Json × Nat)}
    (hdown : StaysDown token (before.map Prod.fst)) (rest : List (Json × Nat)) :
    ∃ later : TypeMemo, later.IsFaithful ∧
      declareAll context memo token (before ++ rest) =
        let (contents, token) := declareAll context later
          (token.afterLookups (lookupsOfAll (before.map Prod.fst))) rest
        (contents.map (addDeclarations context before), token) := by
  induction before generalizing token memo with
  | nil =>
    refine ⟨memo, hmemo, ?_⟩
    rw [List.map_nil, lookupsOfAll, List.flatMap_nil, CancelToken.afterLookups_nil,
      List.nil_append]
    cases declareAll context memo token rest with
    | mk outcome after => cases outcome <;> rfl
  | cons entry before ih =>
    have hfaithful := (declareAt_of_isFaithful hmemo context entry.2 entry.1).2
    obtain ⟨later, hlater, hrest⟩ := ih hfaithful hdown.tail
    refine ⟨later, hlater, ?_⟩
    rw [List.cons_append, declareAll_cons context hmemo hdown.head, hrest, List.map_cons,
      lookupsOfAll_cons, CancelToken.afterLookups_append]
    cases declareAll context later _ rest with
    | mk outcome after => cases outcome <;> rfl

/-- If the token is not raised before any of the entries, all of them are read. -/
theorem declareAll_of_staysDown (hmemo : memo.IsFaithful) {entries : List (Json × Nat)}
    (hdown : StaysDown token (entries.map Prod.fst)) :
    declareAll context memo token entries = (.ok (declarations context entries),
      token.afterLookups (lookupsOfAll (entries.map Prod.fst))) := by
  obtain ⟨later, -, hall⟩ := declareAll_append context hmemo hdown []
  rw [List.append_nil] at hall
  rw [hall, declareAll, ← addDeclarations_nil]
  rfl

/-- If the token is not raised before any of some entries, but is before the next one, then that one
is not read any more. -/
theorem declareAll_of_raised (hmemo : memo.IsFaithful) {before : List (Json × Nat)}
    (hdown : StaysDown token (before.map Prod.fst))
    (hraised : (token.afterLookups (lookupsOfAll (before.map Prod.fst))).raised = true)
    (entry : Json × Nat) (after : List (Json × Nat)) :
    declareAll context memo token (before ++ entry :: after) =
      (.error .cancelled, token.afterLookups (lookupsOfAll (before.map Prod.fst))) := by
  obtain ⟨later, -, hall⟩ := declareAll_append context hmemo hdown (entry :: after)
  rw [hall, declareAll, if_pos hraised]
  rfl

end Entries

/-! ## Whole documents -/

section Documents

variable {known : KnownTypes} {provenance : Provenance} {token : CancelToken} {text : Text}

/-- If the token is not raised before any of the entries, the reading yields the contents of the
document. -/
theorem parse_of_staysDown (hraised : token.raised = false)
    (hdown : StaysDown token (entriesOf text)) :
    parse known provenance token text = (.ok (contents known provenance text),
      token.afterLookups (lookupsOfAll (entriesOf text))) := by
  rw [parse, if_neg (Bool.eq_false_iff.mp hraised)]
  unfold contents
  rw [entriesOf] at hdown ⊢
  cases hread : readDocument text with
  | error diagnostic => exact congrArg (Prod.mk _) token.afterLookups_nil.symm
  | ok document =>
    rw [hread] at hdown
    simp only [parseMembers, memberContents, entriesIn] at hdown ⊢
    cases hlist : document.get? Section.properties.member with
    | none => exact congrArg (Prod.mk _) token.afterLookups_nil.symm
    | some list =>
      cases list with
      | array entries =>
        rw [hlist] at hdown
        simp only at hdown ⊢
        have hplaces := List.zipIdx_map_fst 0 entries
        rw [declareAll_of_staysDown _ TypeMemo.isFaithful_nil (hplaces.symm ▸ hdown), hplaces]
        rfl
      | _ => exact congrArg (Prod.mk _) token.afterLookups_nil.symm

/-- If the token is not raised before any of some entries, but is before the next one, then the
reading is given up there. -/
theorem parse_of_raised {before after : List Json} {entry : Json}
    (hentries : entriesOf text = before ++ entry :: after) (hraised : token.raised = false)
    (hdown : StaysDown token before)
    (hlast : (token.afterLookups (lookupsOfAll before)).raised = true) :
    parse known provenance token text =
      (.error .cancelled, token.afterLookups (lookupsOfAll before)) := by
  rw [parse, if_neg (Bool.eq_false_iff.mp hraised)]
  rw [entriesOf] at hentries
  cases hread : readDocument text with
  | error diagnostic => simp [hread] at hentries
  | ok document =>
    rw [hread] at hentries
    simp only [parseMembers, entriesIn] at hentries ⊢
    cases hlist : document.get? Section.properties.member with
    | none => simp [hlist] at hentries
    | some list =>
      cases list with
      | array entries =>
        rw [hlist] at hentries
        obtain rfl : entries = before ++ entry :: after := hentries
        have hplaces := List.zipIdx_map_fst 0 before
        rw [← hplaces] at hdown hlast
        simp only [List.zipIdx_append, List.zipIdx_cons]
        rw [declareAll_of_raised _ TypeMemo.isFaithful_nil hdown hlast, hplaces]
        rfl
      | _ => simp [hlist] at hentries

/-- If the lookup that raises the token belongs to an entry that is not the last one, the reading is
given up behind this entry. -/
theorem parse_of_raisesIn_early {number : Nat} (hpos : 0 < number)
    (htoken : token.RaisesIn .existence number)
    (hearly : number ≤ (entriesOf text).dropLast.countP looksUpSource) :
    (parse known provenance token text).1 = .error .cancelled ∧
      (parse known provenance token text).2.count .existence =
        token.count .existence + number := by
  obtain hnone | ⟨entries, last, hconcat⟩ := List.eq_nil_or_concat (entriesOf text)
  · rw [hnone] at hearly
    exact absurd hpos (Nat.not_lt.mpr hearly)
  rw [List.concat_eq_append] at hconcat
  rw [hconcat, List.dropLast_concat] at hearly
  obtain ⟨before, entry, after, rfl, hentry, hcount⟩ := exists_append_of_le_countP hpos hearly
  have hthrough : (before ++ [entry]).countP looksUpSource = number := by
    rw [List.countP_append, List.countP_singleton, if_pos hentry, hcount]
  have hdown : StaysDown token (before ++ [entry]) := by
    refine .of_raisesIn htoken hpos ?_
    rw [List.dropLast_concat]
    omega
  have hlast : (token.afterLookups (lookupsOfAll (before ++ [entry]))).raised = true := by
    refine (htoken.raised_afterLookups_iff hpos).mpr (Nat.le_of_eq ?_)
    rw [count_existence_lookupsOfAll, hthrough]
  -- the last entry, if no other, comes behind the one whose lookup raises the token
  obtain ⟨next, rest, hnext⟩ := List.exists_cons_of_ne_nil
    (List.append_ne_nil_of_right_ne_nil after (List.cons_ne_nil last []))
  have hsplit : entriesOf text = (before ++ [entry]) ++ next :: rest := by
    rw [hconcat, ← hnext]
    simp only [List.append_assoc, List.cons_append, List.nil_append]
  rw [parse_of_raised hsplit htoken.1 hdown hlast, CancelToken.count_afterLookups,
    count_existence_lookupsOfAll, hthrough]
  exact ⟨rfl, rfl⟩

/-- **Cancellation while a document is read is all or nothing.** Let a token be raised at the lookup
of a source type that has the given number. If the lookup belongs to an entry that is not the last
one, the reading is given up, and no further source type is looked up. If it belongs to the last
entry, or if there are fewer lookups, the reading yields exactly what it yields if nobody raises the
token. -/
theorem parse_of_raisesIn (known : KnownTypes) (provenance : Provenance) (text : Text)
    {token : CancelToken} {number : Nat} (hpos : 0 < number)
    (htoken : token.RaisesIn .existence number) :
    ∃ whole, (parse known provenance {} text).1 = .ok whole ∧
      (parse known provenance {} text).2.count .existence =
        (entriesOf text).countP looksUpSource ∧
      (number ≤ (entriesOf text).dropLast.countP looksUpSource →
        (parse known provenance token text).1 = .error .cancelled ∧
          (parse known provenance token text).2.count .existence =
            token.count .existence + number) ∧
      ((entriesOf text).dropLast.countP looksUpSource < number →
        (parse known provenance token text).1 = .ok whole) := by
  have hquiet : CancelToken.IsQuiet {} := ⟨rfl, rfl⟩
  refine ⟨contents known provenance text, parse_new known provenance text, ?_,
    parse_of_raisesIn_early hpos htoken, fun hlate => ?_⟩
  · rw [parse_of_staysDown rfl (.of_isQuiet hquiet _), CancelToken.count_afterLookups,
      count_existence_lookupsOfAll]
    exact Nat.zero_add _
  · rw [parse_of_staysDown htoken.1 (.of_raisesIn htoken hpos hlate)]

/-- A document of four keys, all but the second with a source type. -/
def sourcedKeys : Text :=
  ("\x7b\"properties\":[\x7b\"name\":\"a\",\"sourceType\":\"A\"\x7d,\x7b\"name\":\"b\"\x7d," ++
    "\x7b\"name\":\"c\",\"sourceType\":\"C\"\x7d," ++
    "\x7b\"name\":\"d\",\"sourceType\":\"D\"\x7d]\x7d").toList

/-- The second lookup belongs to the third of four keys, and the third one to the last. -/
theorem parse_of_raisesIn_sourcedKeys :
    let second : CancelToken := { raiseAt? := some (.existence, 2) }
    let third : CancelToken := { raiseAt? := some (.existence, 3) }
    (0 < 2 ∧ second.RaisesIn .existence 2 ∧
      (parse {} { library := ['l'] } second sourcedKeys).1 = .error .cancelled ∧
      (parse {} { library := ['l'] } second sourcedKeys).2.count .existence = 2) ∧
    (0 < 3 ∧ third.RaisesIn .existence 3 ∧
      (parse {} { library := ['l'] } third sourcedKeys).1 =
        (parse {} { library := ['l'] } {} sourcedKeys).1) := by
  intro second third
  have hsecond : second.RaisesIn .existence 2 := ⟨rfl, rfl⟩
  have hthird : third.RaisesIn .existence 3 := ⟨rfl, rfl⟩
  have hcount : (entriesOf sourcedKeys).dropLast.countP looksUpSource = 2 := by decide +kernel
  obtain ⟨-, -, -, hearly, -⟩ :=
    parse_of_raisesIn {} { library := ['l'] } sourcedKeys (by decide) hsecond
  obtain ⟨whole, hwhole, -, -, hlate⟩ :=
    parse_of_raisesIn {} { library := ['l'] } sourcedKeys (by decide) hthird
  rw [hcount] at hearly hlate
  obtain ⟨hfailed, hmade⟩ := hearly (Nat.le_refl 2)
  exact ⟨⟨by decide, hsecond, hfailed, hmade⟩, by decide, hthird,
    (hlate (Nat.lt_succ_self 2)).trans hwhole.symm⟩

end Documents

end PropertyKeys.Metadata

import Mathlib.Data.List.Induction
import PropertyKeys.Proofs.Metadata.Contents

/-!
# The hints of keys

A key carries what the document says under its name: the hint of a name is what the last entry of
that name describes. A map key carries two hints, for its values and for its keys, and they are
looked for under longer names.

## Main definitions

* `Metadata.Keeps`: what a list keeps of another one.
* `Metadata.Describes`: the hint that an entry describes.
* `Metadata.GivesHint`: the hint that a list of entries gives for a name.

## Main results

* `Metadata.parse_hints`: the hints of the keys of a document.
-/

namespace PropertyKeys.Metadata

/-! ## What entries describe -/

/-- A list keeps, in order, what is taken from the items of another one, and leaves out the items
from which nothing is taken. -/
inductive Keeps {α β : Type} (Takes : α → β → Prop) : List α → List β → Prop
  | nil : Keeps Takes [] []
  | kept {item : α} {value : β} {items : List α} {values : List β} (htakes : Takes item value)
    (h : Keeps Takes items values) : Keeps Takes (item :: items) (value :: values)
  | dropped {item : α} {items : List α} {values : List β} (hnone : ∀ value, ¬Takes item value)
    (h : Keeps Takes items values) : Keeps Takes (item :: items) values

/-- The items of an array that is a member of an object. Anything else has none. -/
def itemsOf (name : Text) (members : OrderedMap Text Json) : List Json :=
  match members.get? name with
  | some (.array items) => items
  | _ => []

/-- The members of an object that is a member of an object. Anything else has none. -/
def membersOf (name : Text) (members : OrderedMap Text Json) : OrderedMap Text Json :=
  match members.get? name with
  | some (.object inner) => inner
  | _ => []

/-- The item is an object that gives a text for the value, and maybe one for the description. -/
def IsSuggestion (item : Json) (suggestion : Suggestion) : Prop :=
  ∃ members, item = .object members ∧
    Json.memberText? "value".toList members = some suggestion.value ∧
      Json.memberText? "description".toList members = suggestion.description?

/-- The member gives a text, which is the value of the parameter of its name. -/
def IsParameter (member : Text × Json) (parameter : Text × Text) : Prop :=
  member.1 = parameter.1 ∧ member.2.primitive? = some parameter.2

/-- The item is an object that gives a text for the name, and the parameters. -/
def IsProvider (item : Json) (provider : Provider) : Prop :=
  ∃ members, item = .object members ∧
    Json.memberText? "name".toList members = some provider.name ∧
      Keeps IsParameter (membersOf "parameters".toList members) provider.parameters

/-- The object has the suggestions and the providers of the hint. -/
structure Describes (members : OrderedMap Text Json) (hint : Hint) : Prop where
  suggestions : Keeps IsSuggestion (itemsOf "values".toList members) hint.suggestions
  providers : Keeps IsProvider (itemsOf "providers".toList members) hint.providers

/-- The entry is an object of the name. -/
def IsNamed (name : Text) (entry : Json) : Prop :=
  ∃ members, entry = .object members ∧ Json.memberText? "name".toList members = some name

/-- The hint that entries give for a name: what the last entry of that name describes, or nothing if
there is none. -/
inductive GivesHint (name : Text) (entries : List Json) : Hint → Prop
  | described {before after : List Json} {members : OrderedMap Text Json} {hint : Hint}
    (hentries : entries = before ++ .object members :: after)
    (hname : Json.memberText? "name".toList members = some name)
    (hlast : ∀ entry ∈ after, ¬IsNamed name entry) (hdescribes : Describes members hint) :
    GivesHint name entries hint
  | nothing (hnone : ∀ entry ∈ entries, ¬IsNamed name entry) : GivesHint name entries {}

/-- What a filter leaves is all that a list keeps of another one, and nothing else is. -/
theorem filterMap_eq_iff_keeps {α β : Type} {Takes : α → β → Prop} {f : α → Option β}
    (h : ∀ item value, f item = some value ↔ Takes item value) {items : List α}
    {values : List β} : items.filterMap f = values ↔ Keeps Takes items values := by
  constructor
  · rintro rfl
    induction items with
    | nil => exact .nil
    | cons item items ih =>
      cases hvalue : f item with
      | none =>
        rw [List.filterMap_cons_none hvalue]
        refine .dropped (fun value htakes => ?_) ih
        cases hvalue.symm.trans ((h item value).mpr htakes)
      | some value =>
        rw [List.filterMap_cons_some hvalue]
        exact .kept ((h item value).mp hvalue) ih
  · intro hkeeps
    induction hkeeps with
    | nil => rfl
    | kept htakes _ ih => rw [List.filterMap_cons_some ((h _ _).mpr htakes), ih]
    | @dropped item _ _ hnone _ ih =>
      have hvalue : f item = none :=
        Option.eq_none_iff_forall_ne_some.mpr fun value hvalue =>
          hnone value ((h item value).mp hvalue)
      rw [List.filterMap_cons_none hvalue, ih]

theorem suggestionOf?_eq_some_iff {members : OrderedMap Text Json} {suggestion : Suggestion} :
    suggestionOf? members = some suggestion ↔
      Json.memberText? "value".toList members = some suggestion.value ∧
        Json.memberText? "description".toList members = suggestion.description? := by
  rw [suggestionOf?, Option.map_eq_some_iff]
  constructor
  · rintro ⟨value, hvalue, rfl⟩
    exact ⟨hvalue, rfl⟩
  · rintro ⟨hvalue, hdescription⟩
    exact ⟨suggestion.value, hvalue, by rw [hdescription]⟩

theorem parametersOf_eq_iff {members : OrderedMap Text Json} {parameters : OrderedMap Text Text} :
    parametersOf members = parameters ↔ Keeps IsParameter members parameters := by
  refine filterMap_eq_iff_keeps fun member parameter => ?_
  rw [Option.map_eq_some_iff]
  constructor
  · rintro ⟨value, hvalue, rfl⟩
    exact ⟨rfl, hvalue⟩
  · rintro ⟨hname, hvalue⟩
    exact ⟨parameter.2, hvalue, by rw [hname]⟩

theorem providerOf?_eq_some_iff {members : OrderedMap Text Json} {provider : Provider} :
    providerOf? members = some provider ↔
      Json.memberText? "name".toList members = some provider.name ∧
        Keeps IsParameter (membersOf "parameters".toList members) provider.parameters := by
  have hmembers : ((OrderedMap.get? "parameters".toList members).bind Json.members?).getD [] =
      membersOf "parameters".toList members := by
    unfold membersOf
    cases OrderedMap.get? "parameters".toList members with
    | none => rfl
    | some value => cases value <;> rfl
  rw [providerOf?, hmembers, Option.map_eq_some_iff, ← parametersOf_eq_iff]
  constructor
  · rintro ⟨name, hname, rfl⟩
    exact ⟨hname, rfl⟩
  · rintro ⟨hname, hparameters⟩
    exact ⟨provider.name, hname, by rw [hparameters]⟩

/-- What is taken from the objects of an array is all that is kept of its items. -/
theorem objectsOf_filterMap_eq_iff {α : Type} {f : OrderedMap Text Json → Option α}
    {Takes : Json → α → Prop}
    (h : ∀ item value, Takes item value ↔ ∃ members, item = .object members ∧
      f members = some value) {name : Text} {members : OrderedMap Text Json} {values : List α} :
    (objectsOf name members).filterMap f = values ↔ Keeps Takes (itemsOf name members) values := by
  have hitems : ((OrderedMap.get? name members).bind Json.items?).getD [] =
      itemsOf name members := by
    unfold itemsOf
    cases OrderedMap.get? name members with
    | none => rfl
    | some value => cases value <;> rfl
  rw [objectsOf, hitems, List.filterMap_filterMap]
  refine filterMap_eq_iff_keeps fun item value => ?_
  rw [h, Option.bind_eq_some_iff]
  refine exists_congr fun inner => and_congr_left fun _ => ?_
  cases item <;> simp [Json.members?]

/-- The hint of an entry is the one that the entry describes. -/
theorem hintOf_eq_iff {members : OrderedMap Text Json} {hint : Hint} :
    hintOf members = hint ↔ Describes members hint := by
  have hsuggestions : (objectsOf "values".toList members).filterMap suggestionOf? =
        hint.suggestions ↔
      Keeps IsSuggestion (itemsOf "values".toList members) hint.suggestions :=
    objectsOf_filterMap_eq_iff fun item suggestion => by
      simp only [IsSuggestion, suggestionOf?_eq_some_iff]
  have hproviders : (objectsOf "providers".toList members).filterMap providerOf? =
        hint.providers ↔
      Keeps IsProvider (itemsOf "providers".toList members) hint.providers :=
    objectsOf_filterMap_eq_iff fun item provider => by
      simp only [IsProvider, providerOf?_eq_some_iff]
  constructor
  · rintro rfl
    exact ⟨hsuggestions.mp rfl, hproviders.mp rfl⟩
  · rintro ⟨hkept, hasked⟩
    rw [hintOf, hsuggestions.mpr hkept, hproviders.mpr hasked]

/-! ## The index -/

/-- The index after one more entry. -/
def addHint (index : HintIndex) : Json → HintIndex
  | .object members =>
    match Json.memberText? "name".toList members with
    | some name => index.set name (hintOf members)
    | none => index
  | _ => index

theorem addHints_eq (index : HintIndex) (entries : List (Json × Nat)) :
    (addHints index entries).1 = (entries.map Prod.fst).foldl addHint index := by
  induction entries generalizing index with
  | nil => rfl
  | cons entry entries ih =>
    obtain ⟨entry, place⟩ := entry
    cases entry with
    | object members =>
      rw [addHints, List.map_cons, List.foldl_cons, addHint]
      cases Json.memberText? "name".toList members with
      | none => exact ih index
      | some name => exact ih (index.set name (hintOf members))
    | _ => exact ih index

/-- The index of a document is that of its list of hints. Anything else than a list has none. -/
theorem hintIndex_eq (document : OrderedMap Text Json) :
    (hintIndex document).1 = (itemsOf Section.hints.member document).foldl addHint [] := by
  unfold hintIndex itemsOf
  cases document.get? Section.hints.member with
  | none => rfl
  | some list =>
    cases list with
    | array entries =>
      simp only [addHints_eq]
      rw [List.zipIdx_map_fst]
    | _ => rfl

/-- An entry of the name sets the hint of the name. -/
theorem hint_addHint {members : OrderedMap Text Json} {name : Text}
    (hname : Json.memberText? "name".toList members = some name) (index : HintIndex) :
    (addHint index (.object members)).hint name = hintOf members := by
  simp only [addHint, hname, HintIndex.hint, OrderedMap.get?_set_self, Option.getD_some]

/-- Any other entry leaves it. -/
theorem hint_addHint_of_not_isNamed {name : Text} {entry : Json} (h : ¬IsNamed name entry)
    (index : HintIndex) : (addHint index entry).hint name = index.hint name := by
  cases entry with
  | object members =>
    rw [addHint]
    cases hname : Json.memberText? "name".toList members with
    | none => rfl
    | some other =>
      have hne : name ≠ other := fun heq => h ⟨members, rfl, by rw [hname, heq]⟩
      simp only [HintIndex.hint, OrderedMap.get?_set_of_ne hne]
  | _ => rfl

/-- What entries give for a name is not changed by an entry that is not of the name. -/
theorem GivesHint.concat {name : Text} {entries : List Json} {hint : Hint}
    (h : GivesHint name entries hint) {entry : Json} (hentry : ¬IsNamed name entry) :
    GivesHint name (entries ++ [entry]) hint := by
  have hsingle : ∀ other ∈ [entry], ¬IsNamed name other := List.forall_mem_singleton.mpr hentry
  cases h with
  | described hentries hname hlast hdescribes =>
    subst hentries
    exact .described (List.append_assoc _ _ _) hname
      (List.forall_mem_append.mpr ⟨hlast, hsingle⟩) hdescribes
  | nothing hnone => exact .nothing (List.forall_mem_append.mpr ⟨hnone, hsingle⟩)

/-- The last entry of a name stands in the index. -/
theorem givesHint_foldl (name : Text) (entries : List Json) :
    GivesHint name entries ((entries.foldl addHint []).hint name) := by
  -- From the end, since a later entry takes the place of the earlier ones.
  induction entries using List.reverseRecOn with
  | nil => exact .nothing nofun
  | append_singleton entries entry ih =>
    rw [List.foldl_append, List.foldl_cons, List.foldl_nil]
    by_cases hentry : IsNamed name entry
    · obtain ⟨members, rfl, hname⟩ := hentry
      rw [hint_addHint hname]
      exact .described rfl hname nofun (hintOf_eq_iff.mp rfl)
    · rw [hint_addHint_of_not_isNamed hentry]
      exact ih.concat hentry

theorem givesHint_hintIndex (name : Text) (document : OrderedMap Text Json) :
    GivesHint name (itemsOf Section.hints.member document)
      ((hintIndex document).1.hint name) := by
  rw [hintIndex_eq]
  exact givesHint_foldl name _

/-! ## The hints of a key -/

/-- The access by which an entry looks for hints is that of the key that it declares. -/
theorem hints_of_declareAt {context : Context} {place : Nat} {entry : Json} {key : Key}
    (h : (declareAt context [] place entry).1.key? = some key) :
    (key.valueHint, key.keyHint) = hintsOf context.hints key.access key.name := by
  cases entry with
  | object members =>
    rw [declareAt, declare] at h
    cases hname : nameOf? members with
    | none =>
      rw [hname] at h
      cases h
    | some name =>
      rw [hname] at h
      cases h
      rfl
  | _ => cases h

/-- **The last hint of a name counts.** A map key has the hints that the document gives for its
values and for its keys. Any other key has the hint that the document gives for its name. -/
theorem parse_hints {known : KnownTypes} {provenance : Provenance} {token : CancelToken}
    {text : Text} {document : OrderedMap Text Json} (hread : readDocument text = .ok document)
    (hdone : (parse known provenance token text).1 ≠ .error .cancelled) :
    ∃ contents, (parse known provenance token text).1 = .ok contents ∧
      ∀ key ∈ contents.keys,
        if key.access = .map ∨ key.access = .enumMap then
          GivesHint (key.name ++ ".values".toList) (itemsOf "hints".toList document)
              key.valueHint ∧
            GivesHint (key.name ++ ".keys".toList) (itemsOf "hints".toList document) key.keyHint
        else
          GivesHint key.name (itemsOf "hints".toList document) key.valueHint ∧
            key.keyHint = {} := by
  refine ⟨_, parse_eq_ok hread hdone, fun key hkey => ?_⟩
  obtain ⟨place, entry, hdeclared⟩ := exists_of_mem_memberContents hkey
  have hhints := hints_of_declareAt hdeclared
  have hgives (name : Text) := givesHint_hintIndex name document
  rw [hintsOf] at hhints
  cases haccess : key.access with
  | map | enumMap =>
    rw [haccess, Access.isMap, if_pos rfl, Prod.mk.injEq] at hhints
    rw [if_pos (by decide), hhints.1, hhints.2]
    exact ⟨hgives _, hgives _⟩
  | normal | indexed =>
    rw [haccess, Access.isMap, if_neg Bool.false_ne_true, Prod.mk.injEq] at hhints
    rw [if_neg (by decide), hhints.1, hhints.2]
    exact ⟨hgives _, rfl⟩

/-- A map key. Its keys have two hints, and the later one has an item that is passed over. -/
def hintedText : Text :=
  ("\x7b\"properties\":[\x7b\"name\":\"m\",\"type\":\"java.util.Map\"\x7d],\"hints\":[" ++
    "\x7b\"name\":\"m.keys\"\x7d,\x7b\"name\":\"m.keys\",\"values\":[\x7b\"value\":1\x7d,2]\x7d," ++
    "\x7b\"name\":\"m\"\x7d]\x7d").toList

theorem parse_hints_hintedText :
    ∃ document, readDocument hintedText = .ok document ∧
      (parse {} { library := ['l'] } {} hintedText).1 ≠ .error .cancelled ∧
        ∃ contents, (parse {} { library := ['l'] } {} hintedText).1 = .ok contents ∧
          contents.keys.map (fun key => (key.access, key.keyHint)) =
              [(.map, { suggestions := [{ value := ['1'] }] })] ∧
            ∀ key ∈ contents.keys,
              if key.access = .map ∨ key.access = .enumMap then
                GivesHint (key.name ++ ".values".toList) (itemsOf "hints".toList document)
                    key.valueHint ∧
                  GivesHint (key.name ++ ".keys".toList) (itemsOf "hints".toList document)
                    key.keyHint
              else
                GivesHint key.name (itemsOf "hints".toList document) key.valueHint ∧
                  key.keyHint = {} := by
  have hkeys : (contents {} { library := ['l'] } hintedText).keys.map
      (fun key => (key.access, key.keyHint)) =
        [(.map, { suggestions := [{ value := ['1'] }] })] := by decide +kernel
  have hparse := parse_new {} { library := ['l'] } hintedText
  have hdone := parse_new_ne_cancelled {} { library := ['l'] } hintedText
  cases hread : readDocument hintedText with
  | error diagnostic =>
    rw [contents, hread] at hkeys
    cases hkeys
  | ok document =>
    obtain ⟨found, hfound, hgives⟩ := parse_hints hread hdone
    obtain rfl : _ = found := Except.ok.inj (hparse.symm.trans hfound)
    exact ⟨document, rfl, hdone, _, hparse, hkeys, hgives⟩

end PropertyKeys.Metadata

import Mathlib.Data.List.Forall2
import PropertyKeys.Proofs.KeyParts.Shape
import PropertyKeys.Proofs.Text.Cuts
import PropertyKeys.Resolution

/-!
# What answers to a raw key agree on

An index and a property can be asked for in several ways: by an answer to a raw key, be it the first
one or one of all, with or without regard to the exact name, by the parts of the raw key, and by the
index of a declared key. All of them give the same index and the same property, or none.

## Main definitions

* `Resolver.Answers`: whether a resolution is given for a raw key.
* `Resolution.IsReadOff`: a resolution says what the parts of the raw key say.
* `Resolution.IsExactOf`: what becomes of a resolution if the exact name is asked for.
* `Resolution.AgreesWithIndex`: a resolution says what the index of its key says.

## Main results

* `Resolver.answers_agree`: all ways to ask agree.
-/

namespace PropertyKeys

open Text

/-! ## Both dialects at once -/

namespace Dialect

variable {dialect : Dialect} {key : Key} {raw : Text}

theorem parts?_eq (dialect : Dialect) (key : Key) (raw : Text) (caseSensitive : Bool) :
    dialect.parts? key raw caseSensitive =
      if key.access = .normal || !sameFirst key.name raw then none
      else (KeyParts.split? key raw caseSensitive).filter
        fun parts => parts.names dialect.same key.name := by
  cases dialect <;> rfl

theorem index?_eq (dialect : Dialect) (key : Key) (asked? : Option Text) (raw : Text) :
    dialect.index? key asked? raw =
      (dialect.parts? key raw false).bind
        fun parts => parts.index?If dialect.same key.name asked? := by
  cases dialect <;> rfl

@[simp]
theorem same_self (dialect : Dialect) (name : Text) : dialect.same name name = true := by
  cases dialect with
  | strict => exact beq_self_eq_true (Strict.canonical name)
  | relaxed => exact Bool.or_eq_true_iff.mpr (.inl (equalsIgnoringCase_iff.mpr rfl))

theorem sameFirst_of_binds (hbinds : dialect.binds key raw = true) :
    sameFirst key.name raw = true := by
  cases dialect <;> exact ((Bool.and_eq_true _ _).mp hbinds).1

/-- The parts of a raw key, if the portion names the key. -/
def namedParts? (dialect : Dialect) (key : Key) (raw : Text) (caseSensitive : Bool) :
    Option KeyParts :=
  (KeyParts.split? key raw caseSensitive).filter fun parts => parts.names dialect.same key.name

theorem names_of_parts?_eq_some {parts : KeyParts}
    (h : dialect.parts? key raw false = some parts) :
    parts.names dialect.same key.name = true := by
  rw [parts?_eq, KeyParts.keep_eq_some_iff] at h
  exact h.2.2.2

/-- If a raw key is for a declared key, then a dialect keeps the parts that name the key, unless
there is neither an index nor a property in them. -/
theorem parts?_of_binds (hbinds : dialect.binds key raw = true) (caseSensitive : Bool) :
    dialect.parts? key raw caseSensitive = dialect.namedParts? key raw caseSensitive ∨
      dialect.parts? key raw caseSensitive = none ∧
        ∀ parts, dialect.namedParts? key raw caseSensitive = some parts →
          parts.index? = none ∧ parts.property? = none := by
  rw [parts?_eq, sameFirst_of_binds hbinds]
  by_cases hnormal : key.access = .normal
  · -- a dialect keeps no parts of a scalar, whose only part is the whole raw key
    refine .inr ⟨by simp [hnormal], fun parts hparts => ?_⟩
    have hsplit := (Option.filter_eq_some_iff.mp hparts).1
    have hshape := (Option.filter_eq_some_iff.mp hsplit).1
    rw [KeyParts.shape?, hnormal] at hshape
    obtain rfl := Option.some.inj hshape
    exact ⟨rfl, rfl⟩
  · exact .inl (by simp [hnormal, namedParts?])

end Dialect

/-! ## Single answers -/

namespace Resolution

/-- What a resolution says is what the parts of the raw key say, if there are parts and their
portion names the key. Otherwise it says nothing. -/
inductive IsReadOff (dialect : Dialect) (raw : Text) (caseSensitive : Bool)
    (resolution : Resolution) : Prop
  | cut {parts : KeyParts}
    (hsplit : KeyParts.split? resolution.entry.key raw caseSensitive = some parts)
    (hnames : parts.names dialect.same resolution.entry.key.name = true)
    (hindex : resolution.index? = parts.index?)
    (hproperty : resolution.property? = parts.property?)
  | uncut
    (hnone : ∀ parts, KeyParts.split? resolution.entry.key raw caseSensitive = some parts →
      parts.names dialect.same resolution.entry.key.name = false)
    (hindex : resolution.index? = none) (hproperty : resolution.property? = none)

/-- A resolution with regard to the exact name is for the same entry as one without. If the portion
is the name, both say what the parts of the raw key say. Otherwise the first one says nothing. -/
inductive IsExactOf (raw : Text) (exact loose : Resolution) : Prop
  | spelled {parts : KeyParts} (hentry : exact.entry = loose.entry)
    (hsplit : KeyParts.split? loose.entry.key raw false = some parts)
    (hportion : parts.portion = loose.entry.key.name)
    (hindex : exact.index? = loose.index? ∧ loose.index? = parts.index?)
    (hproperty : exact.property? = loose.property? ∧ loose.property? = parts.property?)
  | misspelled (hentry : exact.entry = loose.entry)
    (hportion : ∀ parts, KeyParts.split? loose.entry.key raw false = some parts →
      parts.portion ≠ loose.entry.key.name)
    (hindex : exact.index? = none) (hproperty : exact.property? = none)

/-- The index of the key is that of the resolution. If a property is asked for, this is so if the
resolution has a property of the same name, and else there is no index. -/
structure AgreesWithIndex (dialect : Dialect) (raw : Text) (resolution : Resolution) : Prop where
  index?_eq : dialect.index? resolution.entry.key none raw = resolution.index?
  index?_asked : ∀ asked, dialect.index? resolution.entry.key (some asked) raw =
    if resolution.property?.any (dialect.same asked) then resolution.index? else none

end Resolution

namespace Resolver

open Resolution

section Answer

variable {resolver : Resolver} {entry : Entry} {raw : Text}

/-- An answer says what the parts of the raw key say that name the key. -/
theorem answer_of_binds (hbinds : resolver.dialect.binds entry.key raw = true) :
    resolver.answer raw entry =
      let parts? := resolver.dialect.namedParts? entry.key raw resolver.caseSensitive
      { entry
        index? := parts?.bind KeyParts.index?
        property? := parts?.bind KeyParts.property? } := by
  obtain hkept | ⟨hnone, hempty⟩ := Dialect.parts?_of_binds hbinds resolver.caseSensitive
  · rw [answer, hkept]
  · rw [answer, hnone]
    cases hparts : resolver.dialect.namedParts? entry.key raw resolver.caseSensitive with
    | none => rfl
    | some parts =>
      obtain ⟨hindex, hproperty⟩ := hempty parts hparts
      simp [hindex, hproperty]

theorem isReadOff_answer (hbinds : resolver.dialect.binds entry.key raw = true) :
    (resolver.answer raw entry).IsReadOff resolver.dialect raw resolver.caseSensitive := by
  rw [answer_of_binds hbinds]
  cases hparts : resolver.dialect.namedParts? entry.key raw resolver.caseSensitive with
  | none =>
    refine .uncut (fun parts hsplit => ?_) rfl rfl
    exact Bool.eq_false_iff.mpr (Option.filter_eq_none_iff.mp hparts parts hsplit)
  | some parts =>
    obtain ⟨hsplit, hnames⟩ := Option.filter_eq_some_iff.mp hparts
    exact .cut hsplit hnames rfl rfl

theorem agreesWithIndex_answer (hloose : resolver.caseSensitive = false) (raw : Text)
    (entry : Entry) : (resolver.answer raw entry).AgreesWithIndex resolver.dialect raw := by
  rw [answer, hloose]
  cases hparts : resolver.dialect.parts? entry.key raw false with
  | none => constructor <;> simp [Dialect.index?_eq, hparts]
  | some parts =>
    have hnames := Dialect.names_of_parts?_eq_some hparts
    constructor <;> simp [Dialect.index?_eq, hparts, KeyParts.index?If, hnames]

end Answer

section Exact

variable (dialect : Dialect) {entry : Entry} {raw : Text}

theorem split?_true_of_portion_eq {key : Key} {parts : KeyParts}
    (hsplit : KeyParts.split? key raw false = some parts) (hportion : parts.portion = key.name) :
    KeyParts.split? key raw true = some parts := by
  rw [KeyParts.split?_false] at hsplit
  exact KeyParts.split?_of_portion_eq hsplit hportion true

theorem split?_true_of_portion_ne {key : Key}
    (hportion : ∀ parts, KeyParts.split? key raw false = some parts → parts.portion ≠ key.name) :
    KeyParts.split? key raw true = none := by
  rw [KeyParts.split?_false] at hportion
  simpa [KeyParts.split?] using hportion

theorem isExactOf_answer (hbinds : dialect.binds entry.key raw = true) :
    IsExactOf raw (answer { dialect, caseSensitive := true } raw entry)
      (answer { dialect, caseSensitive := false } raw entry) := by
  rw [answer_of_binds hbinds, answer_of_binds hbinds]
  by_cases hspelled : ∃ parts, KeyParts.split? entry.key raw false = some parts ∧
      parts.portion = entry.key.name
  · obtain ⟨parts, hsplit, hportion⟩ := hspelled
    -- the parts of the exact name name the key, since the name is the same as itself
    have hnamed : ∀ caseSensitive, KeyParts.split? entry.key raw caseSensitive = some parts →
        dialect.namedParts? entry.key raw caseSensitive = some parts := fun _ hcut =>
      Option.filter_eq_some_iff.mpr ⟨hcut, by simp [KeyParts.names, hportion]⟩
    have hexact := hnamed true (split?_true_of_portion_eq hsplit hportion)
    have hloose := hnamed false hsplit
    exact .spelled rfl hsplit hportion (by simp [hexact, hloose]) (by simp [hexact, hloose])
  · have hportion : ∀ parts, KeyParts.split? entry.key raw false = some parts →
        parts.portion ≠ entry.key.name :=
      fun parts hsplit heq => hspelled ⟨parts, hsplit, heq⟩
    have hexact : dialect.namedParts? entry.key raw true = none := by
      rw [Dialect.namedParts?, split?_true_of_portion_ne hportion, Option.filter_none]
    exact .misspelled rfl hportion (by simp [hexact]) (by simp [hexact])

end Exact

/-! ## Answers from a catalog -/

/-- A resolution is the first answer to a raw key or one of all. -/
def Answers (resolver : Resolver) (catalog : Catalog) (raw : Text) (resolution : Resolution) :
    Prop :=
  resolver.resolve? catalog raw = some resolution ∨ resolution ∈ resolver.resolveAll catalog raw

theorem resolve?_eq_head? (resolver : Resolver) (catalog : Catalog) (raw : Text) :
    resolver.resolve? catalog raw = (resolver.resolveAll catalog raw).head? := by
  rw [resolve?, resolveAll, List.head?_map, List.head?_filter]

/-- There is one answer for each entry that the raw key is for, in order. -/
theorem map_entry_resolveAll (resolver : Resolver) (catalog : Catalog) (raw : Text) :
    (resolver.resolveAll catalog raw).map Resolution.entry =
      catalog.filter fun entry => resolver.dialect.binds entry.key raw := by
  rw [resolveAll, List.map_map]
  exact List.map_id _

theorem Answers.exists_entry {resolver : Resolver} {catalog : Catalog} {raw : Text}
    {resolution : Resolution} (h : resolver.Answers catalog raw resolution) :
    ∃ entry, resolver.dialect.binds entry.key raw = true ∧
      resolver.answer raw entry = resolution := by
  have hall : resolution ∈ resolver.resolveAll catalog raw := by
    obtain hfirst | hall := h
    · rw [resolve?_eq_head?] at hfirst
      exact List.mem_of_head? hfirst
    · exact hall
  obtain ⟨entry, hentry, rfl⟩ := List.mem_map.mp hall
  exact ⟨entry, (List.mem_filter.mp hentry).2, rfl⟩

/-- All answers, with regard to the exact name and without, place by place. -/
theorem forall₂_resolveAll (dialect : Dialect) (catalog : Catalog) (raw : Text) :
    List.Forall₂ (IsExactOf raw)
      (resolveAll { dialect, caseSensitive := true } catalog raw)
      (resolveAll { dialect, caseSensitive := false } catalog raw) := by
  rw [resolveAll, resolveAll, List.forall₂_map_left_iff, List.forall₂_map_right_iff]
  refine List.forall₂_same.mpr fun entry hentry => ?_
  exact isExactOf_answer dialect (List.mem_filter.mp hentry).2

theorem rel_head? {α β : Type} {R : α → β → Prop} {as : List α} {bs : List β}
    (h : List.Forall₂ R as bs) : Option.Rel R as.head? bs.head? := by
  cases h with
  | nil => exact .none
  | cons hfirst => exact .some hfirst

theorem rel_resolve? (dialect : Dialect) (catalog : Catalog) (raw : Text) :
    Option.Rel (IsExactOf raw)
      (resolve? { dialect, caseSensitive := true } catalog raw)
      (resolve? { dialect, caseSensitive := false } catalog raw) := by
  rw [resolve?_eq_head?, resolve?_eq_head?]
  exact rel_head? (forall₂_resolveAll dialect catalog raw)

/-- **Answers agree on index and property.** With or without regard to the exact name, each entry
that the raw key is for has an answer, in order, and the first answer is the first of all. An answer
says what the parts of the raw key say if these name the key, and nothing otherwise. The regard to
the exact name changes neither the entries nor their order; only an answer whose portion is not the
name says nothing then. Without it, an answer says what the index of its key says, whatever property
is asked for. -/
theorem answers_agree (dialect : Dialect) (catalog : Catalog) (raw : Text) :
    let exact : Resolver := { dialect, caseSensitive := true }
    let loose : Resolver := { dialect, caseSensitive := false }
    (∀ caseSensitive,
      let resolver : Resolver := { dialect, caseSensitive }
      resolver.resolve? catalog raw = (resolver.resolveAll catalog raw).head? ∧
      (resolver.resolveAll catalog raw).map Resolution.entry =
        catalog.filter (fun entry => dialect.binds entry.key raw) ∧
      ∀ resolution, resolver.Answers catalog raw resolution →
        resolution.IsReadOff dialect raw caseSensitive) ∧
    Option.Rel (IsExactOf raw) (exact.resolve? catalog raw) (loose.resolve? catalog raw) ∧
    List.Forall₂ (IsExactOf raw) (exact.resolveAll catalog raw) (loose.resolveAll catalog raw) ∧
    ∀ resolution, loose.Answers catalog raw resolution →
      resolution.AgreesWithIndex dialect raw := by
  intro exact loose
  refine ⟨fun caseSensitive => ⟨resolve?_eq_head? _ catalog raw,
      map_entry_resolveAll _ catalog raw, fun resolution h => ?_⟩,
    rel_resolve? dialect catalog raw, forall₂_resolveAll dialect catalog raw,
    fun resolution h => ?_⟩
  · obtain ⟨entry, hbinds, rfl⟩ := h.exists_entry
    exact isReadOff_answer hbinds
  · obtain ⟨entry, -, rfl⟩ := h.exists_entry
    have hloose : loose.caseSensitive = false := rfl
    exact agreesWithIndex_answer hloose raw entry

/-- A catalog of one map. -/
def labels : Catalog :=
  Catalog.ofKeys 0 [.textMap "app.labels".toList]

/-- A raw key in another case has an index only without regard to the exact name, and that is the
index of the key. -/
theorem answers_agree_labels :
    let raw := "App.Labels.env".toList
    let exact : Resolver := { dialect := .relaxed, caseSensitive := true }
    let loose : Resolver := { dialect := .relaxed, caseSensitive := false }
    (exact.resolveAll labels raw).map Resolution.index? = [none] ∧
      (loose.resolveAll labels raw).map Resolution.index? = [some "env".toList] ∧
      List.Forall₂ (IsExactOf raw) (exact.resolveAll labels raw) (loose.resolveAll labels raw) ∧
      ∀ resolution ∈ loose.resolveAll labels raw, resolution.AgreesWithIndex .relaxed raw := by
  intro raw exact loose
  obtain ⟨-, -, hexact, hindex⟩ := answers_agree .relaxed labels raw
  exact ⟨by decide +kernel, by decide +kernel, hexact,
    fun resolution h => hindex resolution (.inr h)⟩

end Resolver

end PropertyKeys

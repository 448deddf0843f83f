import PropertyKeys.Proofs.KeyParts.Composition
import PropertyKeys.Proofs.Naming.Canonical
import PropertyKeys.Proofs.Naming.RelaxedParts
import PropertyKeys.Proofs.Resolution.Agreement

/-!
# Composed raw keys are resolved

A raw key that is composed of the name of a key, an index, and for an index in brackets anything
after it, is for that key in either dialect, and it is cut into just these parts. So the catalog
that holds the key answers it with the index it was composed of, and with the property that the rest
goes on to.

## Main definitions

* `Resolver.Selects`: a raw key is cut into the name, the index and the property, and resolved to
  them.

## Main results

* `Dialect.binds_bracketed` / `Dialect.binds_dotted`: a composed raw key is for its key.
* `Resolver.selects_of_composed`: composing is undone by cutting and by resolving.
-/

namespace PropertyKeys

open Text KeyParts

theorem Text.sameFirst_append {name : Text} (hname : name ≠ []) (more : Text) :
    sameFirst name (name ++ more) = true := by
  obtain ⟨c, cs, rfl⟩ := List.exists_cons_of_ne_nil hname
  simp [sameFirst, sameLetter?, Unicode.sameLetter]

namespace Dialect

variable {key : Key}

/-- A raw key with a bracket is for a map or a list if the name precedes the bracket and is the
portion. -/
theorem binds_of_bracketBase_eq (dialect : Dialect) {raw : Text} {parts : KeyParts}
    (haccess : key.access ≠ .normal) (hfirst : sameFirst key.name raw = true) (hopen : '[' ∈ raw)
    (hbase : bracketBase raw = key.name) (hshape : shape? key raw = some parts)
    (hportion : parts.portion = key.name) : dialect.binds key raw = true := by
  have hsame : dialect.same key.name key.name = true := same_self dialect key.name
  cases dialect with
  | strict =>
    have hmatch : Strict.baseMatches (Strict.canonical key.name) raw = true := by
      simp [Strict.baseMatches, hopen, hbase]
    rcases Access.isMap_or key.access with hmap | hnormal | hindexed
    · exact (Strict.binds_of_isMap_iff hmap).mpr ⟨hfirst, Or.inr hmatch⟩
    · exact absurd hnormal haccess
    · exact (Strict.binds_of_indexed_iff hindexed).mpr ⟨hfirst, Or.inr hmatch⟩
  | relaxed =>
    rcases Access.isMap_or key.access with hmap | hnormal | hindexed
    · have hnames : Relaxed.same key.name parts.portion = true := hportion ▸ hsame
      exact (Relaxed.binds_of_isMap_iff hmap).mpr ⟨hfirst, Or.inr ⟨parts, hshape, hnames⟩⟩
    · exact absurd hnormal haccess
    · have hnames : Relaxed.same key.name (bracketBase raw) = true := hbase.symm ▸ hsame
      exact (Relaxed.binds_of_indexed_iff hindexed).mpr ⟨hfirst, hnames⟩

theorem binds_bracketed (dialect : Dialect) (haccess : key.access ≠ .normal)
    (hname : key.HasPlainName) {dot : Text}
    (hdot : dot = [] ∨ dot = ['.'] ∧ key.access = .indexed) {index : Text} (hindex : ']' ∉ index)
    (hne : index ≠ []) (rest : Text) :
    dialect.binds key (key.name ++ dot ++ '[' :: (index ++ ']' :: rest)) = true := by
  obtain ⟨hopen, hfinal⟩ := dropFinal_name_append hname hdot
  refine binds_of_bracketBase_eq dialect haccess ?_ (by simp) ?_
    (shape?_bracketed haccess hname hdot hindex hne rest) rfl
  · rw [List.append_assoc]
    exact sameFirst_append hname.ne_nil _
  · rw [bracketBase_append hopen, hfinal]

theorem binds_dotted (dialect : Dialect) (hmap : key.access.isMap = true)
    (hname : key.HasPlainName) (suffix : Text) :
    dialect.binds key (key.name ++ '.' :: suffix) = true := by
  have hfirst : sameFirst key.name (key.name ++ '.' :: suffix) = true :=
    sameFirst_append hname.ne_nil _
  cases dialect with
  | strict =>
    have hextends : Strict.extendsByDot (Strict.canonical key.name)
        (Strict.canonical (key.name ++ '.' :: suffix)) = true :=
      List.isPrefixOf_iff_prefix.mpr ⟨Strict.canonical suffix, by simp⟩
    exact (Strict.binds_of_isMap_iff hmap).mpr ⟨hfirst, Or.inl (Or.inr hextends)⟩
  | relaxed =>
    have hsame : Relaxed.same key.name (ofDotted key key.name suffix).portion = true := by
      rw [portion_ofDotted]
      exact same_self .relaxed key.name
    exact (Relaxed.binds_of_isMap_iff hmap).mpr
      ⟨hfirst, Or.inr ⟨_, shape?_dotted hmap hname suffix, hsame⟩⟩

end Dialect

namespace Resolver

/-- A raw key selects an index and a property of a key. It is cut into the name, this index and this
property, and the catalog that holds just the key answers it with them, in either dialect, and with
regard to the exact name or not. -/
structure Selects (key : Key) (raw index : Text) (property? : Option Text) : Prop where
  split? : ∀ caseSensitive, KeyParts.split? key raw caseSensitive =
    some { portion := key.name, index? := some index, property? }
  resolve? : ∀ (resolver : Resolver) (id : EntryId), resolver.resolve? [⟨id, key⟩] raw =
    some { entry := ⟨id, key⟩, index? := some index, property? }

theorem selects_of_shape? {key : Key} {raw index : Text} {property? : Option Text}
    (hshape : shape? key raw =
      some { portion := key.name, index? := some index, property? })
    (hbinds : ∀ dialect : Dialect, dialect.binds key raw = true) :
    Selects key raw index property? := by
  have hsplit := split?_of_portion_eq hshape rfl
  refine ⟨hsplit, fun resolver id => ?_⟩
  have hnamed : resolver.dialect.namedParts? key raw resolver.caseSensitive =
      some { portion := key.name, index? := some index, property? } :=
    Option.filter_eq_some_iff.mpr ⟨hsplit _, Dialect.same_self resolver.dialect key.name⟩
  have haccepts : resolver.accepts raw ⟨id, key⟩ = true := hbinds resolver.dialect
  rw [resolve?, List.find?_cons_of_pos haccepts, Option.map_some,
    answer_of_binds (hbinds resolver.dialect), hnamed]
  rfl

/-- **Cutting and resolving undo composing.** Take a key for a list or a map with a name that has no
brackets and does not end with a dot. An index in brackets after the name, or for a list after the
name and a dot, is given back, whatever follows, and so is the property that the rest goes on to. A
text after the name of a map and a dot is given back as the map key, or without its last segment if
that names a property. -/
theorem selects_of_composed (key : Key) (haccess : key.access ≠ .normal)
    (hname : key.HasPlainName) :
    (∀ dot index rest, (dot = [] ∨ dot = ['.'] ∧ key.access = .indexed) → index ≠ [] →
      ']' ∉ index → ∃ property?, ReachesAfterIndex key rest property? ∧
        Selects key (key.name ++ dot ++ '[' :: (index ++ ']' :: rest)) index property?) ∧
    (key.access.isMap = true → ∀ suffix, suffix ≠ [] →
      ∃ index property?, SelectsAfterDot key suffix index property? ∧
        Selects key (key.name ++ '.' :: suffix) index property?) := by
  constructor
  · intro dot index rest hdot hne hindex
    refine ⟨_, reachesAfterIndex_propertyAfter? key rest, selects_of_shape? ?_ fun dialect => ?_⟩
    · exact shape?_bracketed haccess hname hdot hindex hne rest
    · exact dialect.binds_bracketed haccess hname hdot hindex hne rest
  · intro hmap suffix hsuffix
    obtain ⟨index, property?, hselects, hparts⟩ := exists_selectsAfterDot hsuffix key key.name
    refine ⟨index, property?, hselects, selects_of_shape? ?_ fun dialect => ?_⟩
    · rw [shape?_dotted hmap hname, hparts]
    · exact dialect.binds_dotted hmap hname suffix

theorem Selects.eq_of_split? {key : Key} {raw index : Text} {property? : Option Text}
    {parts : KeyParts} (h : Selects key raw index property?)
    (hsplit : KeyParts.split? key raw false = some parts) :
    parts.index? = some index ∧ parts.property? = property? := by
  rw [h.split? false, Option.some.injEq] at hsplit
  subst hsplit
  exact ⟨rfl, rfl⟩

/-- A map key with dots and a property after it, once in brackets and once after a dot. -/
theorem selects_of_composed_pools :
    Selects .pools "app.pools[a.b].max-size[0]".toList "a.b".toList (some "maxSize".toList) ∧
      Selects .pools "app.pools.a.b.maxSize".toList "a.b".toList (some "maxSize".toList) := by
  obtain ⟨hbracketed, hdotted⟩ :=
    selects_of_composed .pools (by simp) Key.hasPlainName_pools
  obtain ⟨property?, -, hinner⟩ :=
    hbracketed [] "a.b".toList ".max-size[0]".toList (Or.inl rfl) (by decide) (by decide)
  obtain ⟨index, last?, -, houter⟩ := hdotted rfl "a.b.maxSize".toList (by decide)
  have hcut : KeyParts.split? .pools "app.pools[a.b].max-size[0]".toList false =
      some { portion := "app.pools".toList
             index? := some "a.b".toList
             property? := some "maxSize".toList } := by decide +kernel
  have hsuffix : KeyParts.split? .pools "app.pools.a.b.maxSize".toList false =
      some { portion := "app.pools".toList
             index? := some "a.b".toList
             property? := some "maxSize".toList } := by decide +kernel
  obtain ⟨-, rfl⟩ := hinner.eq_of_split? hcut
  obtain ⟨hindex, rfl⟩ := houter.eq_of_split? hsuffix
  obtain rfl := Option.some.inj hindex
  exact ⟨hinner, houter⟩

end Resolver

end PropertyKeys

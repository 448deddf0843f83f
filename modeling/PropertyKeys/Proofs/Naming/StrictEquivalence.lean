import PropertyKeys.Proofs.Naming.Canonical

/-!
# Strict binding as an equivalence

Two names are the same for the strict dialect if their canonical forms are, and if they start with
the same letter. Both are matters of equality, so names fall into classes: what is bound to a scalar
can be declared in its place. In the class of a name stands its own canonical form, unless the name
starts with a character that canonical forms leave out.

## Main definitions

* `Strict.Name`: a text that can be a name.
* `Strict.NamesScalar`: whether a raw key is for the scalar of a name.

## Main results

* `Strict.namesScalar_equivalence`: strict binding is an equivalence of names.
* `Strict.canonical_laws_and_equivalence`: the laws of canonical forms and of strict binding.
-/

namespace PropertyKeys.Strict

open Unicode Text

/-- A text that can be a name. -/
abbrev Name :=
  {text : Text // text ≠ []}

/-- The raw key is for the scalar of the name. -/
def NamesScalar (name raw : Name) : Prop :=
  binds (.scalar name.1) raw.1 = true

theorem namesScalar_iff {name raw : Name} :
    NamesScalar name raw ↔
      sameFirst name.1 raw.1 = true ∧ canonical raw.1 = canonical name.1 :=
  binds_of_normal_iff (Key.access_scalar name.1)

/-- Of a scalar only the name counts. -/
theorem binds_of_normal {key : Key} (hnormal : key.access = .normal) (raw : Text) :
    binds key raw = binds (.scalar key.name) raw := by
  rw [Bool.eq_iff_iff, binds_of_normal_iff hnormal, binds_of_normal_iff (Key.access_scalar key.name)]
  rfl

theorem namesScalar_equivalence : Equivalence NamesScalar where
  refl name := namesScalar_iff.mpr ⟨sameFirst_self name.2, rfl⟩
  symm h := by
    obtain ⟨hfirst, hcanonical⟩ := namesScalar_iff.mp h
    exact namesScalar_iff.mpr ⟨sameFirst_symm hfirst, hcanonical.symm⟩
  trans hab hbc := by
    obtain ⟨hfirst, hcanonical⟩ := namesScalar_iff.mp hab
    obtain ⟨hnext, hsame⟩ := namesScalar_iff.mp hbc
    exact namesScalar_iff.mpr ⟨sameFirst_trans hfirst hnext, hsame.trans hcanonical⟩

/-- ASCII letters are kept in small, and ASCII digits and dots as they are. -/
theorem canonical_singleton {c : Char} (hc : c.isAlphanum = true ∨ c = '.') :
    c.toNat < 0x80 ∧ canonical [c] = [c.toLower] := by
  have hascii : c.toNat < 0x80 := by
    rcases hc with halphanumeric | rfl
    · exact ascii_of_isAlphanum halphanumeric
    · decide
  refine ⟨hascii, ?_⟩
  have hkept : isCanonical c.toLower = true :=
    forall_ascii (P := fun c => (c.isAlphanum = true ∨ c = '.') → isCanonical c.toLower = true)
      (by decide +kernel) hascii hc
  rw [canonical_eq_filter, List.flatMap_singleton, lowerChar_of_ascii hascii,
    List.filter_cons_of_pos hkept, List.filter_nil]

/-- A name that starts with a character that canonical forms keep starts like its own. -/
theorem sameFirst_canonical {c : Char} (hc : c.isAlphanum = true ∨ c = '.') (rest : Text) :
    sameFirst (c :: rest) (canonical (c :: rest)) = true := by
  obtain ⟨hascii, hform⟩ := canonical_singleton hc
  have hhead : canonical (c :: rest) = c.toLower :: canonical rest := by
    rw [← List.singleton_append, canonical_append, hform, List.singleton_append]
  rw [hhead, sameFirst_iff]
  exact ⟨List.cons_ne_nil c rest, congrArg some (lowerChar_toLower hascii).symm⟩

/-- **The laws of canonical forms and of strict binding.** Canonical forms are put together like the
texts, they are their own canonical forms, and taking a name as it is makes no difference. Strict
binding between scalars and raw keys is an equivalence of names. A name that starts with an ASCII
letter, an ASCII digit or a dot is bound by its canonical form, whatever the access of the key. -/
theorem canonical_laws_and_equivalence :
    ((∀ a b : Text, canonical (a ++ b) = canonical a ++ canonical b) ∧
      (∀ text : Text, canonical (canonical text) = canonical text) ∧
        ∀ text : Text, canonical text = (text.flatMap lowerChar).filter isCanonical) ∧
      (Equivalence NamesScalar ∧
        ∀ (key : Key) (raw : Text), key.access = .normal →
          binds key raw = binds (.scalar key.name) raw) ∧
      ∀ (key : Key) (c : Char) (rest : Text), c.isAlphanum = true ∨ c = '.' →
        key.name = c :: rest → binds key (canonical key.name) = true := by
  refine ⟨⟨canonical_append, canonical_canonical, canonical_eq_filter⟩,
    ⟨namesScalar_equivalence, fun key raw hnormal => binds_of_normal hnormal raw⟩, ?_⟩
  intro key c rest hc hname
  refine binds_of_canonical_eq ?_ (canonical_canonical key.name)
  rw [hname]
  exact sameFirst_canonical hc rest

/-- A scalar with a default value is bound like one without, and a map is bound by the canonical
form of its name, in which the Kelvin sign has become a letter. -/
theorem canonical_laws_and_equivalence_kelvin :
    let flag : Key := { name := "App.Flag".toList, default? := some "on".toList }
    (flag.access = .normal ∧
        binds flag "app.f-l-a-g".toList = binds (.scalar "App.Flag".toList) "app.f-l-a-g".toList) ∧
      ('A'.isAlphanum = true ∨ 'A' = '.') ∧
        binds (.textMap ('A' :: "pp.\u212aeys".toList)) (canonical ('A' :: "pp.\u212aeys".toList)) =
          true := by
  intro flag
  obtain ⟨-, ⟨-, hscalar⟩, hown⟩ := canonical_laws_and_equivalence
  have hnormal : flag.access = .normal := rfl
  have hstart : 'A'.isAlphanum = true ∨ 'A' = '.' := by decide
  exact ⟨⟨hnormal, hscalar flag _ hnormal⟩, hstart,
    hown (.textMap ('A' :: "pp.\u212aeys".toList)) 'A' _ hstart rfl⟩

/-- A name that starts with a dash is not bound by its canonical form. -/
example : binds (.scalar "-flag".toList) (canonical "-flag".toList) = false := by
  decide

end PropertyKeys.Strict

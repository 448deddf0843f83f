import PropertyKeys.Key.Basic
import PropertyKeys.Proofs.Spelling.JoinedWords

/-!
# Properties that are named by themselves

The properties of a bean are passed through once, and the first one is taken that is named either as
it is or in a separated form. So a property that has separators in its own name can be missed: if the
name with its words joined is declared earlier, that one is taken. Every other property is found by
its own name, and what was found is found again.

## Main definitions

* `Key.AnswersTo`: whether a property is named by a part of a path.
* `Key.IsShadowedIn`: whether another property answers to the name of a property before it.

## Main results

* `Key.property?_eq_some_iff`: which property is found.
* `Key.property?_self`: what is found by the name of a property.
* `Key.exists_property?_ne_self`: a property that is not found by its own name.
-/

namespace PropertyKeys.Key

open Spelling

variable {key : Key} {properties : List Text} {property written : Text}

/-- The written text names the property, either as it is or as a separated form of it. -/
def AnswersTo (written property : Text) : Prop :=
  property = written ∨ property = joinWords false written

/-- The name of the property with its words joined is declared before the property. -/
def IsShadowedIn (properties : List Text) (property : Text) : Prop :=
  joinWords false property ∈ properties.takeWhile (· ≠ property)

instance (properties : List Text) (property : Text) : Decidable (IsShadowedIn properties property) :=
  inferInstanceAs (Decidable (joinWords false property ∈ properties.takeWhile (· ≠ property)))

/-- The first property is found that answers to a written text. -/
theorem property?_eq_some_iff (hproperties : key.properties? = some properties) :
    key.property? written = some property ↔
      written ≠ [] ∧ AnswersTo written property ∧
        ∃ before after, properties = before ++ property :: after ∧
          ∀ other ∈ before, ¬AnswersTo written other := by
  rw [property?]
  by_cases hempty : written = []
  · simp [hempty]
  · rw [if_neg (by simpa using hempty), hproperties, Option.bind_some,
      List.find?_eq_some_iff_append]
    simp [AnswersTo, hempty]

theorem takeWhile_ne_append {before : List Text} (hbefore : property ∉ before) (after : List Text) :
    (before ++ property :: after).takeWhile (· ≠ property) = before := by
  have hne : ∀ other ∈ before, decide (other ≠ property) = true := by
    intro other hother
    rw [decide_eq_true_eq]
    rintro rfl
    exact hbefore hother
  rw [List.takeWhile_append_of_pos hne, List.takeWhile_cons_of_neg (by simp), List.append_nil]

/-- A declared property that is not shadowed is found by its name. -/
theorem property?_of_not_isShadowedIn (hproperties : key.properties? = some properties)
    (hmem : property ∈ properties) (hne : property ≠ [])
    (hshadow : ¬IsShadowedIn properties property) : key.property? property = some property := by
  obtain ⟨before, after, rfl, hbefore⟩ := List.eq_append_cons_of_mem hmem
  rw [IsShadowedIn, takeWhile_ne_append hbefore] at hshadow
  refine (property?_eq_some_iff hproperties).mpr
    ⟨hne, .inl rfl, before, after, rfl, fun other hother => ?_⟩
  rintro (rfl | rfl)
  · exact hbefore hother
  · exact hshadow hother

/-- By the name of a shadowed property the one is found that shadows it. -/
theorem property?_of_isShadowedIn (hproperties : key.properties? = some properties)
    (hmem : property ∈ properties) (hne : property ≠ [])
    (hshadow : IsShadowedIn properties property) :
    key.property? property = some (joinWords false property) ∧
      joinWords false property ≠ property := by
  obtain ⟨before, after, rfl, hbefore⟩ := List.eq_append_cons_of_mem hmem
  rw [IsShadowedIn, takeWhile_ne_append hbefore] at hshadow
  have hother : joinWords false property ≠ property := fun heq => hbefore (heq ▸ hshadow)
  obtain ⟨start, rest, rfl, hstart⟩ := List.eq_append_cons_of_mem hshadow
  refine ⟨(property?_eq_some_iff hproperties).mpr
    ⟨hne, .inr rfl, start, rest ++ property :: after, by simp, fun other hearlier => ?_⟩, hother⟩
  rintro (rfl | rfl)
  · exact hbefore (List.mem_append_left _ hearlier)
  · exact hstart hearlier

/-- What was found is found again by its own name. -/
theorem property?_of_property?_eq_some (hproperties : key.properties? = some properties)
    (h : key.property? written = some property) : key.property? property = some property := by
  obtain ⟨hne, hanswers, before, after, hdeclared, -⟩ := (property?_eq_some_iff hproperties).mp h
  obtain rfl | rfl := hanswers
  · exact h
  · -- joined words are joined already, so no other property answers to them
    have hmem : joinWords false written ∈ properties := hdeclared ▸ List.mem_append_right before
      List.mem_cons_self
    obtain ⟨start, rest, hsplit, hstart⟩ := List.eq_append_cons_of_mem hmem
    refine (property?_eq_some_iff hproperties).mpr
      ⟨joinWords_ne_nil hne, .inl rfl, start, rest, hsplit, fun other hother hanswers => ?_⟩
    rw [AnswersTo, joinWords_joinWords, or_self] at hanswers
    exact hstart (hanswers ▸ hother)

/-- **What is found by the name of a property.** A declared property is found by its own name,
unless the name with its words joined is declared before it; then that property is found. Whatever
is found by some name is found again by its own. -/
theorem property?_self (key : Key) {properties : List Text}
    (hproperties : key.properties? = some properties) :
    (∀ property ∈ properties, property ≠ [] →
        (¬IsShadowedIn properties property → key.property? property = some property) ∧
        (IsShadowedIn properties property →
          key.property? property = some (joinWords false property) ∧
            joinWords false property ≠ property)) ∧
      ∀ written property, key.property? written = some property →
        key.property? property = some property :=
  ⟨fun _ hmem hne => ⟨property?_of_not_isShadowedIn hproperties hmem hne,
      property?_of_isShadowedIn hproperties hmem hne⟩,
    fun _ _ => property?_of_property?_eq_some hproperties⟩

/-- The properties of a bean, two of which differ in the separation of their words only. -/
def poolProperties : List Text :=
  ["maxSize".toList, "max-size".toList, "min-idle".toList]

/-- A key for one value, which is the bean. -/
def pool : Key :=
  { name := "app.pool".toList
    type? := some { name := "a.Pool".toList }
    known := TypeRegistry.known { beans := [⟨"a.Pool".toList, poolProperties⟩] } }

theorem properties?_pool : pool.properties? = some poolProperties := by
  decide +kernel

/-- Of the properties with a dash one is found by its name, and the other is shadowed. -/
theorem property?_self_pool :
    pool.properties? = some poolProperties ∧
      ("min-idle".toList ∈ poolProperties ∧ ¬IsShadowedIn poolProperties "min-idle".toList ∧
        pool.property? "min-idle".toList = some "min-idle".toList) ∧
      ("max-size".toList ∈ poolProperties ∧ IsShadowedIn poolProperties "max-size".toList ∧
        pool.property? "max-size".toList = some "maxSize".toList) ∧
      pool.property? "max_size".toList = some "maxSize".toList ∧
        pool.property? "maxSize".toList = some "maxSize".toList := by
  obtain ⟨hself, hagain⟩ := property?_self pool properties?_pool
  have hidle : "min-idle".toList ∈ poolProperties ∧
      ¬IsShadowedIn poolProperties "min-idle".toList := by decide
  have hsize : "max-size".toList ∈ poolProperties ∧
      IsShadowedIn poolProperties "max-size".toList := by decide
  have hfound : pool.property? "max_size".toList = some "maxSize".toList := by
    rw [property?, properties?_pool]
    decide
  exact ⟨properties?_pool, ⟨hidle.1, hidle.2, (hself _ hidle.1 (by decide)).1 hidle.2⟩,
    ⟨hsize.1, hsize.2, ((hself _ hsize.1 (by decide)).2 hsize.2).1⟩,
    hfound, hagain _ _ hfound⟩

/-- Not every declared property is found by its own name. -/
theorem exists_property?_ne_self :
    ∃ (key : Key) (properties : List Text), key.properties? = some properties ∧
      ∃ property ∈ properties, property ≠ [] ∧ key.property? property ≠ some property := by
  refine ⟨pool, poolProperties, properties?_pool, "max-size".toList, by decide, by decide, ?_⟩
  rw [property?, properties?_pool]
  decide

end PropertyKeys.Key

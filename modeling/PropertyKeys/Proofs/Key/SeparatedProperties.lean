import PropertyKeys.Proofs.Key.Properties
import PropertyKeys.Proofs.Spelling.SeparatedWords

/-!
# Properties that are named in a separated form

The properties of most beans have no separators in their names. A separated form of such a name is
then either the name itself or no name of a property, and its words joined are the name. So no other
property answers to it, wherever that property is declared. The empty text is never looked up, so
all this is about properties that have a name.

## Main results

* `Key.property?_of_unique`: a property that alone answers to a written text is found by it.
* `Key.eq_of_answersTo_separateWords`: which property answers to a separated form.
* `Key.joinWords_and_property?_separateWords`: the way from a name to a separated form and back.
-/

namespace PropertyKeys.Key

open Spelling

variable {key : Key} {properties : List Text} {property other written : Text} {separator : Char}

/-- If just one property answers to a written text, the order of the properties does not matter. -/
theorem property?_of_unique (hproperties : key.properties? = some properties)
    (hmem : property ∈ properties) (hne : written ≠ []) (hanswers : AnswersTo written property)
    (honly : ∀ other ∈ properties, AnswersTo written other → other = property) :
    key.property? written = some property := by
  obtain ⟨before, after, rfl, hbefore⟩ := List.eq_append_cons_of_mem hmem
  refine (property?_eq_some_iff hproperties).mpr
    ⟨hne, hanswers, before, after, rfl, fun other hother h => ?_⟩
  exact hbefore (honly other (List.mem_append_left _ hother) h ▸ hother)

/-- Among names without separators only the name itself answers to a separated form of it. -/
theorem eq_of_answersTo_separateWords (hseparator : isSeparator separator = true)
    (hproperty : IsUnseparated property) (hother : IsUnseparated other)
    (hanswers : AnswersTo (separateWords separator property) other) : other = property := by
  rcases hanswers with hwritten | hjoined
  · rcases separateWords_eq_self_or separator property with heq | hmem
    · exact hwritten.trans heq
    · rw [← hwritten] at hmem
      rw [hother separator hmem] at hseparator
      exact absurd hseparator Bool.false_ne_true
  · rwa [joinWords_separateWords hseparator hproperty] at hjoined

/-- **The separated forms of a name lead back to it.** The words of a separated form of a name without
separators are joined to the name again. So if no property of a bean has a separator in its name,
every property that has a name is found by each of its separated forms. -/
theorem joinWords_and_property?_separateWords :
    (∀ name : Text, IsUnseparated name →
        ∀ separator, isSeparator separator = true →
          joinWords false (separateWords separator name) = name) ∧
      ∀ (key : Key) (properties : List Text), key.properties? = some properties →
        (∀ property ∈ properties, IsUnseparated property) →
          ∀ property ∈ properties, property ≠ [] →
            ∀ separator, isSeparator separator = true →
              key.property? (separateWords separator property) = some property := by
  refine ⟨fun name hname separator hseparator => joinWords_separateWords hseparator hname, ?_⟩
  intro key properties hproperties hplain property hmem hne separator hseparator
  have hproperty := hplain property hmem
  have hback := joinWords_separateWords hseparator hproperty
  have hwritten : separateWords separator property ≠ [] := by
    intro hnil
    rw [hnil] at hback
    exact hne hback.symm
  refine property?_of_unique hproperties hmem hwritten (.inr hback.symm) fun other hother => ?_
  exact eq_of_answersTo_separateWords hseparator hproperty (hplain other hother)

/-- The properties of a bean, with rows of capitals and letters that are not ASCII. -/
def mirrorProperties : List Text :=
  ["max".toList, "maxURLSize".toList, "größeMB".toList]

/-- A key for a list of such beans. -/
def mirrors : Key :=
  { name := "app.mirrors".toList
    type? := some { name := "java.util.List".toList, args := [{ name := "a.Mirror".toList }] }
    known := TypeRegistry.known { beans := [⟨"a.Mirror".toList, mirrorProperties⟩] } }

theorem properties?_mirrors : mirrors.properties? = some mirrorProperties := by
  decide +kernel

/-- Of a row of capitals only the first is separated, and it comes back. -/
theorem joinWords_and_property?_separateWords_mirrors :
    (IsUnseparated "IPv6Hosts".toList ∧ isSeparator '.' = true ∧
        separateWords '.' "IPv6Hosts".toList = "IPv6.hosts".toList ∧
          joinWords false "IPv6.hosts".toList = "IPv6Hosts".toList) ∧
      mirrors.properties? = some mirrorProperties ∧
        (∀ property ∈ mirrorProperties, IsUnseparated property) ∧
          ("maxURLSize".toList ∈ mirrorProperties ∧ isSeparator '-' = true ∧
            separateWords '-' "maxURLSize".toList = "max-uRLSize".toList ∧
              mirrors.property? "max-uRLSize".toList = some "maxURLSize".toList) ∧
            "größeMB".toList ∈ mirrorProperties ∧ isSeparator '_' = true ∧
              separateWords '_' "größeMB".toList = "größe_mB".toList ∧
                mirrors.property? "größe_mB".toList = some "größeMB".toList := by
  obtain ⟨hjoin, hfind⟩ := joinWords_and_property?_separateWords
  have hname : IsUnseparated "IPv6Hosts".toList := by decide
  have hplain : ∀ property ∈ mirrorProperties, IsUnseparated property := by decide
  have hurl : "maxURLSize".toList ∈ mirrorProperties := by decide
  have hsize : "größeMB".toList ∈ mirrorProperties := by decide
  exact ⟨⟨hname, rfl, by decide, hjoin _ hname '.' rfl⟩, properties?_mirrors, hplain,
    ⟨hurl, rfl, by decide, hfind mirrors _ properties?_mirrors hplain _ hurl (by decide) '-' rfl⟩,
    hsize, rfl, by decide, hfind mirrors _ properties?_mirrors hplain _ hsize (by decide) '_' rfl⟩

end PropertyKeys.Key

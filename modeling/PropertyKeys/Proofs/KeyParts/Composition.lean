import PropertyKeys.Proofs.KeyParts.Shape

/-!
# Composed raw keys

A raw key is composed of the name of a key, an index in brackets or after a dot, and for an index in
brackets anything that goes on after it. Cutting such a raw key gives back the name and the index,
with the bean property that the rest goes on to. These lemmas say which property that is, without
regard to how it is searched for.

## Main definitions

* `Key.HasPlainName`: a name that can be told apart from what follows it.
* `ReachesAfterIndex`: the property that a text after an index in brackets goes on to.
* `SelectsAfterDot`: the map key and the property in a text after a dot.

## Main results

* `shape?_bracketed` / `shape?_dotted`: the parts of a composed raw key.
-/

namespace PropertyKeys

/-- The name of a key is not empty, has no opening bracket, and does not end with a dot. -/
structure Key.HasPlainName (key : Key) : Prop where
  ne_nil : key.name ≠ []
  open_notMem : '[' ∉ key.name
  getLast?_ne : key.name.getLast? ≠ some '.'

/-- A key for a map from names to pools, which are beans with one property. -/
def Key.pools : Key :=
  { name := "app.pools".toList
    type? := some
      { name := "java.util.Map".toList, args := [.text, { name := "example.Pool".toList }] }
    known := TypeRegistry.known
      { beans := [{ name := "example.Pool".toList, properties := ["maxSize".toList] }] } }

@[simp]
theorem Key.access_pools : Key.pools.access = .map := rfl

theorem Key.hasPlainName_pools : Key.pools.HasPlainName :=
  ⟨by decide, by decide, by decide⟩

namespace KeyParts

open Text KeyPath

/-- What follows an index in brackets goes on to a property after a dot. The text up to the next dot
or opening bracket names it. -/
inductive ReachesAfterIndex (key : Key) : Text → Option Text → Prop
  /-- No dot follows. -/
  | stop {rest : Text} (hrest : rest.head? ≠ some '.') : ReachesAfterIndex key rest none
  /-- A dot and a segment follow. -/
  | segment {segment rest : Text} (hdot : '.' ∉ segment) (hopen : '[' ∉ segment)
    (hrest : rest = [] ∨ rest.head? = some '.' ∨ rest.head? = some '[') :
    ReachesAfterIndex key ('.' :: (segment ++ rest)) (key.property? segment)

/-- What follows the name of a map and a dot is the map key, but its last segment is a property
instead if it names one. -/
inductive SelectsAfterDot (key : Key) : Text → Text → Option Text → Prop
  /-- The last segment names a property. -/
  | property {head last property : Text} (hlast : '.' ∉ last)
    (hproperty : key.property? last = some property) :
    SelectsAfterDot key (head ++ '.' :: last) head (some property)
  /-- There is one segment only, or the last one names no property. -/
  | whole {suffix : Text}
    (hlast : ∀ head last, suffix = head ++ '.' :: last → '.' ∉ last → key.property? last = none) :
    SelectsAfterDot key suffix suffix none

/-- The property after an index is named by the text from the dot on to the next mark. -/
theorem reachesAfterIndex_propertyAfter? (key : Key) (rest : Text) :
    ReachesAfterIndex key rest (propertyAfter? key rest) := by
  rw [propertyAfter?.eq_def]
  split
  · next more =>
    let inSegment : Char → Bool := fun c => c != '.' && c != '['
    have hmark : ∀ c, inSegment c = false → c ∉ more.takeWhile inSegment := by
      intro c hc hmem
      exact absurd (List.mem_takeWhile_imp hmem) (by simp [hc])
    have hrest : more.dropWhile inSegment = [] ∨ (more.dropWhile inSegment).head? = some '.' ∨
        (more.dropWhile inSegment).head? = some '[' := by
      cases hcut : more.dropWhile inSegment with
      | nil => exact Or.inl rfl
      | cons c cs =>
        have hhead := List.head?_dropWhile_not inSegment more
        have hc : ¬(c ≠ '.' ∧ c ≠ '[') := by simpa [hcut, inSegment] using hhead
        rw [List.head?_cons, Option.some.injEq, Option.some.injEq]
        tauto
    have hcut : more.takeWhile inSegment ++ more.dropWhile inSegment = more :=
      List.takeWhile_append_dropWhile
    conv => arg 2; rw [← hcut]
    exact .segment (hmark '.' rfl) (hmark '[' rfl) hrest
  · next hstop =>
    refine .stop fun hdot => ?_
    obtain ⟨more, rfl⟩ := List.head?_eq_some_iff.mp hdot
    exact hstop more rfl

theorem ofDotted_append {key : Key} {last property : Text} (hlast : '.' ∉ last)
    (hproperty : key.property? last = some property) (portion head : Text) :
    ofDotted key portion (head ++ '.' :: last) =
      { portion, index? := some head, property? := some property } := by
  simp [ofDotted, splitLast?_append hlast, hproperty]

theorem ofDotted_of_forall_none {key : Key} {suffix : Text} (hsuffix : suffix ≠ [])
    (hlast : ∀ head last, suffix = head ++ '.' :: last → '.' ∉ last → key.property? last = none)
    (portion : Text) : ofDotted key portion suffix = { portion, index? := some suffix } := by
  cases hcut : splitLast? '.' suffix with
  | none => simp [ofDotted, hsuffix, hcut]
  | some cut =>
    obtain ⟨head, last⟩ := cut
    obtain ⟨heq, hmark⟩ := splitLast?_spec hcut
    simp [ofDotted, hsuffix, hcut, hlast head last heq hmark]

/-- Every map key after a dot, with or without a property, is read in one of the two ways. -/
theorem exists_selectsAfterDot {suffix : Text} (hsuffix : suffix ≠ []) (key : Key)
    (portion : Text) :
    ∃ index property?, SelectsAfterDot key suffix index property? ∧
      ofDotted key portion suffix = { portion, index? := some index, property? } := by
  by_cases hnamed : ∃ head last property, suffix = head ++ '.' :: last ∧ '.' ∉ last ∧
      key.property? last = some property
  · obtain ⟨head, last, property, rfl, hlast, hproperty⟩ := hnamed
    exact ⟨head, some property, .property hlast hproperty,
      ofDotted_append hlast hproperty portion head⟩
  · have hnone : ∀ head last, suffix = head ++ '.' :: last → '.' ∉ last →
        key.property? last = none := by
      intro head last heq hlast
      by_contra hsome
      obtain ⟨property, hproperty⟩ := Option.ne_none_iff_exists'.mp hsome
      exact hnamed ⟨head, last, property, heq, hlast, hproperty⟩
    exact ⟨suffix, none, .whole hnone, ofDotted_of_forall_none hsuffix hnone portion⟩

section

variable {key : Key}

/-- What precedes the bracket of an index is the name, and for a list a dot may end it. -/
theorem dropFinal_name_append (hname : key.HasPlainName) {dot : Text}
    (hdot : dot = [] ∨ dot = ['.'] ∧ key.access = .indexed) :
    '[' ∉ key.name ++ dot ∧ dropFinal '.' (key.name ++ dot) = key.name := by
  rcases hdot with rfl | ⟨rfl, -⟩
  · rw [List.append_nil]
    exact ⟨hname.open_notMem, dropFinal_of_getLast?_ne hname.getLast?_ne⟩
  · exact ⟨by simp [hname.open_notMem], dropFinal_append_singleton '.' key.name⟩

/-- The name and an index in brackets are cut apart. -/
theorem shape?_bracketed (haccess : key.access ≠ .normal) (hname : key.HasPlainName) {dot : Text}
    (hdot : dot = [] ∨ dot = ['.'] ∧ key.access = .indexed) {index : Text} (hindex : ']' ∉ index)
    (hne : index ≠ []) (rest : Text) :
    shape? key (key.name ++ dot ++ '[' :: (index ++ ']' :: rest)) = some
      { portion := key.name, index? := some index, property? := propertyAfter? key rest } := by
  obtain ⟨hopen, hbase⟩ := dropFinal_name_append hname hdot
  rcases Access.isMap_or key.access with hmap | hnormal | hindexed
  · have hnil : dot = [] := by
      rcases hdot with rfl | ⟨-, hindexed⟩
      · rfl
      · exact absurd (hindexed ▸ hmap) (by decide)
    rw [shape?_of_isMap hmap, splitMap?, segmentCount_of_notMem hname.open_notMem, hnil,
      List.append_nil, boundary?_append_bracket hname.open_notMem]
    exact ofBracket?_append hindex hne key key.name rest
  · exact absurd hnormal haccess
  · rw [shape?_of_indexed hindexed, splitIndexed?_append hopen, hbase]
    exact ofBracket?_append hindex hne key key.name rest

/-- The name of a map and what follows a dot are cut apart. -/
theorem shape?_dotted (hmap : key.access.isMap = true) (hname : key.HasPlainName) (suffix : Text) :
    shape? key (key.name ++ '.' :: suffix) = some (ofDotted key key.name suffix) := by
  rw [shape?_of_isMap hmap, splitMap?, segmentCount_of_notMem hname.open_notMem,
    boundary?_append_dot hname.open_notMem]
  rfl

end

end KeyParts

end PropertyKeys

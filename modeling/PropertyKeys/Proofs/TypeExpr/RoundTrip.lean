import PropertyKeys.Proofs.TypeExpr.Reading

/-!
# Types and their texts

The text of a type is read back as the type, provided that its names are dotted names, here and in
all arguments. Whatever is read has such names, so reading a text, writing the type and reading
again gives the type once more.

## Main definitions

* `TypeExpr.IsDotted`: the names whose parts are separated by dots.
* `TypeExpr.HasDottedNames`: the types with such names at every level.

## Main results

* `TypeExpr.writes_render`: the text of a type writes the type.
* `TypeExpr.Writes.hasDottedNames`: a type that is written has dotted names.
* `TypeExpr.parse_render`: both together.
-/

namespace PropertyKeys.TypeExpr

open Text

/-! ## Dotted names -/

/-- A name of one part or more, with dots between them. -/
def IsDotted (name : Text) : Prop :=
  ∀ part ∈ name.splitOn '.', IsPart part

theorem IsPart.dot_notMem {part : Text} (h : IsPart part) : '.' ∉ part :=
  fun hmem => (isNameChar_of_isPart h '.' hmem).2.1 rfl

/-- The name that a text writes is dotted, whichever marks the text has between the parts. -/
theorem WritesName.isDotted {written name : Text} (h : WritesName written name) :
    IsDotted name := by
  induction h with
  | part h =>
    rw [IsDotted, List.splitOn_eq_singleton h.dot_notMem]
    simpa using h
  | joined h _ _ ih =>
    rw [IsDotted, List.splitOn_append_cons_self_of_not_mem h.dot_notMem]
    exact List.forall_mem_cons.mpr ⟨h, ih⟩

theorem writesName_intercalate {parts : List Text} (hne : parts ≠ [])
    (h : ∀ part ∈ parts, IsPart part) :
    WritesName (['.'].intercalate parts) (['.'].intercalate parts) := by
  induction parts with
  | nil => exact absurd rfl hne
  | cons part parts ih =>
    obtain ⟨hpart, hparts⟩ := List.forall_mem_cons.mp h
    by_cases hlast : parts = []
    · subst hlast
      rw [List.intercalate_singleton]
      exact .part hpart
    · rw [List.intercalate_cons_of_ne_nil hlast, List.append_assoc]
      exact .joined hpart (.inl rfl) (ih hlast hparts)

/-- A dotted name writes itself. -/
theorem IsDotted.writesName {name : Text} (h : IsDotted name) : WritesName name name := by
  have hwrites := writesName_intercalate (List.splitOn_ne_nil '.' name) h
  rwa [List.intercalate_splitOn] at hwrites

/-- A type whose name is dotted, as are the names in its arguments at every level. -/
inductive HasDottedNames : TypeExpr → Prop
  | intro {name : Text} {args : List TypeExpr} {dims : Nat} (hname : IsDotted name)
      (hargs : ∀ arg ∈ args, HasDottedNames arg) : HasDottedNames ⟨name, args, dims⟩

/-! ## Written types are read back -/

theorem writesDims_brackets (dims : Nat) : WritesDims (brackets dims) dims := by
  induction dims with
  | zero => exact .none
  | succ dims ih =>
    have hnone : isBlankText [] = true := rfl
    exact .pair hnone hnone ih

/-- The arguments stand in front of the closing bracket. -/
theorem exists_writes_renderMoreArgs {arg : TypeExpr} {args : List TypeExpr}
    (h : ∀ other ∈ arg :: args, Writes other.render (.type other)) :
    ∃ list, arg.render ++ renderMoreArgs args = list ++ ['>'] ∧
      Writes list (.args (arg :: args)) := by
  induction args generalizing arg with
  | nil => exact ⟨arg.render, rfl, .lastArg (h arg List.mem_cons_self)⟩
  | cons next args ih =>
    obtain ⟨harg, hmore⟩ := List.forall_mem_cons.mp h
    obtain ⟨list, hlist, hwrites⟩ := ih hmore
    refine ⟨arg.render ++ ([] ++ ',' :: list), ?_, .arg harg rfl hwrites⟩
    rw [renderMoreArgs, hlist]
    simp

/-- The text of a type with dotted names writes the type. -/
theorem writes_render {type : TypeExpr} (h : HasDottedNames type) :
    Writes type.render (.type type) := by
  have hnone : isBlankText [] = true := rfl
  induction h with
  | @intro name args dims hname _ ih =>
    cases args with
    | nil =>
      have hwrites := Writes.plain hnone hname.writesName (writesDims_brackets dims)
      simpa [render, renderArgs] using hwrites
    | cons arg args =>
      obtain ⟨list, hlist, hargs⟩ := exists_writes_renderMoreArgs ih
      have hwrites := Writes.generic hnone hname.writesName hnone hargs hnone
        (writesDims_brackets dims)
      rw [render, renderArgs, hlist]
      simpa using hwrites

/-! ## What is read has dotted names -/

/-- The names in what a text can write are dotted. -/
def Phrase.HasDottedNames : Phrase → Prop
  | .type denoted => denoted.HasDottedNames
  | .args denoted => ∀ arg ∈ denoted, arg.HasDottedNames

theorem hasDottedNames_object : HasDottedNames object := by
  have hwritten : "java.lang.Object".toList.all isNameChar = true := rfl
  exact .intro (writesName_of_parts (List.all_eq_true.mp hwritten) (by decide +kernel)).isDotted
    (by simp)

/-- Whatever a text writes has dotted names, since a wildcard denotes its bound or the most general
type. -/
theorem Writes.hasDottedNames {text : Text} {phrase : Phrase} (h : Writes text phrase) :
    phrase.HasDottedNames := by
  induction h with
  | wildcard => exact hasDottedNames_object
  | upperBound _ _ _ _ _ ih => exact ih
  | lowerBound => exact hasDottedNames_object
  | plain _ hname _ => exact HasDottedNames.intro hname.isDotted (by simp)
  | generic _ hname _ _ _ _ ih => exact HasDottedNames.intro hname.isDotted ih
  | lastArg _ ih =>
    intro arg harg
    rw [List.mem_singleton.mp harg]
    exact ih
  | arg _ _ _ ih ihmore =>
    intro arg harg
    rcases List.mem_cons.mp harg with rfl | hmem
    · exact ih
    · exact ihmore arg hmem

/-- **Writing and reading types are inverse.** A type is read back from its text exactly if its
names are dotted. Every type that is read has dotted names, so its text is read as the text that it
came from. -/
theorem parse_render (type : TypeExpr) :
    (parse type.render = .ok type ↔ type.HasDottedNames) ∧
      ∀ text, parse text = .ok type →
        type.HasDottedNames ∧ parse type.render = parse text := by
  have hread : ∀ text, parse text = .ok type → type.HasDottedNames := by
    intro text h
    obtain ⟨_, _, -, hwrites, -⟩ := isTextOf_of_parse h
    exact hwrites.hasDottedNames
  have hback : type.HasDottedNames → parse type.render = .ok type := fun h =>
    parse_of_isTextOf ⟨type.render, [], (List.append_nil _).symm, writes_render h, rfl⟩
  refine ⟨⟨hread _, hback⟩, fun text h => ?_⟩
  rw [h]
  exact ⟨hread text h, hback (hread text h)⟩

/-- A map to lists, written with blanks, wildcards and the mark of inner types. -/
def boundedMap : Text :=
  "\tMap< ? extends a.B$C [ ] ,List<? super x.Y >>[]".toList

/-- The type that the map has. -/
def boundedMapType : TypeExpr :=
  ⟨"Map".toList, [⟨"a.B.C".toList, [], 1⟩, ⟨"List".toList, [object], 0⟩], 1⟩

theorem parse_render_boundedMap :
    parse boundedMap = .ok boundedMapType ∧
      boundedMapType.render = "Map<a.B.C[],List<java.lang.Object>>[]".toList ∧
      boundedMapType.HasDottedNames ∧ parse boundedMapType.render = parse boundedMap := by
  have hread : parse boundedMap = .ok boundedMapType := rfl
  exact ⟨hread, rfl, (parse_render boundedMapType).2 boundedMap hread⟩

end PropertyKeys.TypeExpr

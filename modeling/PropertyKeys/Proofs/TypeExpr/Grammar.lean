import PropertyKeys.Proofs.Text.Cuts
import PropertyKeys.TypeExpr.Parser

/-!
# The grammar of type expressions

Which texts write a type, and which type each of them denotes. A type is a wildcard, perhaps with a
bound, or a name, perhaps with arguments, and array brackets may follow the name. Blanks may stand
in front of each of these parts. A wildcard denotes its upper bound, and the most general type if it
has none.

## Main definitions

* `TypeExpr.WritesName`: which name a text writes.
* `TypeExpr.WritesDims`: how many array brackets a text writes.
* `TypeExpr.Writes`: which type, or which list of arguments, a text writes.

## Main results

* `TypeExpr.readName_eq_ok_iff`: names are read as far as they go.
* `TypeExpr.exists_of_readDims` / `TypeExpr.readDims_append`: array brackets are read as far as they
  go.
-/

namespace PropertyKeys.TypeExpr

open Unicode Text

/-! ## The grammar -/

/-- A part of a name: alphanumeric characters and underscores, at least one of them, and the first
one is no ASCII digit. -/
def IsPart (part : Text) : Prop :=
  part ≠ [] ∧ (∀ c ∈ part, isAlphanumeric c = true ∨ c = '_') ∧
    ∀ c, part.head? = some c → c.isDigit = false

/-- A text writes a name: its parts are separated by single dots or dollar signs, and a dollar sign
stands for a dot. -/
inductive WritesName : Text → Text → Prop
  | part {part : Text} (h : IsPart part) : WritesName part part
  | joined {part written name : Text} {mark : Char} (h : IsPart part)
      (hmark : mark = '.' ∨ mark = '$') (hmore : WritesName written name) :
    WritesName (part ++ mark :: written) (part ++ '.' :: name)

/-- A text writes so many array brackets, each with blanks in front of both marks. -/
inductive WritesDims : Text → Nat → Prop
  | none : WritesDims [] 0
  | pair {front inner rest : Text} {dims : Nat} (hfront : isBlankText front = true)
      (hinner : isBlankText inner = true) (hrest : WritesDims rest dims) :
    WritesDims (front ++ '[' :: (inner ++ ']' :: rest)) (dims + 1)

/-- What a text can write. -/
inductive Phrase where
  | type (type : TypeExpr)
  /-- Type arguments, at least one, without the marks around them. -/
  | args (args : List TypeExpr)

/-- A text writes a type, or type arguments. -/
inductive Writes : Text → Phrase → Prop
  | wildcard {front back : Text} (hfront : isBlankText front = true)
      (hback : isBlankText back = true) : Writes (front ++ '?' :: back) (.type object)
  | upperBound {front inner gap written : Text} {bound : TypeExpr}
      (hfront : isBlankText front = true) (hinner : isBlankText inner = true)
      (hgap : isBlankText gap = true) (hne : gap ≠ []) (hbound : Writes written (.type bound)) :
    Writes (front ++ '?' :: (inner ++ ("extends".toList ++ (gap ++ written)))) (.type bound)
  | lowerBound {front inner gap written : Text} {bound : TypeExpr}
      (hfront : isBlankText front = true) (hinner : isBlankText inner = true)
      (hgap : isBlankText gap = true) (hne : gap ≠ []) (hbound : Writes written (.type bound)) :
    Writes (front ++ '?' :: (inner ++ ("super".toList ++ (gap ++ written)))) (.type object)
  | plain {front written name brackets : Text} {dims : Nat} (hfront : isBlankText front = true)
      (hname : WritesName written name) (hdims : WritesDims brackets dims) :
    Writes (front ++ (written ++ brackets)) (.type ⟨name, [], dims⟩)
  | generic {front written name inner list back brackets : Text} {args : List TypeExpr} {dims : Nat}
      (hfront : isBlankText front = true) (hname : WritesName written name)
      (hinner : isBlankText inner = true) (hargs : Writes list (.args args))
      (hback : isBlankText back = true) (hdims : WritesDims brackets dims) :
    Writes (front ++ (written ++ (inner ++ '<' :: (list ++ (back ++ '>' :: brackets)))))
      (.type ⟨name, args, dims⟩)
  | lastArg {written : Text} {arg : TypeExpr} (harg : Writes written (.type arg)) :
    Writes written (.args [arg])
  | arg {written inner list : Text} {arg : TypeExpr} {args : List TypeExpr}
      (harg : Writes written (.type arg)) (hinner : isBlankText inner = true)
      (hmore : Writes list (.args args)) :
    Writes (written ++ (inner ++ ',' :: list)) (.args (arg :: args))

/-! ## Characters of names -/

theorem isAlphanumeric_of_isBlank {c : Char} (h : isBlank c = true) : isAlphanumeric c = false := by
  obtain ⟨range, hmem, hfirst, hlast⟩ := CodeRange.exists_of_covers h
  have hall : (blankRanges.all fun range =>
      (List.range (range.last + 1 - range.first)).all fun offset =>
        !CodeRange.covers alphanumericRanges (range.first + offset)) = true := by
    decide +kernel
  have hcode := List.all_eq_true.mp (List.all_eq_true.mp hall range hmem) (c.toNat - range.first)
    (List.mem_range.mpr (by omega))
  rwa [Nat.add_sub_cancel' hfirst, Bool.not_eq_true'] at hcode

theorem isNameChar_of_isBlank {c : Char} (h : isBlank c = true) : isNameChar c = false := by
  have hdot : c ≠ '.' := by rintro rfl; exact absurd h (by decide)
  have hdollar : c ≠ '$' := by rintro rfl; exact absurd h (by decide)
  have hlow : c ≠ '_' := by rintro rfl; exact absurd h (by decide)
  simp [isNameChar, hdot, hdollar, hlow, isAlphanumeric_of_isBlank h]

theorem isBlank_of_isNameChar {c : Char} (h : isNameChar c = true) : isBlank c = false := by
  cases hblank : isBlank c with
  | false => rfl
  | true => exact absurd ((isNameChar_of_isBlank hblank).symm.trans h) Bool.false_ne_true

/-- The marks of types stand in no name. -/
theorem isNameChar_mark {c : Char} (h : c ∈ "?<>[],".toList) : isNameChar c = false := by
  have hall : ("?<>[],".toList.all fun mark => !isNameChar mark) = true := by decide +kernel
  exact Bool.not_eq_true' _ ▸ List.all_eq_true.mp hall c h

theorem isNameChar_of_isPart {part : Text} (h : IsPart part) :
    ∀ c ∈ part, isNameChar c = true ∧ c ≠ '.' ∧ c ≠ '$' := by
  intro c hc
  have hdot : ¬(isAlphanumeric '.' = true ∨ '.' = '_') := by decide +kernel
  have hdollar : ¬(isAlphanumeric '$' = true ∨ '$' = '_') := by decide +kernel
  have hchar := h.2.1 c hc
  refine ⟨?_, ?_, ?_⟩
  · rcases hchar with halphanumeric | rfl
    · simp [isNameChar, halphanumeric]
    · simp [isNameChar]
  · rintro rfl
    exact hdot hchar
  · rintro rfl
    exact hdollar hchar

theorem isNamePart_of_isPart {part : Text} (h : IsPart part) : isNamePart part = true := by
  obtain ⟨c, cs, rfl⟩ := List.exists_cons_of_ne_nil h.1
  simp [isNamePart, h.2.2 c rfl]

/-- A text of characters of names without a mark is a part if it passes the test for parts. -/
theorem isPart_of_isNamePart {part : Text} (h : isNamePart part = true)
    (hchars : ∀ c ∈ part, isNameChar c = true) (hmarks : ∀ c ∈ part, c ≠ '.' ∧ c ≠ '$') :
    IsPart part := by
  cases part with
  | nil => simp [isNamePart] at h
  | cons first rest =>
    refine ⟨List.cons_ne_nil _ _, fun c hc => ?_, fun c hc => ?_⟩
    · have hchar := hchars c hc
      simp only [isNameChar, Bool.or_eq_true, decide_eq_true_eq, hmarks c hc, false_or] at hchar
      exact hchar.symm
    · obtain rfl : first = c := by simpa using hc
      simpa [isNamePart] using h

/-- Behind a part and its mark the parts of the rest follow. -/
theorem splitBy_replace_append {part : Text} {mark : Char} (hpart : ∀ c ∈ part, c ≠ '.' ∧ c ≠ '$')
    (hmark : mark = '.' ∨ mark = '$') (rest : Text) :
    replace '$' '.' (part ++ mark :: rest) = part ++ '.' :: replace '$' '.' rest ∧
      splitBy (· = '.') (part ++ '.' :: replace '$' '.' rest) =
        part :: splitBy (· = '.') (replace '$' '.' rest) := by
  have hdot : (if mark = '$' then '.' else mark) = '.' := by
    rcases hmark with rfl | rfl <;> rfl
  constructor
  · have hkept := replace_of_forall_ne (fun c hc => (hpart c hc).2) '.'
    rw [replace] at hkept
    rw [replace, List.map_append, List.map_cons, hkept, hdot]
    rfl
  · exact splitBy_append_cons (fun c hc => by simp [(hpart c hc).1]) (by simp) _

/-! ## Reading names -/

namespace WritesName

variable {written name : Text}

theorem isNameChar (h : WritesName written name) : ∀ c ∈ written, isNameChar c = true := by
  induction h with
  | part h => exact fun c hc => (isNameChar_of_isPart h c hc).1
  | @joined part written name mark h hmark _ ih =>
    intro c hc
    rcases List.mem_append.mp hc with hc | hc
    · exact (isNameChar_of_isPart h c hc).1
    · rcases List.mem_cons.mp hc with rfl | hc
      · rcases hmark with rfl | rfl <;> rfl
      · exact ih c hc

theorem ne_nil (h : WritesName written name) : written ≠ [] := by
  cases h with
  | part h => exact h.1
  | joined h _ _ => simp

/-- The name has the parts that were written, and they pass the test for parts. -/
theorem replace_eq (h : WritesName written name) :
    replace '$' '.' written = name ∧ (splitBy (· = '.') name).all isNamePart = true := by
  induction h with
  | part h =>
    have hchars := isNameChar_of_isPart h
    refine ⟨replace_of_forall_ne (fun c hc => (hchars c hc).2.2) '.', ?_⟩
    rw [splitBy_of_forall_not fun c hc => by simp [(hchars c hc).2.1]]
    simp [isNamePart_of_isPart h]
  | @joined part written name mark h hmark _ ih =>
    have hchars : ∀ c ∈ part, c ≠ '.' ∧ c ≠ '$' := fun c hc => (isNameChar_of_isPart h c hc).2
    obtain ⟨hreplace, hsplit⟩ := splitBy_replace_append hchars hmark written
    rw [ih.1] at hreplace hsplit
    refine ⟨hreplace, ?_⟩
    rw [hsplit, List.all_cons, isNamePart_of_isPart h, ih.2]
    rfl

end WritesName

/-- A text of characters of names writes the name that is made of it, if its parts pass the test. -/
theorem writesName_of_parts {written : Text} (hchars : ∀ c ∈ written, isNameChar c = true)
    (hparts : (splitBy (· = '.') (replace '$' '.' written)).all isNamePart = true) :
    WritesName written (replace '$' '.' written) := by
  -- the part in front of the first mark is taken off
  have hsplit := List.takeWhile_append_dropWhile (p := fun c => c != '.' && c != '$') (l := written)
  have hfront : ∀ c ∈ written.takeWhile fun c => c != '.' && c != '$', c ≠ '.' ∧ c ≠ '$' := by
    intro c hc
    simpa using List.mem_takeWhile_imp hc
  have hfrontChars : ∀ c ∈ written.takeWhile fun c => c != '.' && c != '$',
      isNameChar c = true := fun c hc => hchars c (List.takeWhile_subset _ hc)
  cases hrest : written.dropWhile fun c => c != '.' && c != '$' with
  | nil =>
    rw [hrest, List.append_nil] at hsplit
    rw [hsplit] at hfront
    have hsame := replace_of_forall_ne (fun c hc => (hfront c hc).2) '.'
    rw [hsame, splitBy_of_forall_not fun c hc => by simp [(hfront c hc).1]] at hparts
    rw [hsame]
    exact .part (isPart_of_isNamePart (by simpa using hparts) hchars hfront)
  | cons mark rest =>
    have hmark : mark = '.' ∨ mark = '$' := by
      have hhead := List.head?_dropWhile_not (fun c => c != '.' && c != '$') written
      rw [hrest] at hhead
      simpa [Decidable.or_iff_not_imp_left] using hhead
    rw [hrest] at hsplit
    obtain ⟨hreplace, hpieces⟩ := splitBy_replace_append hfront hmark rest
    rw [← hsplit, hreplace, hpieces, List.all_cons, Bool.and_eq_true] at hparts
    have hshorter : rest.length < written.length := by
      have hlength := congrArg List.length hsplit
      simp only [List.length_append, List.length_cons] at hlength
      omega
    have hmore := writesName_of_parts
      (fun c hc => hchars c (hsplit ▸ List.mem_append_right _ (List.mem_cons_of_mem _ hc))) hparts.2
    have hjoined := WritesName.joined (isPart_of_isNamePart hparts.1 hfrontChars hfront) hmark hmore
    rwa [← hreplace, hsplit] at hjoined
termination_by written.length

/-- A name is read as far as its characters go. -/
theorem readName_eq_ok_iff {text name rest : Text} :
    readName text = .ok (name, rest) ↔
      ∃ written, text = written ++ rest ∧ WritesName written name ∧
        ∀ c, rest.head? = some c → isNameChar c = false := by
  constructor
  · intro h
    simp only [readName] at h
    split at h
    case isTrue => cases h
    case isFalse =>
      split at h
      case isFalse => cases h
      case isTrue hparts =>
        obtain ⟨rfl, rfl⟩ := Prod.mk.inj (Except.ok.inj h)
        refine ⟨text.takeWhile isNameChar, (List.takeWhile_append_dropWhile ..).symm,
          writesName_of_parts (fun c hc => List.mem_takeWhile_imp hc) hparts, fun c hc => ?_⟩
        have hhead := List.head?_dropWhile_not isNameChar text
        rw [hc] at hhead
        simpa using hhead
  · rintro ⟨written, rfl, hname, hrest⟩
    have hstop : rest.takeWhile isNameChar = [] ∧ rest.dropWhile isNameChar = rest := by
      cases rest with
      | nil => exact ⟨rfl, rfl⟩
      | cons c cs => simp [hrest c rfl]
    obtain ⟨hreplace, hparts⟩ := hname.replace_eq
    simp only [readName]
    rw [List.takeWhile_append_of_pos hname.isNameChar,
      List.dropWhile_append_of_pos hname.isNameChar, hstop.1, hstop.2, List.append_nil, hreplace,
      if_pos hparts, if_neg (by simp [hname.ne_nil])]

/-! ## Reading array brackets -/

theorem readDims_skipBlank (fuel : Nat) (text : Text) :
    readDims fuel (skipBlank text) = readDims fuel text := by
  cases fuel with
  | zero => rw [readDims, readDims, skipBlank_skipBlank]
  | succ fuel => rw [readDims, readDims, skipBlank_skipBlank]

theorem exists_of_readDims {fuel : Nat} {text rest : Text} {dims : Nat}
    (h : readDims fuel text = .ok (dims, rest)) :
    ∃ brackets back, text = brackets ++ (back ++ rest) ∧ WritesDims brackets dims ∧
      isBlankText back = true := by
  induction fuel generalizing text dims with
  | zero =>
    obtain ⟨rfl, rfl⟩ := Prod.mk.inj (Except.ok.inj h)
    obtain ⟨back, hback, heq⟩ := exists_append_skipBlank text
    exact ⟨[], back, heq, .none, hback⟩
  | succ fuel ih =>
    obtain ⟨front, hfront, heq⟩ := exists_append_skipBlank text
    rw [readDims] at h
    split at h
    · next inside hopen =>
      obtain ⟨inner, hinner, hinside⟩ := exists_append_skipBlank inside
      split at h
      · next more hclose =>
        obtain ⟨count, after, hmore, hcount⟩ := Reading.andThen_eq_ok_iff.mp h
        obtain ⟨rfl, rfl⟩ := Prod.mk.inj (Except.ok.inj hcount)
        obtain ⟨brackets, back, hsplit, hdims, hback⟩ := ih hmore
        refine ⟨front ++ '[' :: (inner ++ ']' :: brackets), back, ?_, .pair hfront hinner hdims,
          hback⟩
        rw [heq, hopen, hinside, hclose, hsplit]
        simp
      · cases h
    · obtain ⟨rfl, rfl⟩ := Prod.mk.inj (Except.ok.inj h)
      exact ⟨[], front, heq, .none, hfront⟩

/-- Array brackets are read, and the blanks behind them are skipped, unless one more bracket
follows. -/
theorem readDims_append {brackets : Text} {dims : Nat} (h : WritesDims brackets dims) {fuel : Nat}
    (hfuel : dims ≤ fuel) {rest : Text} (hrest : (skipBlank rest).head? ≠ some '[') :
    readDims fuel (brackets ++ rest) = .ok (dims, skipBlank rest) := by
  induction h generalizing fuel with
  | none =>
    cases fuel with
    | zero => rfl
    | succ fuel =>
      rw [List.nil_append, readDims]
      split
      · next hopen => exact absurd (by rw [hopen]; rfl) hrest
      · rfl
  | @pair front inner brackets dims hfront hinner _ ih =>
    obtain ⟨fuel, rfl⟩ := Nat.exists_eq_succ_of_ne_zero (Nat.ne_zero_of_lt hfuel)
    have hmore := ih (Nat.le_of_succ_le_succ hfuel)
    simp only [List.append_assoc, List.cons_append]
    rw [readDims, skipBlank_append hfront, skipBlank_cons (by decide)]
    simp only
    rw [skipBlank_append hinner, skipBlank_cons (by decide)]
    simp only
    rw [hmore]
    rfl

theorem WritesDims.le_length {brackets : Text} {dims : Nat} (h : WritesDims brackets dims) :
    dims ≤ brackets.length := by
  induction h with
  | none => exact Nat.zero_le _
  | pair _ _ _ ih =>
    simp only [List.length_append, List.length_cons]
    omega

/-- Without the blanks at their front the brackets are still as long as they are many, and they
start with a bracket if there are any. -/
theorem WritesDims.skipBlank_append {brackets : Text} {dims : Nat} (h : WritesDims brackets dims)
    (rest : Text) :
    dims ≤ (skipBlank (brackets ++ rest)).length ∧
      ((skipBlank (brackets ++ rest)).head? = some '[' ∨
        skipBlank (brackets ++ rest) = skipBlank rest) := by
  cases h with
  | none => exact ⟨Nat.zero_le _, .inr rfl⟩
  | @pair front inner more dims hfront _ hmore =>
    simp only [List.append_assoc, List.cons_append]
    rw [Text.skipBlank_append hfront, skipBlank_cons (by decide)]
    have hlength := hmore.le_length
    refine ⟨?_, .inl rfl⟩
    simp only [List.length_cons, List.length_append]
    omega

end PropertyKeys.TypeExpr

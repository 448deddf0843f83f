import PropertyKeys.Proofs.TypeExpr.Grammar

/-!
# Reading follows the grammar

A type is read from a text exactly if the text writes it. The reader skips the blanks in front of a
type and stops behind it, at the end of the text or at a mark that ends an argument, which tells it
apart from what could go on with the type.

## Main definitions

* `TypeExpr.IsTextOf`: whether a text as a whole writes a type.

## Main results

* `TypeExpr.isReadFrom_of_readType`: what is read was written.
* `TypeExpr.isReadIn_of_writes`: what is written is read.
* `TypeExpr.parse_eq_ok_iff`: both together, for whole texts.
-/

namespace PropertyKeys.TypeExpr

open Unicode Text

/-- A text as a whole writes a type: blanks alone may follow. -/
def IsTextOf (text : Text) (type : TypeExpr) : Prop :=
  ∃ written back, text = written ++ back ∧ Writes written (.type type) ∧
    isBlankText back = true

/-! ## What is read was written -/

/-- Behind its blanks the text holds the type, and other blanks could stand in front of it. Blanks
are skipped behind it, and the rest is left. -/
def IsReadFrom (text : Text) (type : TypeExpr) (rest : Text) : Prop :=
  ∃ core back, skipBlank text = core ++ (back ++ rest) ∧ isBlankText back = true ∧
    ∀ front, isBlankText front = true → Writes (front ++ core) (.type type)

theorem IsReadFrom.exists_writes {text rest : Text} {type : TypeExpr}
    (h : IsReadFrom text type rest) :
    ∃ written back, text = written ++ (back ++ rest) ∧ Writes written (.type type) ∧
      isBlankText back = true := by
  obtain ⟨core, back, hcore, hback, hwrites⟩ := h
  obtain ⟨front, hfront, htext⟩ := exists_append_skipBlank text
  refine ⟨front ++ core, back, ?_, hwrites front hfront, hback⟩
  rw [htext, hcore, List.append_assoc]

/-- A text that starts with a blank has blanks to skip. -/
theorem exists_gap_append_skipBlank {text : Text} (h : text.head?.any isBlank = true) :
    ∃ gap, isBlankText gap = true ∧ gap ≠ [] ∧ text = gap ++ skipBlank text := by
  obtain ⟨gap, hgap, htext⟩ := exists_append_skipBlank text
  refine ⟨gap, hgap, ?_, htext⟩
  rintro rfl
  rw [htext, List.nil_append] at h
  cases hhead : (skipBlank text).head? with
  | none => simp [hhead] at h
  | some c => simp [hhead, isBlank_of_head?_skipBlank hhead] at h

/-- If the text starts with a blank, there are blanks in front of the type. -/
theorem IsReadFrom.exists_gap {text rest : Text} {type : TypeExpr} (h : IsReadFrom text type rest)
    (hblank : text.head?.any isBlank = true) :
    ∃ gap written back, text = gap ++ (written ++ (back ++ rest)) ∧ gap ≠ [] ∧
      isBlankText gap = true ∧ Writes written (.type type) ∧ isBlankText back = true := by
  obtain ⟨core, back, hcore, hback, hwrites⟩ := h
  obtain ⟨gap, hgap, hne, htext⟩ := exists_gap_append_skipBlank hblank
  exact ⟨gap, core, back, by rw [← hcore]; exact htext, hne, hgap, hwrites [] rfl, hback⟩

theorem afterKeyword?_eq_some {keyword text bound : Text}
    (h : afterKeyword? keyword text = some bound) :
    text = keyword ++ bound ∧ bound.head?.any isBlank = true := by
  rw [afterKeyword?] at h
  split at h
  case isFalse => cases h
  case isTrue hstarts =>
    obtain ⟨more, rfl⟩ := List.isPrefixOf_iff_prefix.mp hstarts
    rw [List.drop_left] at h
    simp only at h
    split at h
    case isFalse => cases h
    case isTrue hblank =>
      obtain rfl := Option.some.inj h
      exact ⟨rfl, hblank⟩

theorem exists_of_readArgs {readArg : Text → Reading Fault TypeExpr}
    (hread : ∀ text type rest, readArg text = .ok (type, rest) → IsReadFrom text type rest)
    {fuel : Nat} {text rest : Text} {args : List TypeExpr}
    (h : readArgs readArg fuel text = .ok (args, rest)) :
    ∃ list back, text = list ++ (back ++ '>' :: rest) ∧ Writes list (.args args) ∧
      isBlankText back = true := by
  induction fuel generalizing text args with
  | zero => cases h
  | succ fuel ih =>
    rw [readArgs] at h
    obtain ⟨arg, behind, harg, hnext⟩ := Reading.andThen_eq_ok_iff.mp h
    obtain ⟨written, back, rfl, hwrites, hback⟩ := (hread _ _ _ harg).exists_writes
    obtain ⟨more, hmore, hbehind⟩ := exists_append_skipBlank behind
    -- the blanks that the argument leaves and those in front of the next mark are one gap
    have hgap : isBlankText (back ++ more) = true := by
      rw [isBlankText, List.all_append, Bool.and_eq_true]
      exact ⟨hback, hmore⟩
    split at hnext
    · next others hcomma =>
      obtain ⟨args, last, hargs, heq⟩ := Reading.andThen_eq_ok_iff.mp hnext
      obtain ⟨rfl, rfl⟩ := Prod.mk.inj (Except.ok.inj heq)
      obtain ⟨list, close, rfl, hlist, hclose⟩ := ih hargs
      refine ⟨written ++ ((back ++ more) ++ ',' :: list), close, ?_, .arg hwrites hgap hlist,
        hclose⟩
      rw [hbehind, hcomma]
      simp
    · next others hclose =>
      obtain ⟨rfl, rfl⟩ := Prod.mk.inj (Except.ok.inj hnext)
      refine ⟨written, back ++ more, ?_, .lastArg hwrites, hgap⟩
      rw [hbehind, hclose]
      simp
    · cases hnext

/-! One lemma for each way that the reader takes. -/

section Ways

variable {text rest written name inner back brackets : Text} {type : TypeExpr} {dims : Nat}

theorem isReadFrom_wildcard (htext : skipBlank text = '?' :: (inner ++ rest))
    (hinner : isBlankText inner = true) : IsReadFrom text object rest :=
  ⟨'?' :: inner, [], htext, rfl, fun _ hfront => .wildcard hfront hinner⟩

theorem IsReadFrom.upperBound {bound : Text} (h : IsReadFrom bound type rest)
    (htext : skipBlank text = '?' :: (inner ++ ("extends".toList ++ bound)))
    (hinner : isBlankText inner = true) (hblank : bound.head?.any isBlank = true) :
    IsReadFrom text type rest := by
  obtain ⟨gap, written, back, rfl, hne, hgap, hwrites, hback⟩ := h.exists_gap hblank
  refine ⟨'?' :: (inner ++ ("extends".toList ++ (gap ++ written))), back, ?_, hback,
    fun front hfront => .upperBound hfront hinner hgap hne hwrites⟩
  rw [htext]
  simp

theorem IsReadFrom.lowerBound {bound : Text} (h : IsReadFrom bound type rest)
    (htext : skipBlank text = '?' :: (inner ++ ("super".toList ++ bound)))
    (hinner : isBlankText inner = true) (hblank : bound.head?.any isBlank = true) :
    IsReadFrom text object rest := by
  obtain ⟨gap, written, back, rfl, hne, hgap, hwrites, hback⟩ := h.exists_gap hblank
  refine ⟨'?' :: (inner ++ ("super".toList ++ (gap ++ written))), back, ?_, hback,
    fun front hfront => .lowerBound hfront hinner hgap hne hwrites⟩
  rw [htext]
  simp

theorem isReadFrom_plain (htext : skipBlank text = written ++ (brackets ++ (back ++ rest)))
    (hname : WritesName written name) (hdims : WritesDims brackets dims)
    (hback : isBlankText back = true) : IsReadFrom text ⟨name, [], dims⟩ rest := by
  refine ⟨written ++ brackets, back, ?_, hback, fun front hfront => .plain hfront hname hdims⟩
  rw [htext, List.append_assoc]

theorem isReadFrom_generic {list close : Text} {args : List TypeExpr}
    (htext : skipBlank text =
      written ++ (inner ++ '<' :: (list ++ (close ++ '>' :: (brackets ++ (back ++ rest))))))
    (hname : WritesName written name) (hinner : isBlankText inner = true)
    (hargs : Writes list (.args args)) (hclose : isBlankText close = true)
    (hdims : WritesDims brackets dims) (hback : isBlankText back = true) :
    IsReadFrom text ⟨name, args, dims⟩ rest := by
  refine ⟨written ++ (inner ++ '<' :: (list ++ (close ++ '>' :: brackets))), back, ?_, hback,
    fun front hfront => .generic hfront hname hinner hargs hclose hdims⟩
  rw [htext]
  simp

end Ways

/-- What is read was written, with blanks around it. -/
theorem isReadFrom_of_readType {fuel : Nat} {text rest : Text} {type : TypeExpr}
    (h : readType fuel text = .ok (type, rest)) : IsReadFrom text type rest := by
  induction fuel generalizing text type rest with
  | zero => cases h
  | succ fuel ih =>
    rw [readType] at h
    split at h
    · next behind hmark =>
      obtain ⟨inner, hinner, hbehind⟩ := exists_append_skipBlank behind
      simp only at h
      split at h
      · next bound hupper =>
        obtain ⟨hkeyword, hblank⟩ := afterKeyword?_eq_some hupper
        exact (ih h).upperBound (by rw [hmark, hbehind, hkeyword]) hinner hblank
      · split at h
        · next bound hlower =>
          obtain ⟨hkeyword, hblank⟩ := afterKeyword?_eq_some hlower
          obtain ⟨ignored, left, hbound, heq⟩ := Reading.andThen_eq_ok_iff.mp h
          obtain ⟨rfl, rfl⟩ := Prod.mk.inj (Except.ok.inj heq)
          exact (ih hbound).lowerBound (by rw [hmark, hbehind, hkeyword]) hinner hblank
        · obtain ⟨rfl, rfl⟩ := Prod.mk.inj (Except.ok.inj h)
          exact isReadFrom_wildcard (by rw [hmark, ← hbehind]) hinner
    · obtain ⟨name, behind, hname, hnext⟩ := Reading.andThen_eq_ok_iff.mp h
      obtain ⟨written, hwritten, hwritesName, -⟩ := readName_eq_ok_iff.mp hname
      split at hnext
      · next opened hopen =>
        obtain ⟨inner, hinner, hbehind⟩ := exists_append_skipBlank behind
        obtain ⟨args, left, hargs, hleft⟩ := Reading.andThen_eq_ok_iff.mp hnext
        obtain ⟨dims, last, hdims, heq⟩ := Reading.andThen_eq_ok_iff.mp hleft
        obtain ⟨rfl, rfl⟩ := Prod.mk.inj (Except.ok.inj heq)
        obtain ⟨list, close, rfl, hwritesArgs, hclose⟩ :=
          exists_of_readArgs (fun _ _ _ harg => ih harg) hargs
        obtain ⟨brackets, back, rfl, hwritesDims, hback⟩ := exists_of_readDims hdims
        exact isReadFrom_generic (by rw [hwritten, hbehind, hopen]) hwritesName hinner hwritesArgs
          hclose hwritesDims hback
      · obtain ⟨dims, last, hdims, heq⟩ := Reading.andThen_eq_ok_iff.mp hnext
        obtain ⟨rfl, rfl⟩ := Prod.mk.inj (Except.ok.inj heq)
        rw [readDims_skipBlank] at hdims
        obtain ⟨brackets, back, rfl, hwritesDims, hback⟩ := exists_of_readDims hdims
        exact isReadFrom_plain hwritten hwritesName hwritesDims hback

/-! ## What is written is read -/

/-- Behind blanks the text ends, or a mark follows that ends an argument. -/
def EndsType (rest : Text) : Prop :=
  ∀ c, (skipBlank rest).head? = some c → c = ',' ∨ c = '>'

theorem EndsType.head?_ne {rest : Text} (h : EndsType rest) :
    (skipBlank rest).head? ≠ some '[' := by
  intro hopen
  rcases h '[' hopen with hmark | hmark <;> exact absurd hmark (by decide)

theorem endsType_of_isBlankText {rest : Text} (h : isBlankText rest = true) : EndsType rest := by
  intro c hc
  rw [skipBlank_eq_nil_iff.mpr h] at hc
  cases hc

theorem endsType_mark {back : Text} {mark : Char} (hback : isBlankText back = true)
    (hmark : mark = ',' ∨ mark = '>') (rest : Text) :
    skipBlank (back ++ mark :: rest) = mark :: rest ∧ EndsType (back ++ mark :: rest) := by
  have hskip : skipBlank (back ++ mark :: rest) = mark :: rest := by
    rw [skipBlank_append hback, skipBlank_cons (by rcases hmark with rfl | rfl <;> decide)]
  refine ⟨hskip, fun c hc => ?_⟩
  rw [hskip] at hc
  exact Option.some.inj hc ▸ hmark

/-- A text is read in front of any rest that cannot go on with it. -/
def Phrase.IsReadIn (text : Text) : Phrase → Prop
  | .type denoted => ∀ fuel rest, text.length ≤ fuel → EndsType rest →
    readType fuel (text ++ rest) = .ok (denoted, skipBlank rest)
  | .args denoted => ∀ fuel count back rest, text.length ≤ fuel → denoted.length ≤ count →
    isBlankText back = true →
    readArgs (readType fuel) count (text ++ (back ++ '>' :: rest)) = .ok (denoted, rest)

/-- Blanks in front of a type are skipped. -/
theorem readType_append {front : Text} (hfront : isBlankText front = true) (fuel : Nat)
    (text : Text) : readType fuel (front ++ text) = readType fuel text := by
  cases fuel with
  | zero => rw [readType, readType, skipBlank_append hfront]
  | succ fuel => rw [readType, readType, skipBlank_append hfront]

theorem afterKeyword?_append {keyword bound : Text} (hblank : bound.head?.any isBlank = true) :
    afterKeyword? keyword (keyword ++ bound) = some bound := by
  have hstarts : keyword.isPrefixOf (keyword ++ bound) = true :=
    List.isPrefixOf_iff_prefix.mpr (List.prefix_append keyword bound)
  rw [afterKeyword?, if_pos hstarts, List.drop_left]
  exact if_pos hblank

theorem afterKeyword?_eq_none {keyword text : Text} (hne : keyword ≠ [])
    (h : text.head? ≠ keyword.head?) : afterKeyword? keyword text = none := by
  rw [afterKeyword?, if_neg]
  intro hstarts
  obtain ⟨more, rfl⟩ := List.isPrefixOf_iff_prefix.mp hstarts
  exact h (List.head?_append_of_ne_nil _ hne)

theorem head?_gap {gap : Text} (hgap : isBlankText gap = true) (hne : gap ≠ []) (rest : Text) :
    (gap ++ rest).head?.any isBlank = true := by
  obtain ⟨c, cs, rfl⟩ := List.exists_cons_of_ne_nil hne
  exact List.all_eq_true.mp hgap c List.mem_cons_self

/-- In front of a wildcard, the reader looks for the keyword of a bound. -/
theorem readType_wildcard {front inner : Text} (hfront : isBlankText front = true)
    (hinner : isBlankText inner = true) (fuel : Nat) (rest : Text) :
    readType (fuel + 1) (front ++ '?' :: (inner ++ rest)) =
      match afterKeyword? "extends".toList (skipBlank rest) with
      | some bound => readType fuel bound
      | none =>
        match afterKeyword? "super".toList (skipBlank rest) with
        | some bound => (readType fuel bound).andThen fun _ rest => .ok (object, rest)
        | none => .ok (object, skipBlank rest) := by
  rw [readType, skipBlank_append hfront, skipBlank_cons (by decide), ← skipBlank_append hinner rest]
  rfl

/-- A name is followed by a character that cannot stand in it, if one that cannot follows behind
the blanks. -/
theorem isNameChar_of_head?_skipBlank {text : Text}
    (h : ∀ c, (skipBlank text).head? = some c → isNameChar c = false) :
    ∀ c, text.head? = some c → isNameChar c = false := by
  intro c hc
  obtain ⟨cs, rfl⟩ := List.head?_eq_some_iff.mp hc
  cases hblank : isBlank c with
  | true => exact isNameChar_of_isBlank hblank
  | false =>
    rw [skipBlank_cons hblank] at h
    exact h c rfl

/-- In front of what a name starts with, the reader takes the way to names. -/
theorem readType_name {front written name behind : Text} (hfront : isBlankText front = true)
    (hname : WritesName written name)
    (hbehind : ∀ c, behind.head? = some c → isNameChar c = false) (fuel : Nat) :
    readType (fuel + 1) (front ++ (written ++ behind)) =
      match skipBlank behind with
      | '<' :: rest =>
        (readArgs (readType fuel) rest.length rest).andThen fun args rest =>
          (readDims rest.length rest).andThen fun dims rest => .ok (⟨name, args, dims⟩, rest)
      | rest =>
        (readDims rest.length rest).andThen fun dims rest => .ok (⟨name, [], dims⟩, rest) := by
  obtain ⟨first, more, rfl⟩ := List.exists_cons_of_ne_nil hname.ne_nil
  have hfirst := hname.isNameChar first List.mem_cons_self
  have hmark : first ≠ '?' := by
    rintro rfl
    rw [isNameChar_mark (by simp)] at hfirst
    cases hfirst
  have hread : readName (first :: more ++ behind) = .ok (name, behind) :=
    readName_eq_ok_iff.mpr ⟨_, rfl, hname, hbehind⟩
  rw [readType, skipBlank_append hfront, List.cons_append,
    skipBlank_cons (isBlank_of_isNameChar hfirst)]
  split
  · next heq => exact absurd (List.cons.inj heq).1 hmark
  · rw [← List.cons_append, hread]
    rfl

/-- How many characters a phrase takes at least. -/
def Phrase.size : Phrase → Nat
  | .type _ => 1
  | .args denoted => denoted.length

theorem Writes.size_le {text : Text} {phrase : Phrase} (h : Writes text phrase) :
    phrase.size ≤ text.length := by
  induction h with
  | wildcard | upperBound | lowerBound | generic =>
    simp only [Phrase.size, List.length_append, List.length_cons]
    omega
  | plain _ hname _ =>
    have hpos := List.length_pos_iff.mpr hname.ne_nil
    simp only [Phrase.size, List.length_append]
    omega
  | lastArg _ ih => exact ih
  | arg _ _ _ _ ihmore =>
    simp only [Phrase.size, List.length_append, List.length_cons] at ihmore ⊢
    omega

theorem exists_succ_of_length_append_cons {front rest : Text} {c : Char} {fuel : Nat}
    (h : (front ++ c :: rest).length ≤ fuel) : ∃ n, fuel = n + 1 := by
  rw [List.length_append, List.length_cons] at h
  exact Nat.exists_eq_succ_of_ne_zero (by omega)

theorem exists_succ_of_length_append_name {front written name rest : Text} {fuel : Nat}
    (hname : WritesName written name) (h : (front ++ (written ++ rest)).length ≤ fuel) :
    ∃ n, fuel = n + 1 := by
  have hpos := List.length_pos_iff.mpr hname.ne_nil
  rw [List.length_append, List.length_append] at h
  exact Nat.exists_eq_succ_of_ne_zero (by omega)

/-! One lemma for each construct of the grammar. The fuel is at least the length of the text, so that
each construct leaves enough of it for its parts. -/

section Constructs

variable {front inner gap written name brackets : Text} {dims : Nat}

theorem isReadIn_wildcard {back : Text} (hfront : isBlankText front = true)
    (hback : isBlankText back = true) : (Phrase.type object).IsReadIn (front ++ '?' :: back) := by
  intro fuel rest hfuel hrest
  obtain ⟨fuel, rfl⟩ := exists_succ_of_length_append_cons hfuel
  have hupper : (skipBlank rest).head? ≠ "extends".toList.head? := fun heq =>
    absurd (hrest 'e' heq) (by decide)
  have hlower : (skipBlank rest).head? ≠ "super".toList.head? := fun heq =>
    absurd (hrest 's' heq) (by decide)
  rw [List.append_assoc, List.cons_append, readType_wildcard hfront hback,
    afterKeyword?_eq_none (by decide) hupper, afterKeyword?_eq_none (by decide) hlower]

theorem Phrase.IsReadIn.upperBound {bound : TypeExpr} (h : (Phrase.type bound).IsReadIn written)
    (hfront : isBlankText front = true) (hinner : isBlankText inner = true)
    (hgap : isBlankText gap = true) (hne : gap ≠ []) :
    (Phrase.type bound).IsReadIn
      (front ++ '?' :: (inner ++ ("extends".toList ++ (gap ++ written)))) := by
  intro fuel rest hfuel hrest
  obtain ⟨fuel, rfl⟩ := exists_succ_of_length_append_cons hfuel
  have hwritten : written.length ≤ fuel := by
    simp only [List.length_append, List.length_cons] at hfuel
    omega
  have hskip : skipBlank ("extends".toList ++ (gap ++ (written ++ rest))) =
      "extends".toList ++ (gap ++ (written ++ rest)) := skipBlank_cons (by decide) _
  simp only [List.append_assoc, List.cons_append]
  rw [readType_wildcard hfront hinner, hskip, afterKeyword?_append (head?_gap hgap hne _)]
  simp only
  rw [readType_append hgap]
  exact h fuel rest hwritten hrest

theorem Phrase.IsReadIn.lowerBound {bound : TypeExpr} (h : (Phrase.type bound).IsReadIn written)
    (hfront : isBlankText front = true) (hinner : isBlankText inner = true)
    (hgap : isBlankText gap = true) (hne : gap ≠ []) :
    (Phrase.type object).IsReadIn
      (front ++ '?' :: (inner ++ ("super".toList ++ (gap ++ written)))) := by
  intro fuel rest hfuel hrest
  obtain ⟨fuel, rfl⟩ := exists_succ_of_length_append_cons hfuel
  have hwritten : written.length ≤ fuel := by
    simp only [List.length_append, List.length_cons] at hfuel
    omega
  have hskip : skipBlank ("super".toList ++ (gap ++ (written ++ rest))) =
      "super".toList ++ (gap ++ (written ++ rest)) := skipBlank_cons (by decide) _
  simp only [List.append_assoc, List.cons_append]
  rw [readType_wildcard hfront hinner, hskip, afterKeyword?_eq_none (by decide) (by simp),
    afterKeyword?_append (head?_gap hgap hne _)]
  simp only
  rw [readType_append hgap, h fuel rest hwritten hrest]
  rfl

theorem isReadIn_plain (hfront : isBlankText front = true) (hname : WritesName written name)
    (hdims : WritesDims brackets dims) :
    (Phrase.type ⟨name, [], dims⟩).IsReadIn (front ++ (written ++ brackets)) := by
  intro fuel rest hfuel hrest
  obtain ⟨fuel, rfl⟩ := exists_succ_of_length_append_name hname hfuel
  obtain ⟨hcount, hhead⟩ := hdims.skipBlank_append rest
  have hmark : ∀ c, (skipBlank (brackets ++ rest)).head? = some c →
      c = '[' ∨ c = ',' ∨ c = '>' := by
    intro c hc
    rcases hhead with hopen | hsame
    · exact .inl (Option.some.inj (hc.symm.trans hopen))
    · exact .inr (hrest c (hsame ▸ hc))
  have hbehind : ∀ c, (brackets ++ rest).head? = some c → isNameChar c = false :=
    isNameChar_of_head?_skipBlank fun c hc =>
      isNameChar_mark (by rcases hmark c hc with rfl | rfl | rfl <;> simp)
  rw [List.append_assoc, List.append_assoc, readType_name hfront hname hbehind]
  split
  · next heq => exact absurd (hmark '<' (by rw [heq]; rfl)) (by decide)
  · rw [readDims_skipBlank, readDims_append hdims hcount hrest.head?_ne]
    rfl

/-- The reader counts arguments against the characters that are left, of which there are enough. -/
theorem Phrase.IsReadIn.generic {list back : Text} {args : List TypeExpr}
    (h : (Phrase.args args).IsReadIn list) (hsize : args.length ≤ list.length)
    (hfront : isBlankText front = true) (hname : WritesName written name)
    (hinner : isBlankText inner = true) (hback : isBlankText back = true)
    (hdims : WritesDims brackets dims) :
    (Phrase.type ⟨name, args, dims⟩).IsReadIn
      (front ++ (written ++ (inner ++ '<' :: (list ++ (back ++ '>' :: brackets))))) := by
  intro fuel rest hfuel hrest
  obtain ⟨fuel, rfl⟩ := exists_succ_of_length_append_name hname hfuel
  have hpos := List.length_pos_iff.mpr hname.ne_nil
  simp only [List.length_append, List.length_cons] at hfuel
  have hcount : args.length ≤ (list ++ (back ++ '>' :: (brackets ++ rest))).length := by
    rw [List.length_append]
    omega
  have hdimsCount : dims ≤ (brackets ++ rest).length := by
    have hle := hdims.le_length
    rw [List.length_append]
    omega
  have hopen : skipBlank (inner ++ '<' :: (list ++ (back ++ '>' :: (brackets ++ rest)))) =
      '<' :: (list ++ (back ++ '>' :: (brackets ++ rest))) := by
    rw [skipBlank_append hinner, skipBlank_cons (by decide)]
  have hbehind : ∀ c, (inner ++ '<' :: (list ++ (back ++ '>' :: (brackets ++ rest)))).head? =
      some c → isNameChar c = false := by
    refine isNameChar_of_head?_skipBlank ?_
    rw [hopen]
    rintro c ⟨⟩
    exact isNameChar_mark (by simp)
  simp only [List.append_assoc, List.cons_append]
  rw [readType_name hfront hname hbehind, hopen]
  simp only
  rw [h fuel _ back _ (by omega) hcount hback, Reading.andThen_ok,
    readDims_append hdims hdimsCount hrest.head?_ne]
  rfl

theorem Phrase.IsReadIn.lastArg {arg : TypeExpr} (h : (Phrase.type arg).IsReadIn written) :
    (Phrase.args [arg]).IsReadIn written := by
  intro fuel count back rest hfuel hcount hback
  obtain ⟨count, rfl⟩ := Nat.exists_eq_succ_of_ne_zero (Nat.ne_zero_of_lt hcount)
  obtain ⟨hskip, hends⟩ := endsType_mark hback (.inr rfl) rest
  rw [readArgs, h fuel _ hfuel hends, hskip, Reading.andThen_ok, skipBlank_cons (by decide)]
  rfl

theorem Phrase.IsReadIn.arg {list : Text} {arg : TypeExpr} {args : List TypeExpr}
    (h : (Phrase.type arg).IsReadIn written) (hinner : isBlankText inner = true)
    (hmore : (Phrase.args args).IsReadIn list) :
    (Phrase.args (arg :: args)).IsReadIn (written ++ (inner ++ ',' :: list)) := by
  intro fuel count back rest hfuel hcount hback
  obtain ⟨count, rfl⟩ := Nat.exists_eq_succ_of_ne_zero (Nat.ne_zero_of_lt hcount)
  simp only [List.length_append, List.length_cons] at hfuel hcount
  have hwritten : written.length ≤ fuel := by omega
  have hlist : list.length ≤ fuel := by omega
  obtain ⟨hskip, hends⟩ := endsType_mark hinner (.inl rfl) (list ++ (back ++ '>' :: rest))
  simp only [List.append_assoc, List.cons_append]
  rw [readArgs, h fuel _ hwritten hends, hskip, Reading.andThen_ok, skipBlank_cons (by decide)]
  simp only
  rw [hmore fuel count back rest hlist (by omega) hback]
  rfl

end Constructs

/-- What is written is read, whatever follows that cannot go on with it. -/
theorem isReadIn_of_writes {text : Text} {phrase : Phrase} (h : Writes text phrase) :
    phrase.IsReadIn text := by
  induction h with
  | wildcard hfront hback => exact isReadIn_wildcard hfront hback
  | upperBound hfront hinner hgap hne _ ih => exact ih.upperBound hfront hinner hgap hne
  | lowerBound hfront hinner hgap hne _ ih => exact ih.lowerBound hfront hinner hgap hne
  | plain hfront hname hdims => exact isReadIn_plain hfront hname hdims
  | generic hfront hname hinner hargs hback hdims ih =>
    exact ih.generic hargs.size_le hfront hname hinner hback hdims
  | lastArg _ ih => exact ih.lastArg
  | arg _ hinner _ ih ihmore => exact ih.arg hinner ihmore

/-! ## Whole texts -/

/-- A text that writes something is not blank. -/
theorem Writes.exists_not_isBlank {text : Text} {phrase : Phrase} (h : Writes text phrase) :
    ∃ c ∈ text, isBlank c = false := by
  induction h with
  | wildcard | upperBound | lowerBound => exact ⟨'?', by simp, by decide⟩
  | generic => exact ⟨'<', by simp, by decide⟩
  | plain _ hname _ =>
    obtain ⟨c, cs, rfl⟩ := List.exists_cons_of_ne_nil hname.ne_nil
    exact ⟨c, by simp, isBlank_of_isNameChar (hname.isNameChar c List.mem_cons_self)⟩
  | lastArg _ ih => exact ih
  | arg => exact ⟨',', by simp, by decide⟩

theorem isTextOf_of_parse {text : Text} {type : TypeExpr} (h : parse text = .ok type) :
    IsTextOf text type := by
  rw [parse] at h
  split at h
  case isTrue => cases h
  case isFalse =>
    split at h
    · cases h
    · next read rest hread =>
      obtain ⟨written, back, hsplit, hwrites, hback⟩ :=
        (isReadFrom_of_readType hread).exists_writes
      split at h
      · next hrest =>
        obtain rfl := Except.ok.inj h
        refine ⟨written, back ++ rest, hsplit, hwrites, ?_⟩
        rw [Text.isBlankText, List.all_append, Bool.and_eq_true]
        exact ⟨hback, skipBlank_eq_nil_iff.mp hrest⟩
      · cases h

theorem parse_of_isTextOf {text : Text} {type : TypeExpr} (h : IsTextOf text type) :
    parse text = .ok type := by
  obtain ⟨written, back, rfl, hwrites, hback⟩ := h
  have hread := isReadIn_of_writes hwrites (written ++ back).length back (by simp)
    (endsType_of_isBlankText hback)
  obtain ⟨c, hc, hblank⟩ := hwrites.exists_not_isBlank
  have hwhole : ¬isBlankText (written ++ back) = true := fun hall =>
    Bool.false_ne_true
      (hblank.symm.trans (List.all_eq_true.mp hall c (List.mem_append_left _ hc)))
  rw [parse, if_neg hwhole, hread]
  simp only
  rw [skipBlank_skipBlank, skipBlank_eq_nil_iff.mpr hback]

/-- **Reading accepts exactly the grammar.** A text is read as a type exactly if it writes the
type, perhaps with blanks behind. -/
theorem parse_eq_ok_iff (text : Text) (type : TypeExpr) :
    parse text = .ok type ↔ IsTextOf text type := by
  constructor
  · exact isTextOf_of_parse
  · exact parse_of_isTextOf

end PropertyKeys.TypeExpr

import PropertyKeys.Unicode.CaseTable

/-!
# Case conversion

Full case conversion without a locale: one character may become several, and the only context that
matters is that a capital sigma at the end of a word becomes a final sigma.

## Main definitions

* `lowerChar` / `upperChar`: the converted form of one character, on its own.
* `lower` / `upper`: the converted form of a text.
* `sameLetter`: whether two characters differ in case at most.
-/

namespace PropertyKeys.Unicode

/-- The sequence that a table, given in ascending order, lists for a code point. -/
def sequence? : List (Nat × List Nat) → Nat → Option (List Nat)
  | [], _ => none
  | (first, codes) :: rest, code =>
    if code < first then none
    else if code = first then some codes
    else sequence? rest code

/-- The form of a character under the conversion that the two tables describe. A character in
neither table is its own form. -/
def convertChar (runs : List CodeRun) (sequences : List (Nat × List Nat)) (c : Char) : List Char :=
  match CodeRun.image? runs c.toNat with
  | some code => [Char.ofNat code]
  | none =>
    match sequence? sequences c.toNat with
    | some codes => codes.map Char.ofNat
    | none => [c]

/-- The lower-case form of one character on its own. -/
def lowerChar (c : Char) : List Char :=
  convertChar lowerRuns lowerSequences c

/-- The upper-case form of one character on its own. -/
def upperChar (c : Char) : List Char :=
  convertChar upperRuns upperSequences c

/-- Whether a character has a case. -/
def isCased (c : Char) : Bool :=
  CodeRange.covers casedRanges c.toNat

/-- Whether a character is passed over when the neighbours of a sigma are looked at. -/
def isCaseIgnorable (c : Char) : Bool :=
  CodeRange.covers caseIgnorableRanges c.toNat

/-- Whether the first character that is not passed over has a case. -/
def meetsCased (cs : List Char) : Bool :=
  (cs.dropWhile isCaseIgnorable).head?.any isCased

/-- The lower-case form of the rest of a text. The characters before it are given in reverse: a
capital sigma becomes final if a cased character precedes it and none follows. -/
def lowerAfter (before : List Char) : List Char → List Char
  | [] => []
  | c :: cs =>
    if c = 'Σ' then
      (if meetsCased before && !meetsCased cs then 'ς' else 'σ') :: lowerAfter (c :: before) cs
    else
      lowerChar c ++ lowerAfter (c :: before) cs

/-- The lower-case form of a text. -/
def lower (cs : List Char) : List Char :=
  lowerAfter [] cs

/-- The upper-case form of a text. -/
def upper (cs : List Char) : List Char :=
  cs.flatMap upperChar

/-- Whether two characters differ in case at most. -/
def sameLetter (a b : Char) : Bool :=
  lowerChar a == lowerChar b

end PropertyKeys.Unicode

import Mathlib.Tactic.SplitIfs
import PropertyKeys.Text.Utf8

/-!
# Decoding and encoding

Decoding takes only the shortest form of each character and no surrogates. Some bytes are therefore
decoded to a text exactly if they are its encoding.

## Main results

* `Utf8.cons_eq_of_step` / `Utf8.exists_step_encodeChar`: the bytes of the character that is read.
* `Utf8.decode_eq_ok_iff`: what a list of bytes is decoded to.
-/

namespace PropertyKeys.Utf8

/-! ## Bytes by their codes -/

/-- The first bytes of characters of each length. -/
theorem width_spec (lead : UInt8) :
    (width lead = 1 ↔ lead.toNat < 0x80) ∧
    (width lead = 2 ↔ 0xC2 ≤ lead.toNat ∧ lead.toNat ≤ 0xDF) ∧
    (width lead = 3 ↔ 0xE0 ≤ lead.toNat ∧ lead.toNat ≤ 0xEF) ∧
    (width lead = 4 ↔ 0xF0 ≤ lead.toNat ∧ lead.toNat ≤ 0xF4) := by
  have hcodes : ∀ n < 256,
      (width (UInt8.ofNat n) = 1 ↔ n < 0x80) ∧
      (width (UInt8.ofNat n) = 2 ↔ 0xC2 ≤ n ∧ n ≤ 0xDF) ∧
      (width (UInt8.ofNat n) = 3 ↔ 0xE0 ≤ n ∧ n ≤ 0xEF) ∧
      (width (UInt8.ofNat n) = 4 ↔ 0xF0 ≤ n ∧ n ≤ 0xF4) := by decide +kernel
  simpa only [UInt8.ofNat_toNat] using hcodes lead.toNat lead.toNat_lt

theorem isContinuation_iff {byte : UInt8} :
    isContinuation byte = true ↔ 0x80 ≤ byte.toNat ∧ byte.toNat ≤ 0xBF := by
  simp [isContinuation, UInt8.le_iff_toNat_le]

/-- The second byte excludes longer forms, surrogates and what lies above the last code point. -/
theorem allowsSecond_iff {lead second : UInt8} :
    allowsSecond lead second = true ↔
      0x80 ≤ second.toNat ∧ second.toNat ≤ 0xBF ∧
        (lead.toNat = 0xE0 → 0xA0 ≤ second.toNat) ∧ (lead.toNat = 0xED → second.toNat ≤ 0x9F) ∧
        (lead.toNat = 0xF0 → 0x90 ≤ second.toNat) ∧
        (lead.toNat = 0xF4 → second.toNat ≤ 0x8F) := by
  have hbound (low high : UInt8) :
      (decide (low ≤ second) && decide (second ≤ high)) = true ↔
        low.toNat ≤ second.toNat ∧ second.toNat ≤ high.toNat := by
    simp [UInt8.le_iff_toNat_le]
  rw [allowsSecond, isContinuation]
  simp only [← UInt8.toNat_inj]
  split_ifs with he0 hed hf0 hf4
  all_goals
    rw [hbound]
    simp only [UInt8.reduceToNat] at *
    omega

theorem ofNat_eq_of_toNat {b : UInt8} {n : Nat} (h : n = b.toNat) : UInt8.ofNat n = b := by
  rw [h, UInt8.ofNat_toNat]

/-! ## One character -/

/-- The encoding of the character with a code. -/
theorem encodeChar_ofNat {n : Nat} (h : n.isValidChar) :
    String.utf8EncodeChar (Char.ofNat n) =
      if n ≤ 0x7F then [UInt8.ofNat n]
      else if n ≤ 0x7FF then [UInt8.ofNat (n / 64 % 32 + 0xC0), UInt8.ofNat (n % 64 + 0x80)]
      else if n ≤ 0xFFFF then
        [UInt8.ofNat (n / 4096 % 16 + 0xE0), UInt8.ofNat (n / 64 % 64 + 0x80),
          UInt8.ofNat (n % 64 + 0x80)]
      else
        [UInt8.ofNat (n / 262144 % 8 + 0xF0), UInt8.ofNat (n / 4096 % 64 + 0x80),
          UInt8.ofNat (n / 64 % 64 + 0x80), UInt8.ofNat (n % 64 + 0x80)] := by
  have hcode : (Char.ofNat n).val.toNat = n := by
    rw [Char.ofNat, dif_pos h]
    rfl
  rw [String.utf8EncodeChar, hcode]

/-! By the bounds on its first two bytes, a code needs as many bytes as there are, and it is that of a
character. -/

section Lengths

variable {lead second third fourth : UInt8}

theorem encodeChar_one (hlead : lead.toNat < 0x80) :
    String.utf8EncodeChar (Char.ofNat lead.toNat) = [lead] := by
  rw [encodeChar_ofNat (.inl (by omega)), if_pos (by omega), UInt8.ofNat_toNat]

theorem encodeChar_two (hlead : 0xC2 ≤ lead.toNat ∧ lead.toNat ≤ 0xDF)
    (hsecond : isContinuation second = true) :
    String.utf8EncodeChar (Char.ofNat (lead.toNat % 32 * 64 + payload second)) =
      [lead, second] := by
  have hbound := isContinuation_iff.mp hsecond
  have hlow : payload second = second.toNat % 64 := rfl
  rw [encodeChar_ofNat (.inl (by omega)), if_neg (by omega), if_pos (by omega),
    ofNat_eq_of_toNat (b := lead) (by omega), ofNat_eq_of_toNat (b := second) (by omega)]

theorem encodeChar_three (hlead : 0xE0 ≤ lead.toNat ∧ lead.toNat ≤ 0xEF)
    (hsecond : allowsSecond lead second = true) (hthird : isContinuation third = true) :
    String.utf8EncodeChar
        (Char.ofNat (lead.toNat % 16 * 4096 + payload second * 64 + payload third)) =
      [lead, second, third] := by
  have hallowed := allowsSecond_iff.mp hsecond
  have hbound := isContinuation_iff.mp hthird
  have hlow (byte : UInt8) : payload byte = byte.toNat % 64 := rfl
  rw [hlow, hlow, encodeChar_ofNat (by unfold Nat.isValidChar; omega), if_neg (by omega),
    if_neg (by omega), if_pos (by omega), ofNat_eq_of_toNat (b := lead) (by omega),
    ofNat_eq_of_toNat (b := second) (by omega), ofNat_eq_of_toNat (b := third) (by omega)]

theorem encodeChar_four (hlead : 0xF0 ≤ lead.toNat ∧ lead.toNat ≤ 0xF4)
    (hsecond : allowsSecond lead second = true) (hthird : isContinuation third = true)
    (hfourth : isContinuation fourth = true) :
    String.utf8EncodeChar
        (Char.ofNat (lead.toNat % 8 * 262144 + payload second * 4096 + payload third * 64 +
          payload fourth)) =
      [lead, second, third, fourth] := by
  have hallowed := allowsSecond_iff.mp hsecond
  have hmiddle := isContinuation_iff.mp hthird
  have hlast := isContinuation_iff.mp hfourth
  have hlow (byte : UInt8) : payload byte = byte.toNat % 64 := rfl
  rw [hlow, hlow, hlow, encodeChar_ofNat (by unfold Nat.isValidChar; omega), if_neg (by omega),
    if_neg (by omega), if_neg (by omega), ofNat_eq_of_toNat (b := lead) (by omega),
    ofNat_eq_of_toNat (b := second) (by omega), ofNat_eq_of_toNat (b := third) (by omega),
    ofNat_eq_of_toNat (b := fourth) (by omega)]

end Lengths

/-- What is read off the front of some bytes is encoded by the bytes that were read. -/
theorem cons_eq_of_step {lead : UInt8} {rest left : Bytes} {c : Char} {length : Nat}
    (h : step lead rest = .char c length left) :
    lead :: rest = String.utf8EncodeChar c ++ left := by
  obtain ⟨hone, htwo, hthree, hfour⟩ := width_spec lead
  rw [step.eq_def] at h
  split at h
  case h_1 hwidth =>
    obtain ⟨rfl, -, rfl⟩ := Step.char.inj h
    rw [encodeChar_one (hone.mp hwidth)]
    rfl
  case h_3 second tail hwidth =>
    split_ifs at h with hsecond
    obtain ⟨rfl, -, rfl⟩ := Step.char.inj h
    rw [encodeChar_two (htwo.mp hwidth) hsecond]
    rfl
  case h_5 second tail hwidth =>
    split_ifs at h with hsecond
    split at h
    · cases h
    case h_2 third tail =>
      split_ifs at h with hthird
      obtain ⟨rfl, -, rfl⟩ := Step.char.inj h
      rw [encodeChar_three (hthree.mp hwidth) (by simpa using hsecond) hthird]
      rfl
  case h_7 second tail hwidth =>
    split_ifs at h with hsecond
    split at h
    · cases h
    case h_2 third tail =>
      split_ifs at h with hthird
      split at h
      · cases h
      case h_2 fourth tail =>
        split_ifs at h with hfourth
        obtain ⟨rfl, -, rfl⟩ := Step.char.inj h
        rw [encodeChar_four (hfour.mp hwidth) (by simpa using hsecond) (by simpa using hthird)
          hfourth]
        rfl
  all_goals cases h

/-- The encoding of a character is read as the character. -/
theorem exists_step_encodeChar (c : Char) (rest : Bytes) :
    ∃ lead tail length, String.utf8EncodeChar c = lead :: tail ∧
      step lead (tail ++ rest) = .char c length rest := by
  obtain ⟨n, hvalid, rfl⟩ : ∃ n : Nat, n.isValidChar ∧ c = Char.ofNat n :=
    ⟨c.toNat, c.valid, (Char.ofNat_toNat c).symm⟩
  have hrange : n < 0xD800 ∨ 0xDFFF < n ∧ n < 0x110000 := hvalid
  have hcode {n : Nat} (h : n < 256) : (UInt8.ofNat n).toNat = n :=
    UInt8.toNat_ofNat_of_lt' h
  have hlow (n : Nat) : payload (UInt8.ofNat (n % 64 + 0x80)) = n % 64 := by
    rw [payload, hcode (by omega)]
    omega
  have hlater (n : Nat) : isContinuation (UInt8.ofNat (n % 64 + 0x80)) = true := by
    rw [isContinuation_iff, hcode (by omega)]
    omega
  rw [encodeChar_ofNat hvalid]
  split_ifs with hone htwo hthree
  · refine ⟨_, _, 1, rfl, ?_⟩
    have hlead := hcode (n := n) (by omega)
    rw [step.eq_def, (width_spec _).1.mpr (by omega)]
    simp only [hlead, List.nil_append]
  · refine ⟨_, _, 2, rfl, ?_⟩
    have hlead := hcode (n := n / 64 % 32 + 0xC0) (by omega)
    rw [step.eq_def, (width_spec _).2.1.mpr (by omega)]
    simp only [List.cons_append, List.nil_append, hlater, if_true, hlead, hlow]
    congr 2
    omega
  · refine ⟨_, _, 3, rfl, ?_⟩
    have hlead := hcode (n := n / 4096 % 16 + 0xE0) (by omega)
    have hsecond := hcode (n := n / 64 % 64 + 0x80) (by omega)
    have hallowed : allowsSecond (UInt8.ofNat (n / 4096 % 16 + 0xE0))
        (UInt8.ofNat (n / 64 % 64 + 0x80)) = true := allowsSecond_iff.mpr (by omega)
    rw [step.eq_def, (width_spec _).2.2.1.mpr (by omega)]
    simp only [List.cons_append, List.nil_append, hallowed, hlater, Bool.not_true,
      Bool.false_eq_true, if_true, if_false, hlead, hlow]
    congr 2
    omega
  · refine ⟨_, _, 4, rfl, ?_⟩
    have hlead := hcode (n := n / 262144 % 8 + 0xF0) (by omega)
    have hsecond := hcode (n := n / 4096 % 64 + 0x80) (by omega)
    have hallowed : allowsSecond (UInt8.ofNat (n / 262144 % 8 + 0xF0))
        (UInt8.ofNat (n / 4096 % 64 + 0x80)) = true := allowsSecond_iff.mpr (by omega)
    rw [step.eq_def, (width_spec _).2.2.2.mpr (by omega)]
    simp only [List.cons_append, List.nil_append, hallowed, hlater, Bool.not_true,
      Bool.false_eq_true, if_true, if_false, hlead, hlow]
    congr 2
    omega

/-! ## Texts -/

@[simp]
theorem encode_nil : encode [] = [] := rfl

@[simp]
theorem encode_cons (c : Char) (text : Text) :
    encode (c :: text) = String.utf8EncodeChar c ++ encode text := rfl

theorem length_encode (text : Text) : (encode text).length = Text.byteSize text := by
  induction text with
  | nil => rfl
  | cons c text ih =>
    rw [encode_cons, List.length_append, ih, String.length_utf8EncodeChar]
    rfl

theorem encode_eq_nil_iff {text : Text} : encode text = [] ↔ text = [] := by
  cases text with
  | nil => simp
  | cons c text =>
    obtain ⟨lead, tail, -, hchar, -⟩ := exists_step_encodeChar c []
    simp [hchar]

/-- The text of some bytes is their first character in front of the text of the bytes behind it. -/
theorem decodeFrom_cons_eq_ok_iff {fuel offset : Nat} {lead : UInt8} {rest : Bytes} {text : Text} :
    decodeFrom (fuel + 1) offset (lead :: rest) = .ok text ↔
      ∃ c length left later, step lead rest = .char c length left ∧
        decodeFrom fuel (offset + length) left = .ok later ∧ text = c :: later := by
  rw [decodeFrom]
  cases step lead rest with
  | char c length left =>
    simp only [Step.char.injEq]
    constructor
    · intro h
      cases hlater : decodeFrom fuel (offset + length) left with
      | error fault =>
        rw [hlater] at h
        cases h
      | ok later =>
        rw [hlater] at h
        cases h
        exact ⟨c, length, left, later, ⟨rfl, rfl, rfl⟩, hlater, rfl⟩
    · rintro ⟨_, _, _, later, ⟨rfl, rfl, rfl⟩, hlater, rfl⟩
      rw [hlater]
      rfl
  | invalid length => simp
  | incomplete => simp

/-- Some bytes are decoded to a text exactly if they are its encoding. -/
theorem decodeFrom_eq_ok_iff {fuel offset : Nat} {bytes : Bytes} {text : Text}
    (hfuel : bytes.length ≤ fuel) :
    decodeFrom fuel offset bytes = .ok text ↔ encode text = bytes := by
  induction fuel generalizing offset bytes text with
  | zero =>
    obtain rfl := List.length_eq_zero_iff.mp (Nat.le_zero.mp hfuel)
    rw [decodeFrom, encode_eq_nil_iff, Except.ok.injEq, eq_comm]
  | succ fuel ih =>
    cases bytes with
    | nil => rw [decodeFrom, encode_eq_nil_iff, Except.ok.injEq, eq_comm]
    | cons lead rest =>
      rw [List.length_cons, Nat.add_le_add_iff_right] at hfuel
      rw [decodeFrom_cons_eq_ok_iff]
      constructor
      · rintro ⟨c, length, left, later, hstep, hlater, rfl⟩
        have hbytes := cons_eq_of_step hstep
        obtain ⟨_, _, -, hchar, -⟩ := exists_step_encodeChar c []
        have hleft : left.length ≤ rest.length := by
          have hlength := congrArg List.length hbytes
          rw [hchar, List.length_cons, List.length_append, List.length_cons] at hlength
          omega
        rw [hbytes, encode_cons, (ih (Nat.le_trans hleft hfuel)).mp hlater]
      · intro hencode
        cases text with
        | nil => cases hencode
        | cons c later =>
          obtain ⟨lead', tail, length, hchar, hstep⟩ := exists_step_encodeChar c (encode later)
          rw [encode_cons, hchar, List.cons_append] at hencode
          obtain ⟨rfl, rfl⟩ := List.cons.inj hencode
          have hlater : (encode later).length ≤ fuel := by
            rw [List.length_append] at hfuel
            omega
          exact ⟨c, length, encode later, later, hstep, (ih hlater).mpr rfl, rfl⟩

/-- What some bytes are decoded to. -/
theorem decode_eq_ok_iff {bytes : Bytes} {text : Text} :
    decode bytes = .ok text ↔ encode text = bytes :=
  decodeFrom_eq_ok_iff (Nat.le_refl _)

theorem decode_encode (text : Text) : decode (encode text) = .ok text :=
  decode_eq_ok_iff.mpr rfl

end PropertyKeys.Utf8

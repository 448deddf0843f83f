import PropertyKeys.Text.Basic

/-!
# UTF-8

Documents are stored as bytes. Decoding is strict: it takes only the shortest form of each
character, no surrogates, and nothing above the last code point. A refusal tells how many bytes
were good and how long the bad sequence is, or that the bytes end inside a sequence.

## Main definitions

* `encode`: the bytes of a text.
* `decode`: the text of a list of bytes, or where and why there is none.
-/

namespace PropertyKeys

/-- A sequence of bytes. -/
abbrev Bytes := List UInt8

namespace Utf8

/-- Why a list of bytes is no text. `validUpTo` is the number of bytes before the bad sequence. -/
inductive Fault where
  /-- The bytes after the good ones do not start a character; the first `length` of them could. -/
  | invalid (validUpTo length : Nat)
  /-- The bytes end inside a character. -/
  | incomplete (validUpTo : Nat)
  deriving DecidableEq, Repr

/-- The bytes of a text. -/
def encode (text : Text) : Bytes :=
  text.flatMap String.utf8EncodeChar

/-- Whether a byte continues a character that an earlier byte started. -/
def isContinuation (byte : UInt8) : Bool :=
  0x80 ≤ byte && byte ≤ 0xBF

/-- The number of bytes of a character that starts with the given byte, or `0` if none does. -/
def width (lead : UInt8) : Nat :=
  if lead < 0x80 then 1
  else if 0xC2 ≤ lead && lead ≤ 0xDF then 2
  else if 0xE0 ≤ lead && lead ≤ 0xEF then 3
  else if 0xF0 ≤ lead && lead ≤ 0xF4 then 4
  else 0

/-- Whether a byte may stand second after the given first one. The narrower bounds exclude longer
forms of a character, surrogates and code points above the last one. -/
def allowsSecond (lead second : UInt8) : Bool :=
  if lead = 0xE0 then 0xA0 ≤ second && second ≤ 0xBF
  else if lead = 0xED then 0x80 ≤ second && second ≤ 0x9F
  else if lead = 0xF0 then 0x90 ≤ second && second ≤ 0xBF
  else if lead = 0xF4 then 0x80 ≤ second && second ≤ 0x8F
  else isContinuation second

/-- The low six bits of a byte that continues a character. -/
def payload (byte : UInt8) : Nat :=
  byte.toNat % 64

/-- What one character takes off the front of some bytes. -/
inductive Step where
  | char (c : Char) (length : Nat) (rest : Bytes)
  | invalid (length : Nat)
  | incomplete

/-- The character at the front of the bytes that a first byte and the bytes after it make. -/
def step (lead : UInt8) (rest : Bytes) : Step :=
  match width lead, rest with
  | 1, _ => .char (Char.ofNat lead.toNat) 1 rest
  | 2, [] => .incomplete
  | 2, b :: rest =>
    if isContinuation b then .char (Char.ofNat (lead.toNat % 32 * 64 + payload b)) 2 rest
    else .invalid 1
  | 3, [] => .incomplete
  | 3, b :: rest =>
    if !allowsSecond lead b then .invalid 1
    else
      match rest with
      | [] => .incomplete
      | c :: rest =>
        if isContinuation c then
          .char (Char.ofNat (lead.toNat % 16 * 4096 + payload b * 64 + payload c)) 3 rest
        else .invalid 2
  | 4, [] => .incomplete
  | 4, b :: rest =>
    if !allowsSecond lead b then .invalid 1
    else
      match rest with
      | [] => .incomplete
      | c :: rest =>
        if !isContinuation c then .invalid 2
        else
          match rest with
          | [] => .incomplete
          | d :: rest =>
            if isContinuation d then
              .char (Char.ofNat
                (lead.toNat % 8 * 262144 + payload b * 4096 + payload c * 64 + payload d)) 4 rest
            else .invalid 3
  | _, _ => .invalid 1

/-- The text of at most `fuel` characters that the bytes from offset `offset` on encode. -/
def decodeFrom (fuel offset : Nat) (bytes : Bytes) : Except Fault Text :=
  match fuel, bytes with
  | _, [] => .ok []
  | 0, _ :: _ => .error (.incomplete offset)
  | fuel + 1, lead :: rest =>
    match step lead rest with
    | .char c length rest => (decodeFrom fuel (offset + length) rest).map (c :: ·)
    | .invalid length => .error (.invalid offset length)
    | .incomplete => .error (.incomplete offset)

/-- The text that some bytes encode. -/
def decode (bytes : Bytes) : Except Fault Text :=
  decodeFrom bytes.length 0 bytes

end Utf8

end PropertyKeys

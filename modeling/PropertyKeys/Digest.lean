import PropertyKeys.Digest.Tree

/-!
# Digests

A digest of 32 bytes stands for the content of a document: the catalog that was built from a
document is good as long as the digest of its bytes is the same.

## Main definitions

* `Digest.ofBytes`: the digest of some bytes.
* `Digest.hex` / `Digest.short`: the written forms.
-/

namespace PropertyKeys

/-- A digest of eight words. -/
structure Digest where
  words : Vector UInt32 8
  deriving DecidableEq, Repr

namespace Digest

/-- The digest of some bytes. -/
def ofBytes (bytes : Bytes) : Digest :=
  ⟨Compression.compress (Tree.root bytes)⟩

/-- The digest of the encoding of a text. -/
def ofText (text : Text) : Digest :=
  ofBytes (Utf8.encode text)

/-- The two hexadecimal digits of a byte, in small letters. -/
def byteHex (byte : UInt32) : Text :=
  [Nat.digitChar (byte.toNat / 16), Nat.digitChar (byte.toNat % 16)]

/-- The hexadecimal digits of a word, low byte first. -/
def wordHex (word : UInt32) : Text :=
  byteHex (word % 256) ++ byteHex ((word >>> 8) % 256) ++ byteHex ((word >>> 16) % 256) ++
    byteHex (word >>> 24)

/-- The 64 hexadecimal digits of a digest. -/
def hex (digest : Digest) : Text :=
  digest.words.toList.flatMap wordHex

/-- The first 16 hexadecimal digits of a digest. -/
def short (digest : Digest) : Text :=
  digest.hex.take 16

end Digest

end PropertyKeys

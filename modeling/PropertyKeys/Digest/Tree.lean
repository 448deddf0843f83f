import PropertyKeys.Digest.Compression

/-!
# The tree of chunks

The bytes of a document are cut into chunks of 1024 bytes, and each chunk into blocks of 64. The
blocks of a chunk are compressed one after the other. Neighbouring results are compressed in pairs
until one is left; a result without a neighbour goes up as it is. The last compression of all is
marked as the root.

## Main definitions

* `Digest.Tree.leaf`: the last compression of a chunk.
* `Digest.Tree.root`: the last compression of all.
-/

namespace PropertyKeys.Digest.Tree

open Compression

/-- The flag of the first block of a chunk. -/
def chunkStart : UInt32 := 1

/-- The flag of the last block of a chunk. -/
def chunkEnd : UInt32 := 2

/-- The flag of a compression of two results. -/
def pairFlag : UInt32 := 4

/-- The flag of the last compression of all. -/
def rootFlag : UInt32 := 8

/-- Bytes cut into at most `fuel + 1` pieces of `size` bytes. Only the last piece may be shorter,
and there is a piece even if there are no bytes. -/
def piecesWithin (size : Nat) : (fuel : Nat) → Bytes → List Bytes
  | 0, bytes => [bytes]
  | fuel + 1, bytes =>
    match bytes.drop size with
    | [] => [bytes]
    | rest => bytes.take size :: piecesWithin size fuel rest

/-- Bytes cut into pieces of `size` bytes. -/
def pieces (size : Nat) (bytes : Bytes) : List Bytes :=
  piecesWithin size bytes.length bytes

/-- The last compression of a chunk of which the given blocks are left. -/
def lastBlock (number : UInt64) (chaining : Chaining) (flags : UInt32) : List Bytes → Input
  | [] => ⟨chaining, words [], number, 0, flags ||| chunkEnd⟩
  | [block] => ⟨chaining, words block, number, block.length.toUInt32, flags ||| chunkEnd⟩
  | block :: blocks =>
    let chaining := compress ⟨chaining, words block, number, block.length.toUInt32, flags⟩
    lastBlock number chaining 0 blocks

/-- The last compression of the chunk with the given number. -/
def leaf (number : Nat) (chunk : Bytes) : Input :=
  lastBlock number.toUInt64 initial chunkStart (pieces 64 chunk)

/-- The compression of two results. -/
def pair (left right : Input) : Input :=
  { chaining := initial
    block := compress left ++ compress right
    counter := 0
    size := 64
    flags := pairFlag }

/-- Neighbouring compressions joined in pairs. -/
def joinPairs : List Input → List Input
  | left :: right :: rest => pair left right :: joinPairs rest
  | rest => rest

/-- The last compression of a tree with the given leaves, at most `fuel` levels up. -/
def top (fuel : Nat) (leaves : List Input) : Input :=
  match fuel, leaves with
  | fuel + 1, left :: right :: rest => top fuel (joinPairs (left :: right :: rest))
  | _, only :: _ => only
  | _, [] => leaf 0 []

/-- The last compression of all, marked as the root. -/
def root (bytes : Bytes) : Input :=
  let leaves := (pieces 1024 bytes).mapIdx leaf
  let last := top leaves.length leaves
  { last with flags := last.flags ||| rootFlag }

end PropertyKeys.Digest.Tree

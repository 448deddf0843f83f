import PropertyKeys.Text.Utf8

/-!
# Compression of blocks

A block is 64 bytes, read as sixteen words of 32 bits, low byte first. Compression mixes a block
into a chaining value of eight words: seven rounds of additions, rotations and exclusive ors, with
the words of the block reordered between the rounds. A counter, the length of the block and flags
that tell the block's place enter as well.

## Main definitions

* `Digest.Compression.words`: the words of a block.
* `Digest.Compression.compress`: the chaining value after a block.
-/

namespace PropertyKeys.Digest.Compression

/-- Eight words: the state between blocks. -/
abbrev Chaining := Vector UInt32 8

/-- Sixteen words: a block, or the state inside a compression. -/
abbrev Words := Vector UInt32 16

/-- The words that compression starts from. -/
def initial : Chaining :=
  #v[0x6A09E667, 0xBB67AE85, 0x3C6EF372, 0xA54FF53A, 0x510E527F, 0x9B05688C, 0x1F83D9AB, 0x5BE0CD19]

/-- The word that up to four bytes make, low byte first. Missing bytes are zero. -/
def word (bytes : Bytes) : UInt32 :=
  bytes.foldr (fun byte rest => byte.toUInt32 ||| rest <<< 8) 0

/-- The words of a block of at most 64 bytes. Missing bytes are zero. -/
def words (block : Bytes) : Words :=
  Vector.ofFn fun i => word ((block.drop (4 * i.val)).take 4)

/-- A word rotated to the right. -/
def rotateRight (x : UInt32) (n : UInt32) : UInt32 :=
  x >>> n ||| x <<< (32 - n)

/-- Four words of the state mixed with two words of the block. -/
def mix (state : Words) (a b c d : Fin 16) (x y : UInt32) : Words :=
  let va := state[a] + state[b] + x
  let vd := rotateRight (state[d] ^^^ va) 16
  let vc := state[c] + vd
  let vb := rotateRight (state[b] ^^^ vc) 12
  let va := va + vb + y
  let vd := rotateRight (vd ^^^ va) 8
  let vc := vc + vd
  let vb := rotateRight (vb ^^^ vc) 7
  (((state.set a va).set b vb).set c vc).set d vd

/-- One round: the columns of the state are mixed, and then its diagonals. -/
def round (state block : Words) : Words :=
  let state := mix state 0 4 8 12 block[0] block[1]
  let state := mix state 1 5 9 13 block[2] block[3]
  let state := mix state 2 6 10 14 block[4] block[5]
  let state := mix state 3 7 11 15 block[6] block[7]
  let state := mix state 0 5 10 15 block[8] block[9]
  let state := mix state 1 6 11 12 block[10] block[11]
  let state := mix state 2 7 8 13 block[12] block[13]
  mix state 3 4 9 14 block[14] block[15]

/-- The places from which the words of a block are taken for the next round. -/
def order : Vector (Fin 16) 16 :=
  #v[2, 6, 3, 10, 7, 0, 4, 13, 1, 11, 12, 5, 9, 14, 15, 8]

/-- The words of a block in the order of the next round. -/
def reorder (block : Words) : Words :=
  order.map fun place => block[place]

/-- The state after some rounds. -/
def rounds : (count : Nat) → (state block : Words) → Words
  | 0, state, _ => state
  | count + 1, state, block => rounds count (round state block) (reorder block)

/-- What is compressed: a block with the chaining value before it, and what tells its place. -/
structure Input where
  chaining : Chaining
  block : Words
  counter : UInt64
  size : UInt32
  flags : UInt32

/-- The state before the first round. -/
def Input.start (input : Input) : Words :=
  input.chaining ++
    (#v[initial[0], initial[1], initial[2], initial[3], input.counter.toUInt32,
      (input.counter >>> 32).toUInt32, input.size, input.flags] : Chaining)

/-- The chaining value after a block. -/
def compress (input : Input) : Chaining :=
  let state := rounds 7 input.start input.block
  Vector.ofFn fun i : Fin 8 => state[i.val] ^^^ state[i.val + 8]

end PropertyKeys.Digest.Compression

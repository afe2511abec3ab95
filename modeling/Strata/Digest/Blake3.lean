import Strata.Text.Utf8

/-!
# The BLAKE3 digest

The unkeyed 32-byte digest of a sequence of bytes. Input is cut into chunks of 1024 bytes and chunks
into blocks of 64. A chunk chains the compression function over its blocks; chunks are then joined
in a binary tree whose left subtrees hold the largest power of two of chunks that leaves something
for the right. The node at the top is compressed once more with the root flag.
-/

namespace Strata.Digest.Blake3

/-- The eight words that a node passes up. -/
abbrev Chain := Vector UInt32 8

/-- Sixteen words: a block of input, or the state of the compression function. -/
abbrev Block := Vector UInt32 16

/-- The initial chaining words. -/
def start : Chain := #v[
  0x6a09e667, 0xbb67ae85, 0x3c6ef372, 0xa54ff53a, 0x510e527f, 0x9b05688c, 0x1f83d9ab, 0x5be0cd19]

/-- Where each word of the next round's block is taken from. -/
def permutation : Vector (Fin 16) 16 := #v[2, 6, 3, 10, 7, 0, 4, 13, 1, 11, 12, 5, 9, 14, 15, 8]

/-- Set on the first block of a chunk. -/
def chunkStart : UInt32 := 1

/-- Set on the last block of a chunk. -/
def chunkEnd : UInt32 := 2

/-- Set on a node that joins two subtrees. -/
def parent : UInt32 := 4

/-- Set on the node at the top. -/
def root : UInt32 := 8

/-- A word rotated right by `n` bits, for `n` between 1 and 31. -/
def rotateRight (w : UInt32) (n : UInt32) : UInt32 := (w >>> n) ||| (w <<< (32 - n))

/-- Mixes two words of the block into four words of the state. -/
def mix (s : Block) (a b c d : Fin 16) (x y : UInt32) : Block :=
  let a₁ := s[a] + s[b] + x
  let d₁ := rotateRight (s[d] ^^^ a₁) 16
  let c₁ := s[c] + d₁
  let b₁ := rotateRight (s[b] ^^^ c₁) 12
  let a₂ := a₁ + b₁ + y
  let d₂ := rotateRight (d₁ ^^^ a₂) 8
  let c₂ := c₁ + d₂
  let b₂ := rotateRight (b₁ ^^^ c₂) 7
  (((s.set a a₂).set b b₂).set c c₂).set d d₂

/-- One round: the four columns of the state, then its four diagonals. -/
def round (s m : Block) : Block :=
  let s := mix s 0 4 8 12 m[0] m[1]
  let s := mix s 1 5 9 13 m[2] m[3]
  let s := mix s 2 6 10 14 m[4] m[5]
  let s := mix s 3 7 11 15 m[6] m[7]
  -- The diagonals, from the four words of the top row.
  let s := mix s 0 5 10 15 m[8] m[9]
  let s := mix s 1 6 11 12 m[10] m[11]
  let s := mix s 2 7 8 13 m[12] m[13]
  mix s 3 4 9 14 m[14] m[15]

/-- The block of the next round. -/
def permute (m : Block) : Block := permutation.map fun i => m[i]

/-- Runs a number of rounds, permuting the block between them. -/
def rounds : Nat → Block → Block → Block
  | 0, s, _ => s
  | n + 1, s, m => rounds n (round s m) (permute m)

/-- A node before its compression: everything that the compression reads. -/
structure Node where
  /-- The chaining words that come in. -/
  chain : Chain
  /-- The words of the block. -/
  block : Block
  /-- The index of the chunk; zero for a parent. -/
  counter : Nat
  /-- How many bytes of the block are input. -/
  length : UInt32
  /-- The flags of the node. -/
  flags : UInt32

namespace Node

/-- The eight words that the compression of a node gives. -/
def compress (n : Node) : Chain :=
  let h := n.chain
  let s := rounds 7
    #v[h[0], h[1], h[2], h[3], h[4], h[5], h[6], h[7], start[0], start[1], start[2], start[3],
      UInt32.ofNat n.counter, UInt32.ofNat (n.counter / 0x100000000), n.length, n.flags] n.block
  Vector.ofFn fun i : Fin 8 => s[i.val] ^^^ s[i.val + 8]

/-- The node that joins two subtrees. -/
def join (left right : Node) : Node :=
  ⟨start, left.compress ++ right.compress, 0, 64, parent⟩

end Node

/-- The little-endian word of four bytes; missing bytes are zero. -/
def word (bytes : Bytes) (i : Nat) : UInt32 :=
  let byte (j : Nat) : UInt32 := (bytes.getD (4 * i + j) 0).toUInt32
  byte 0 ||| byte 1 <<< 8 ||| byte 2 <<< 16 ||| byte 3 <<< 24

/-- The four bytes of a word, least significant first. -/
def wordBytes (w : UInt32) : Bytes :=
  [w.toUInt8, (w >>> 8).toUInt8, (w >>> 16).toUInt8, (w >>> 24).toUInt8]

/-- The words of up to 64 bytes of input. -/
def blockOf (bytes : Bytes) : Block := Vector.ofFn fun i => word bytes i

/-- Chains over the blocks of a chunk. `flags` marks the first block, and the node of the last block
is left uncompressed. `count` is a bound on the number of further blocks. -/
def chunkFrom (counter : Nat) : Nat → UInt32 → Chain → Bytes → Node
  | count + 1, flags, chain, bytes =>
    if bytes.length ≤ 64 then
      ⟨chain, blockOf bytes, counter, UInt32.ofNat bytes.length, flags ||| chunkEnd⟩
    else
      let node : Node := ⟨chain, blockOf (bytes.take 64), counter, 64, flags⟩
      chunkFrom counter count 0 node.compress (bytes.drop 64)
  | 0, flags, chain, bytes =>
    ⟨chain, blockOf bytes, counter, UInt32.ofNat bytes.length, flags ||| chunkEnd⟩

/-- The node of a chunk of at most 1024 bytes. -/
def chunk (counter : Nat) (bytes : Bytes) : Node := chunkFrom counter 15 chunkStart start bytes

/-- How many bytes of an input of more than one chunk go to the left subtree. -/
def leftLength (length : Nat) : Nat := 1024 <<< ((length - 1) / 1024).log2

/-- The node over an input whose first chunk has the given index. `depth` bounds the height of the
tree. -/
def tree : Nat → Nat → Bytes → Node
  | 0, counter, bytes => chunk counter bytes
  | depth + 1, counter, bytes =>
    if bytes.length ≤ 1024 then chunk counter bytes
    else
      -- The right subtree counts its chunks on from those of the left one.
      let left := leftLength bytes.length
      (tree depth counter (bytes.take left)).join
        (tree depth (counter + left / 1024) (bytes.drop left))

/-- The digest of a sequence of bytes. -/
def digest (bytes : Bytes) : Bytes :=
  let top := tree (bytes.length.log2 + 1) 0 bytes
  -- At the top the counter numbers the blocks of output, and the digest is the first of them.
  let words := Node.compress { top with flags := top.flags ||| root, counter := 0 }
  words.toList.flatMap wordBytes

end Strata.Digest.Blake3

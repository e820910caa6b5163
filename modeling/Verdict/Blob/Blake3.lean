import Verdict.Blob.Varint

/-!
# The BLAKE3 hash

The hash of a run of bytes is the root of a tree: bytes are cut into chunks of 1024, a chunk into
blocks of 64, and chunks are joined in pairs, the left side of a pair being the largest full tree
that leaves something for the right.

* `compress`: the compression of one block;
* `Node`: a node of the tree before its last compression;
* `chunkNode`, `treeNode`: the node of a chunk and of several chunks;
* `blake3`: the hash, in 32 bytes.
-/

namespace Verdict.Blob.Blake3

/-- Eight words: what is passed from block to block and from node to node. -/
abbrev Chain := Vector UInt32 8

/-- A block of sixteen words; also the state of a compression. -/
abbrev Block := Vector UInt32 16

/-- The words from which every chain starts. -/
def initialChain : Chain :=
  #v[0x6A09E667, 0xBB67AE85, 0x3C6EF372, 0xA54FF53A, 0x510E527F, 0x9B05688C, 0x1F83D9AB, 0x5BE0CD19]

/-- The order in which a round takes the words that the round before took in order. -/
def schedule : Vector (Fin 16) 16 := #v[2, 6, 3, 10, 7, 0, 4, 13, 1, 11, 12, 5, 9, 14, 15, 8]

/-- Marks the first block of a chunk. -/
def chunkStart : UInt32 := 1

/-- Marks the last block of a chunk. -/
def chunkEnd : UInt32 := 2

/-- Marks a node that joins two others. -/
def parent : UInt32 := 4

/-- Marks the root. -/
def root : UInt32 := 8

/-- Rotates a word to the right. -/
def rotateRight (x : UInt32) (n : UInt32) : UInt32 := (x >>> n) ||| (x <<< (32 - n))

/-- Mixes two words of a block into four words of the state. -/
def mix (v : Block) (a b c d : Fin 16) (x y : UInt32) : Block :=
  let v := v.set a (v[a] + v[b] + x)
  let v := v.set d (rotateRight (v[d] ^^^ v[a]) 16)
  let v := v.set c (v[c] + v[d])
  let v := v.set b (rotateRight (v[b] ^^^ v[c]) 12)
  let v := v.set a (v[a] + v[b] + y)
  let v := v.set d (rotateRight (v[d] ^^^ v[a]) 8)
  let v := v.set c (v[c] + v[d])
  v.set b (rotateRight (v[b] ^^^ v[c]) 7)

/-- One round: the columns of the state, then its diagonals. -/
def round (v m : Block) : Block :=
  let v := mix v 0 4 8 12 m[0] m[1]
  let v := mix v 1 5 9 13 m[2] m[3]
  let v := mix v 2 6 10 14 m[4] m[5]
  let v := mix v 3 7 11 15 m[6] m[7]
  let v := mix v 0 5 10 15 m[8] m[9]
  let v := mix v 1 6 11 12 m[10] m[11]
  let v := mix v 2 7 8 13 m[12] m[13]
  mix v 3 4 9 14 m[14] m[15]

/-- The given number of rounds, each with the words in a new order. -/
def rounds : Nat → Block → Block → Block
  | 0, v, _ => v
  | n + 1, v, m => rounds n (round v m) (schedule.map fun i => m[i])

/-- A node of the tree before its last compression. -/
structure Node where
  chain : Chain
  block : Block
  counter : UInt64
  length : UInt32
  flags : UInt32

/-- The compression of a node. -/
def compress (n : Node) : Chain :=
  let h := n.chain
  let v : Block := #v[h[0], h[1], h[2], h[3], h[4], h[5], h[6], h[7],
    initialChain[0], initialChain[1], initialChain[2], initialChain[3],
    n.counter.toUInt32, (n.counter >>> 32).toUInt32, n.length, n.flags]
  let v := rounds 7 v n.block
  Vector.ofFn fun i => v.get ⟨i.val, by omega⟩ ^^^ v.get ⟨i.val + 8, by omega⟩

/-- The block of at most 64 bytes, filled up with zeros. -/
def blockOfBytes (bytes : Bytes) : Block :=
  Vector.ofFn fun i => UInt32.ofNat (fromLittleEndian ((bytes.drop (4 * i.val)).take 4))

/-- The last node of a chunk, from the blocks that are left; `flags` marks the next of them. -/
def chunkNode (counter : UInt64) (chain : Chain) (flags : UInt32) (bytes : Bytes) : Node :=
  if 64 < bytes.length then
    let node : Node := ⟨chain, blockOfBytes (bytes.take 64), counter, 64, flags⟩
    chunkNode counter (compress node) 0 (bytes.drop 64)
  else ⟨chain, blockOfBytes bytes, counter, UInt32.ofNat bytes.length, flags ||| chunkEnd⟩
termination_by bytes.length
decreasing_by simp; omega

/-- The node that joins two others. -/
def parentNode (left right : Chain) : Node :=
  ⟨initialChain, left ++ right, 0, 64, parent⟩

/-- The number of bytes on the left side of the top pair over `n` bytes: as many chunks as the
    largest power of two that leaves something for the right. -/
def leftLength (n : Nat) : Nat := (1 <<< Nat.log2 ((n + 1023) / 1024 - 1)) * 1024

theorem leftLength_pos (n : Nat) : 0 < leftLength n :=
  Nat.mul_pos (Nat.one_shiftLeft _ ▸ Nat.two_pow_pos _) (by decide)

theorem leftLength_lt {n : Nat} (h : 1024 < n) : leftLength n < n := by
  have := Nat.log2_self_le (n := (n + 1023) / 1024 - 1) (by omega)
  simp only [leftLength, Nat.one_shiftLeft]
  omega

/-- The top node over the given bytes, the first chunk of which has the number `counter`. -/
def treeNode (counter : Nat) (bytes : Bytes) : Node :=
  if _long : 1024 < bytes.length then
    let left := leftLength bytes.length
    parentNode (compress (treeNode counter (bytes.take left)))
      (compress (treeNode (counter + left / 1024) (bytes.drop left)))
  else chunkNode (UInt64.ofNat counter) initialChain chunkStart bytes
termination_by bytes.length
decreasing_by
  · have := leftLength_lt _long
    simp only [List.length_take]
    omega
  · have := leftLength_pos bytes.length
    simp only [List.length_drop]
    omega

end Blake3

/-- The BLAKE3 hash of a run of bytes. -/
def blake3 (bytes : Bytes) : Bytes :=
  let node := Blake3.treeNode 0 bytes
  let top := Blake3.compress { node with flags := node.flags ||| Blake3.root }
  top.toList.flatMap fun word => littleEndian 4 word.toNat

end Verdict.Blob

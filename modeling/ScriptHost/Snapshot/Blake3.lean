/-!
# The BLAKE3 digest

The 32-byte digest of a row of bytes. The bytes are cut into chunks of 1024 bytes and a chunk into
blocks of 64 bytes. The blocks of a chunk are compressed one after the other; the chunks are the
leaves of a binary tree whose left subtrees are the largest full ones that leave something to the
right. The last compression of the whole is marked as the root.

## Main definitions

* `ScriptHost.Blake3.compress` — the compression of one block.
* `ScriptHost.Blake3.tree` — the node above a row of bytes.
* `ScriptHost.Blake3.digest` — the digest.
-/

namespace ScriptHost.Blake3

/-- Eight words, the value that is chained from block to block. -/
abbrev Chain := Vector UInt32 8

/-- Sixteen words, a block or the state of a compression. -/
abbrev Words := Vector UInt32 16

/-- The first chained value. -/
def initial : Chain :=
  #v[0x6A09E667, 0xBB67AE85, 0x3C6EF372, 0xA54FF53A, 0x510E527F, 0x9B05688C, 0x1F83D9AB,
    0x5BE0CD19]

/-- The order in which a round takes the words that the round before took in order. -/
def schedule : Vector (Fin 16) 16 :=
  #v[2, 6, 3, 10, 7, 0, 4, 13, 1, 11, 12, 5, 9, 14, 15, 8]

/-- The mark of a chunk's first block. -/
def chunkStart : UInt32 := 1

/-- The mark of a chunk's last block. -/
def chunkEnd : UInt32 := 2

/-- The mark of a node above two others. -/
def parentMark : UInt32 := 4

/-- The mark of the last compression. -/
def rootMark : UInt32 := 8

/-! ## Compression -/

/-- A word turned to the right. -/
def turnRight (w : UInt32) (n : UInt32) : UInt32 :=
  (w >>> n) ||| (w <<< (32 - n))

/-- Mixes two words of the block into four words of the state. -/
def mix (s : Words) (a b c d : Fin 16) (x y : UInt32) : Words :=
  let wa := s.get a + s.get b + x
  let wd := turnRight (s.get d ^^^ wa) 16
  let wc := s.get c + wd
  let wb := turnRight (s.get b ^^^ wc) 12
  let wa := wa + wb + y
  let wd := turnRight (wd ^^^ wa) 8
  let wc := wc + wd
  let wb := turnRight (wb ^^^ wc) 7
  (((s.set a wa).set b wb).set c wc).set d wd

/-- A round: mixes the columns and then the diagonals of the state. -/
def round (s m : Words) : Words :=
  let s := mix s 0 4 8 12 (m.get 0) (m.get 1)
  let s := mix s 1 5 9 13 (m.get 2) (m.get 3)
  let s := mix s 2 6 10 14 (m.get 4) (m.get 5)
  let s := mix s 3 7 11 15 (m.get 6) (m.get 7)
  let s := mix s 0 5 10 15 (m.get 8) (m.get 9)
  let s := mix s 1 6 11 12 (m.get 10) (m.get 11)
  let s := mix s 2 7 8 13 (m.get 12) (m.get 13)
  mix s 3 4 9 14 (m.get 14) (m.get 15)

/-- The block in the order of the next round. -/
def permute (m : Words) : Words :=
  schedule.map m.get

/-- Rounds on a state, the block permuted between them. -/
def rounds : Nat → Words → Words → Words
  | 0, s, _ => s
  | n + 1, s, m => rounds n (round s m) (permute m)

/-- The chained value after a block. -/
def compress (chain : Chain) (block : Words) (counter : UInt64) (size flags : UInt32) : Chain :=
  let start : Words :=
    (chain ++ (#v[initial[0], initial[1], initial[2], initial[3], counter.toUInt32,
      (counter >>> 32).toUInt32, size, flags] : Chain)).cast (by decide)
  let s := rounds 7 start block
  Vector.ofFn fun (i : Fin 8) => s[i.val] ^^^ s[i.val + 8]

/-! ## The tree -/

/-- A compression that has not been done yet. -/
structure Node where
  /-- The chained value before it. -/
  chain : Chain
  /-- The block. -/
  block : Words
  /-- The number of the chunk. -/
  counter : UInt64
  /-- The number of bytes in the block. -/
  size : UInt32
  /-- The marks. -/
  flags : UInt32

/-- The chained value of a node inside the tree. -/
def Node.value (n : Node) : Chain :=
  compress n.chain n.block n.counter n.size n.flags

/-- The chained value of the node at the root. -/
def Node.rootValue (n : Node) : Chain :=
  compress n.chain n.block 0 n.size (n.flags ||| rootMark)

/-- The words of at most 64 bytes, filled up with zeros, the lowest byte of a word first. -/
def wordsOf (bs : List UInt8) : Words :=
  let bytes := bs.toArray
  let byte (i : Nat) : UInt32 := (bytes.getD i 0).toUInt32
  Vector.ofFn fun (i : Fin 16) =>
    let k := 4 * i.val
    byte k ||| (byte (k + 1) <<< 8) ||| (byte (k + 2) <<< 16) ||| (byte (k + 3) <<< 24)

/-- The node of a chunk that goes on with some bytes. -/
def chunkFrom (counter : UInt64) (chain : Chain) (flags : UInt32) (bs : List UInt8) : Node :=
  let size := (min bs.length 64).toUInt32
  if bs.length ≤ 64 then
    { chain, block := wordsOf bs, counter, size, flags := flags ||| chunkEnd }
  else
    chunkFrom counter (compress chain (wordsOf (bs.take 64)) counter size flags) 0 (bs.drop 64)
termination_by bs.length
decreasing_by
  rw [List.length_drop]
  omega

/-- The node of a chunk. -/
def chunk (counter : UInt64) (bs : List UInt8) : Node :=
  chunkFrom counter initial chunkStart bs

/-- The node above two nodes. -/
def parent (left right : Node) : Node :=
  { chain := initial, block := (left.value ++ right.value).cast (by decide), counter := 0
    size := 64, flags := parentMark }

/-- The number of bytes in the left subtree: the greatest power of two of chunks that leaves at
least one byte to the right. -/
def leftSize (size : Nat) : Nat :=
  1024 * Nat.pow 2 ((size - 1) / 1024).log2

/-- Both subtrees of more than one chunk are smaller. -/
theorem leftSize_bounds {size : Nat} (h : 1024 < size) :
    0 < leftSize size ∧ leftSize size < size := by
  have hk : (size - 1) / 1024 ≠ 0 := by omega
  have hle := Nat.log2_self_le hk
  have hpos : 0 < Nat.pow 2 ((size - 1) / 1024).log2 := Nat.two_pow_pos _
  have hpow : Nat.pow 2 ((size - 1) / 1024).log2 ≤ (size - 1) / 1024 := hle
  unfold leftSize
  omega

/-- The node above a row of bytes whose first chunk has a number. -/
def tree (counter : UInt64) (bs : List UInt8) : Node :=
  if _h : bs.length ≤ 1024 then chunk counter bs
  else
    let n := leftSize bs.length
    parent (tree counter (bs.take n)) (tree (counter + (n / 1024).toUInt64) (bs.drop n))
termination_by bs.length
decreasing_by
  · have := leftSize_bounds (Nat.lt_of_not_le _h)
    simp only [List.length_take]
    omega
  · have := leftSize_bounds (Nat.lt_of_not_le _h)
    simp only [List.length_drop]
    omega

/-- The digest of a row of bytes. -/
def digest (bs : List UInt8) : Vector UInt8 32 :=
  let root := (tree 0 bs).rootValue
  Vector.ofFn fun (i : Fin 32) =>
    (root[i.val / 4] >>> (8 * (i.val % 4)).toUInt32).toUInt8

end ScriptHost.Blake3

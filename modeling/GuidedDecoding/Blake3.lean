/-!
# The BLAKE3 hash

The input is cut into chunks of 1024 bytes, each chunk into blocks of 64 bytes. The blocks of a
chunk are compressed in a row, and the chunks are joined pairwise in a binary tree whose left
part is as large a complete tree as fits. The root is compressed once more under its own flag.
-/

namespace GuidedDecoding

namespace Blake3

/-- The initial chaining value. -/
def initial : Array UInt32 :=
  #[0x6A09E667, 0xBB67AE85, 0x3C6EF372, 0xA54FF53A, 0x510E527F, 0x9B05688C, 0x1F83D9AB, 0x5BE0CD19]

/-- Where each message word goes for the next round. -/
def permutation : Array Nat := #[2, 6, 3, 10, 7, 0, 4, 13, 1, 11, 12, 5, 9, 14, 15, 8]

def chunkStart : UInt32 := 1
def chunkEnd : UInt32 := 2
def parent : UInt32 := 4
def root : UInt32 := 8

/-- Bytes in a block. -/
def blockSize : Nat := 64

/-- Bytes in a chunk. -/
def chunkSize : Nat := 1024

/-- Rotate a word to the right. -/
def rotate (x : UInt32) (n : UInt32) : UInt32 := (x >>> n) ||| (x <<< (32 - n))

/-- Mix two message words into four words of the state. -/
def mix (v : Array UInt32) (a b c d : Nat) (x y : UInt32) : Array UInt32 :=
  let old := fun i => v.getD i 0
  let a₁ := old a + old b + x
  let d₁ := rotate (old d ^^^ a₁) 16
  let c₁ := old c + d₁
  let b₁ := rotate (old b ^^^ c₁) 12
  let a₂ := a₁ + b₁ + y
  let d₂ := rotate (d₁ ^^^ a₂) 8
  let c₂ := c₁ + d₂
  let b₂ := rotate (b₁ ^^^ c₂) 7
  (((v.setIfInBounds a a₂).setIfInBounds b b₂).setIfInBounds c c₂).setIfInBounds d d₂

/-- One round: the columns of the state, then its diagonals. -/
def round (v m : Array UInt32) : Array UInt32 :=
  let w := fun i => m.getD i 0
  let v := mix v 0 4 8 12 (w 0) (w 1)
  let v := mix v 1 5 9 13 (w 2) (w 3)
  let v := mix v 2 6 10 14 (w 4) (w 5)
  let v := mix v 3 7 11 15 (w 6) (w 7)
  let v := mix v 0 5 10 15 (w 8) (w 9)
  let v := mix v 1 6 11 12 (w 10) (w 11)
  let v := mix v 2 7 8 13 (w 12) (w 13)
  mix v 3 4 9 14 (w 14) (w 15)

/-- The message words in the order of the next round. -/
def permute (m : Array UInt32) : Array UInt32 := permutation.map fun i => m.getD i 0

/-- Several rounds, the message permuted between them. -/
def rounds : Nat → Array UInt32 → Array UInt32 → Array UInt32
  | 0, v, _ => v
  | n + 1, v, m => rounds n (round v m) (permute m)

/-- What is compressed: a chaining value, a block, and where the block stands. -/
structure Node where
  chain : Array UInt32
  block : Array UInt32
  counter : Nat
  length : UInt32
  flags : UInt32

/-- The chaining value that a node yields. -/
def Node.compress (node : Node) : Array UInt32 :=
  let v := node.chain ++ initial.extract 0 4
    ++ #[node.counter.toUInt32, (node.counter >>> 32).toUInt32, node.length, node.flags]
  let v := rounds 7 v node.block
  (Array.range 8).map fun i => v.getD i 0 ^^^ v.getD (i + 8) 0

/-- Four bytes as a word, the least significant byte first. -/
def wordOfBytes : List UInt8 → UInt32
  | [] => 0
  | b :: rest => b.toUInt32 ||| (wordOfBytes rest <<< 8)

/-- A block as sixteen words; what is missing counts as zero. -/
def blockWords (bytes : List UInt8) : Array UInt32 :=
  (Array.range 16).map fun i => wordOfBytes ((bytes.drop (4 * i)).take 4)

/-- The last node of a chunk, whose other blocks are compressed on the way. -/
def chunkNode (counter : Nat) :
    (fuel : Nat) → (chain : Array UInt32) → (flags : UInt32) → List UInt8 → Node
  | 0, chain, flags, bytes =>
    ⟨chain, blockWords bytes, counter, bytes.length.toUInt32, flags ||| chunkEnd⟩
  | fuel + 1, chain, flags, bytes =>
    if bytes.length ≤ blockSize then
      ⟨chain, blockWords bytes, counter, bytes.length.toUInt32, flags ||| chunkEnd⟩
    else
      let node : Node := ⟨chain, blockWords (bytes.take blockSize), counter, 64, flags⟩
      chunkNode counter fuel node.compress 0 (bytes.drop blockSize)

/-- The number of chunks in the left part of a tree over more than one chunk: the largest power
of two below their number. -/
def leftChunks (chunks : Nat) : Nat := 1 <<< Nat.log2 (chunks - 1)

/-- The top node of the tree over some bytes, the first of whose chunks has a number. -/
def treeNode : (fuel : Nat) → (counter : Nat) → List UInt8 → Node
  | 0, counter, bytes => chunkNode counter 16 initial chunkStart bytes
  | fuel + 1, counter, bytes =>
    if bytes.length ≤ chunkSize then chunkNode counter 16 initial chunkStart bytes
    else
      let left := leftChunks ((bytes.length + chunkSize - 1) / chunkSize)
      let l := treeNode fuel counter (bytes.take (left * chunkSize))
      let r := treeNode fuel (counter + left) (bytes.drop (left * chunkSize))
      ⟨initial, l.compress ++ r.compress, 0, 64, parent⟩

/-- The bytes of a word, the least significant one first. -/
def bytesOfWord (w : UInt32) : List UInt8 :=
  [w.toUInt8, (w >>> 8).toUInt8, (w >>> 16).toUInt8, (w >>> 24).toUInt8]

/-- The hash of some bytes, in 32 bytes. -/
def hash (bytes : List UInt8) : List UInt8 :=
  let top := treeNode (Nat.log2 (bytes.length + 1) + 1) 0 bytes
  { top with flags := top.flags ||| root }.compress.toList.flatMap bytesOfWord

theorem length_flatMap_bytesOfWord (words : List UInt32) :
    (words.flatMap bytesOfWord).length = 4 * words.length := by
  induction words with
  | nil => rfl
  | cons w rest ih => simp [bytesOfWord, ih]; omega

theorem length_hash (bytes : List UInt8) : (hash bytes).length = 32 := by
  rw [hash, length_flatMap_bytesOfWord]
  simp [Node.compress]

end Blake3

end GuidedDecoding

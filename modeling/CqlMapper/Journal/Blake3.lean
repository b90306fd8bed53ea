/-!
The BLAKE3 hash with 32 bytes of output. Input is cut into chunks of 1024 bytes and these into
blocks of 64; the chaining values of the chunks are joined in a binary tree whose left part always
holds a power of two of chunks.
-/

namespace CqlMapper.Blake3

abbrev Words := Array UInt32

def initialWords : Words :=
  #[0x6a09e667, 0xbb67ae85, 0x3c6ef372, 0xa54ff53a, 0x510e527f, 0x9b05688c, 0x1f83d9ab, 0x5be0cd19]

def schedule : List Nat :=
  [2, 6, 3, 10, 7, 0, 4, 13, 1, 11, 12, 5, 9, 14, 15, 8]

def word (words : Words) (index : Nat) : UInt32 :=
  words.getD index 0

def rotateRight (value count : UInt32) : UInt32 :=
  (value >>> count) ||| (value <<< (32 - count))

/-- Mixes two words of the message into one column or diagonal of the state. -/
def mix (state : Words) (a b c d : Nat) (x y : UInt32) : Words :=
  let va := word state a + word state b + x
  let vd := rotateRight (word state d ^^^ va) 16
  let vc := word state c + vd
  let vb := rotateRight (word state b ^^^ vc) 12
  let va := va + vb + y
  let vd := rotateRight (vd ^^^ va) 8
  let vc := vc + vd
  let vb := rotateRight (vb ^^^ vc) 7
  (((state.setIfInBounds a va).setIfInBounds b vb).setIfInBounds c vc).setIfInBounds d vd

def round (state message : Words) : Words :=
  let m := word message
  let state := mix state 0 4 8 12 (m 0) (m 1)
  let state := mix state 1 5 9 13 (m 2) (m 3)
  let state := mix state 2 6 10 14 (m 4) (m 5)
  let state := mix state 3 7 11 15 (m 6) (m 7)
  let state := mix state 0 5 10 15 (m 8) (m 9)
  let state := mix state 1 6 11 12 (m 10) (m 11)
  let state := mix state 2 7 8 13 (m 12) (m 13)
  mix state 3 4 9 14 (m 14) (m 15)

def permuted (message : Words) : Words :=
  (schedule.map (word message)).toArray

def rounds : Nat → Words → Words → Words
  | 0, state, _ => state
  | count + 1, state, message => rounds count (round state message) (permuted message)

structure Node where
  chaining : Words
  block : Words
  counter : Nat
  size : Nat
  flags : UInt32

def chunkStart : UInt32 := 1
def chunkEnd : UInt32 := 2
def parent : UInt32 := 4
def root : UInt32 := 8

def Node.compress (node : Node) : Words :=
  let state := node.chaining ++ #[0x6a09e667, 0xbb67ae85, 0x3c6ef372, 0xa54ff53a,
    UInt32.ofNat node.counter, UInt32.ofNat (node.counter >>> 32), UInt32.ofNat node.size,
    node.flags]
  let state := rounds 7 state node.block
  ((List.range 8).map fun index => word state index ^^^ word state (index + 8)).toArray

def littleEndian (bytes : List UInt8) : UInt32 :=
  bytes.foldr (fun byte total => total * 256 + byte.toUInt32) 0

def wordBytes (value : UInt32) : List UInt8 :=
  [value.toUInt8, (value >>> 8).toUInt8, (value >>> 16).toUInt8, (value >>> 24).toUInt8]

/-- Sixteen words of a block, zeros after its end. -/
def blockWords (block : List UInt8) : Words :=
  ((List.range 16).map fun index => littleEndian ((block.drop (4 * index)).take 4)).toArray

/-- Parts of a fixed size; the last may be shorter, and no bytes are one empty part. -/
def parts (size : Nat) : Nat → List UInt8 → List (List UInt8)
  | 0, bytes => [bytes]
  | fuel + 1, bytes =>
    if bytes.length ≤ size then [bytes]
    else bytes.take size :: parts size fuel (bytes.drop size)

def chunkNode (counter : Nat) (chaining : Words) (flags : UInt32) : List (List UInt8) → Node
  | [] => ⟨chaining, blockWords [], counter, 0, flags ||| chunkEnd⟩
  | [block] => ⟨chaining, blockWords block, counter, block.length, flags ||| chunkEnd⟩
  | block :: rest =>
    let node : Node := ⟨chaining, blockWords block, counter, block.length, flags⟩
    chunkNode counter node.compress 0 rest

/-- The greatest power of two below a count of at least two. -/
def leftCount (count : Nat) : Nat :=
  1 <<< (count - 1).log2

/-- The top node of a run of chunks, the first of which has the given number. -/
def treeNode : Nat → Nat → List (List UInt8) → Node
  | 0, counter, chunks => chunkNode counter initialWords chunkStart (chunks.take 1)
  | _ + 1, counter, [] => chunkNode counter initialWords chunkStart []
  | _ + 1, counter, [chunk] =>
    chunkNode counter initialWords chunkStart (parts 64 chunk.length chunk)
  | fuel + 1, counter, chunks =>
    let left := leftCount chunks.length
    let leftNode := treeNode fuel counter (chunks.take left)
    let rightNode := treeNode fuel (counter + left) (chunks.drop left)
    ⟨initialWords, leftNode.compress ++ rightNode.compress, 0, 64, parent⟩

def hash (bytes : List UInt8) : List UInt8 :=
  let chunks := parts 1024 bytes.length bytes
  let top := treeNode (chunks.length + 1) 0 chunks
  let top := { top with counter := 0, flags := top.flags ||| root }
  top.compress.toList.flatMap wordBytes

end CqlMapper.Blake3

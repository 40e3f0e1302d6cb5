import Gazetteer.Bytes

/-!
# The BLAKE3 hash

`Blake3.hash` maps any sequence of bytes to 32 bytes. The input is cut into chunks of 1024 bytes and
each chunk into blocks of 64; a chunk is digested block by block, and the digests of the chunks are
joined in pairs along a binary tree whose left parts are as large as powers of two allow. Flags tell
the first and last block of a chunk, the inner nodes and the root apart, so that no two places of
the tree compute the same function.
-/

set_option autoImplicit false

namespace Gazetteer.Blake3

/-- What one step hands to the next. -/
abbrev Chaining := Vector UInt32 8

/-- Sixteen words: a block of input, or the state that digests it. -/
abbrev Words := Vector UInt32 16

/-! ## One block -/

/-- The chaining value before any input. -/
def start : Chaining :=
  #v[0x6A09E667, 0xBB67AE85, 0x3C6EF372, 0xA54FF53A, 0x510E527F, 0x9B05688C, 0x1F83D9AB, 0x5BE0CD19]

/-- Where each word of a block comes from when a round hands it to the next. -/
def schedule : Vector (Fin 16) 16 :=
  #v[2, 6, 3, 10, 7, 0, 4, 13, 1, 11, 12, 5, 9, 14, 15, 8]

/-- A word rotated to the right by `count` bits, at least one and fewer than all. -/
def rotate (w count : UInt32) : UInt32 := (w >>> count) ||| (w <<< (32 - count))

/-- Mixes two words of input into four words of the state. -/
def mix (s : Words) (a b c d : Fin 16) (x y : UInt32) : Words :=
  let s := s.set a (s[a] + s[b] + x)
  let s := s.set d (rotate (s[d] ^^^ s[a]) 16)
  let s := s.set c (s[c] + s[d])
  let s := s.set b (rotate (s[b] ^^^ s[c]) 12)
  let s := s.set a (s[a] + s[b] + y)
  let s := s.set d (rotate (s[d] ^^^ s[a]) 8)
  let s := s.set c (s[c] + s[d])
  s.set b (rotate (s[b] ^^^ s[c]) 7)

/-- One round: the columns of the state, then its diagonals. -/
def round (s m : Words) : Words :=
  let s := mix s 0 4 8 12 m[0] m[1]
  let s := mix s 1 5 9 13 m[2] m[3]
  let s := mix s 2 6 10 14 m[4] m[5]
  let s := mix s 3 7 11 15 m[6] m[7]
  let s := mix s 0 5 10 15 m[8] m[9]
  let s := mix s 1 6 11 12 m[10] m[11]
  let s := mix s 2 7 8 13 m[12] m[13]
  mix s 3 4 9 14 m[14] m[15]

/-- The given number of rounds, with the block reordered between them. -/
def rounds : Nat → Words → Words → Words
  | 0, s, _ => s
  | n + 1, s, m => rounds n (round s m) (schedule.map fun i => m[i])

/--
Digests one block. `counter` numbers the chunks, `length` is the number of bytes in the block, and
`flags` says where in the tree the block stands.
-/
def compress (cv : Chaining) (block : Words) (counter : Nat) (length flags : UInt32) : Chaining :=
  let s : Words :=
    #v[cv[0], cv[1], cv[2], cv[3], cv[4], cv[5], cv[6], cv[7], start[0], start[1], start[2], start[3],
      UInt32.ofNat counter, UInt32.ofNat (counter >>> 32), length, flags]
  let s := rounds 7 s block
  Vector.ofFn fun i : Fin 8 => s[i.val] ^^^ s[i.val + 8]

/-! ## Chunks -/

/-- Cuts a list into pieces of a given length. The last may be shorter; of nothing there is one. -/
def pieces {α : Type} (size : Nat) (l : List α) : List (List α) :=
  if l.length ≤ size ∨ size = 0 then [l] else l.take size :: pieces size (l.drop size)
termination_by l.length
decreasing_by simp only [List.length_drop]; omega

/-- A block of up to 64 bytes as words, filled up with zeros. -/
def wordsOf (bytes : List UInt8) : Words :=
  Vector.ofFn fun i : Fin 16 => UInt32.ofNat (Bytes.toNat ((bytes.drop (4 * i)).take 4))

def chunkStart : UInt32 := 1
def chunkEnd : UInt32 := 2
def parentNode : UInt32 := 4
def rootNode : UInt32 := 8

/-- Digests the blocks of a chunk. `last` are the flags that only the last block gets. -/
def digestBlocks (counter : Nat) (last : UInt32) (cv : Chaining) (first : UInt32) :
    List (List UInt8) → Chaining
  | [] => cv
  | [block] => compress cv (wordsOf block) counter (UInt32.ofNat block.length) (first ||| last)
  | block :: rest =>
    let cv := compress cv (wordsOf block) counter (UInt32.ofNat block.length) first
    digestBlocks counter last cv 0 rest

/-- Digests a chunk; `root` is the root's flag when there is no other chunk, and else 0. -/
def digestChunk (root : UInt32) (counter : Nat) (chunk : List UInt8) : Chaining :=
  digestBlocks counter (chunkEnd ||| root) start chunkStart (pieces 64 chunk)

/-! ## The tree -/

/-- Joins the digests of two subtrees; `root` is the root's flag or 0. -/
def join (root : UInt32) (left right : Chaining) : Chaining :=
  compress start (left ++ right) 0 64 (parentNode ||| root)

/-- How many of `n` leaves go to the left: the greatest power of two below `n`. -/
def leftLeaves (n : Nat) : Nat := 1 <<< (n - 1).log2

theorem leftLeaves_pos (n : Nat) : 0 < leftLeaves n := by
  simp only [leftLeaves, Nat.one_shiftLeft]
  exact Nat.two_pow_pos _

theorem leftLeaves_lt {n : Nat} (h : 2 ≤ n) : leftLeaves n < n := by
  have := Nat.log2_self_le (n := n - 1) (by omega)
  simp only [leftLeaves, Nat.one_shiftLeft]
  omega

/--
The digest of a tree over at least two leaves, with the root's flag or 0 for its topmost node. A
single leaf is its own digest.
-/
def digestTree (root : UInt32) (leaves : List Chaining) : Chaining :=
  match leaves with
  | [] => start
  | [leaf] => leaf
  | a :: b :: rest =>
    let leaves := a :: b :: rest
    let left := leftLeaves leaves.length
    join root (digestTree 0 (leaves.take left)) (digestTree 0 (leaves.drop left))
termination_by leaves.length
decreasing_by
  all_goals
    have hpos := leftLeaves_pos (a :: b :: rest).length
    have hlt := leftLeaves_lt (n := (a :: b :: rest).length) (by simp)
    simp only [List.length_take, List.length_drop]
    omega

/-- The chaining value at the root of the tree over a whole input. -/
def digest (bytes : List UInt8) : Chaining :=
  match pieces 1024 bytes with
  | [] => digestChunk rootNode 0 []
  | [chunk] => digestChunk rootNode 0 chunk
  | chunks => digestTree rootNode (chunks.mapIdx fun i chunk => digestChunk 0 i chunk)

def hash (bytes : List UInt8) : Vector UInt8 32 :=
  let cv := digest bytes
  Vector.ofFn fun i : Fin 32 => (cv[i.val / 4] >>> UInt32.ofNat (8 * (i.val % 4))).toUInt8

end Gazetteer.Blake3

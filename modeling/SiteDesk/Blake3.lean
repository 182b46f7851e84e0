
/-!
The BLAKE3 hash, 32 bytes long. A text is cut into chunks of 1024 bytes and these into blocks of
64; the chunks are the leaves of a binary tree in which every left subtree is full. The last step
of the tree, left pending as a node, is taken with the root flag.
-/
namespace SiteDesk.Blake3

abbrev Chain := Vector UInt32 8

abbrev Block := Vector UInt32 16

def initial : Chain :=
  #v[0x6A09E667, 0xBB67AE85, 0x3C6EF372, 0xA54FF53A, 0x510E527F, 0x9B05688C, 0x1F83D9AB, 0x5BE0CD19]

def chunkStart : UInt32 := 1

def chunkEnd : UInt32 := 2

def parent : UInt32 := 4

def root : UInt32 := 8

def rotateRight (x n : UInt32) : UInt32 :=
  (x >>> n) ||| (x <<< (32 - n))

def mix (s : Block) (a b c d : Fin 16) (x y : UInt32) : Block :=
  let s := s.set a (s[a] + s[b] + x)
  let s := s.set d (rotateRight (s[d] ^^^ s[a]) 16)
  let s := s.set c (s[c] + s[d])
  let s := s.set b (rotateRight (s[b] ^^^ s[c]) 12)
  let s := s.set a (s[a] + s[b] + y)
  let s := s.set d (rotateRight (s[d] ^^^ s[a]) 8)
  let s := s.set c (s[c] + s[d])
  s.set b (rotateRight (s[b] ^^^ s[c]) 7)

def round (s m : Block) : Block :=
  let s := mix s 0 4 8 12 m[0] m[1]
  let s := mix s 1 5 9 13 m[2] m[3]
  let s := mix s 2 6 10 14 m[4] m[5]
  let s := mix s 3 7 11 15 m[6] m[7]
  let s := mix s 0 5 10 15 m[8] m[9]
  let s := mix s 1 6 11 12 m[10] m[11]
  let s := mix s 2 7 8 13 m[12] m[13]
  mix s 3 4 9 14 m[14] m[15]

def permute (m : Block) : Block :=
  #v[m[2], m[6], m[3], m[10], m[7], m[0], m[4], m[13],
    m[1], m[11], m[12], m[5], m[9], m[14], m[15], m[8]]

def rounds : Nat → Block → Block → Block
  | 0, s, _ => s
  | n + 1, s, m => rounds n (round s m) (permute m)

structure Node where
  chain : Chain
  block : Block
  counter : UInt64
  length : UInt32
  flags : UInt32

def Node.compress (node : Node) (extra : UInt32) : Chain :=
  let chain := node.chain
  let s : Block :=
    #v[chain[0], chain[1], chain[2], chain[3], chain[4], chain[5], chain[6], chain[7],
      initial[0], initial[1], initial[2], initial[3],
      node.counter.toUInt32, (node.counter >>> 32).toUInt32, node.length, node.flags ||| extra]
  let s := rounds 7 s node.block
  Vector.ofFn fun i : Fin 8 => s[i.val] ^^^ s[i.val + 8]

/-- The word written by four bytes, the lowest first; missing bytes are zero. -/
def wordAt (bytes : List UInt8) : UInt32 :=
  (bytes.take 4).foldr (fun byte word => byte.toUInt32 ||| (word <<< 8)) 0

def blockOf (bytes : List UInt8) : Block :=
  Vector.ofFn fun i : Fin 16 => wordAt (bytes.drop (4 * i.val))

/-- The pending last step of a chunk; `flags` marks its first block. -/
def chunk (counter : UInt64) (chain : Chain) (flags : UInt32) (bytes : List UInt8) : Node :=
  if bytes.length ≤ 64 then
    ⟨chain, blockOf bytes, counter, bytes.length.toUInt32, flags ||| chunkEnd⟩
  else
    let node : Node := ⟨chain, blockOf (bytes.take 64), counter, 64, flags⟩
    chunk counter (node.compress 0) 0 (bytes.drop 64)
termination_by bytes.length
decreasing_by simp only [List.length_drop]; omega

/-- Bytes in the left subtree of more than one chunk: the largest full tree that leaves some
bytes over. -/
def leftSize (size : Nat) : Nat :=
  Nat.pow 2 (size - 1).log2

theorem leftSize_lt {size : Nat} (h : 1 < size) : leftSize size < size := by
  have hn : size - 1 ≠ 0 := by omega
  exact Nat.lt_of_le_of_lt (Nat.log2_self_le hn) (by omega)

theorem leftSize_pos (size : Nat) : 0 < leftSize size :=
  Nat.pow_pos (by decide)

/-- The pending last step of a tree whose first chunk has a given number. -/
def tree (counter : Nat) (bytes : List UInt8) : Node :=
  if bytes.length ≤ 1024 then chunk counter.toUInt64 initial chunkStart bytes
  else
    let size := leftSize bytes.length
    let left := tree counter (bytes.take size)
    let right := tree (counter + size / 1024) (bytes.drop size)
    ⟨initial, left.compress 0 ++ right.compress 0, 0, 64, parent⟩
termination_by bytes.length
decreasing_by
  · have h : leftSize bytes.length < bytes.length := leftSize_lt (by omega)
    simp only [List.length_take]
    omega
  · have := leftSize_pos bytes.length
    simp only [List.length_drop]
    omega

/-- The four bytes of a word, the lowest first. -/
def bytesOf (word : UInt32) : List UInt8 :=
  [word.toUInt8, (word >>> 8).toUInt8, (word >>> 16).toUInt8, (word >>> 24).toUInt8]

def hash (bytes : List UInt8) : List UInt8 :=
  ((tree 0 bytes).compress root).toList.flatMap bytesOf

def hex (bytes : List UInt8) : List Char :=
  bytes.flatMap fun byte => [Nat.digitChar (byte.toNat / 16), Nat.digitChar (byte.toNat % 16)]

def hexHash (text : String) : String :=
  String.ofList (hex (hash text.toUTF8.toList))

end SiteDesk.Blake3

import PacketProtection.Bytes

/-!
# MD5

The message digest of RFC 1321.  A message is padded to whole blocks of 64
bytes: a byte `0x80`, zeros, and the message length in bits as a little-endian
number of eight bytes.  Each block updates four chaining words through 64
steps, in four rounds of sixteen.
-/

namespace PacketProtection.Md5

/-- The chaining words. -/
structure Words where
  (a b c d : UInt32)
deriving DecidableEq

/-- The chaining words before the first block. -/
def initial : Words :=
  ⟨0x67452301, 0xefcdab89, 0x98badcfe, 0x10325476⟩

/-! ## Steps -/

/-- One of the four rounds: its bit-wise function, the four rotations it cycles
through, and which message word step `i` takes, namely `stride * i + offset`
modulo sixteen. -/
structure Round where
  mix : UInt32 → UInt32 → UInt32 → UInt32
  rotations : List UInt32
  stride : Nat
  offset : Nat

/-- The four rounds. -/
def rounds : List Round :=
  [⟨fun b c d => (b &&& c) ||| (~~~b &&& d), [7, 12, 17, 22], 1, 0⟩,
   ⟨fun b c d => (d &&& b) ||| (~~~d &&& c), [5, 9, 14, 20], 5, 1⟩,
   ⟨fun b c d => b ^^^ c ^^^ d, [4, 11, 16, 23], 3, 5⟩,
   ⟨fun b c d => c ^^^ (b ||| ~~~d), [6, 10, 15, 21], 7, 0⟩]

/-- The constant of each step: the integer part of `2^32 * |sin (i + 1)|`. -/
def sines : List UInt32 :=
  [0xd76aa478, 0xe8c7b756, 0x242070db, 0xc1bdceee,
    0xf57c0faf, 0x4787c62a, 0xa8304613, 0xfd469501,
    0x698098d8, 0x8b44f7af, 0xffff5bb1, 0x895cd7be,
    0x6b901122, 0xfd987193, 0xa679438e, 0x49b40821,
    0xf61e2562, 0xc040b340, 0x265e5a51, 0xe9b6c7aa,
    0xd62f105d, 0x02441453, 0xd8a1e681, 0xe7d3fbc8,
    0x21e1cde6, 0xc33707d6, 0xf4d50d87, 0x455a14ed,
    0xa9e3e905, 0xfcefa3f8, 0x676f02d9, 0x8d2a4c8a,
    0xfffa3942, 0x8771f681, 0x6d9d6122, 0xfde5380c,
    0xa4beea44, 0x4bdecfa9, 0xf6bb4b60, 0xbebfbc70,
    0x289b7ec6, 0xeaa127fa, 0xd4ef3085, 0x04881d05,
    0xd9d4d039, 0xe6db99e5, 0x1fa27cf8, 0xc4ac5665,
    0xf4292244, 0x432aff97, 0xab9423a7, 0xfc93a039,
    0x655b59c3, 0x8f0ccc92, 0xffeff47d, 0x85845dd1,
    0x6fa87e4f, 0xfe2ce6e0, 0xa3014314, 0x4e0811a1,
    0xf7537e82, 0xbd3af235, 0x2ad7d2bb, 0xeb86d391]

/-- Rotation of a word to the left, by less than its width. -/
def rotateLeft (word amount : UInt32) : UInt32 :=
  (word <<< amount) ||| (word >>> (32 - amount))

/-- The message word and the constant that each step of a block adds, with the
round it belongs to and its number in that round. -/
def schedule (block : Array UInt32) : List (Round × Nat × UInt32) :=
  let steps := rounds.flatMap fun round => (List.range 16).map fun i => (round, i)
  List.zipWith
    (fun (round, i) constant =>
      (round, i, constant + block.getD ((round.stride * i + round.offset) % 16) 0))
    steps sines

/-- One step. -/
def step (w : Words) : Round × Nat × UInt32 → Words
  | (round, i, addend) =>
      let turned := rotateLeft (w.a + round.mix w.b w.c w.d + addend)
        (round.rotations.getD (i % 4) 0)
      ⟨w.d, w.b + turned, w.b, w.c⟩

/-! ## Blocks -/

/-- A word from four bytes, the first least significant. -/
def littleEndian (bytes : Bytes) : UInt32 :=
  bytes.foldr (fun byte word => (word <<< 8) ||| byte.toUInt32) 0

/-- The four bytes of a word, the first least significant. -/
def wordBytes (word : UInt32) : Bytes :=
  [word.toUInt8, (word >>> 8).toUInt8, (word >>> 16).toUInt8, (word >>> 24).toUInt8]

/-- Updates the chaining words with a block of 64 bytes. -/
def absorb (w : Words) (block : Bytes) : Words :=
  let words := ((block.chunks 4 16).map littleEndian).toArray
  let mixed := (schedule words).foldl step w
  ⟨w.a + mixed.a, w.b + mixed.b, w.c + mixed.c, w.d + mixed.d⟩

/-- A message followed by its padding. -/
def padded (message : Bytes) : Bytes :=
  message ++ 0x80 :: List.replicate ((119 - message.length % 64) % 64) 0
    ++ (Bytes.ofNat 8 (8 * message.length)).reverse

/-- The digest of a message. -/
def digest (message : Bytes) : Octets 16 :=
  let blocks := (padded message).chunks 64 ((message.length + 72) / 64)
  let w := blocks.foldl absorb initial
  ⟨wordBytes w.a ++ wordBytes w.b ++ wordBytes w.c ++ wordBytes w.d, rfl⟩

/-- The digest of `abc`, as RFC 1321 gives it. -/
example : (digest [0x61, 0x62, 0x63]).toNat = 0x900150983cd24fb0d6963f7d28e17f72 := by
  decide +kernel

end PacketProtection.Md5

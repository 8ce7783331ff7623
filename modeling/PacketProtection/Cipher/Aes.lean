import PacketProtection.Bytes

/-!
# AES-128

The block cipher of FIPS 197 with a key of sixteen bytes, in the encryption
direction only: counter modes never decrypt a block.

The state is four columns of four bytes.  A round substitutes every byte,
rotates row `r` by `r` columns, mixes each column, and adds a round key; the
last round does not mix.  The round keys are the key itself and ten states
derived from it one after the other.
-/

namespace PacketProtection

/-- A block cipher under a key that is already fixed. -/
abbrev BlockCipher := Octets 16 → Octets 16

namespace Aes

/-! ## Bytes -/

/-- The substitution table, indexed by the byte to replace. -/
def substitutionTable : Array UInt8 :=
  #[0x63, 0x7c, 0x77, 0x7b, 0xf2, 0x6b, 0x6f, 0xc5, 0x30, 0x01, 0x67, 0x2b, 0xfe, 0xd7, 0xab, 0x76,
    0xca, 0x82, 0xc9, 0x7d, 0xfa, 0x59, 0x47, 0xf0, 0xad, 0xd4, 0xa2, 0xaf, 0x9c, 0xa4, 0x72, 0xc0,
    0xb7, 0xfd, 0x93, 0x26, 0x36, 0x3f, 0xf7, 0xcc, 0x34, 0xa5, 0xe5, 0xf1, 0x71, 0xd8, 0x31, 0x15,
    0x04, 0xc7, 0x23, 0xc3, 0x18, 0x96, 0x05, 0x9a, 0x07, 0x12, 0x80, 0xe2, 0xeb, 0x27, 0xb2, 0x75,
    0x09, 0x83, 0x2c, 0x1a, 0x1b, 0x6e, 0x5a, 0xa0, 0x52, 0x3b, 0xd6, 0xb3, 0x29, 0xe3, 0x2f, 0x84,
    0x53, 0xd1, 0x00, 0xed, 0x20, 0xfc, 0xb1, 0x5b, 0x6a, 0xcb, 0xbe, 0x39, 0x4a, 0x4c, 0x58, 0xcf,
    0xd0, 0xef, 0xaa, 0xfb, 0x43, 0x4d, 0x33, 0x85, 0x45, 0xf9, 0x02, 0x7f, 0x50, 0x3c, 0x9f, 0xa8,
    0x51, 0xa3, 0x40, 0x8f, 0x92, 0x9d, 0x38, 0xf5, 0xbc, 0xb6, 0xda, 0x21, 0x10, 0xff, 0xf3, 0xd2,
    0xcd, 0x0c, 0x13, 0xec, 0x5f, 0x97, 0x44, 0x17, 0xc4, 0xa7, 0x7e, 0x3d, 0x64, 0x5d, 0x19, 0x73,
    0x60, 0x81, 0x4f, 0xdc, 0x22, 0x2a, 0x90, 0x88, 0x46, 0xee, 0xb8, 0x14, 0xde, 0x5e, 0x0b, 0xdb,
    0xe0, 0x32, 0x3a, 0x0a, 0x49, 0x06, 0x24, 0x5c, 0xc2, 0xd3, 0xac, 0x62, 0x91, 0x95, 0xe4, 0x79,
    0xe7, 0xc8, 0x37, 0x6d, 0x8d, 0xd5, 0x4e, 0xa9, 0x6c, 0x56, 0xf4, 0xea, 0x65, 0x7a, 0xae, 0x08,
    0xba, 0x78, 0x25, 0x2e, 0x1c, 0xa6, 0xb4, 0xc6, 0xe8, 0xdd, 0x74, 0x1f, 0x4b, 0xbd, 0x8b, 0x8a,
    0x70, 0x3e, 0xb5, 0x66, 0x48, 0x03, 0xf6, 0x0e, 0x61, 0x35, 0x57, 0xb9, 0x86, 0xc1, 0x1d, 0x9e,
    0xe1, 0xf8, 0x98, 0x11, 0x69, 0xd9, 0x8e, 0x94, 0x9b, 0x1e, 0x87, 0xe9, 0xce, 0x55, 0x28, 0xdf,
    0x8c, 0xa1, 0x89, 0x0d, 0xbf, 0xe6, 0x42, 0x68, 0x41, 0x99, 0x2d, 0x0f, 0xb0, 0x54, 0xbb, 0x16]

/-- Replaces a byte by its entry in the substitution table. -/
def substitute (byte : UInt8) : UInt8 :=
  substitutionTable.getD byte.toNat 0

/-- Product by two in the field of 256 elements. -/
def double (byte : UInt8) : UInt8 :=
  if byte < 0x80 then byte <<< 1 else (byte <<< 1) ^^^ 0x1b

/-! ## Columns and states -/

/-- A column of the state, or a word of the key schedule. -/
structure Column where
  (b0 b1 b2 b3 : UInt8)
deriving DecidableEq

namespace Column

/-- Sum in the field, byte by byte. -/
def add (x y : Column) : Column :=
  ⟨x.b0 ^^^ y.b0, x.b1 ^^^ y.b1, x.b2 ^^^ y.b2, x.b3 ^^^ y.b3⟩

/-- Substitutes every byte. -/
def substitute (x : Column) : Column :=
  ⟨Aes.substitute x.b0, Aes.substitute x.b1, Aes.substitute x.b2, Aes.substitute x.b3⟩

/-- Moves the first byte to the end. -/
def rotate (x : Column) : Column :=
  ⟨x.b1, x.b2, x.b3, x.b0⟩

/-- Product by the circulant matrix with first row 2, 3, 1, 1. -/
def mix (x : Column) : Column :=
  let total := x.b0 ^^^ x.b1 ^^^ x.b2 ^^^ x.b3
  ⟨x.b0 ^^^ total ^^^ double (x.b0 ^^^ x.b1), x.b1 ^^^ total ^^^ double (x.b1 ^^^ x.b2),
   x.b2 ^^^ total ^^^ double (x.b2 ^^^ x.b3), x.b3 ^^^ total ^^^ double (x.b3 ^^^ x.b0)⟩

end Column

/-- Sixteen bytes, column by column. -/
structure State where
  (c0 c1 c2 c3 : Column)
deriving DecidableEq

namespace State

/-- Applies a function to every column. -/
def map (f : Column → Column) (s : State) : State :=
  ⟨f s.c0, f s.c1, f s.c2, f s.c3⟩

/-- Sum in the field, byte by byte. -/
def add (s t : State) : State :=
  ⟨s.c0.add t.c0, s.c1.add t.c1, s.c2.add t.c2, s.c3.add t.c3⟩

/-- Rotates row `r` by `r` columns to the left. -/
def shiftRows (s : State) : State :=
  ⟨⟨s.c0.b0, s.c1.b1, s.c2.b2, s.c3.b3⟩, ⟨s.c1.b0, s.c2.b1, s.c3.b2, s.c0.b3⟩,
   ⟨s.c2.b0, s.c3.b1, s.c0.b2, s.c1.b3⟩, ⟨s.c3.b0, s.c0.b1, s.c1.b2, s.c2.b3⟩⟩

/-- The bytes of a state, in the order of the block. -/
def toOctets (s : State) : Octets 16 :=
  ⟨[s.c0.b0, s.c0.b1, s.c0.b2, s.c0.b3, s.c1.b0, s.c1.b1, s.c1.b2, s.c1.b3,
    s.c2.b0, s.c2.b1, s.c2.b2, s.c2.b3, s.c3.b0, s.c3.b1, s.c3.b2, s.c3.b3], rfl⟩

/-- The state made of a block. -/
def ofOctets (block : Octets 16) : State :=
  let byte (i : Nat) : UInt8 := block.toList.getD i 0
  ⟨⟨byte 0, byte 1, byte 2, byte 3⟩, ⟨byte 4, byte 5, byte 6, byte 7⟩,
   ⟨byte 8, byte 9, byte 10, byte 11⟩, ⟨byte 12, byte 13, byte 14, byte 15⟩⟩

end State

/-! ## Rounds -/

/-- The key after `key` in the schedule, under a round constant. -/
def nextKey (key : State) (constant : UInt8) : State :=
  let mask := key.c3.rotate.substitute.add ⟨constant, 0, 0, 0⟩
  let c0 := key.c0.add mask
  let c1 := key.c1.add c0
  let c2 := key.c2.add c1
  let c3 := key.c3.add c2
  ⟨c0, c1, c2, c3⟩

/-- The constants of the ten derived keys: the powers of two in the field. -/
def roundConstants : List UInt8 :=
  [0x01, 0x02, 0x04, 0x08, 0x10, 0x20, 0x40, 0x80, 0x1b, 0x36]

/-- The keys derived from `key`, one for each constant. -/
def derivedKeys (key : State) : List UInt8 → List State
  | [] => []
  | constant :: rest =>
      let next := nextKey key constant
      next :: derivedKeys next rest

/-- All rounds after the first key addition; the last one does not mix. -/
def rounds (s : State) : List State → State
  | [] => s
  | [last] => (s.map Column.substitute).shiftRows.add last
  | key :: rest => rounds (((s.map Column.substitute).shiftRows.map Column.mix).add key) rest

/-- AES-128 under a key. -/
def cipher (key : Octets 16) : BlockCipher :=
  let first := State.ofOctets key
  let keys := derivedKeys first roundConstants
  fun block => (rounds ((State.ofOctets block).add first) keys).toOctets

/-- The example vector of FIPS 197, appendix C.1. -/
example :
    (cipher (.ofNat 16 0x000102030405060708090a0b0c0d0e0f)
      (.ofNat 16 0x00112233445566778899aabbccddeeff)).toNat
      = 0x69c4e0d86a7b0430d8cdb78070b4c55a := by
  decide +kernel

end Aes

end PacketProtection

/-!
# Byte strings

Packets, keys and header fields are byte strings, that is lists of bytes.  A
byte string read as a number is big-endian: its first byte weighs most.

Some byte strings have a length fixed by a format: a cipher key, a nonce, an
address.  `Octets n` is a byte string of exactly `n` bytes, so that the length
never has to be checked again after the value was built.
-/

namespace PacketProtection

/-- A byte string of any length. -/
abbrev Bytes := List UInt8

namespace Bytes

/-- The number a byte string stands for, first byte most significant. -/
def toNat (bytes : Bytes) : Nat :=
  bytes.foldl (fun value byte => 256 * value + byte.toNat) 0

/-- The last `width` bytes of the big-endian form of `value`. -/
def ofNat : (width value : Nat) → Bytes
  | 0, _ => []
  | width + 1, value => ofNat width (value / 256) ++ [UInt8.ofNat value]

@[simp] theorem length_ofNat (width value : Nat) : (ofNat width value).length = width := by
  induction width generalizing value with
  | zero => rfl
  | succ width ih => simp [ofNat, ih]

/-- Byte-wise exclusive or, as long as the shorter argument. -/
def xor (left right : Bytes) : Bytes :=
  List.zipWith (· ^^^ ·) left right

@[simp] theorem length_xor (left right : Bytes) :
    (xor left right).length = min left.length right.length := by
  simp [xor]

/-- The first `count` pieces of `size` bytes each; pieces past the end of the
byte string are cut short. -/
def chunks (bytes : Bytes) (size : Nat) : (count : Nat) → List Bytes
  | 0 => []
  | count + 1 => bytes.take size :: chunks (bytes.drop size) size count

/-- The UTF-8 form of a text. -/
def ofString (text : String) : Bytes :=
  text.toUTF8.data.toList

end Bytes

/-! ## Byte strings of a fixed length -/

/-- A byte string of exactly `n` bytes. -/
@[ext] structure Octets (n : Nat) where
  /-- The bytes themselves. -/
  toList : Bytes
  length_toList : toList.length = n
deriving DecidableEq

namespace Octets

attribute [simp] length_toList

/-- A byte string as `Octets`, when it has the right length. -/
def ofList? {n : Nat} (bytes : Bytes) : Option (Octets n) :=
  if h : bytes.length = n then some ⟨bytes, h⟩ else none

/-- The first `n` bytes of a byte string that has at least as many. -/
def first (n : Nat) (bytes : Bytes) (enough : n ≤ bytes.length) : Octets n :=
  ⟨bytes.take n, by simp [enough]⟩

/-- The last `n` bytes of the big-endian form of `value`. -/
def ofNat (n value : Nat) : Octets n :=
  ⟨Bytes.ofNat n value, Bytes.length_ofNat n value⟩

/-- The number the bytes stand for, first byte most significant. -/
def toNat {n : Nat} (octets : Octets n) : Nat :=
  octets.toList.toNat

/-- The same byte `n` times. -/
def replicate (n : Nat) (byte : UInt8) : Octets n :=
  ⟨List.replicate n byte, by simp⟩

/-- The bytes of `left` followed by those of `right`. -/
def append {m n : Nat} (left : Octets m) (right : Octets n) : Octets (m + n) :=
  ⟨left.toList ++ right.toList, by simp⟩

instance {m n : Nat} : HAppend (Octets m) (Octets n) (Octets (m + n)) := ⟨append⟩

@[simp] theorem toList_append {m n : Nat} (left : Octets m) (right : Octets n) :
    (left ++ right).toList = left.toList ++ right.toList := rfl

/-- Byte-wise exclusive or. -/
def xor {n : Nat} (left right : Octets n) : Octets n :=
  ⟨Bytes.xor left.toList right.toList, by simp⟩

end Octets

end PacketProtection

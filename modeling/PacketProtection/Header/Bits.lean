import PacketProtection.Bytes

/-!
# Bit strings

Header fields may start and end inside a byte.  A byte string is then seen as
the string of its bits, most significant first, and a field as a piece of it.
-/

namespace PacketProtection

/-- A bit string, most significant bit first. -/
abbrev Bits := List Bool

namespace Bits

/-- The number a bit string stands for. -/
def toNat (bits : Bits) : Nat :=
  bits.foldl (fun value bit => 2 * value + bit.toNat) 0

/-- The last `width` bits of a number. -/
def ofNat : (width value : Nat) → Bits
  | 0, _ => []
  | width + 1, value => ofNat width (value / 2) ++ [decide (value % 2 = 1)]

@[simp] theorem length_ofNat (width value : Nat) : (ofNat width value).length = width := by
  induction width generalizing value with
  | zero => rfl
  | succ width ih => simp [ofNat, ih]

/-- The bits of a byte string. -/
def ofBytes (bytes : Bytes) : Bits :=
  bytes.flatMap fun byte => ofNat 8 byte.toNat

/-- The bytes of a bit string made of whole bytes. -/
def toBytes (bits : Bits) : Bytes :=
  Bytes.ofNat (bits.length / 8) bits.toNat

/-- The piece of `width` bits at an offset. -/
def slice (bits : Bits) (offset width : Nat) : Bits :=
  (bits.drop offset).take width

/-- Replaces the piece at an offset by another of the same width. -/
def write (bits : Bits) (offset : Nat) (piece : Bits) : Bits :=
  bits.take offset ++ piece ++ bits.drop (offset + piece.length)

end Bits

end PacketProtection

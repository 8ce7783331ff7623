import PacketProtection.Header.Layout

/-!
# Formats of packets

The *fixed part* of a packet is declared by its fields in order, each with its width in
bits; a field starts where the one before it ends.  What follows the fixed part may be of
any length.

*In place.*  A packet is read and changed in the buffer that holds it.  A field may share
its first and its last byte with its neighbours.  It is read from the bytes in which it has
bits, and written by reading these bytes, changing the bits of the field, and putting the
bytes back.
-/

namespace PacketProtection

/-! ## Fields in a buffer -/

namespace BitField

/-- The byte with the first bit of a field. -/
def firstByte (f : BitField) : Nat :=
  f.offset / 8

/-- Number of bytes in which a field has bits. -/
def byteCount (f : BitField) : Nat :=
  (f.offset % 8 + f.width + 7) / 8

/-- The bytes in which a field has bits. -/
def held (f : BitField) (buffer : Bytes) : Bytes :=
  (buffer.drop f.firstByte).take f.byteCount

/-- The number a field holds. -/
def number (f : BitField) (buffer : Bytes) : Nat :=
  ((Bits.ofBytes (f.held buffer)).slice (f.offset % 8) f.width).toNat

/-- The bytes of a field with the last bits of a number in the field. -/
def renewed (f : BitField) (number : Nat) (buffer : Bytes) : Bytes :=
  Bits.toBytes ((Bits.ofBytes (f.held buffer)).write (f.offset % 8) (Bits.ofNat f.width number))

/-- Writes the last bits of a number into a field. -/
def store (f : BitField) (number : Nat) (buffer : Bytes) : Bytes :=
  buffer.take f.firstByte ++ f.renewed number buffer ++ buffer.drop (f.firstByte + f.byteCount)

end BitField

/-! ## Fixed parts -/

namespace View

/-- Fields of these widths, one behind the other from a bit on. -/
def consecutive : (start : Nat) → List (String × Nat) → List BitField
  | _, [] => []
  | start, (name, width) :: rest => ⟨name, start, width⟩ :: consecutive (start + width) rest

/-- Number of bits of fields of these widths. -/
def totalWidth : List (String × Nat) → Nat
  | [] => 0
  | (_, width) :: rest => width + totalWidth rest

/-- The fixed part of a kind of packet. -/
structure Format where
  /-- Names and widths of the fields in order. -/
  widths : List (String × Nat)
deriving DecidableEq, Repr

namespace Format

/-- The fields at their places. -/
def fields (format : Format) : List BitField :=
  consecutive 0 format.widths

/-- Length of the fixed part in bytes. -/
def length (format : Format) : Nat :=
  (totalWidth format.widths + 7) / 8

/-- The first field of a name. -/
def field? (format : Format) (name : String) : Option BitField :=
  format.fields.find? (·.name = name)

end Format

end View

end PacketProtection

import PacketProtection.Fault
import PacketProtection.Header.Bits

/-!
# Header layouts

A layout names the fields of a header and says where each one lies: at a bit
offset from the start of the header, most significant bit first, over a number
of bits.

*Values.*  The value of a field is a byte string, right-aligned and big-endian,
of as many bytes as the bits need.  A value *fits* a field if it has that many
bytes and is below two to the width.
-/

namespace PacketProtection

/-- A field of a header. -/
structure BitField where
  name : String
  /-- Bits between the start of the header and the field. -/
  offset : Nat
  /-- Width in bits. -/
  width : Nat
deriving DecidableEq, Repr

namespace BitField

/-- Width of the field's value in bytes. -/
def byteWidth (f : BitField) : Nat :=
  (f.width + 7) / 8

/-- Refuses a value that does not fit; the number of bytes is looked at first. -/
def check (f : BitField) (value : Bytes) : Except TransformError Unit :=
  if value.length ≠ f.byteWidth then
    .error (.fieldWidth f.name f.byteWidth value.length)
  else if f.width < 64 ∧ Nat.pow 2 f.width ≤ value.toNat then
    .error (.fieldOverflow f.name f.width)
  else .ok ()

/-- The field's value in a packed header. -/
def read (f : BitField) (raw : Bytes) : Bytes :=
  Bytes.ofNat f.byteWidth ((Bits.ofBytes raw).slice f.offset f.width).toNat

end BitField

/-- The layout of a header. -/
structure HeaderLayout where
  name : String
  fields : List BitField
deriving DecidableEq, Repr

namespace HeaderLayout

/-- Number of bits up to the end of the last field. -/
def bitLength (layout : HeaderLayout) : Nat :=
  layout.fields.foldr (fun f rest => max (f.offset + f.width) rest) 0

/-- Length of the packed header in bytes. -/
def length (layout : HeaderLayout) : Nat :=
  (layout.bitLength + 7) / 8

/-- Has the header no bit at all? -/
def isEmpty (layout : HeaderLayout) : Bool :=
  layout.length == 0

/-- The first field of a name. -/
def field? (layout : HeaderLayout) (name : String) : Option BitField :=
  layout.fields.find? (·.name = name)

/-! ## The layouts of the pipeline -/

/-- The IPv4 header without options (RFC 791), its second byte kept whole. -/
def ipv4 : HeaderLayout where
  name := "ipv4"
  fields :=
    [⟨"version", 0, 4⟩, ⟨"ihl", 4, 4⟩, ⟨"diffserv", 8, 8⟩, ⟨"totalLen", 16, 16⟩,
     ⟨"identification", 32, 16⟩, ⟨"flags", 48, 3⟩, ⟨"fragOffset", 51, 13⟩, ⟨"ttl", 64, 8⟩,
     ⟨"protocol", 72, 8⟩, ⟨"hdrChecksum", 80, 16⟩, ⟨"srcAddr", 96, 32⟩, ⟨"dstAddr", 128, 32⟩]

/-- The ESP header (RFC 4303). -/
def esp : HeaderLayout where
  name := "esp"
  fields := [⟨"spi", 0, 32⟩, ⟨"seqNo", 32, 32⟩]

/-- The part of the packet metadata that the transforms write. -/
def standardMetadata : HeaderLayout where
  name := "standard_metadata"
  fields := [⟨"egress_spec", 0, 9⟩, ⟨"mcast_grp", 9, 16⟩]

end HeaderLayout

end PacketProtection

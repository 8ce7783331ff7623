import PacketProtection.View.Format

/-!
# View of a MACsec security tag

A security tag (SecTAG, IEEE 802.1AE) starts with eight bytes of fixed fields:
the MACsec EtherType, six control bits (TCI), the association number, two
reserved bits, the short length and the packet number.  The secure channel
identifier (SCI) follows in eight more bytes if the control bit SC is set; a
byte string that ends earlier cuts it short.

The view keeps everything after the fixed part as one byte string, so that
setting or clearing SC moves the boundary between SCI and payload and loses
nothing.  A field of the fixed part is changed in the byte string itself, at the
place that the format gives it.
-/

namespace PacketProtection.View

/-- EtherTypes the program knows. -/
def EtherType.ipv4 : UInt16 := 0x0800

/-- The EtherType of MACsec. -/
def EtherType.macsec : UInt16 := 0x88e5

namespace Tci

/-! ## Control bits -/

/-- An SCI follows the fixed part. -/
def sc : BitVec 6 := 0b001000#6

/-- The user data is encrypted. -/
def e : BitVec 6 := 0b000010#6

/-- The user data was changed by the protection. -/
def c : BitVec 6 := 0b000001#6

end Tci

/-- A security tag and what follows its fixed part. -/
structure SecTag where
  etherType : UInt16
  /-- Tag control information. -/
  tci : BitVec 6
  associationNumber : BitVec 2
  reserved : BitVec 2
  /-- Length of short secure data, zero for long ones. -/
  shortLength : BitVec 6
  packetNumber : UInt32
  /-- All bytes after the fixed part. -/
  rest : Bytes
deriving DecidableEq

namespace SecTag

/-- Length of the fixed part. -/
def fixedLength : Nat := 8

/-- The fixed part. -/
def format : Format :=
  ⟨[("ethertype", 16), ("tci", 6), ("association_number", 2), ("reserved0", 2),
    ("short_length", 6), ("packet_number", 32)]⟩

/-- Length of an SCI. -/
def sciLength : Nat := 8

/-- Length of a tag that carries its SCI. -/
def fullLength : Nat := 16

/-- The fields of a byte string that is long enough. -/
def parse? : Bytes → Option SecTag
  | t0 :: t1 :: control :: short :: p0 :: p1 :: p2 :: p3 :: rest => some
      { etherType := UInt16.ofNat (Bytes.toNat [t0, t1])
        tci := BitVec.ofNat 6 (control.toNat / 4)
        associationNumber := BitVec.ofNat 2 control.toNat
        reserved := BitVec.ofNat 2 (short.toNat / 64)
        shortLength := BitVec.ofNat 6 short.toNat
        packetNumber := UInt32.ofNat (Bytes.toNat [p0, p1, p2, p3])
        rest }
  | _ => none

/-- The fixed part written out. -/
def fixedPart (tag : SecTag) : Bytes :=
  Bytes.ofNat 2 tag.etherType.toNat
    ++ [UInt8.ofNat (4 * tag.tci.toNat + tag.associationNumber.toNat),
        UInt8.ofNat (64 * tag.reserved.toNat + tag.shortLength.toNat)]
    ++ Bytes.ofNat 4 tag.packetNumber.toNat

@[simp] theorem length_fixedPart (tag : SecTag) : tag.fixedPart.length = 8 := by
  simp [fixedPart]

/-- The byte string of a view. -/
def toBytes (tag : SecTag) : Bytes :=
  tag.fixedPart ++ tag.rest

/-! ## The variable part -/

/-- Does the tag carry an SCI? -/
def hasSci (tag : SecTag) : Bool :=
  tag.tci &&& Tci.sc != 0

/-- Length of the SCI that the control bits announce. -/
def announcedSci (tag : SecTag) : Nat :=
  if tag.hasSci then sciLength else 0

/-- The SCI, as far as the byte string goes. -/
def sci (tag : SecTag) : Bytes :=
  tag.rest.take tag.announcedSci

/-- What follows the SCI. -/
def payload (tag : SecTag) : Bytes :=
  tag.rest.drop tag.announcedSci

/-- Overwrites the first bytes of the SCI; none if they are more than it has
room for. -/
def setSci? (tag : SecTag) (bytes : Bytes) : Option SecTag :=
  if bytes.length ≤ tag.announcedSci ∧ bytes.length ≤ tag.rest.length then
    some { tag with rest := bytes ++ tag.rest.drop bytes.length }
  else none

/-- Number of bytes of the view. -/
def size (tag : SecTag) : Nat :=
  fixedLength + tag.sci.length + tag.payload.length

end SecTag

end PacketProtection.View

import PacketProtection.Header.Layout

/-!
# Header hosts

The pipeline parses headers into named fields and hands them to the transforms
through a *host*: something that gives the value of a field and stores another.
The transforms know nothing else about it, so a host may lack fields or keep
values of any width.

*Integers.*  A field can be read and written as a number of 64 bits.  Reading
keeps the last 64 bits.  Writing takes the width of the current value, and a
number that needs more bytes is an overflow.  A value of more than eight bytes
cannot be written this way at all: the operation stops the program, which is
the fault `abort`.
-/

namespace PacketProtection

/-- Access to the named fields of a header. -/
class HeaderHost (H : Type) where
  /-- The value of a field. -/
  get : H → String → Except TransformError Bytes
  /-- Stores another value. -/
  set : H → String → Bytes → Except TransformError H

/-- How an operation on a host ends without a result. -/
inductive Fault where
  | error (cause : TransformError)
  /-- The program stops: a number was to be stored in more than eight bytes. -/
  | abort
deriving DecidableEq, Repr

/-- Is the frame itself undecodable, so that the packet must be dropped? -/
def Fault.isMalformed : Fault → Bool
  | .error cause => cause.isMalformed
  | .abort => false

namespace HeaderHost

variable {H : Type} [HeaderHost H]

/-- A field read as a number. -/
def getUint (host : H) (name : String) : Except TransformError UInt64 :=
  (get host name).map fun value => UInt64.ofNat value.toNat

/-- Stores a number in the width of the field's current value. -/
def setUint (host : H) (name : String) (number : UInt64) : Except Fault H :=
  match get host name with
  | .error cause => .error (.error cause)
  | .ok current =>
      let width := current.length
      if width < 8 ∧ Nat.pow 256 width ≤ number.toNat then
        .error (.error (.fieldOverflow name (8 * width)))
      else if 8 < width then .error .abort
      else (set host name (Bytes.ofNat width number.toNat)).mapError .error

/-! ## Packing -/

/-- The bits of a field, taken from a host. -/
def bits (host : H) (f : BitField) : Except TransformError Bits :=
  match get host f.name with
  | .error cause => .error cause
  | .ok value => (f.check value).map fun _ => Bits.ofNat f.width value.toNat

/-- Writes the bits of fields over a bit string, first field first. -/
def writeFields (host : H) : List BitField → Bits → Except TransformError Bits
  | [], buffer => .ok buffer
  | f :: rest, buffer =>
      match bits host f with
      | .error cause => .error cause
      | .ok piece => writeFields host rest (buffer.write f.offset piece)

/-- The header on the wire.  Bits that no field covers are zero, and the error
is that of the first field that is missing or does not fit. -/
def pack (layout : HeaderLayout) (host : H) : Except TransformError Bytes :=
  (writeFields host layout.fields (List.replicate (8 * layout.length) false)).map Bits.toBytes

/-! ## Unpacking -/

/-- Stores the fields found in a packed header, first field first, until one
cannot be stored.  The fields stored before it stay. -/
def storeFields (raw : Bytes) : List BitField → H → Except TransformError Unit × H
  | [], host => (.ok (), host)
  | f :: rest, host =>
      match set host f.name (f.read raw) with
      | .error cause => (.error cause, host)
      | .ok host => storeFields raw rest host

/-- Splits a packed header into the fields of a host.  What follows the header
is not looked at. -/
def unpack (layout : HeaderLayout) (raw : Bytes) (host : H) : Except TransformError Unit × H :=
  match TransformError.require layout.name layout.length raw.length with
  | .error cause => (.error cause, host)
  | .ok () => storeFields (raw.take layout.length) layout.fields host

/-! ## Dropping a packet -/

/-- The egress value that tells the pipeline to drop the packet. -/
def dropEgress : UInt64 := 0x1ff

/-- Marks a packet for dropping: an egress that does not exist, and no
multicast group. -/
def markDrop (metadata : H) : Except Fault Unit × H :=
  match setUint metadata "egress_spec" dropEgress with
  | .error fault => (.error fault, metadata)
  | .ok marked =>
      match setUint marked "mcast_grp" 0 with
      | .error fault => (.error fault, marked)
      | .ok marked => (.ok (), marked)

end HeaderHost

end PacketProtection

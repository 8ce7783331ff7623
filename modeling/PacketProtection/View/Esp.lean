import PacketProtection.View.Format

/-!
# Views of an ESP header and of an ESP trailer

A view reads a byte string as a fixed part with named fields and a rest that it
does not interpret.  The byte string it stands for is the fixed part written out
again, followed by the rest.  A field is changed in the byte string itself, at
the place that the format of the fixed part gives it.
-/

namespace PacketProtection.View

/-! ## Header -/

/-- An ESP header and what follows it. -/
structure EspHeader where
  /-- Security parameters index. -/
  spi : UInt32
  /-- Sequence number. -/
  seq : UInt32
  /-- All bytes after the fixed part. -/
  payload : Bytes
deriving DecidableEq

namespace EspHeader

/-- Length of the fixed part. -/
def headerLength : Nat := 8

/-- The fixed part. -/
def format : Format :=
  ⟨[("spi", 32), ("sequence_number", 32)]⟩

/-- The view of a byte string that is long enough. -/
def parse? (raw : Bytes) : Option EspHeader :=
  if raw.length < headerLength then none
  else some
    { spi := UInt32.ofNat (Bytes.toNat (raw.take 4))
      seq := UInt32.ofNat (Bytes.toNat ((raw.drop 4).take 4))
      payload := raw.drop headerLength }

/-- The byte string of a view. -/
def toBytes (view : EspHeader) : Bytes :=
  Bytes.ofNat 4 view.spi.toNat ++ Bytes.ofNat 4 view.seq.toNat ++ view.payload

/-- Number of bytes of the view. -/
def size (view : EspHeader) : Nat :=
  headerLength + view.payload.length

end EspHeader

/-! ## Trailer -/

/-- The two bytes that close the encrypted part of an ESP packet, and what
follows them.  The padding in front of them is not part of the view. -/
structure EspTrailer where
  padLength : UInt8
  nextHeader : UInt8
  payload : Bytes
deriving DecidableEq

namespace EspTrailer

/-- Length of the fixed part. -/
def trailerLength : Nat := 2

/-- The fixed part. -/
def format : Format :=
  ⟨[("pad_length", 8), ("next_header", 8)]⟩

/-- The view of a byte string that is long enough. -/
def parse? : Bytes → Option EspTrailer
  | padLength :: nextHeader :: payload => some ⟨padLength, nextHeader, payload⟩
  | _ => none

/-- The byte string of a view. -/
def toBytes (view : EspTrailer) : Bytes :=
  view.padLength :: view.nextHeader :: view.payload

/-- Number of bytes of the view. -/
def size (view : EspTrailer) : Nat :=
  trailerLength + view.payload.length

end EspTrailer

end PacketProtection.View

import PacketProtection.Esp.Protocol
import PacketProtection.Fault
import PacketProtection.Bytes

/-!
# ESP trailer

Before encryption a datagram is completed with padding and a trailer of two
bytes: the number of padding bytes and the protocol of the datagram (RFC 4303).
The padding makes the whole a multiple of the AES block size.

Padding is written as zeros.  When it is removed its bytes are not looked at,
and neither is the protocol: any padding of up to 255 bytes that fits is
accepted.
-/

namespace PacketProtection.Esp

/-- Length of the trailer. -/
def trailerLength : Nat := 2

/-- Number of padding bytes for a datagram of a length. -/
def padLength (length : Nat) : Nat :=
  (16 - (length + trailerLength) % 16) % 16

/-- Completes a datagram with padding and trailer. -/
def appendTrailer (datagram : Bytes) : Bytes :=
  let pad := padLength datagram.length
  datagram ++ List.replicate pad 0 ++ [UInt8.ofNat pad, IpProtocol.ipInIp]

/-- Removes trailer and padding; gives the datagram and its protocol. -/
def stripTrailer (decrypted : Bytes) : Except TransformError (Bytes × UInt8) :=
  let stop := decrypted.length - trailerLength
  match decrypted.drop stop with
  | [pad, nextHeader] =>
      if stop < pad.toNat then .error (.badPadding pad.toNat decrypted.length)
      else .ok (decrypted.take (stop - pad.toNat), nextHeader)
  | _ => .error (.truncated "ESP trailer" trailerLength decrypted.length)

end PacketProtection.Esp

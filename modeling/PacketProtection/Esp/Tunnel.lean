import PacketProtection.Esp.Frame
import PacketProtection.Header.Host
import PacketProtection.Hex

/-!
# ESP tunnel

The pipeline takes the IPv4 header off a packet, keeps its fields in a host and
hands over the rest, the payload.  *Encrypting* packs the fields in front of
the payload, protects the datagram and puts the frame in the payload's place;
the outer header gets its new total length.  *Decrypting* undoes it: the fields
of the inner header are stored and the inner payload takes the frame's place.

*Verdicts.*  A frame with a wrong check value is decrypted all the same and
marked for dropping in the packet metadata.  A frame that cannot be decoded is
marked as well, and reported as an error.

*What a failure leaves behind.*  Encryption that fails changes neither packet
nor host, and takes an initialization vector from the random source only if the
host refuses the total length.  Decryption that fails leaves the packet alone.
-/

namespace PacketProtection.Esp

variable {I E M : Type} [HeaderHost I] [HeaderHost E] [HeaderHost M]

/-- Length of an IPv4 header without options. -/
def ipv4HeaderLength : Nat := 20

/-- Length of the outer IPv4 header and the ESP header. -/
def outerLength : Nat := 28

/-- Length of an ESP header. -/
def espHeaderLength : Nat := 8

/-- The ESP header of a host's fields. -/
def headerBytes (esp : E) : Except TransformError Bytes := do
  let raw ← HeaderHost.pack .esp esp
  TransformError.requireLength "ESP header" espHeaderLength raw.length
  return raw

/-- The IPv4 header of a host's fields. -/
def ipv4Bytes (ipv4 : I) : Except TransformError Bytes := do
  let raw ← HeaderHost.pack .ipv4 ipv4
  TransformError.requireLength "IPv4 header" ipv4HeaderLength raw.length
  return raw

/-- Takes the next initialization vector from the bytes of a random source. -/
def drawIv? (random : Bytes) : Option (Octets ivLength × Bytes) :=
  if h : ivLength ≤ random.length then
    some (.first ivLength random h, random.drop ivLength)
  else none

/-! ## Encryption -/

/-- How an encryption ends. -/
structure Encryption (I : Type) where
  result : Except Fault Unit
  packet : Bytes
  ipv4 : I
  /-- What is left of the random source. -/
  random : Bytes
  log : Log

/-- Ensures that a completed datagram fills whole cipher blocks. -/
def requireBlocks (length : Nat) : Except TransformError Unit :=
  TransformError.requireLength "padded ESP plaintext" (16 * ((length + 15) / 16)) length

/-- Encapsulates a payload.  The new total length is stored, and the index of the
association read once more for the log, before the packet is touched. -/
def encrypt (packet : Bytes) (ipv4 : I) (esp : E) (cipherKey authKey : Bytes)
    (random : Bytes) : Encryption I :=
  let log := keyLog cipherKey.length authKey.length
  let failed (fault : Fault) (random : Bytes) : Encryption I :=
    ⟨.error fault, packet, ipv4, random, log⟩
  match headerBytes esp, ipv4Bytes ipv4 with
  | .error cause, _ => failed (.error cause) random
  | .ok _, .error cause => failed (.error cause) random
  | .ok header, .ok inner =>
      let datagram := inner ++ packet
      match requireBlocks (appendTrailer datagram).length with
      | .error cause => failed (.error cause) random
      | .ok () =>
          match drawIv? random with
          | none => failed (.error (.crypto "IV generation")) random
          | some (iv, random) =>
              let wire := (Frame.protect (.ofBlob cipherKey) (Esp.authKey authKey) header iv
                datagram).toBytes
              let outerTotal := UInt64.ofNatClamp (wire.length + outerLength)
              match HeaderHost.setUint ipv4 "totalLen" outerTotal with
              | .error fault => failed fault random
              | .ok outer =>
                  match HeaderHost.getUint esp "spi" with
                  | .error cause => ⟨.error (.error cause), packet, outer, random, log⟩
                  | .ok spi =>
                      let spi := Hex.ofNat spi.toNat
                      let inner := datagram.length
                      let total := wire.length
                      ⟨.ok (), wire, outer, random,
                       log ++ [⟨.debug,
                         s!"esp: encapsulated {inner} bytes into {total} bytes (spi {spi})"⟩]⟩

/-! ## Decryption -/

/-- What the check value says about a decrypted packet. -/
inductive Verdict where
  | valid
  /-- The packet was decrypted and marked for dropping. -/
  | mismatch
deriving DecidableEq, Repr

/-- How a decryption ends. -/
structure Decryption (I M : Type) where
  result : Except Fault Verdict
  packet : Bytes
  ipv4 : I
  metadata : M
  log : Log

/-- Puts the decrypted datagram in place of a frame whose verdict is known. -/
def Decryption.deliver (packet : Bytes) (ipv4 : I) (metadata : M) (log : Log)
    (verdict : Verdict) (frame : Frame) (cipherKey : CipherKey) : Decryption I M :=
  match frame.datagram cipherKey with
  | .error cause => ⟨.error (.error cause), packet, ipv4, metadata, log⟩
  | .ok (inner, nextHeader) =>
      let name := IpProtocol.name nextHeader
      let log := log ++
        if nextHeader = IpProtocol.ipInIp then []
        else [⟨.debug, s!"esp: unexpected next header {name}"⟩]
      match TransformError.require "inner IPv4 header" ipv4HeaderLength inner.length with
      | .error cause => ⟨.error (.error cause), packet, ipv4, metadata, log⟩
      | .ok () =>
          match HeaderHost.unpack .ipv4 inner ipv4 with
          | (.error cause, ipv4) => ⟨.error (.error cause), packet, ipv4, metadata, log⟩
          | (.ok (), ipv4) =>
              let total := frame.ciphertext.length
              let payload := inner.drop ipv4HeaderLength
              let left := payload.length
              ⟨.ok verdict, payload, ipv4, metadata,
               log ++ [⟨.debug,
                 s!"esp: decapsulated {total} bytes, inner payload is {left} bytes"⟩]⟩

/-- Decapsulates a payload, but leaves a frame that cannot be decoded unmarked. -/
def attempt (packet : Bytes) (ipv4 : I) (esp : E) (metadata : M)
    (cipherKey authKey : Bytes) : Decryption I M :=
  let log := keyLog cipherKey.length authKey.length
  match headerBytes esp with
  | .error cause => ⟨.error (.error cause), packet, ipv4, metadata, log⟩
  | .ok header =>
      match Frame.split packet with
      | .error cause => ⟨.error (.error cause), packet, ipv4, metadata, log⟩
      | .ok frame =>
          let cipherKey := CipherKey.ofBlob cipherKey
          if frame.isAuthentic (Esp.authKey authKey) header then
            .deliver packet ipv4 metadata log .valid frame cipherKey
          else
            match HeaderHost.getUint esp "spi", HeaderHost.getUint esp "seqNo" with
            | .error cause, _ => ⟨.error (.error cause), packet, ipv4, metadata, log⟩
            | .ok _, .error cause => ⟨.error (.error cause), packet, ipv4, metadata, log⟩
            | .ok spi, .ok seq =>
                let spi := Hex.ofNat spi.toNat
                let seq := seq.toNat
                let log := log ++ [⟨.warn, s!"esp: ICV mismatch (spi {spi}, seq {seq})"⟩]
                match HeaderHost.markDrop metadata with
                | (.error fault, metadata) => ⟨.error fault, packet, ipv4, metadata, log⟩
                | (.ok (), metadata) =>
                    .deliver packet ipv4 metadata log .mismatch frame cipherKey

/-- Marks a packet for dropping if the frame could not be decoded. -/
def Decryption.markMalformed (attempted : Decryption I M) : Decryption I M :=
  match attempted.result with
  | .error (.error cause) =>
      if cause.isMalformed then
        let text := cause.message
        let log := attempted.log ++ [⟨.warn, s!"esp: dropping packet: {text}"⟩]
        match HeaderHost.markDrop attempted.metadata with
        | (.error fault, metadata) => { attempted with result := .error fault, metadata, log }
        | (.ok (), metadata) => { attempted with metadata, log }
      else attempted
  | _ => attempted

/-- Decapsulates a payload. -/
def decrypt (packet : Bytes) (ipv4 : I) (esp : E) (metadata : M)
    (cipherKey authKey : Bytes) : Decryption I M :=
  (attempt packet ipv4 esp metadata cipherKey authKey).markMalformed

end PacketProtection.Esp

import PacketProtection.Cipher.Counter
import PacketProtection.Digest.Hmac
import PacketProtection.Esp.Trailer
import PacketProtection.KeyMaterial

/-!
# ESP frames

After the ESP header, a protected packet is an initialization vector of eight
bytes, a ciphertext and an integrity check value of twelve bytes.  The
ciphertext is a datagram with its trailer, in AES counter mode (RFC 3686); the
check value covers the ESP header, the vector and the ciphertext.

*Two questions about a frame.*  Whether it is authentic depends on the
authentication key, the ESP header and the check value.  What it holds depends
on the cipher key, the vector and the ciphertext.  Neither looks at what the
other depends on.
-/

namespace PacketProtection.Esp

/-- Length of an initialization vector. -/
def ivLength : Nat := 8

/-- Length of the smallest frame: vector, trailer and check value. -/
def minFrameLength : Nat := 22

/-- A frame split into its parts. -/
structure Frame where
  iv : Octets ivLength
  ciphertext : Bytes
  icv : Octets Icv.size
deriving DecidableEq

/-- The first counter block: nonce, vector, and the number one. -/
def counterBlock (nonce : Octets 4) (iv : Octets ivLength) : Octets 16 :=
  (nonce.append iv).append (.ofNat 4 1)

/-- Encrypts or decrypts under an initialization vector. -/
def CipherKey.crypt (cipherKey : CipherKey) (iv : Octets ivLength) (data : Bytes) : Bytes :=
  Counter.apply (Aes.cipher cipherKey.key) (counterBlock cipherKey.nonce iv) data

namespace Frame

/-- The frame on the wire. -/
def toBytes (frame : Frame) : Bytes :=
  frame.iv.toList ++ frame.ciphertext ++ frame.icv.toList

/-- Splits what follows an ESP header. -/
def split (payload : Bytes) : Except TransformError Frame :=
  if h : minFrameLength ≤ payload.length then
    .ok
      { iv := .first ivLength payload (by simp [minFrameLength, ivLength] at *; omega)
        ciphertext := (payload.drop ivLength).take (payload.length - 20)
        icv := ⟨payload.drop (payload.length - 12), by
          simp [minFrameLength, Icv.size] at *; omega⟩ }
  else .error (.truncated "ESP payload" minFrameLength payload.length)

/-- Protects a datagram under an initialization vector. -/
def protect (cipherKey : CipherKey) (authKey : Octets authKeySize) (header : Bytes)
    (iv : Octets ivLength) (datagram : Bytes) : Frame :=
  let ciphertext := cipherKey.crypt iv (appendTrailer datagram)
  ⟨iv, ciphertext, Icv.compute authKey.toList [header, iv.toList, ciphertext]⟩

/-- Is the check value right? -/
def isAuthentic (frame : Frame) (authKey : Octets authKeySize) (header : Bytes) : Bool :=
  Icv.verify authKey.toList [header, frame.iv.toList, frame.ciphertext] frame.icv.toList

/-- The datagram of a frame and its protocol, whether authentic or not. -/
def datagram (frame : Frame) (cipherKey : CipherKey) : Except TransformError (Bytes × UInt8) :=
  stripTrailer (cipherKey.crypt frame.iv frame.ciphertext)

end Frame

end PacketProtection.Esp

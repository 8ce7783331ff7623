import PacketProtection.Cipher.Counter
import PacketProtection.Cipher.Galois

/-!
# Galois/counter mode

Authenticated encryption of NIST SP 800-38D over AES-128, with a nonce of
twelve bytes and a tag of sixteen.  The data is encrypted in counter mode; the
tag hashes the associated data and the ciphertext, each completed with zeros to
whole blocks, and a last block that holds both lengths in bits.

*Limits.*  Plaintext and associated data hold at most `2^36` bytes.  Beyond the
limits sealing fails and opening rejects.
-/

namespace PacketProtection.Gcm

/-- Largest plaintext, in bytes. -/
def maxPlaintext : Nat := Nat.pow 2 36

/-- Largest associated data, in bytes. -/
def maxAssociated : Nat := Nat.pow 2 36

/-- Largest data given for decryption, in bytes. -/
def maxCiphertext : Nat := Nat.pow 2 36 + 16

/-- The key of the block hash. -/
def hashKey (cipher : BlockCipher) : Galois.Element :=
  Galois.ofBytes (cipher (.replicate 16 0)).toList

/-- The blocks of a byte string, the last one completed with zeros. -/
def blocks (data : Bytes) : List Galois.Element :=
  (data.chunks 16 (Counter.blockCount data.length)).map Galois.ofBytes

/-- What the tag hashes. -/
def hashInput (associated ciphertext : Bytes) : List Galois.Element :=
  blocks associated ++ blocks ciphertext
    ++ [Galois.ofBytes
          (Bytes.ofNat 8 (8 * associated.length) ++ Bytes.ofNat 8 (8 * ciphertext.length))]

/-- The counter block that masks the tag; the data starts one step later. -/
def firstBlock (nonce : Octets 12) : Octets 16 :=
  nonce.append (.ofNat 4 1)

/-- Encrypts or decrypts data, without authentication. -/
def crypt (cipher : BlockCipher) (nonce : Octets 12) (data : Bytes) : Bytes :=
  Counter.apply cipher (Counter.advance (firstBlock nonce) 1) data

/-- The tag of a ciphertext. -/
def tag (cipher : BlockCipher) (nonce : Octets 12) (associated ciphertext : Bytes) :
    Octets 16 :=
  (cipher (firstBlock nonce)).xor
    (.ofNat 16 (Galois.hash (hashKey cipher) (hashInput associated ciphertext)).toNat)

/-- The ciphertext and tag of a plaintext; none beyond the limits. -/
def seal? (key : Octets 16) (nonce : Octets 12) (associated plaintext : Bytes) :
    Option (Bytes × Octets 16) :=
  let cipher := Aes.cipher key
  if plaintext.length ≤ maxPlaintext ∧ associated.length ≤ maxAssociated then
    let ciphertext := crypt cipher nonce plaintext
    some (ciphertext, tag cipher nonce associated ciphertext)
  else none

/-- The plaintext of a ciphertext with the right tag; none when the tag is
wrong, and none beyond the limits. -/
def open? (key : Octets 16) (nonce : Octets 12) (associated ciphertext : Bytes)
    (received : Octets 16) : Option Bytes :=
  let cipher := Aes.cipher key
  if ciphertext.length ≤ maxCiphertext ∧ associated.length ≤ maxAssociated
      ∧ tag cipher nonce associated ciphertext = received then
    some (crypt cipher nonce ciphertext)
  else none

end PacketProtection.Gcm

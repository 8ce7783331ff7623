import PacketProtection.Bytes
import PacketProtection.Log

/-!
# Key material

Keys, nonces and addresses reach the transforms as byte strings of any length:
they come from table entries whose leading zero bytes have been stripped.  A
short one is completed with zeros *on the left*, a long one keeps its first
bytes, and neither is an error.

*Cipher blob.*  The cipher key of an ESP association is one byte string of
twenty bytes, the AES key followed by the nonce of the counter block (RFC
3686).  The blob is brought to its width before it is split, so that stripped
zeros are missing from the key and never from the nonce.
-/

namespace PacketProtection

/-! ## Normalization -/

/-- Brings a byte string to a width. -/
def normalize (width : Nat) (raw : Bytes) : Octets width :=
  ⟨List.replicate (width - raw.length) 0 ++ raw.take width, by simp⟩

/-- A byte string of the right width stays as it is. -/
theorem normalize_toList {width : Nat} (octets : Octets width) :
    normalize width octets.toList = octets := by
  apply Octets.ext
  simp [normalize, List.take_of_length_le]

theorem toList_normalize_of_length {width : Nat} {bytes : Bytes} (length : bytes.length = width) :
    (normalize width bytes).toList = bytes :=
  congrArg Octets.toList (normalize_toList ⟨bytes, length⟩)

/-- What is logged when a byte string of `length` bytes is brought to a width. -/
def normalizeLog (width length : Nat) : Log :=
  if length < width then [⟨.debug, s!"key material padded from {length} to {width} bytes"⟩]
  else if width < length then
    [⟨.debug, s!"key material truncated from {length} to {width} bytes"⟩]
  else []

/-- Nothing is logged when nothing changes. -/
theorem normalizeLog_self (width : Nat) : normalizeLog width width = [] := by
  simp [normalizeLog]

/-! ## Keys of an ESP association -/

namespace Esp

/-- Width of the cipher blob. -/
def cipherBlobSize : Nat := 20

/-- Width of the authentication key. -/
def authKeySize : Nat := 16

/-- The AES key and the nonce of an ESP association. -/
structure CipherKey where
  key : Octets 16
  nonce : Octets 4
deriving DecidableEq

/-- Splits a normalized blob. -/
def CipherKey.split (blob : Octets cipherBlobSize) : CipherKey :=
  ⟨.first 16 blob.toList (by simp [cipherBlobSize]),
   ⟨blob.toList.drop 16, by simp [cipherBlobSize]⟩⟩

/-- No byte of a blob is lost in its parts. -/
theorem CipherKey.toList_split (blob : Octets cipherBlobSize) :
    (split blob).key.toList ++ (split blob).nonce.toList = blob.toList :=
  List.take_append_drop 16 blob.toList

/-- The cipher key of a blob of any length. -/
def CipherKey.ofBlob (raw : Bytes) : CipherKey :=
  split (normalize cipherBlobSize raw)

/-- The authentication key of a byte string of any length. -/
def authKey (raw : Bytes) : Octets authKeySize :=
  normalize authKeySize raw

/-- What is logged when both keys are brought to their widths. -/
def keyLog (cipherLength authLength : Nat) : Log :=
  normalizeLog cipherBlobSize cipherLength ++ normalizeLog authKeySize authLength

end Esp

end PacketProtection

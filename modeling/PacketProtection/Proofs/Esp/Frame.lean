import Mathlib.Data.List.Basic
import PacketProtection.Esp.Frame
import PacketProtection.Proofs.Cipher.Keystream

/-!
# Trailers and frames

A plaintext is *trailed* when it is a datagram, padding of any content, the
number of padding bytes, and one more byte.  These are exactly the plaintexts a
trailer is removed from (`stripTrailer_eq_ok`), and completing a datagram gives
one of them (`trailed_appendTrailer`).

A payload of at least 22 bytes splits into a frame in one way, the frame whose
bytes it is (`Frame.split_eq_ok`).  A frame that was made around a plaintext is
authentic and gives what the plaintext holds (`Frame.isAuthentic_forge`,
`Frame.datagram_forge`); made from a datagram, it holds that datagram
(`Frame.datagram_protect`).
-/

namespace PacketProtection.Esp

/-! ## Trailers -/

/-- A datagram followed by padding, the number of padding bytes, and a protocol. -/
def Trailed (inner : Bytes) (nextHeader : UInt8) (plain : Bytes) : Prop :=
  ∃ (pad : Bytes) (count : UInt8),
    plain = inner ++ pad ++ [count, nextHeader] ∧ count.toNat = pad.length

theorem padLength_spec (length : Nat) :
    padLength length < 16 ∧ (length + padLength length + 2) % 16 = 0 := by
  rw [padLength, trailerLength]
  omega

theorem trailed_appendTrailer (datagram : Bytes) :
    Trailed datagram IpProtocol.ipInIp (appendTrailer datagram) := by
  obtain ⟨small, -⟩ := padLength_spec datagram.length
  refine ⟨List.replicate (padLength datagram.length) 0, UInt8.ofNat (padLength datagram.length),
    rfl, ?_⟩
  rw [UInt8.toNat_ofNat', List.length_replicate]
  omega

/-- A completed datagram fills whole blocks. -/
theorem length_appendTrailer (datagram : Bytes) :
    (appendTrailer datagram).length = 16 * ((datagram.length + 17) / 16) := by
  obtain ⟨small, whole⟩ := padLength_spec datagram.length
  rw [appendTrailer, List.length_append, List.length_append, List.length_replicate]
  show datagram.length + padLength datagram.length + 2 = _
  omega

theorem stripTrailer_of_short {plain : Bytes} (short : plain.length < trailerLength) :
    stripTrailer plain = .error (.truncated "ESP trailer" trailerLength plain.length) := by
  match plain, short with
  | [], _ => rfl
  | [_], _ => rfl

theorem stripTrailer_append (front : Bytes) (count nextHeader : UInt8) :
    stripTrailer (front ++ [count, nextHeader]) =
      if front.length < count.toNat then .error (.badPadding count.toNat (front.length + 2))
      else .ok (front.take (front.length - count.toNat), nextHeader) := by
  have length : (front ++ [count, nextHeader]).length = front.length + 2 := by
    rw [List.length_append]
    rfl
  rw [stripTrailer, length, trailerLength, Nat.add_sub_cancel, List.drop_left]
  simp only
  rw [List.take_append_of_le_length (Nat.sub_le _ _)]

/-- A plaintext that is not too short ends in a trailer. -/
theorem exists_trailer {plain : Bytes} (enough : trailerLength ≤ plain.length) :
    ∃ front count nextHeader, plain = front ++ [count, nextHeader] := by
  have two : (plain.drop (plain.length - 2)).length = 2 := by
    rw [List.length_drop, trailerLength] at *
    omega
  obtain ⟨count, nextHeader, tail⟩ := List.length_eq_two.mp two
  refine ⟨plain.take (plain.length - 2), count, nextHeader, ?_⟩
  rw [← tail, List.take_append_drop]

/-- The trailer is removed from exactly the trailed plaintexts. -/
theorem stripTrailer_eq_ok {plain inner : Bytes} {nextHeader : UInt8} :
    stripTrailer plain = .ok (inner, nextHeader) ↔ Trailed inner nextHeader plain := by
  constructor
  · intro stripped
    by_cases short : plain.length < trailerLength
    · rw [stripTrailer_of_short short] at stripped
      cases stripped
    · obtain ⟨front, count, last, rfl⟩ := exists_trailer (Nat.le_of_not_lt short)
      rw [stripTrailer_append] at stripped
      split at stripped
      · cases stripped
      next room =>
        cases stripped
        refine ⟨front.drop (front.length - count.toNat), count, ?_, ?_⟩
        · rw [List.take_append_drop]
        · rw [List.length_drop]
          omega
  · rintro ⟨pad, count, rfl, padCount⟩
    rw [stripTrailer_append, List.length_append, if_neg (by omega), padCount,
      Nat.add_sub_cancel, List.take_left]

/-- What a datagram was completed with is removed again, whatever the datagram ends in. -/
theorem stripTrailer_appendTrailer (datagram : Bytes) :
    stripTrailer (appendTrailer datagram) = .ok (datagram, IpProtocol.ipInIp) :=
  stripTrailer_eq_ok.mpr (trailed_appendTrailer datagram)

/-- A trailer that cannot be removed is the fault of the frame. -/
theorem stripTrailer_error {plain : Bytes} {cause : TransformError}
    (failed : stripTrailer plain = .error cause) : cause.isMalformed = true := by
  by_cases short : plain.length < trailerLength
  · rw [stripTrailer_of_short short] at failed
    cases failed
    rfl
  · obtain ⟨front, count, last, rfl⟩ := exists_trailer (Nat.le_of_not_lt short)
    rw [stripTrailer_append] at failed
    split at failed
    · cases failed
      rfl
    · cases failed

/-! ## Encryption -/

namespace CipherKey

@[simp] theorem length_crypt (cipherKey : CipherKey) (iv : Octets ivLength) (data : Bytes) :
    (cipherKey.crypt iv data).length = data.length :=
  Counter.length_apply _ _ _

@[simp] theorem crypt_crypt (cipherKey : CipherKey) (iv : Octets ivLength) (data : Bytes) :
    cipherKey.crypt iv (cipherKey.crypt iv data) = data :=
  Counter.apply_apply _ _ _

end CipherKey

/-! ## Frames -/

namespace Frame

/-- A frame is authentic if its check value is the digest of what it covers. -/
theorem isAuthentic_iff {frame : Frame} {authKey : Octets authKeySize} {header : Bytes} :
    frame.isAuthentic authKey header = true ↔
      frame.icv.toList =
        (Hmac.md5 authKey.toList
          (header ++ frame.iv.toList ++ frame.ciphertext)).toList.take 12 := by
  have parts : [header, frame.iv.toList, frame.ciphertext].flatten =
      header ++ frame.iv.toList ++ frame.ciphertext := by
    simp
  rw [← parts, isAuthentic, Icv.verify, beq_iff_eq]
  exact eq_comm

/-- Of all check values only its own makes an authentic frame authentic. -/
theorem isAuthentic_icv_iff {frame : Frame} {authKey : Octets authKeySize} {header : Bytes}
    (right : frame.isAuthentic authKey header = true) (icv : Octets Icv.size) :
    isAuthentic { frame with icv } authKey header = true ↔ icv = frame.icv := by
  rw [isAuthentic_iff] at right ⊢
  constructor
  · intro digest
    exact Octets.ext (digest.trans right.symm)
  · rintro rfl
    exact right

theorem length_toBytes (frame : Frame) :
    frame.toBytes.length = frame.ciphertext.length + 20 := by
  rw [toBytes, List.length_append, List.length_append, Octets.length_toList,
    Octets.length_toList, ivLength, Icv.size]
  omega

theorem split_of_short {payload : Bytes} (short : payload.length < minFrameLength) :
    split payload = .error (.truncated "ESP payload" minFrameLength payload.length) :=
  dif_neg (Nat.not_le.mpr short)

/-- The parts of a frame are found where its bytes have them. -/
theorem split_toBytes {frame : Frame} (enough : trailerLength ≤ frame.ciphertext.length) :
    split frame.toBytes = .ok frame := by
  have length := frame.length_toBytes
  have ivFront : frame.iv.toList.length = ivLength := frame.iv.length_toList
  have room : minFrameLength ≤ frame.toBytes.length := by
    rw [length, minFrameLength]
    rw [trailerLength] at enough
    omega
  rw [split, dif_pos room]
  have iv : frame.toBytes.take ivLength = frame.iv.toList := by
    rw [toBytes, List.append_assoc, List.take_left' ivFront]
  have ciphertext :
      (frame.toBytes.drop ivLength).take (frame.toBytes.length - 20) = frame.ciphertext := by
    rw [length, Nat.add_sub_cancel, toBytes, List.append_assoc, List.drop_left' ivFront,
      List.take_left]
  have icv : frame.toBytes.drop (frame.toBytes.length - 12) = frame.icv.toList := by
    rw [toBytes]
    apply List.drop_left'
    rw [List.length_append, List.length_append, List.length_append, Octets.length_toList frame.icv,
      Icv.size, Nat.add_sub_cancel]
  congr 1
  cases frame
  rw [mk.injEq]
  exact ⟨Octets.ext iv, ciphertext, Octets.ext icv⟩

/-- A payload splits into the frame whose bytes it is. -/
theorem split_eq_ok {payload : Bytes} {frame : Frame} :
    split payload = .ok frame ↔
      payload = frame.toBytes ∧ trailerLength ≤ frame.ciphertext.length := by
  constructor
  · intro done
    by_cases short : payload.length < minFrameLength
    · rw [split_of_short short] at done
      cases done
    · have enough := Nat.le_of_not_lt short
      rw [split, dif_pos enough] at done
      cases done
      rw [minFrameLength] at enough
      have ciphertextLength :
          ((payload.drop ivLength).take (payload.length - 20)).length = payload.length - 20 := by
        rw [List.length_take, List.length_drop, ivLength]
        omega
      refine ⟨?_, ?_⟩
      · show payload = payload.take ivLength
          ++ (payload.drop ivLength).take (payload.length - 20)
          ++ payload.drop (payload.length - 12)
        have rest : payload.drop (payload.length - 12) =
            (payload.drop ivLength).drop (payload.length - 20) := by
          rw [List.drop_drop, ivLength]
          congr 1
          omega
        rw [rest, List.append_assoc, List.take_append_drop, List.take_append_drop]
      · show trailerLength ≤ ((payload.drop ivLength).take (payload.length - 20)).length
        rw [ciphertextLength, trailerLength]
        omega
  · rintro ⟨rfl, enough⟩
    exact split_toBytes enough

theorem split_error {payload : Bytes} {cause : TransformError}
    (failed : split payload = .error cause) : cause.isMalformed = true := by
  by_cases short : payload.length < minFrameLength
  · rw [split_of_short short] at failed
    cases failed
    rfl
  · rw [split, dif_pos (Nat.le_of_not_lt short)] at failed
    cases failed

/-! ### Frames that were made -/

/-- A frame around any plaintext, with the right check value. -/
def forge (cipherKey : CipherKey) (authKey : Octets authKeySize) (header : Bytes)
    (iv : Octets ivLength) (plain : Bytes) : Frame :=
  let ciphertext := cipherKey.crypt iv plain
  ⟨iv, ciphertext, Icv.compute authKey.toList [header, iv.toList, ciphertext]⟩

variable (cipherKey : CipherKey) (authKey : Octets authKeySize) (header : Bytes)
  (iv : Octets ivLength) (plain datagram : Bytes)

theorem length_forge :
    (forge cipherKey authKey header iv plain).toBytes.length = plain.length + 20 := by
  rw [length_toBytes]
  show (cipherKey.crypt iv plain).length + 20 = _
  rw [CipherKey.length_crypt]

theorem split_forge (enough : trailerLength ≤ plain.length) :
    split (forge cipherKey authKey header iv plain).toBytes =
      .ok (forge cipherKey authKey header iv plain) := by
  apply split_toBytes
  show trailerLength ≤ (cipherKey.crypt iv plain).length
  rw [CipherKey.length_crypt]
  exact enough

theorem isAuthentic_forge :
    (forge cipherKey authKey header iv plain).isAuthentic authKey header = true :=
  beq_self_eq_true _

/-- Decryption finds the plaintext again and takes its trailer off. -/
theorem datagram_forge :
    (forge cipherKey authKey header iv plain).datagram cipherKey = stripTrailer plain := by
  show stripTrailer (cipherKey.crypt iv (cipherKey.crypt iv plain)) = _
  rw [CipherKey.crypt_crypt]

theorem protect_eq_forge :
    protect cipherKey authKey header iv datagram =
      forge cipherKey authKey header iv (appendTrailer datagram) := rfl

theorem length_protect :
    (protect cipherKey authKey header iv datagram).toBytes.length =
      16 * ((datagram.length + 17) / 16) + 20 := by
  rw [protect_eq_forge, length_forge, length_appendTrailer]

theorem split_protect :
    split (protect cipherKey authKey header iv datagram).toBytes =
      .ok (protect cipherKey authKey header iv datagram) := by
  apply split_forge
  rw [length_appendTrailer, trailerLength]
  omega

/-- The check value does not matter for finding the parts. -/
theorem split_protect_icv (icv : Octets Icv.size) :
    split (toBytes { protect cipherKey authKey header iv datagram with icv }) =
      .ok { protect cipherKey authKey header iv datagram with icv } := by
  obtain ⟨-, enough⟩ := split_eq_ok.mp (split_protect cipherKey authKey header iv datagram)
  exact split_toBytes enough

theorem isAuthentic_protect :
    (protect cipherKey authKey header iv datagram).isAuthentic authKey header = true :=
  isAuthentic_forge ..

theorem datagram_protect :
    (protect cipherKey authKey header iv datagram).datagram cipherKey =
      .ok (datagram, IpProtocol.ipInIp) := by
  rw [protect_eq_forge, datagram_forge]
  exact stripTrailer_appendTrailer datagram

end Frame

end PacketProtection.Esp

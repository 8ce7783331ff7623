import PacketProtection.Proofs.Esp.RoundTrip
import PacketProtection.Proofs.Header.Refusal

/-!
# Encryption that fails

An encryption meets at most one *obstacle*, the first in this order: a field of
the ESP header that cannot be packed, a field of the IPv4 header that cannot be
packed, a random source without a vector, and a total length that the host does
not take (`Obstacle`).  Which one it is depends on the payload, the hosts and the
random source alone, and it is the error that the encryption gives.

*Atomicity.*  A failed encryption leaves packet and host as they were.  The total
length is stored before the packet is replaced, and the index of the association
is read in between; that cannot fail, because the ESP header was packed before
(`encrypt_sending`).  Only a refused total length costs a vector
(`encrypt_atomic`).
-/

namespace PacketProtection.Esp

open HeaderHost

/-! ## Obstacles -/

section Obstacles

variable {I E : Type} [HeaderHost I] [HeaderHost E]

/-- The first thing that stands in the way of an encryption. -/
inductive Obstacle (payload : Bytes) (ipv4 : I) (esp : E) (random : Bytes) :
    TransformError → Prop
  | espField {cause : TransformError} :
      FirstFault .esp esp cause → Obstacle payload ipv4 esp random cause
  | ipv4Field {cause : TransformError} :
      Packable .esp esp → FirstFault .ipv4 ipv4 cause → Obstacle payload ipv4 esp random cause
  | noVector :
      Packable .esp esp → Packable .ipv4 ipv4 → random.length < 8 →
      Obstacle payload ipv4 esp random (.crypto "IV generation")
  /-- The host keeps the total length in fewer bits than the outer packet needs. -/
  | totalLength {bits : Nat} :
      Packable .esp esp → Packable .ipv4 ipv4 → 8 ≤ random.length →
      2 ^ bits ≤ outerTotal payload.length →
      setUint ipv4 "totalLen" (.ofNatClamp (outerTotal payload.length)) =
        .error (.error (.fieldOverflow "totalLen" bits)) →
      Obstacle payload ipv4 esp random (.fieldOverflow "totalLen" bits)

/-- Encryption gives the obstacle as its error. -/
theorem Obstacle.result_encrypt {payload random : Bytes} {ipv4 : I} {esp : E}
    {cause : TransformError} (obstacle : Obstacle payload ipv4 esp random cause)
    (cipherKey authKey : Bytes) :
    (encrypt payload ipv4 esp cipherKey authKey random).result = .error (.error cause) := by
  cases obstacle with
  | espField first =>
      rw [encrypt, headerBytes_eq, pack_of_firstFault first]
  | ipv4Field espPackable first =>
      obtain ⟨header, espPacks⟩ := exists_pack_of_packable espPackable
      rw [encrypt, headerBytes_eq, ipv4Bytes_eq, espPacks, pack_of_firstFault first]
  | noVector espPackable ipv4Packable short =>
      obtain ⟨header, espPacks⟩ := exists_pack_of_packable espPackable
      obtain ⟨inner, ipv4Packs⟩ := exists_pack_of_packable ipv4Packable
      rw [encrypt, headerBytes_eq, ipv4Bytes_eq, espPacks, ipv4Packs]
      simp only [requireBlocks_appendTrailer, drawIv?_eq_none.mpr short]
  | totalLength espPackable ipv4Packable enough _ stuck =>
      obtain ⟨header, espPacks⟩ := exists_pack_of_packable espPackable
      obtain ⟨inner, ipv4Packs⟩ := exists_pack_of_packable ipv4Packable
      obtain ⟨iv, drawn⟩ := drawIv?_of_le enough
      rw [← wireTotal_eq ipv4Packs] at stuck
      exact (encrypt_of_refused espPacks ipv4Packs drawn stuck).1

end Obstacles

/-! ## Atomicity -/

/-- What a failed encryption took from the random source: a vector if the total
length was refused, and nothing otherwise. -/
inductive Spent (random left : Bytes) : TransformError → Prop
  | vector (bits : Nat) (iv : Octets ivLength) :
      random = iv.toList ++ left → Spent random left (.fieldOverflow "totalLen" bits)
  | nothing {cause : TransformError} :
      (∀ bits, cause ≠ .fieldOverflow "totalLen" bits) → left = random →
      Spent random left cause

/-- **A failed encryption changes neither packet nor host**, whatever the hosts
are, and its error is the first obstacle.  The host of the ESP header is only read. -/
theorem encrypt_atomic (packet cipherKey authKey random : Bytes) {ipv4 : Host} (esp : Host)
    (sound : ipv4.Sound) :
    let sent := encrypt packet ipv4 esp cipherKey authKey random
    (∀ cause, sent.result = .error (.error cause) ↔ Obstacle packet ipv4 esp random cause) ∧
    ∀ fault, sent.result = .error fault →
      sent.packet = packet ∧ sent.ipv4 = ipv4 ∧
      ∃ cause, fault = .error cause ∧ cause.isMalformed = false ∧
        Spent random sent.random cause := by
  intro sent
  have failure : ∀ fault, sent.result = .error fault →
      (sent.packet = packet ∧ sent.ipv4 = ipv4) ∧
      ∃ cause, fault = .error cause ∧ Obstacle packet ipv4 esp random cause ∧
        cause.isMalformed = false ∧ Spent random sent.random cause := by
    intro fault failed
    have ending : Sending packet ipv4 esp cipherKey authKey random sent :=
      encrypt_sending packet ipv4 esp cipherKey authKey random
    generalize sent = sent at ending failed ⊢
    cases ending with
    | noHeader missing =>
        cases failed
        have first := pack_eq_error.mp missing
        exact ⟨⟨rfl, rfl⟩, _, rfl, .espField first, Host.not_malformed_of_firstFault first,
          .nothing (Host.ne_overflow_of_firstFault (by decide) first) rfl⟩
    | noInner espPacks missing =>
        cases failed
        have first := pack_eq_error.mp missing
        exact ⟨⟨rfl, rfl⟩, _, rfl, .ipv4Field (exists_pack_iff.mp ⟨_, espPacks⟩) first,
          Host.not_malformed_of_firstFault first,
          .nothing (Host.ne_overflow_of_firstFault (by decide) first) rfl⟩
    | noVector espPacks ipv4Packs empty =>
        cases failed
        exact ⟨⟨rfl, rfl⟩, _, rfl, .noVector (exists_pack_iff.mp ⟨_, espPacks⟩)
          (exists_pack_iff.mp ⟨_, ipv4Packs⟩) (drawIv?_eq_none.mp empty), rfl,
          .nothing (fun _ => by simp) rfl⟩
    | refused espPacks ipv4Packs drawn stuck =>
        cases failed
        rw [wireTotal_eq ipv4Packs] at stuck
        obtain ⟨present, -⟩ := get_of_pack HeaderLayout.ipv4_proper ipv4Packs totalLen_mem
        obtain ⟨bits, rfl, beyond⟩ := Host.setUint_error sound present
          (by rw [BitField.length_read]; decide) stuck
        exact ⟨⟨rfl, rfl⟩, _, rfl, .totalLength (exists_pack_iff.mp ⟨_, espPacks⟩)
          (exists_pack_iff.mp ⟨_, ipv4Packs⟩) (le_of_drawIv?_eq_some drawn)
          (Nat.le_trans beyond (toNat_ofNatClamp_le _)) stuck, rfl,
          .vector bits _ (drawIv?_eq_some drawn)⟩
    | sent => cases failed
  constructor
  · intro cause
    refine ⟨fun failed => ?_, fun obstacle => obstacle.result_encrypt cipherKey authKey⟩
    obtain ⟨-, reason, same, obstacle, -⟩ := failure _ failed
    cases same
    exact obstacle
  · intro fault failed
    obtain ⟨⟨packetKept, ipv4Kept⟩, cause, same, -, sane, spent⟩ := failure fault failed
    exact ⟨packetKept, ipv4Kept, cause, same, sane, spent⟩

/-- Into a field set whose total length has nine bits, 500 bytes do not go: their
outer packet has 576.  Of nine random bytes one is left. -/
theorem encrypt_atomic_nine_bits :
    ∃ (ipv4 : Host) (sent : Encryption Host),
      ipv4 = .bound (FieldSet.new ⟨"ipv4", HeaderLayout.ipv4.fields.map fun f =>
        if f.name = "totalLen" then { f with width := 9 } else f⟩) ∧
      ipv4.Sound ∧
      sent = encrypt (List.replicate 500 7) ipv4 (Host.bound (FieldSet.new .esp)) [1] [2]
        (List.replicate 9 3) ∧
      sent.result = .error (.error (.fieldOverflow "totalLen" 9)) ∧
      sent.packet = List.replicate 500 7 ∧ sent.ipv4 = ipv4 ∧ sent.random = [3] := by
  refine ⟨_, _, rfl, Host.sound_new _, rfl, ?_⟩
  obtain ⟨errors, failures⟩ := encrypt_atomic (List.replicate 500 7) [1] [2]
    (List.replicate 9 3) (.bound (FieldSet.new .esp)) (Host.sound_new
      ⟨"ipv4", HeaderLayout.ipv4.fields.map fun f =>
        if f.name = "totalLen" then { f with width := 9 } else f⟩)
  have failed := (errors (.fieldOverflow "totalLen" 9)).mpr
    (.totalLength (by unfold Packable; decide +kernel) (by unfold Packable; decide +kernel)
      (by decide) (by rw [List.length_replicate]; decide)
      (by rw [List.length_replicate]; decide +kernel))
  obtain ⟨packetKept, ipv4Kept, cause, same, -, spent⟩ := failures _ failed
  cases same
  refine ⟨failed, packetKept, ipv4Kept, ?_⟩
  cases spent with
  | vector _ iv taken =>
      have rest := congrArg (List.drop ivLength) taken
      rw [List.drop_left' iv.length_toList] at rest
      exact rest.symm
  | nothing other _ => exact absurd rfl (other 9)

end PacketProtection.Esp

import PacketProtection.Proofs.Esp.Ending
import PacketProtection.Proofs.Header.Bijection

/-!
# What a decryption accepts

Another implementation may send more than an encryption here ever makes: padding of any
content and of up to 255 bytes, lengths that fill no block, other protocols.  This module
says what becomes of a frame around *any* plaintext, whose check value is right.

*The grammar.*  RFC 4303 asks for a datagram, padding, the number of padding bytes and a
protocol; a tunnel asks for a datagram with an IPv4 header.  Frames around such plaintexts
are delivered and no others (`decode_forge_eq_ok`).

*The refusals.*  A plaintext has too few bytes for a trailer, or less than the padding it
announces, or no room for an IPv4 header.  Each has its own error, and they are looked for
in this order.
-/

namespace PacketProtection.Esp

open HeaderHost

/-! ## Trailed plaintexts -/

/-- The number of padding bytes is one byte, so there are 255 at most. -/
theorem trailed_iff {inner plain : Bytes} {nextHeader : UInt8} :
    Trailed inner nextHeader plain ↔
      ∃ pad : Bytes, pad.length ≤ 255 ∧
        plain = inner ++ pad ++ [UInt8.ofNat pad.length, nextHeader] := by
  constructor
  · rintro ⟨pad, count, rfl, same⟩
    refine ⟨pad, ?_, ?_⟩
    · have bound := count.toNat_lt
      omega
    · rw [← same, UInt8.ofNat_toNat]
  · rintro ⟨pad, bound, rfl⟩
    refine ⟨pad, _, rfl, ?_⟩
    rw [UInt8.toNat_ofNat']
    omega

/-! ## Decoding -/

section Decoding

variable {cipherKey : CipherKey} {authKey : Octets authKeySize} {header : Bytes}
  {iv : Octets ivLength} {plain : Bytes}

theorem authentic_forge (enough : trailerLength ≤ plain.length) :
    Authentic authKey header (Frame.forge cipherKey authKey header iv plain).toBytes :=
  ⟨_, Frame.split_forge cipherKey authKey header iv plain enough,
    Frame.isAuthentic_forge cipherKey authKey header iv plain⟩

/-- Without room for a trailer the payload is too short for a frame. -/
theorem decode_forge_of_short (short : plain.length < trailerLength) :
    decode cipherKey (Frame.forge cipherKey authKey header iv plain).toBytes =
      .error (.truncated "ESP payload" minFrameLength (plain.length + 20)) := by
  have payloadShort :
      (Frame.forge cipherKey authKey header iv plain).toBytes.length < minFrameLength := by
    rw [Frame.length_forge, minFrameLength]
    rw [trailerLength] at short
    omega
  rw [decode, Frame.split_of_short payloadShort, Frame.length_forge]

theorem length_of_trailed {inner : Bytes} {nextHeader : UInt8}
    (trailed : Trailed inner nextHeader plain) : trailerLength ≤ plain.length := by
  obtain ⟨pad, count, rfl, -⟩ := trailed
  rw [List.length_append, trailerLength]
  exact Nat.le_add_left _ _

/-- Frames around a trailed datagram with an IPv4 header are decoded, and no others. -/
theorem decode_forge_eq_ok {inner : Bytes} :
    decode cipherKey (Frame.forge cipherKey authKey header iv plain).toBytes = .ok inner ↔
      ∃ nextHeader, Trailed inner nextHeader plain ∧ ipv4HeaderLength ≤ inner.length := by
  rw [decode_eq_ok]
  constructor
  · rintro ⟨frame, nextHeader, split, trailed, room⟩
    have found : frame.datagram cipherKey = .ok (inner, nextHeader) :=
      stripTrailer_eq_ok.mpr trailed
    have enough : trailerLength ≤ plain.length := by
      have bytes := congrArg List.length (Frame.split_eq_ok.mp split).1
      have large := (Frame.split_eq_ok.mp split).2
      rw [Frame.length_forge, Frame.length_toBytes] at bytes
      omega
    cases split.symm.trans (Frame.split_forge _ _ _ _ _ enough)
    rw [Frame.datagram_forge] at found
    exact ⟨nextHeader, stripTrailer_eq_ok.mp found, room⟩
  · rintro ⟨nextHeader, trailed, room⟩
    refine ⟨_, nextHeader, Frame.split_forge _ _ _ _ _ (length_of_trailed trailed), ?_, room⟩
    rw [← stripTrailer_eq_ok, ← Frame.datagram, Frame.datagram_forge]
    exact stripTrailer_eq_ok.mpr trailed

theorem decode_forge_of_badPadding {front : Bytes} {count nextHeader : UInt8}
    (large : front.length < count.toNat) (same : plain = front ++ [count, nextHeader]) :
    decode cipherKey (Frame.forge cipherKey authKey header iv plain).toBytes =
      .error (.badPadding count.toNat plain.length) := by
  have length : plain.length = front.length + 2 := by
    rw [same, List.length_append]
    rfl
  have stripped : stripTrailer plain = .error (.badPadding count.toNat plain.length) := by
    rw [length, same, stripTrailer_append, if_pos large]
  rw [decode, Frame.split_forge _ _ _ _ _ (length ▸ Nat.le_add_left _ _)]
  simp only [Frame.datagram_forge, stripped]

theorem decode_forge_of_noHeader {inner : Bytes} {nextHeader : UInt8}
    (trailed : Trailed inner nextHeader plain) (short : inner.length < ipv4HeaderLength) :
    decode cipherKey (Frame.forge cipherKey authKey header iv plain).toBytes =
      .error (.truncated "inner IPv4 header" ipv4HeaderLength inner.length) := by
  rw [decode, Frame.split_forge _ _ _ _ _ (length_of_trailed trailed)]
  simp only [Frame.datagram_forge, stripTrailer_eq_ok.mpr trailed]
  rw [TransformError.require_of_lt short]

end Decoding

/-! ## Decryption -/

/-- A frame that is refused: the error, and nothing changed but the mark. -/
structure Refused {I M : Type} [HeaderHost M] (wire : Bytes) (ipv4 : I) (cause : TransformError)
    (ended : Decryption I M) : Prop where
  result : ended.result = .error (.error cause)
  packet : ended.packet = wire
  ipv4 : ended.ipv4 = ipv4
  marked : IsDropMarked ended.metadata

section Forged

variable {ipv4 esp metadata : FieldSet} {header : Bytes}

theorem refused_of_decode_error (ipv4 : FieldSet) (cipherKey authKey : Bytes) {wire : Bytes}
    (espOf : FieldSet.Of .esp esp) (metadataOf : FieldSet.Of .standardMetadata metadata)
    {cause : TransformError} (failed : decode (.ofBlob cipherKey) wire = .error cause) :
    Refused wire ipv4 cause (decrypt wire ipv4 esp metadata cipherKey authKey) := by
  obtain ⟨marked, log, isMarked, -, ends⟩ :=
    decrypt_undecodable ipv4 authKey espOf metadataOf failed
  rw [ends]
  exact ⟨rfl, rfl, rfl, isMarked⟩

/-- A frame with the right check value is delivered as valid if it can be decoded. -/
theorem delivered_of_decode (cipherKey : Bytes) {authKey : Bytes} {iv : Octets ivLength}
    {plain inner : Bytes} (ipv4Of : FieldSet.Of .ipv4 ipv4)
    (metadataOf : FieldSet.Of .standardMetadata metadata) (packs : pack .esp esp = .ok header)
    (enough : trailerLength ≤ plain.length)
    (decoded : decode (.ofBlob cipherKey) (Frame.forge (.ofBlob cipherKey) (Esp.authKey authKey)
      header iv plain).toBytes = .ok inner) :
    ∃ next log, FieldSet.ofBytes .ipv4 (inner.take ipv4HeaderLength) = .ok next ∧
      decrypt (Frame.forge (.ofBlob cipherKey) (Esp.authKey authKey) header iv plain).toBytes
        ipv4 esp metadata cipherKey authKey =
          ⟨.ok .valid, inner.drop ipv4HeaderLength, next, metadata, log⟩ := by
  obtain ⟨next, verdict, after, log, unpacked, nextOf, judged, -, ends⟩ :=
    decrypt_delivered authKey ipv4Of metadataOf packs decoded
  have room : HeaderLayout.ipv4.length ≤ inner.length := by
    obtain ⟨-, -, -, -, room⟩ := decode_eq_ok.mp decoded
    exact room
  cases judged with
  | mismatch wrong _ => exact absurd (authentic_forge enough) wrong
  | valid _ =>
      have front := FieldSet.ofBytes_take_append room []
      rw [List.append_nil] at front
      have names := HeaderLayout.ipv4_proper.names_nodup
      exact ⟨next, log, front.trans (nextOf.ofBytes_of_unpack names room unpacked), ends⟩

end Forged

/-- **A decryption accepts exactly the trailer grammar.**  A frame with the right check
value is valid if its plaintext is a datagram of at least 20 bytes, up to 255 bytes of
any padding, their number and any protocol.  The datagram is then delivered; otherwise
the frame is refused, for the first of three reasons that holds. -/
theorem decrypt_forge {ipv4 esp metadata : FieldSet} (ipv4Of : FieldSet.Of .ipv4 ipv4)
    (espOf : FieldSet.Of .esp esp) (metadataOf : FieldSet.Of .standardMetadata metadata)
    (cipherKey authKey : Bytes) (iv : Octets ivLength) (plain : Bytes) :
    ∃ header, pack .esp esp = .ok header ∧
      let wire := (Frame.forge (.ofBlob cipherKey) (Esp.authKey authKey) header iv plain).toBytes
      let ended := decrypt wire ipv4 esp metadata cipherKey authKey
      (ended.result = .ok .valid ↔
        ∃ inner pad nextHeader, plain = inner ++ pad ++ [UInt8.ofNat pad.length, nextHeader] ∧
          pad.length ≤ 255 ∧ 20 ≤ inner.length) ∧
      (∀ inner pad nextHeader, plain = inner ++ pad ++ [UInt8.ofNat pad.length, nextHeader] →
        pad.length ≤ 255 → 20 ≤ inner.length →
        ended.packet = inner.drop 20 ∧ FieldSet.ofBytes .ipv4 (inner.take 20) = .ok ended.ipv4 ∧
          ended.metadata = metadata) ∧
      (plain.length < 2 →
        Refused wire ipv4 (.truncated "ESP payload" 22 (plain.length + 20)) ended) ∧
      (∀ front count nextHeader, plain = front ++ [count, nextHeader] →
        plain.length - 2 < count.toNat →
        Refused wire ipv4 (.badPadding count.toNat plain.length) ended) ∧
      (∀ inner pad nextHeader, plain = inner ++ pad ++ [UInt8.ofNat pad.length, nextHeader] →
        pad.length ≤ 255 → inner.length < 20 →
        Refused wire ipv4 (.truncated "inner IPv4 header" 20 inner.length) ended) := by
  obtain ⟨header, packs⟩ := headerBytes_of espOf
  refine ⟨header, packs, ?_⟩
  intro wire ended
  have trails {inner pad : Bytes} {nextHeader : UInt8}
      (same : plain = inner ++ pad ++ [UInt8.ofNat pad.length, nextHeader])
      (bound : pad.length ≤ 255) : Trailed inner nextHeader plain :=
    trailed_iff.mpr ⟨pad, bound, same⟩
  have delivers {inner : Bytes} {nextHeader : UInt8} (trailed : Trailed inner nextHeader plain)
      (room : ipv4HeaderLength ≤ inner.length) :
      ∃ next log, FieldSet.ofBytes .ipv4 (inner.take 20) = .ok next ∧
        ended = ⟨.ok .valid, inner.drop 20, next, metadata, log⟩ :=
    delivered_of_decode cipherKey ipv4Of metadataOf packs (length_of_trailed trailed)
      (decode_forge_eq_ok.mpr ⟨nextHeader, trailed, room⟩)
  have refuses {cause : TransformError}
      (failed : decode (.ofBlob cipherKey) wire = .error cause) : Refused wire ipv4 cause ended :=
    refused_of_decode_error ipv4 cipherKey authKey espOf metadataOf failed
  refine ⟨⟨?_, ?_⟩, ?_, ?_, ?_, ?_⟩
  · intro valid
    cases decoded : decode (.ofBlob cipherKey) wire with
    | error cause =>
        rw [(refuses decoded).result] at valid
        cases valid
    | ok inner =>
        obtain ⟨nextHeader, trailed, room⟩ := decode_forge_eq_ok.mp decoded
        obtain ⟨pad, bound, same⟩ := trailed_iff.mp trailed
        exact ⟨inner, pad, nextHeader, same, bound, room⟩
  · rintro ⟨inner, pad, nextHeader, same, bound, room⟩
    obtain ⟨next, log, -, ends⟩ := delivers (trails same bound) room
    exact congrArg Decryption.result ends
  · intro inner pad nextHeader same bound room
    obtain ⟨next, log, read, ends⟩ := delivers (trails same bound) room
    refine ⟨congrArg Decryption.packet ends, ?_, congrArg Decryption.metadata ends⟩
    rw [show ended.ipv4 = next from congrArg Decryption.ipv4 ends]
    exact read
  · intro short
    exact refuses (decode_forge_of_short short)
  · intro front count nextHeader same large
    refine refuses (decode_forge_of_badPadding ?_ same)
    rw [same, List.length_append] at large
    exact large
  · intro inner pad nextHeader same bound short
    exact refuses (decode_forge_of_noHeader (trails same bound) short)

/-- Padding that counts up, before the protocol of IPv6. -/
theorem decrypt_forge_foreign_padding :
    ∃ header, pack .esp (FieldSet.new .esp) = .ok header ∧
      let plain : Bytes := List.replicate 20 0x45 ++ [7, 8, 9] ++ [1, 2, 3, 4, 5] ++ [5, 41]
      let wire := (Frame.forge (.ofBlob [1]) (Esp.authKey [2]) header (.replicate 8 3) plain).toBytes
      let ended := decrypt wire (FieldSet.new .ipv4) (FieldSet.new .esp)
        (FieldSet.new .standardMetadata) [1] [2]
      ended.result = .ok .valid ∧ ended.packet = [7, 8, 9] := by
  obtain ⟨header, packs, valid, delivered, -⟩ := decrypt_forge (.new .ipv4) (.new .esp)
    (.new .standardMetadata) [1] [2] (.replicate 8 3)
    (List.replicate 20 0x45 ++ [7, 8, 9] ++ [1, 2, 3, 4, 5] ++ [5, 41])
  refine ⟨header, packs, valid.mpr ?_, ?_⟩
  · exact ⟨List.replicate 20 0x45 ++ [7, 8, 9], [1, 2, 3, 4, 5], 41, rfl, by decide, by decide⟩
  · exact (delivered (List.replicate 20 0x45 ++ [7, 8, 9]) [1, 2, 3, 4, 5] 41 rfl (by decide)
      (by decide)).1

end PacketProtection.Esp

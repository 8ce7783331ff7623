import PacketProtection.Proofs.Command.Checksum
import PacketProtection.Proofs.Command.Tunnel
import PacketProtection.Proofs.Esp.WireFormat

/-!
# The outer packet

What is sent is the header of the inner packet with three fields replaced, an ESP header
made of the index and the sequence number, and the frame.  All the fields that are stored
are made of whole bytes, so each store is a change of these bytes (`outerHeader`).

*Lengths.*  A total length that was stored has sixteen bits, so it is the true length and
not what a longer one is cut down to (`set_of_setUint_totalLen`).

*Building.*  The checksum is computed over a header whose checksum is zero, and stored in
that place (`buildIpv4_eq`).
-/

namespace PacketProtection.Command

open HeaderHost Esp

/-! ## Headers that are sent -/

/-- A header with a total length, the protocol of ESP, and the checksum of both. -/
def outerHeader (inner : Bytes) (total : Nat) : Bytes :=
  let marked := (inner.overwrite 2 (Bytes.ofNat 2 total)).overwrite 9 [50]
  marked.overwrite 10 (Bytes.ofNat 2 (checksum (marked.overwrite 10 (Bytes.ofNat 2 0))))

/-- The bytes of a header that is sent. -/
structure Outer (inner : Bytes) (total : Nat) (header : Bytes) : Prop where
  length_eq : header.length = 20
  total_eq : (header.drop 2).take 2 = Bytes.ofNat 2 total
  protocol_eq : header[9]? = some 50
  onesSum_eq : onesSum header = 0xffff
  getElem?_eq : ∀ i, i ∉ [2, 3, 9, 10, 11] → header[i]? = inner[i]?

theorem outerHeader_outer {inner : Bytes} (innerLength : inner.length = 20) (total : Nat) :
    Outer inner total (outerHeader inner total) := by
  let sized := inner.overwrite 2 (Bytes.ofNat 2 total)
  let marked := sized.overwrite 9 [50]
  have sizedFits : 2 + (Bytes.ofNat 2 total).length ≤ inner.length := by
    rw [Bytes.length_ofNat, innerLength]
    decide
  have sizedLength : sized.length = 20 := (Bytes.length_overwrite sizedFits).trans innerLength
  have markedFits : 9 + [(50 : UInt8)].length ≤ sized.length := by
    rw [sizedLength]
    decide
  have markedLength : marked.length = 20 := (Bytes.length_overwrite markedFits).trans sizedLength
  have summedFits (value : Nat) : 10 + (Bytes.ofNat 2 value).length ≤ marked.length := by
    rw [Bytes.length_ofNat, markedLength]
    decide
  have pair (value : Nat) : (Bytes.ofNat 2 value).length = 2 := Bytes.length_ofNat _ _
  refine ⟨?_, ?_, ?_, ?_, fun i other => ?_⟩
  · exact (Bytes.length_overwrite (summedFits _)).trans markedLength
  · calc ((outerHeader inner total).drop 2).take 2
      _ = (marked.drop 2).take 2 :=
          Bytes.take_drop_overwrite_of_outside (summedFits _) (.inl (by decide))
      _ = (sized.drop 2).take 2 :=
          Bytes.take_drop_overwrite_of_outside markedFits (.inl (by decide))
      _ = Bytes.ofNat 2 total := by
          have written := Bytes.take_drop_overwrite sizedFits
          rw [pair] at written
          exact written
  · have written : (marked.drop 9).take 1 = [50] := Bytes.take_drop_overwrite markedFits
    calc (outerHeader inner total)[9]?
      _ = marked[9]? := Bytes.getElem?_overwrite_of_outside (summedFits _) (.inl (by decide))
      _ = ((marked.drop 9).take 1)[0]? := by rw [List.getElem?_take, List.getElem?_drop]; rfl
      _ = some 50 := by rw [written]; rfl
  · exact @onesSum_overwrite_checksum marked 10 5 markedLength (by decide)
  · simp only [List.mem_cons, List.not_mem_nil, or_false, not_or] at other
    calc (outerHeader inner total)[i]?
      _ = marked[i]? :=
          Bytes.getElem?_overwrite_of_outside (summedFits _) (by rw [pair]; omega)
      _ = sized[i]? :=
          Bytes.getElem?_overwrite_of_outside markedFits (by rw [List.length_singleton]; omega)
      _ = inner[i]? :=
          Bytes.getElem?_overwrite_of_outside sizedFits (by rw [pair]; omega)

/-! ## Headers that are built -/

theorem buildIpv4_eq {fields : FieldSet} {raw header : Bytes} (packs : pack .ipv4 fields = .ok raw)
    (built : buildIpv4 fields = .ok header) :
    header = raw.overwrite 10 (Bytes.ofNat 2 (checksum (raw.overwrite 10 (Bytes.ofNat 2 0)))) := by
  have proper := HeaderLayout.ipv4_proper
  have full := HeaderLayout.ipv4_full
  have member : (⟨"hdrChecksum", 80, 16⟩ : BitField) ∈ HeaderLayout.ipv4.fields := by decide
  have aligned : BitField.Aligned ⟨"hdrChecksum", 80, 16⟩ 10 2 := ⟨rfl, rfl⟩
  have rawLength : raw.length = 20 := length_pack packs
  obtain ⟨blank, blanked, summing⟩ := bind_eq_ok.mp built
  obtain ⟨blankRaw, blankPacks, storing⟩ := bind_eq_ok.mp summing
  obtain ⟨summed, stored, packing⟩ := bind_eq_ok.mp storing
  have blankPacked := pack_of_setUint proper full packs member aligned (mapError_eq_ok.mp blanked)
  have blankEq := Except.ok.inj ((mapError_eq_ok.mp blankPacks).symm.trans blankPacked)
  have summedPacked :=
    pack_of_setUint proper full blankPacked member aligned (mapError_eq_ok.mp stored)
  have headerEq := Except.ok.inj ((mapError_eq_ok.mp packing).symm.trans summedPacked)
  have fits : 10 + (Bytes.ofNat 2 (UInt64.toNat 0)).length ≤ raw.length := by
    rw [rawLength, Bytes.length_ofNat]
    decide
  rw [headerEq, toNat_checksum, blankEq, Bytes.overwrite_overwrite fits]
  · rfl
  · rw [Bytes.length_ofNat, Bytes.length_ofNat]

/-- The ESP header of an association is its index and its sequence number. -/
theorem espHeader_eq {spi seq : UInt32} {indexed esp : FieldSet} {header : Bytes}
    (spiStored : withNumber (.new .esp) "spi" spi.toUInt64 = .ok indexed)
    (seqStored : withNumber indexed "seqNo" seq.toUInt64 = .ok esp)
    (packs : packed .esp esp = .ok header) :
    header = Bytes.ofNat 4 spi.toNat ++ Bytes.ofNat 4 seq.toNat := by
  have proper := HeaderLayout.esp_proper
  have full := HeaderLayout.esp_full
  obtain ⟨raw, rawPacks⟩ := headerBytes_of (FieldSet.Of.new .esp)
  have rawLength : raw.length = 8 := length_pack rawPacks
  have indexedPacks := pack_of_setUint proper full rawPacks
    (show (⟨"spi", 0, 32⟩ : BitField) ∈ HeaderLayout.esp.fields by decide)
    (show BitField.Aligned ⟨"spi", 0, 32⟩ 0 4 from ⟨rfl, rfl⟩) (mapError_eq_ok.mp spiStored)
  have espPacks := pack_of_setUint proper full indexedPacks
    (show (⟨"seqNo", 32, 32⟩ : BitField) ∈ HeaderLayout.esp.fields by decide)
    (show BitField.Aligned ⟨"seqNo", 32, 32⟩ 4 4 from ⟨rfl, rfl⟩) (mapError_eq_ok.mp seqStored)
  rw [Except.ok.inj ((mapError_eq_ok.mp packs).symm.trans espPacks)]
  have front : (Bytes.ofNat 4 spi.toNat).length = 4 := Bytes.length_ofNat _ _
  have behind : (raw.drop 4).drop 4 = [] := by
    rw [List.drop_drop, List.drop_eq_nil_iff, rawLength]
  rw [UInt32.toNat_toUInt64, UInt32.toNat_toUInt64, Bytes.overwrite, Bytes.overwrite]
  simp only [List.take_zero, List.nil_append, Bytes.length_ofNat, Nat.zero_add]
  rw [List.take_left' front, ← List.drop_drop, List.drop_left' front, behind, List.append_nil]

/-! ## The packet that is sent -/

/-- What is sent is put together from the headers and the frame. -/
theorem packet_of_espEncrypt {association : EspAssociation} {packet : Bytes}
    {iv : Octets ivLength} {sent : EspSummary}
    (succeeds : (espEncrypt association packet iv).result = .ok sent) :
    20 ≤ packet.length ∧
    ∃ frame, 28 + frame.length < 65536 ∧ sent.packet =
      some (outerHeader (packet.take 20) (28 + frame.length) ++
        (Bytes.ofNat 4 association.spi.toNat ++ Bytes.ofNat 4 association.seq.toNat) ++ frame) := by
  obtain ⟨ipv4, parsed, indexing⟩ := Traced.result_bind_eq_ok.mp succeeds
  obtain ⟨indexed, spiStored, numbering⟩ := Traced.result_bind_eq_ok.mp indexing
  obtain ⟨esp, seqStored, encrypting⟩ := Traced.result_bind_eq_ok.mp numbering
  obtain ⟨_, encrypted, marking⟩ := Traced.result_bind_eq_ok.mp encrypting
  obtain ⟨marked, protocolStored, building⟩ := bind_eq_ok.mp marking
  obtain ⟨header, built, packing⟩ := bind_eq_ok.mp building
  obtain ⟨espHeader, espPacks, addressing⟩ := bind_eq_ok.mp packing
  obtain ⟨ends, -, summary⟩ := bind_eq_ok.mp addressing
  have proper := HeaderLayout.ipv4_proper
  have full := HeaderLayout.ipv4_full
  obtain ⟨read, -⟩ := parseIpv4_eq_ok.mp parsed
  have enough : 20 ≤ packet.length := unpacked_length read
  have ipv4Packs := packed_of_unpacked proper full read
  obtain ⟨-, inner, -, -, -, -, -, totalStored⟩ := encrypt_eq_ok (mapError_eq_ok.mp encrypted)
  obtain ⟨small, total⟩ := set_of_setUint_totalLen ipv4Packs totalStored
  have sizedPacks := pack_of_set proper full ipv4Packs totalLen_mem
    (show BitField.Aligned ⟨"totalLen", 16, 16⟩ 2 _ from ⟨rfl, by rw [Bytes.length_ofNat]⟩) total
  have markedPacks := pack_of_setUint proper full sizedPacks
    (show (⟨"protocol", 72, 8⟩ : BitField) ∈ HeaderLayout.ipv4.fields by decide)
    (show BitField.Aligned ⟨"protocol", 72, 8⟩ 9 1 from ⟨rfl, rfl⟩)
    (mapError_eq_ok.mp protocolStored)
  have headerEq := buildIpv4_eq markedPacks built
  have espHeaderEq := espHeader_eq spiStored seqStored espPacks
  cases summary
  generalize encrypt (packet.drop ipv4HeaderLength) ipv4 esp association.cipherKey
    association.authKey iv.toList = encryption at *
  rw [Nat.add_comm] at small headerEq
  exact ⟨enough, encryption.packet, small, by rw [headerEq, espHeaderEq]; rfl⟩

/-- **The outer packet is well formed.**  Whatever header a packet had that was accepted,
the outer header tells the length of what is sent and the protocol of ESP and passes the
check of RFC 1071; index and sequence number follow it, and nothing else in it changed. -/
theorem espEncrypt_wellFormed {association : EspAssociation} {packet : Bytes}
    {iv : Octets ivLength} {sent : EspSummary}
    (succeeds : (espEncrypt association packet iv).result = .ok sent) :
    ∃ out, sent.packet = some out ∧
      Bytes.toNat ((out.drop 2).take 2) = out.length ∧
      out[9]? = some 50 ∧
      onesSum (out.take 20) = 0xffff ∧
      (out.drop 20).take 8 =
        Bytes.ofNat 4 association.spi.toNat ++ Bytes.ofNat 4 association.seq.toNat ∧
      ∀ i < 20, i ∉ [2, 3, 9, 10, 11] → out[i]? = packet[i]? := by
  obtain ⟨enough, frame, small, sends⟩ := packet_of_espEncrypt succeeds
  have indicesLength :
      (Bytes.ofNat 4 association.spi.toNat ++ Bytes.ofNat 4 association.seq.toNat).length = 8 := by
    rw [List.length_append, Bytes.length_ofNat, Bytes.length_ofNat]
  obtain ⟨length, total, protocol, sum, same⟩ :=
    outerHeader_outer (List.length_take_of_le enough) (28 + frame.length)
  generalize outerHeader (packet.take 20) (28 + frame.length) = header,
    Bytes.ofNat 4 association.spi.toNat ++ Bytes.ofNat 4 association.seq.toNat = indices at *
  have front (i : Nat) (inside : i < 20) : (header ++ indices ++ frame)[i]? = header[i]? := by
    rw [List.append_assoc, List.getElem?_append_left (by omega)]
  refine ⟨_, sends, ?_, ?_, ?_, ?_, fun i inside other => ?_⟩
  · rw [List.append_assoc, List.drop_append_of_le_length (by omega),
      List.take_append_of_le_length (by rw [List.length_drop]; omega), total,
      Bytes.toNat_ofNat_of_lt small, List.length_append, List.length_append, length, indicesLength]
    omega
  · exact (front 9 (by decide)).trans protocol
  · rw [List.append_assoc, List.take_left' length]
    exact sum
  · rw [List.append_assoc, List.drop_left' length, List.take_left' indicesLength]
  · rw [front i inside, same i other, List.getElem?_take_of_lt inside]

/-- A header of which most bits are set. -/
theorem espEncrypt_wellFormed_carries :
    ∃ (association : EspAssociation) (packet : Bytes) (sent : EspSummary) (out : Bytes),
      association = ⟨0xfffffffe, 2, [3], [4]⟩ ∧ packet = 0x45 :: List.replicate 19 0xff ∧
      (espEncrypt association packet (.replicate 8 7)).result = .ok sent ∧
      sent.packet = some out ∧ onesSum (out.take 20) = 0xffff ∧
      (out.drop 20).take 8 = [0xff, 0xff, 0xff, 0xfe, 0, 0, 0, 2] ∧ out[19]? = some 0xff := by
  obtain ⟨ipv4, parsed⟩ :=
    exists_parseIpv4_iff.mpr (show 20 ≤ (0x45 :: List.replicate 19 0xff : Bytes).length ∧
      (0x45 :: List.replicate 19 0xff : Bytes).head? = some 0x45 from ⟨by decide, rfl⟩)
  obtain ⟨sent, succeeds, -⟩ :=
    espEncrypt_encapsulates ⟨0xfffffffe, 2, [3], [4]⟩ (.replicate 8 7) parsed (by decide)
  obtain ⟨out, sends, -, -, sum, indices, same⟩ := espEncrypt_wellFormed succeeds
  exact ⟨_, _, sent, out, rfl, rfl, succeeds, sends, sum, indices,
    same 19 (by decide) (by decide)⟩

end PacketProtection.Command

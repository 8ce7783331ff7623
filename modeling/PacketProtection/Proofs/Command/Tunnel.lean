import PacketProtection.Proofs.Command.Release
import PacketProtection.Proofs.Esp.RoundTrip
import PacketProtection.Proofs.Esp.Separation

/-!
# Packets through the ESP command and back

The command parses the header of a packet into fields and changes some of them
for the outer header.  The packet itself travels encrypted, with its header as it
was.  So the changed fields matter only as far as the receiver looks at them:
version, header length and protocol decide whether it parses the packet, and the
addresses are reported (`Encapsulates`).

*Sending.*  Whatever header was parsed, its fields can be changed and packed
(`exists_outerHeader`), as long as the total length has a place
(`outerNumber_lt_iff`).  So the command encapsulates every packet that it parses and
that is not too long (`espEncrypt_encapsulates`), and fails on all others.

*Receiving.*  A packet that encapsulates another gives it back to everybody with
the same keys (`espDecrypt_of_encapsulates`), and so the command undoes itself
(`espDecrypt_espEncrypt`).
-/

namespace PacketProtection.Command

open HeaderHost Esp

/-! ## Packets in a tunnel -/

/-- A receiver parses the fields as the header of an ESP packet from one address
to another. -/
structure Addressed (outer : FieldSet) (src dst : UInt32) : Prop where
  version_eq : fieldNumber outer "version" = .ok 4
  ihl_eq : fieldNumber outer "ihl" = .ok 5
  protocol_eq : fieldNumber outer "protocol" = .ok 50
  ends_eq : addresses outer = .ok (src, dst)

/-- The fields of an ESP header hold an index and a sequence number. -/
structure Indexed (esp : FieldSet) (spi seq : UInt32) : Prop where
  spi_eq : fieldNumber esp "spi" = .ok spi.toUInt64
  seq_eq : fieldNumber esp "seqNo" = .ok seq.toUInt64

/-- A summary reports a packet that carries another behind headers of its own. -/
def Encapsulates (association : EspAssociation) (inner : Bytes) (iv : Octets ivLength)
    (sent : EspSummary) : Prop :=
  ∃ outer esp header espHeader, Addressed outer sent.src sent.dst ∧ Indexed esp sent.spi sent.seq ∧
    packed .ipv4 outer = .ok header ∧ packed .esp esp = .ok espHeader ∧
    sent.packet = some (header ++ espHeader ++ wire association.cipherKey association.authKey
      espHeader (inner.take ipv4HeaderLength) (inner.drop ipv4HeaderLength) iv)

theorem Encapsulates.packet_eq_some {association : EspAssociation} {inner : Bytes}
    {iv : Octets ivLength} {sent : EspSummary}
    (encapsulates : Encapsulates association inner iv sent) :
    ∃ carried, sent.packet = some carried := by
  obtain ⟨outer, esp, header, espHeader, -, -, -, -, whole⟩ := encapsulates
  exact ⟨_, whole⟩

/-! ## Headers that are built -/

/-- The fields of the ESP header that is sent. -/
theorem exists_espFields (spi seq : UInt32) :
    ∃ indexed esp espHeader, withNumber (.new .esp) "spi" spi.toUInt64 = .ok indexed ∧
      withNumber indexed "seqNo" seq.toUInt64 = .ok esp ∧ packed .esp esp = .ok espHeader ∧
      Indexed esp spi seq := by
  have proper := HeaderLayout.esp_proper
  obtain ⟨indexed, spiStored, sound, spiRead, -⟩ :=
    exists_withNumber proper (FieldSet.Of.new .esp) ⟨"spi", 0, 32⟩ (by decide)
      spi.toUInt64 spi.toNat_lt
  obtain ⟨esp, seqStored, sound, seqRead, others⟩ :=
    exists_withNumber proper sound ⟨"seqNo", 32, 32⟩ (by decide) seq.toUInt64 seq.toNat_lt
  obtain ⟨espHeader, packs⟩ := exists_packed proper sound
  exact ⟨indexed, esp, espHeader, spiStored, seqStored, packs,
    (others "spi" (by decide)).trans spiRead, seqRead⟩

theorem checksum_lt (header : Bytes) : checksum header < 2 ^ 16 :=
  Nat.lt_succ_of_le (Nat.sub_le _ _)

theorem toNat_checksum (header : Bytes) :
    (UInt64.ofNat (checksum header)).toNat = checksum header := by
  have small := checksum_lt header
  rw [UInt64.toNat_ofNat', Nat.mod_eq_of_lt (by omega)]

/-- A header is built with another checksum and nothing else changed. -/
theorem exists_buildIpv4 {fields : FieldSet} (sound : FieldSet.Of .ipv4 fields) :
    ∃ outer header, buildIpv4 fields = .ok header ∧ packed .ipv4 outer = .ok header ∧
      ∀ name ≠ "hdrChecksum", fieldNumber outer name = fieldNumber fields name := by
  have proper := HeaderLayout.ipv4_proper
  obtain ⟨blank, blanked, sound, -, blankOthers⟩ :=
    exists_withNumber proper sound ⟨"hdrChecksum", 80, 16⟩ (by decide) 0 (by decide)
  obtain ⟨raw, blankPacks⟩ := exists_packed proper sound
  obtain ⟨outer, summed, sound, -, outerOthers⟩ :=
    exists_withNumber proper sound ⟨"hdrChecksum", 80, 16⟩ (by decide)
      (UInt64.ofNat (checksum raw)) (by rw [toNat_checksum]; exact checksum_lt raw)
  obtain ⟨header, packs⟩ := exists_packed proper sound
  refine ⟨outer, header, ?_, packs, fun name other =>
    (outerOthers name other).trans (blankOthers name other)⟩
  unfold buildIpv4
  simp only [blanked, blankPacks, summed, packs, bind, Except.bind]

theorem addresses_congr {fields other : FieldSet}
    (src : fieldNumber fields "srcAddr" = fieldNumber other "srcAddr")
    (dst : fieldNumber fields "dstAddr" = fieldNumber other "dstAddr") :
    addresses fields = addresses other := by
  unfold addresses
  rw [src, dst]

/-- The header of a packet makes an outer header for every total length. -/
theorem exists_outerHeader {packet : Bytes} {ipv4 : FieldSet}
    (parsed : parseIpv4 packet = .ok ipv4) (total : UInt64) (fits : total.toNat < 2 ^ 16) :
    ∃ sized marked outer header ends, setUint ipv4 "totalLen" total = .ok sized ∧
      withNumber sized "protocol" IpProtocol.esp.toUInt64 = .ok marked ∧
      addresses marked = .ok ends ∧ buildIpv4 marked = .ok header ∧
      packed .ipv4 outer = .ok header ∧ Addressed outer ends.1 ends.2 := by
  have proper := HeaderLayout.ipv4_proper
  obtain ⟨read, version, ihl⟩ := parseIpv4_eq_ok_iff_numbers.mp parsed
  obtain ⟨ends, endsRead⟩ := exists_addresses read
  obtain ⟨sized, stored, sound, -, sizedOthers⟩ :=
    exists_withNumber proper (of_unpacked read) ⟨"totalLen", 16, 16⟩ (by decide) total fits
  obtain ⟨marked, marking, sound, protocol, markedOthers⟩ :=
    exists_withNumber proper sound ⟨"protocol", 72, 8⟩ (by decide) IpProtocol.esp.toUInt64
      (by decide)
  obtain ⟨outer, header, built, packs, outerOthers⟩ := exists_buildIpv4 sound
  -- The three changes leave the fields alone that a receiver looks at.
  have kept (name : String) (total : name ≠ "totalLen") (protocol : name ≠ "protocol") :
      fieldNumber marked name = fieldNumber ipv4 name :=
    (markedOthers name protocol).trans (sizedOthers name total)
  have markedEnds : addresses marked = .ok ends :=
    (addresses_congr (kept _ (by decide) (by decide)) (kept _ (by decide) (by decide))).trans
      endsRead
  have outerEnds : addresses outer = .ok ends :=
    (addresses_congr (outerOthers _ (by decide)) (outerOthers _ (by decide))).trans markedEnds
  refine ⟨sized, marked, outer, header, ends, mapError_eq_ok.mp stored, marking, markedEnds, built,
    packs, ?_, ?_, ?_, outerEnds⟩
  · exact (outerOthers _ (by decide)).trans ((kept _ (by decide) (by decide)).trans version)
  · exact (outerOthers _ (by decide)).trans ((kept _ (by decide) (by decide)).trans ihl)
  · exact (outerOthers _ (by decide)).trans protocol

/-! ## The total length -/

/-- The total length that an outer packet tells. -/
def outerNumber (packet : Bytes) : UInt64 :=
  UInt64.ofNatClamp (outerTotal (packet.length - ipv4HeaderLength))

/-- The total length has a place up to 65470 bytes of packet. -/
theorem outerNumber_lt_iff {packet : Bytes} :
    (outerNumber packet).toNat < 65536 ↔ packet.length ≤ 65470 := by
  rw [outerNumber, toNat_ofNatClamp_lt_iff, outerTotal_lt_iff, ipv4HeaderLength]
  omega

/-- The length of a packet alone decides how long its frame becomes. -/
theorem total_eq_outerNumber (cipherKey authKey espHeader : Bytes) (iv : Octets ivLength)
    {packet : Bytes} (enough : 20 ≤ packet.length) :
    UInt64.ofNatClamp ((wire cipherKey authKey espHeader (packet.take ipv4HeaderLength)
      (packet.drop ipv4HeaderLength) iv).length + outerLength) = outerNumber packet := by
  rw [length_wire (List.length_take_of_le enough), List.length_drop, outerNumber]

/-! ## Sending -/

section Sending

variable {association : EspAssociation} {packet : Bytes} {iv : Octets ivLength}

theorem espEncrypt_of_no_ipv4 {error : EspError} (failed : parseIpv4 packet = .error error) :
    (espEncrypt association packet iv).result = .error error := by
  rw [espEncrypt, Traced.result_bind, Traced.ofExcept, failed]
  rfl

/-- Once the headers are there, the command fails with the transform. -/
theorem espEncrypt_of_refused {ipv4 indexed esp : FieldSet} {encryption : Encryption FieldSet}
    {fault : Fault} (parsed : parseIpv4 packet = .ok ipv4)
    (spiStored : withNumber (.new .esp) "spi" association.spi.toUInt64 = .ok indexed)
    (seqStored : withNumber indexed "seqNo" association.seq.toUInt64 = .ok esp)
    (encrypts : Esp.encrypt (packet.drop ipv4HeaderLength) ipv4 esp association.cipherKey
      association.authKey iv.toList = encryption)
    (fails : encryption.result = .error fault) :
    (espEncrypt association packet iv).result = .error (.transform fault) := by
  unfold espEncrypt
  simp only [Traced.result_bind, Traced.ofExcept, parsed, spiStored, seqStored, encrypts, fails,
    Except.bind, Except.mapError]

/-- After a transform the packet is put together behind both headers. -/
theorem espEncrypt_of_encrypted {ipv4 indexed esp marked : FieldSet}
    {encryption : Encryption FieldSet} {header espHeader : Bytes} {ends : UInt32 × UInt32}
    (parsed : parseIpv4 packet = .ok ipv4)
    (spiStored : withNumber (.new .esp) "spi" association.spi.toUInt64 = .ok indexed)
    (seqStored : withNumber indexed "seqNo" association.seq.toUInt64 = .ok esp)
    (encrypts : Esp.encrypt (packet.drop ipv4HeaderLength) ipv4 esp association.cipherKey
      association.authKey iv.toList = encryption)
    (succeeds : encryption.result = .ok ())
    (marking : withNumber encryption.ipv4 "protocol" IpProtocol.esp.toUInt64 = .ok marked)
    (built : buildIpv4 marked = .ok header) (espPacks : packed .esp esp = .ok espHeader)
    (endsRead : addresses marked = .ok ends) :
    (espEncrypt association packet iv).result = .ok
      { action := .encrypt, spi := association.spi, seq := association.seq
        src := ends.1, dst := ends.2
        packet := some (header ++ espHeader ++ encryption.packet) } := by
  unfold espEncrypt
  simp only [Traced.result_bind, Traced.ofExcept, parsed, spiStored, seqStored, encrypts, succeeds,
    Except.bind, Except.mapError]
  simp only [marking, built, espPacks, endsRead, bind, Except.bind]
  rfl

variable (association iv)

/-- The command encapsulates every packet that it parses and that is not too long. -/
theorem espEncrypt_encapsulates {ipv4 : FieldSet} (parsed : parseIpv4 packet = .ok ipv4)
    (small : packet.length ≤ 65470) :
    ∃ sent, (espEncrypt association packet iv).result = .ok sent ∧
      Encapsulates association packet iv sent := by
  obtain ⟨read, -, -⟩ := parseIpv4_eq_ok_iff_numbers.mp parsed
  have enough : 20 ≤ packet.length := unpacked_length read
  obtain ⟨indexed, esp, espHeader, spiStored, seqStored, espPacks, isIndexed⟩ :=
    exists_espFields association.spi association.seq
  obtain ⟨sized, marked, outer, header, ends, stored, marking, endsRead, built, packs, addressed⟩ :=
    exists_outerHeader parsed (outerNumber packet) (outerNumber_lt_iff.mpr small)
  rw [← total_eq_outerNumber association.cipherKey association.authKey espHeader iv enough] at stored
  obtain ⟨succeeds, carried, changed, -⟩ := encrypt_of_stored (mapError_eq_ok.mp espPacks)
    (packed_of_unpacked HeaderLayout.ipv4_proper HeaderLayout.ipv4_full read) (drawIv?_toList iv)
    stored
  rw [← changed] at marking
  refine ⟨_, espEncrypt_of_encrypted parsed spiStored seqStored rfl succeeds marking built espPacks
    endsRead, outer, esp, header, espHeader, addressed, isIndexed, packs, espPacks, ?_⟩
  rw [carried]
  rfl

/-- A packet that is too long has no place for its total length. -/
theorem espEncrypt_of_large {ipv4 : FieldSet} (parsed : parseIpv4 packet = .ok ipv4)
    (large : ¬packet.length ≤ 65470) :
    (espEncrypt association packet iv).result =
      .error (.transform (.error (.fieldOverflow "totalLen" 16))) := by
  obtain ⟨read, -, -⟩ := parseIpv4_eq_ok_iff_numbers.mp parsed
  have enough : 20 ≤ packet.length := unpacked_length read
  have ipv4Packs := packed_of_unpacked HeaderLayout.ipv4_proper HeaderLayout.ipv4_full read
  have overflow : 256 ^ 2 ≤ (outerNumber packet).toNat :=
    Nat.le_of_not_lt fun below => large (outerNumber_lt_iff.mp below)
  have refused := setUint_overflow_of_pack HeaderLayout.ipv4_proper ipv4Packs totalLen_mem overflow
  obtain ⟨indexed, esp, espHeader, spiStored, seqStored, espPacks, -⟩ :=
    exists_espFields association.spi association.seq
  rw [← total_eq_outerNumber association.cipherKey association.authKey espHeader iv enough]
    at refused
  obtain ⟨fails, -, -, -⟩ := encrypt_of_refused (mapError_eq_ok.mp espPacks) ipv4Packs
    (drawIv?_toList iv) refused
  exact espEncrypt_of_refused parsed spiStored seqStored rfl fails

/-- What is sent encapsulates a packet that was parsed and is not too long. -/
theorem encapsulates_of_espEncrypt {sent : EspSummary}
    (succeeds : (espEncrypt association packet iv).result = .ok sent) :
    ∃ ipv4, parseIpv4 packet = .ok ipv4 ∧ packet.length ≤ 65470 ∧
      Encapsulates association packet iv sent := by
  cases parsed : parseIpv4 packet with
  | error error => cases (espEncrypt_of_no_ipv4 parsed).symm.trans succeeds
  | ok ipv4 =>
      by_cases small : packet.length ≤ 65470
      · obtain ⟨other, done, encapsulates⟩ :=
          espEncrypt_encapsulates association iv parsed small
        cases done.symm.trans succeeds
        exact ⟨ipv4, rfl, small, encapsulates⟩
      · cases (espEncrypt_of_large association iv parsed small).symm.trans succeeds

end Sending

/-! ## Receiving -/

/-- Both headers are read back from the front of a packet, whatever it carries. -/
theorem exists_headers {outer esp : FieldSet} {header espHeader : Bytes} {src dst spi seq : UInt32}
    (addressed : Addressed outer src dst) (indexed : Indexed esp spi seq)
    (packs : packed .ipv4 outer = .ok header) (espPacks : packed .esp esp = .ok espHeader)
    (payload : Bytes) :
    ∃ again espAgain, parseIpv4 (header ++ (espHeader ++ payload)) = .ok again ∧
      parseEsp again (header ++ (espHeader ++ payload)) = .ok espAgain ∧
      addresses again = .ok (src, dst) ∧ Indexed espAgain spi seq ∧
      pack .esp espAgain = .ok espHeader := by
  have espProper := HeaderLayout.esp_proper
  have headerLength : header.length = ipv4HeaderLength := length_pack (mapError_eq_ok.mp packs)
  have espLength : espHeader.length = HeaderLayout.esp.length :=
    length_pack (mapError_eq_ok.mp espPacks)
  obtain ⟨again, read, same⟩ :=
    exists_unpacked_of_packed HeaderLayout.ipv4_proper packs (espHeader ++ payload)
  obtain ⟨espAgain, espRead, espSame⟩ := exists_unpacked_of_packed espProper espPacks payload
  refine ⟨again, espAgain, ?_, ?_, ?_, ⟨?_, ?_⟩, ?_⟩
  · exact parseIpv4_eq_ok_iff_numbers.mpr ⟨read,
      (same ⟨"version", 0, 4⟩ (by decide)).trans addressed.version_eq,
      (same ⟨"ihl", 4, 4⟩ (by decide)).trans addressed.ihl_eq⟩
  · refine parseEsp_of_number
      ((same ⟨"protocol", 72, 8⟩ (by decide)).trans addressed.protocol_eq) ?_
    rw [List.drop_left' headerLength]
    exact espRead
  · exact (addresses_congr (same ⟨"srcAddr", 96, 32⟩ (by decide))
      (same ⟨"dstAddr", 128, 32⟩ (by decide))).trans addressed.ends_eq
  · exact (espSame ⟨"spi", 0, 32⟩ (by decide)).trans indexed.spi_eq
  · exact (espSame ⟨"seqNo", 32, 32⟩ (by decide)).trans indexed.seq_eq
  · have packs := packed_of_unpacked espProper HeaderLayout.esp_full espRead
    rw [List.take_left' espLength] at packs
    exact packs

/-- Keys that come out the same make the same frames. -/
theorem wire_congr {cipherKey cipherKey' authKey authKey' : Bytes}
    (sameCipherKey : normalize 20 cipherKey' = normalize 20 cipherKey)
    (sameAuthKey : normalize 16 authKey' = normalize 16 authKey)
    (espHeader inner payload : Bytes) (iv : Octets ivLength) :
    wire cipherKey' authKey' espHeader inner payload iv =
      wire cipherKey authKey espHeader inner payload iv := by
  have sameAuth : Esp.authKey authKey' = Esp.authKey authKey := sameAuthKey
  rw [wire, wire, ofBlob_congr sameCipherKey, sameAuth]

/-- A packet that encapsulates another gives it back to everybody with the same
keys. -/
theorem espDecrypt_of_encapsulates {sender receiver : EspAssociation} {packet carried : Bytes}
    {iv : Octets ivLength} {ipv4 : FieldSet} {sent : EspSummary}
    (sameCipherKey : normalize 20 sender.cipherKey = normalize 20 receiver.cipherKey)
    (sameAuthKey : normalize 16 sender.authKey = normalize 16 receiver.authKey)
    (read : unpacked .ipv4 packet = .ok ipv4)
    (encapsulates : Encapsulates sender packet iv sent) (packet_eq : sent.packet = some carried) :
    (espDecrypt receiver carried).result = .ok
      { action := .decrypt, spi := sent.spi, seq := sent.seq, src := sent.src, dst := sent.dst
        icv := some .valid, packet := some packet } := by
  obtain ⟨outer, esp, header, espHeader, addressed, indexed, packs, espPacks, whole⟩ := encapsulates
  let inner := packet.take ipv4HeaderLength
  let payload := packet.drop ipv4HeaderLength
  let frame := wire receiver.cipherKey receiver.authKey espHeader inner payload iv
  rw [wire_congr sameCipherKey sameAuthKey, List.append_assoc] at whole
  obtain rfl : carried = header ++ (espHeader ++ frame) :=
    Option.some.inj (packet_eq.symm.trans whole)
  have innerLength : inner.length = ipv4HeaderLength :=
    List.length_take_of_le (unpacked_length read)
  have both : inner ++ payload = packet := List.take_append_drop _ _
  obtain ⟨again, espAgain, parsed, espParsed, ends, ⟨spi, seq⟩, espAgainPacks⟩ :=
    exists_headers addressed indexed packs espPacks frame
  have authentic : Authentic (Esp.authKey receiver.authKey) espHeader frame :=
    authentic_wire _ _ _ _ _ _
  have decoded : decode (.ofBlob receiver.cipherKey) frame = .ok packet := by
    rw [← both]
    exact decode_wire innerLength
  obtain ⟨log, decrypts⟩ := decrypt_of_authentic (FieldSet.new .standardMetadata) espAgainPacks
    authentic decoded (unpacked_eq_ok.mp read)
  have behind : (header ++ (espHeader ++ frame)).drop outerLength = frame := by
    rw [← List.append_assoc]
    apply List.drop_left'
    rw [List.length_append, length_pack (mapError_eq_ok.mp packs),
      length_pack (mapError_eq_ok.mp espPacks)]
    rfl
  rw [← behind] at decrypts
  have released : release ⟨.ok .valid, payload, ipv4, FieldSet.new .standardMetadata, log⟩ =
      .ok (false, some (inner ++ payload)) :=
    release_of_fresh rfl
      (packed_of_unpacked HeaderLayout.ipv4_proper HeaderLayout.ipv4_full read)
  rw [both] at released
  rw [espDecrypt_of_parsed parsed espParsed spi seq ends decrypts rfl released,
    UInt32.toUInt32_toUInt64, UInt32.toUInt32_toUInt64]

/-! ## There and back -/

/-- **A packet goes through the command exactly if it has a plain IPv4 header and
at most 65470 bytes, and comes back as it was.**  Total length, checksum and
protocol of its header may be anything, and receivers need the keys only. -/
theorem espDecrypt_espEncrypt (sender : EspAssociation) (packet : Bytes) (iv : Octets ivLength) :
    ((∃ sent, (espEncrypt sender packet iv).result = .ok sent) ↔
      20 ≤ packet.length ∧ packet.length ≤ 65470 ∧ packet.head? = some 0x45) ∧
    ∀ sent, (espEncrypt sender packet iv).result = .ok sent →
      ∃ carried, sent.packet = some carried ∧ ∀ receiver : EspAssociation,
        normalize 20 sender.cipherKey = normalize 20 receiver.cipherKey →
        normalize 16 sender.authKey = normalize 16 receiver.authKey →
        (espDecrypt receiver carried).result = .ok
          { action := .decrypt, spi := sent.spi, seq := sent.seq, src := sent.src, dst := sent.dst
            icv := some .valid, dropped := false, error := none, packet := some packet } := by
  refine ⟨⟨?_, ?_⟩, ?_⟩
  · rintro ⟨sent, succeeds⟩
    obtain ⟨ipv4, parsed, small, -⟩ := encapsulates_of_espEncrypt sender iv succeeds
    obtain ⟨enough, first⟩ := exists_parseIpv4_iff.mp ⟨ipv4, parsed⟩
    exact ⟨enough, small, first⟩
  · rintro ⟨enough, small, first⟩
    obtain ⟨ipv4, parsed⟩ := exists_parseIpv4_iff.mpr ⟨enough, first⟩
    obtain ⟨sent, succeeds, -⟩ := espEncrypt_encapsulates sender iv parsed small
    exact ⟨sent, succeeds⟩
  · intro sent succeeds
    obtain ⟨ipv4, parsed, -, encapsulates⟩ := encapsulates_of_espEncrypt sender iv succeeds
    obtain ⟨read, -⟩ := parseIpv4_eq_ok.mp parsed
    obtain ⟨carried, packet_eq⟩ := encapsulates.packet_eq_some
    exact ⟨carried, packet_eq, fun receiver sameCipherKey sameAuthKey =>
      espDecrypt_of_encapsulates sameCipherKey sameAuthKey read encapsulates packet_eq⟩

/-- The longest packet, whose header tells another length, and a receiver that
expects another index. -/
theorem espDecrypt_espEncrypt_longest :
    ∃ (sender receiver : EspAssociation) (packet carried : Bytes) (sent : EspSummary),
      sender = ⟨1, 2, [3], [4]⟩ ∧ receiver = ⟨9, 9, [0, 3], [0, 4]⟩ ∧
      packet = 0x45 :: List.replicate 65469 0x2a ∧
      (espEncrypt sender packet (.replicate 8 7)).result = .ok sent ∧
      sent.packet = some carried ∧
      normalize 20 sender.cipherKey = normalize 20 receiver.cipherKey ∧
      normalize 16 sender.authKey = normalize 16 receiver.authKey ∧
      (espDecrypt receiver carried).result = .ok
        { action := .decrypt, spi := sent.spi, seq := sent.seq, src := sent.src, dst := sent.dst
          icv := some .valid, packet := some packet } := by
  -- The packet stays a name, so that nothing here is computed byte by byte.
  generalize plain : (0x45 :: List.replicate 65469 0x2a : Bytes) = packet
  have length : packet.length = 65470 := by
    rw [← plain, List.length_cons, List.length_replicate]
  have first : packet.head? = some 0x45 := by
    rw [← plain]
    rfl
  obtain ⟨succeeds, back⟩ := espDecrypt_espEncrypt ⟨1, 2, [3], [4]⟩ packet (.replicate 8 7)
  obtain ⟨sent, sending⟩ := succeeds.mpr ⟨by omega, by omega, first⟩
  obtain ⟨carried, packet_eq, received⟩ := back sent sending
  exact ⟨_, _, packet, carried, sent, rfl, rfl, rfl, sending, packet_eq, by decide, by decide,
    received ⟨9, 9, [0, 3], [0, 4]⟩ (by decide) (by decide)⟩

end PacketProtection.Command

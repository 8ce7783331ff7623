import PacketProtection.Proofs.Command.Headers
import PacketProtection.Proofs.Esp.Ending

/-!
# What the ESP command releases

The command decides about a packet through the metadata of the pipeline: the
transform marks them, the command reads them back and puts a packet together
only if they are not marked.  It also takes headers apart and puts them together
again, and authenticates the ESP header it packed rather than the bytes it was
given.  None of this shows in the result.  A packet is released exactly if it
*encloses* a datagram, which is said of its bytes alone (`Encloses`), and then
the datagram is what is released (`espDecrypt_releases_enclosed`).

*From bytes to the transform.*  A packet of at least 50 bytes splits into a frame
whose parts, with the ESP header, are neighbours in the packet
(`split_payload`).  So a packet encloses a datagram exactly if its payload is
authentic and decodes to it (`encloses_iff`).

*From the transform to the summary.*  Once the headers are read, the summary is put
together from the end of the decryption (`result_espDecrypt`).  `Concludes` has one
case for each way a summary reports the two answers about a payload.
-/

namespace PacketProtection.Command

open HeaderHost Esp

/-! ## Datagrams enclosed in a packet -/

/-- The packet carries a datagram in an authentic ESP frame. -/
structure Encloses (association : EspAssociation) (packet inner : Bytes) : Prop where
  enough : 50 ≤ packet.length
  /-- The last twelve bytes are the digest of all after the outer header. -/
  authentic : packet.drop (packet.length - 12) =
    (Hmac.md5 (normalize 16 association.authKey).toList
      ((packet.take (packet.length - 12)).drop 20)).toList.take 12
  /-- What follows the vector decrypts to the datagram and its trailer. -/
  plaintext : ∃ (iv : Octets 8) (nextHeader : UInt8), iv.toList = (packet.drop 28).take 8 ∧
    Trailed inner nextHeader ((CipherKey.split (normalize 20 association.cipherKey)).crypt iv
      ((packet.take (packet.length - 12)).drop 36))
  room : 20 ≤ inner.length

/-- The ESP header of a packet. -/
def espHeader (packet : Bytes) : Bytes :=
  (packet.drop ipv4HeaderLength).take 8

/-- The parts of a frame where they lie in the packet. -/
theorem split_payload {packet : Bytes} (enough : 50 ≤ packet.length) :
    ∃ frame, Frame.split (packet.drop outerLength) = .ok frame ∧
      frame.iv.toList = (packet.drop 28).take 8 ∧
      frame.ciphertext = (packet.take (packet.length - 12)).drop 36 ∧
      frame.icv.toList = packet.drop (packet.length - 12) := by
  have room : minFrameLength ≤ (packet.drop outerLength).length := by
    rw [List.length_drop, minFrameLength, outerLength]
    omega
  refine ⟨_, dif_pos room, rfl, ?_, ?_⟩
  · show ((packet.drop 28).drop 8).take ((packet.drop 28).length - 20) = _
    rw [List.drop_drop, List.drop_take, List.length_drop]
    congr 1
  · show (packet.drop 28).drop ((packet.drop 28).length - 12) = _
    rw [List.drop_drop, List.length_drop]
    congr 1
    omega

/-- ESP header, vector and ciphertext are neighbours in the packet. -/
theorem covered_eq {packet : Bytes} (enough : 50 ≤ packet.length) :
    espHeader packet ++ (packet.drop 28).take 8 ++
        (packet.take (packet.length - 12)).drop 36 =
      (packet.take (packet.length - 12)).drop 20 := by
  have whole : packet.length - 12 - 20 = 8 + 8 + (packet.length - 12 - 36) := by omega
  rw [List.drop_take, List.drop_take, whole, List.take_add, List.take_add, List.drop_drop,
    List.drop_drop]
  rfl

theorem encloses_iff {association : EspAssociation} {packet inner : Bytes} :
    Encloses association packet inner ↔
      Authentic (Esp.authKey association.authKey) (espHeader packet) (packet.drop outerLength) ∧
        decode (.ofBlob association.cipherKey) (packet.drop outerLength) = .ok inner := by
  constructor
  · rintro ⟨enough, authentic, ⟨iv, nextHeader, ivBytes, trailed⟩, room⟩
    obtain ⟨frame, split, frameIv, ciphertext, icv⟩ := split_payload enough
    have sameIv : iv = frame.iv := Octets.ext (ivBytes.trans frameIv.symm)
    rw [authentic_iff split, Frame.isAuthentic_iff, icv, frameIv, ciphertext, covered_eq enough]
    refine ⟨authentic, decode_eq_ok.mpr ⟨frame, nextHeader, split, ?_, room⟩⟩
    rw [← sameIv, ciphertext]
    exact trailed
  · rintro ⟨authentic, decoded⟩
    obtain ⟨frame, nextHeader, split, trailed, room⟩ := decode_eq_ok.mp decoded
    have enough : 50 ≤ packet.length := by
      obtain ⟨bytes, trailer⟩ := Frame.split_eq_ok.mp split
      have length := congrArg List.length bytes
      rw [List.length_drop, Frame.length_toBytes, outerLength] at length
      rw [trailerLength] at trailer
      omega
    obtain ⟨other, otherSplit, frameIv, ciphertext, icv⟩ := split_payload enough
    cases split.symm.trans otherSplit
    rw [authentic_iff split, Frame.isAuthentic_iff, icv, frameIv, ciphertext,
      covered_eq enough] at authentic
    rw [ciphertext] at trailed
    exact ⟨enough, authentic, ⟨frame.iv, nextHeader, frameIv, trailed⟩, room⟩

/-! ## Reading the metadata back -/

theorem release_of_marked {decryption : Decryption FieldSet FieldSet}
    (marked : IsDropMarked decryption.metadata) : release decryption = .ok (true, none) := by
  have egress : fieldNumber decryption.metadata "egress_spec" = .ok dropEgress := by
    rw [fieldNumber, marked.1]
    rfl
  unfold release
  simp only [egress, bind, Except.bind]
  rfl

theorem release_of_fresh {decryption : Decryption FieldSet FieldSet} {header : Bytes}
    (fresh : decryption.metadata = FieldSet.new .standardMetadata)
    (packs : pack .ipv4 decryption.ipv4 = .ok header) :
    release decryption = .ok (false, some (header ++ decryption.packet)) := by
  have egress : fieldNumber decryption.metadata "egress_spec" = .ok 0 := by
    rw [fresh]
    decide
  have header : packed .ipv4 decryption.ipv4 = .ok header := by
    rw [packed, packs]
    rfl
  unfold release
  simp only [egress, header, bind, Except.bind]
  rfl

/-! ## Summaries -/

/-- What a summary says about a payload: whether it is authentic, and what it
decodes to. -/
inductive Concludes (authentic : Prop) (decoded : Except TransformError Bytes)
    (summary : EspSummary) : Prop
  | valid {inner : Bytes} : authentic → decoded = .ok inner →
      summary.icv = some .valid → summary.dropped = false → summary.error = none →
      summary.packet = some inner → Concludes authentic decoded summary
  | mismatch {inner : Bytes} : ¬authentic → decoded = .ok inner →
      summary.icv = some .mismatch → summary.dropped = true → summary.error = none →
      summary.packet = none → Concludes authentic decoded summary
  | undecodable {cause : TransformError} : decoded = .error cause →
      summary.icv = none → summary.dropped = true → summary.error = some cause →
      summary.packet = none → Concludes authentic decoded summary

/-- The three kinds of summary. -/
def Coherent (summary : EspSummary) : Prop :=
  match summary.icv with
  | some .valid => summary.dropped = false ∧ summary.packet.isSome ∧ summary.error = none
  | some .mismatch => summary.dropped = true ∧ summary.packet = none ∧ summary.error = none
  | none => summary.dropped = true ∧ summary.packet = none ∧ summary.error.isSome

theorem Concludes.coherent {authentic : Prop} {decoded : Except TransformError Bytes}
    {summary : EspSummary} (concludes : Concludes authentic decoded summary) :
    Coherent summary := by
  unfold Coherent
  cases concludes with
  | valid _ _ icv dropped error packet =>
      rw [icv]
      exact ⟨dropped, packet ▸ rfl, error⟩
  | mismatch _ _ icv dropped error packet =>
      rw [icv]
      exact ⟨dropped, packet, error⟩
  | undecodable _ icv dropped error packet =>
      rw [icv]
      exact ⟨dropped, packet, error ▸ rfl⟩

theorem Concludes.packet_eq_some {authentic : Prop} {decoded : Except TransformError Bytes}
    {summary : EspSummary} (concludes : Concludes authentic decoded summary) {inner : Bytes} :
    summary.packet = some inner ↔ authentic ∧ decoded = .ok inner := by
  cases concludes with
  | valid right found _ _ _ released =>
      rw [released, found, Option.some_inj, Except.ok.injEq]
      exact ⟨fun same => ⟨right, same⟩, And.right⟩
  | mismatch wrong _ _ _ _ kept =>
      rw [kept]
      exact ⟨fun same => (by cases same), fun right => absurd right.1 wrong⟩
  | undecodable failed _ _ _ kept =>
      rw [kept, failed]
      exact ⟨fun same => (by cases same), fun right => (by cases right.2)⟩

/-! ## The command step by step -/

/-- The summary of a packet whose headers were read, once the decryption has ended. -/
def summarize (spi seq : UInt64) (ends : UInt32 × UInt32) (ended : Decryption FieldSet FieldSet) :
    Except EspError EspSummary := do
  let report ← reported ended.result
  let released ← release ended
  return {
    action := .decrypt, spi := spi.toUInt32, seq := seq.toUInt32, src := ends.1, dst := ends.2
    icv := report.1, dropped := released.1, error := report.2, packet := released.2 }

section Steps

variable {association : EspAssociation} {packet : Bytes}

theorem espDecrypt_of_no_ipv4 {error : EspError} (failed : parseIpv4 packet = .error error) :
    (espDecrypt association packet).result = .error error := by
  rw [espDecrypt, Traced.result_bind, Traced.ofExcept, failed]
  rfl

theorem espDecrypt_of_no_esp {outer : FieldSet} {error : EspError}
    (parsed : parseIpv4 packet = .ok outer) (failed : parseEsp outer packet = .error error) :
    (espDecrypt association packet).result = .error error := by
  rw [espDecrypt, Traced.result_bind, Traced.ofExcept, parsed]
  show (Traced.result (_ >>= _)) = _
  rw [Traced.result_bind, Traced.ofExcept, failed]
  rfl

/-- What the command says of a packet whose headers were read. -/
theorem result_espDecrypt {outer esp : FieldSet} {spi seq : UInt64} {ends : UInt32 × UInt32}
    (parsed : parseIpv4 packet = .ok outer) (espParsed : parseEsp outer packet = .ok esp)
    (spiRead : fieldNumber esp "spi" = .ok spi) (seqRead : fieldNumber esp "seqNo" = .ok seq)
    (endsRead : addresses outer = .ok ends) :
    (espDecrypt association packet).result =
      summarize spi seq ends (Esp.decrypt (packet.drop outerLength) (FieldSet.new .ipv4) esp
        (FieldSet.new .standardMetadata) association.cipherKey association.authKey) := by
  have warned : (warnOfSpi association.spi spi.toUInt32).result = .ok () := by
    unfold warnOfSpi
    split
    · rfl
    · rfl
  unfold espDecrypt
  simp only [Traced.result_bind, Traced.ofExcept, parsed, espParsed, spiRead, seqRead, endsRead,
    warned, Except.bind, Traced.result_pure]
  rfl

/-- The same for a decryption of which both the report and what is released after it
are known. -/
theorem espDecrypt_of_parsed {outer esp : FieldSet} {spi seq : UInt64} {ends : UInt32 × UInt32}
    {decryption : Decryption FieldSet FieldSet} {icv : Option Verdict}
    {error : Option TransformError} {dropped : Bool} {inner : Option Bytes}
    (parsed : parseIpv4 packet = .ok outer) (espParsed : parseEsp outer packet = .ok esp)
    (spiRead : fieldNumber esp "spi" = .ok spi) (seqRead : fieldNumber esp "seqNo" = .ok seq)
    (endsRead : addresses outer = .ok ends)
    (decrypts : Esp.decrypt (packet.drop outerLength) (FieldSet.new .ipv4) esp
      (FieldSet.new .standardMetadata) association.cipherKey association.authKey = decryption)
    (report : reported decryption.result = .ok (icv, error))
    (released : release decryption = .ok (dropped, inner)) :
    (espDecrypt association packet).result = .ok
      { action := .decrypt, spi := spi.toUInt32, seq := seq.toUInt32
        src := ends.1, dst := ends.2, icv, dropped, error, packet := inner } := by
  rw [result_espDecrypt parsed espParsed spiRead seqRead endsRead, decrypts]
  unfold summarize
  simp only [report, released, bind, Except.bind]
  rfl

variable (association) in
/-- A packet whose headers are read has a summary. -/
theorem espDecrypt_concludes {outer esp : FieldSet} (parsed : parseIpv4 packet = .ok outer)
    (espParsed : parseEsp outer packet = .ok esp) :
    ∃ summary, (espDecrypt association packet).result = .ok summary ∧
      Concludes
        (Authentic (Esp.authKey association.authKey) (espHeader packet)
          (packet.drop outerLength))
        (decode (.ofBlob association.cipherKey) (packet.drop outerLength)) summary := by
  obtain ⟨outerRead, -⟩ := parseIpv4_eq_ok.mp parsed
  obtain ⟨espRead, -⟩ := (parseEsp_eq_ok outerRead).mp espParsed
  have proper := HeaderLayout.esp_proper
  have spi := fieldNumber_of_unpacked proper espRead (f := ⟨"spi", 0, 32⟩) (by decide)
  have seq := fieldNumber_of_unpacked proper espRead (f := ⟨"seqNo", 32, 32⟩) (by decide)
  obtain ⟨ends, endsRead⟩ := exists_addresses outerRead
  -- What is authenticated was packed again, and comes out as it stood in the packet.
  have packs : pack .esp esp = .ok (espHeader packet) :=
    packed_of_unpacked proper HeaderLayout.esp_full espRead
  cases decoded : decode (.ofBlob association.cipherKey) (packet.drop outerLength) with
  | error cause =>
      obtain ⟨marked, log, isMarked, -, decrypts⟩ :=
        decrypt_undecodable (.new .ipv4) association.authKey (of_unpacked espRead)
          (.new .standardMetadata) decoded
      exact ⟨_, espDecrypt_of_parsed parsed espParsed spi seq endsRead decrypts
        (if_pos (decode_error decoded)) (release_of_marked isMarked),
        .undecodable rfl rfl rfl rfl rfl⟩
  | ok inner =>
      obtain ⟨next, verdict, after, log, unpacks, -, judged, -, decrypts⟩ :=
        decrypt_delivered association.authKey (.new .ipv4) (.new .standardMetadata) packs decoded
      cases judged with
      | valid authentic =>
          have enough : HeaderLayout.ipv4.length ≤ inner.length := by
            obtain ⟨-, -, -, -, enough⟩ := decode_eq_ok.mp decoded
            exact enough
          have header : pack .ipv4 next = .ok (inner.take ipv4HeaderLength) :=
            pack_unpack HeaderLayout.ipv4_proper HeaderLayout.ipv4_full enough unpacks
          have released : release ⟨.ok .valid, inner.drop ipv4HeaderLength, next,
              FieldSet.new .standardMetadata, log⟩ = _ := release_of_fresh rfl header
          rw [List.take_append_drop] at released
          exact ⟨_, espDecrypt_of_parsed parsed espParsed spi seq endsRead decrypts rfl released,
            .valid authentic rfl rfl rfl rfl rfl⟩
      | mismatch wrong marking =>
          exact ⟨_, espDecrypt_of_parsed parsed espParsed spi seq endsRead decrypts rfl
            (release_of_marked (isDropMarked_markDrop marking)),
            .mismatch wrong rfl rfl rfl rfl rfl⟩

end Steps

/-! ## Nothing else is released -/

theorem espDecrypt_error_iff {association : EspAssociation} {packet : Bytes} :
    (∃ error, (espDecrypt association packet).result = .error error) ↔
      ¬∃ outer esp, parseIpv4 packet = .ok outer ∧ parseEsp outer packet = .ok esp := by
  constructor
  · rintro ⟨error, failed⟩ ⟨outer, esp, parsed, espParsed⟩
    obtain ⟨summary, succeeds, -⟩ := espDecrypt_concludes association parsed espParsed
    cases failed.symm.trans succeeds
  · intro unread
    cases parsed : parseIpv4 packet with
    | error error => exact ⟨error, espDecrypt_of_no_ipv4 parsed⟩
    | ok outer =>
        cases espParsed : parseEsp outer packet with
        | error error => exact ⟨error, espDecrypt_of_no_esp parsed espParsed⟩
        | ok esp => exact absurd ⟨outer, esp, parsed, espParsed⟩ unread

/-- **No unauthenticated plaintext is released.**  The command fails only on a
packet that is no ESP packet, and otherwise releases exactly what the packet
encloses. -/
theorem espDecrypt_releases_enclosed (association : EspAssociation) (packet : Bytes) :
    ((∃ error, (espDecrypt association packet).result = .error error) ↔
      packet.length < 28 ∨ packet.head? ≠ some 0x45 ∨ packet[9]? ≠ some 50) ∧
    ∀ summary, (espDecrypt association packet).result = .ok summary →
      Coherent summary ∧
      ∀ inner, summary.packet = some inner ↔ Encloses association packet inner := by
  refine ⟨?_, fun summary succeeds => ?_⟩
  · rw [espDecrypt_error_iff, parses_iff, not_and_or, not_and_or, Nat.not_le]
  · have read : ∃ outer esp, parseIpv4 packet = .ok outer ∧ parseEsp outer packet = .ok esp := by
      apply by_contra
      intro unread
      obtain ⟨error, failed⟩ := espDecrypt_error_iff.mpr unread
      cases failed.symm.trans succeeds
    obtain ⟨outer, esp, parsed, espParsed⟩ := read
    obtain ⟨other, ends, concludes⟩ := espDecrypt_concludes association parsed espParsed
    cases ends.symm.trans succeeds
    refine ⟨concludes.coherent, fun inner => ?_⟩
    rw [concludes.packet_eq_some, encloses_iff]

/-- A packet of 80 bytes that encloses a bare IPv4 header, found by decrypting
it. -/
theorem espDecrypt_releases_bare_header :
    ∃ packet summary, packet.length = 80 ∧
      (espDecrypt ⟨1, 2, [3], [4]⟩ packet).result = .ok summary ∧
      Coherent summary ∧ Encloses ⟨1, 2, [3], [4]⟩ packet (0x45 :: List.replicate 19 0) := by
  let packet : Bytes :=
    [0x45, 0, 0, 0x50, 0, 0, 0, 0, 0, 0x32, 0xba, 0x7d, 0, 0, 0, 0, 0, 0, 0, 0, 0, 0, 0, 1,
     0, 0, 0, 2, 7, 7, 7, 7, 7, 7, 7, 7, 0x59, 0xeb, 0xff, 0x78, 0xae, 0x8a, 0xfb, 0x5b,
     0x5f, 0x99, 0xdc, 0x8b, 1, 0x31, 9, 0x1b, 0xd8, 0x60, 0xa4, 0x52, 0xfe, 0xdb, 0x9a, 0x7b,
     0x9f, 0xf9, 0x81, 0x43, 0x40, 0xc9, 0x9f, 0xaa, 0xff, 0x3a, 0x4c, 0xc, 0x45, 0x8a, 0x86,
     0xba, 0x58, 0xf4, 0x71, 0xe9]
  have succeeds : (espDecrypt ⟨1, 2, [3], [4]⟩ packet).result = .ok
      { action := .decrypt, spi := 1, seq := 2, src := 0, dst := 0, icv := some .valid
        packet := some (0x45 :: List.replicate 19 0) } := by
    decide +kernel
  obtain ⟨coherent, released⟩ := (espDecrypt_releases_enclosed _ packet).2 _ succeeds
  exact ⟨packet, _, rfl, succeeds, coherent, (released _).mp rfl⟩

end PacketProtection.Command

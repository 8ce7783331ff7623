import PacketProtection.Proofs.Command.Release
import PacketProtection.Proofs.Respelling

/-!
# The inside of an ESP packet

The *inside* of an ESP packet is everything after its outer IPv4 header.  The check
value covers the inside and nothing of the outer header, so anybody on the way can
change the outer header of a packet.  The command parses it all the same, and keeps
its fields beside those of the inner header.

*Summaries.*  Once both headers are read, the summary is put together from the
numbers of the ESP header, the addresses of the outer one and the end of the
decryption (`summarize`, `result_espDecrypt`).  The addresses are reported and go
nowhere else (`summarize_ends`), and a log has no say (`summarize_silent`).

*Two packets.*  Packets with one inside have the same ESP header and the same
payload.  So the command says the same of both, but for the addresses that stand in
each of them (`espDecrypt_ignores_outer`).
-/

namespace PacketProtection.Command

open HeaderHost Esp

/-! ## Addresses in the outer header -/

/-- The address that stands at a place of a packet. -/
def addressAt (start : Nat) (packet : Bytes) : UInt32 :=
  UInt32.ofNat (Bytes.toNat ((packet.drop start).take 4))

/-- The source address of a packet. -/
def outerSrc (packet : Bytes) : UInt32 := addressAt 12 packet

/-- The destination address of a packet. -/
def outerDst (packet : Bytes) : UInt32 := addressAt 16 packet

section Outer

variable {packet : Bytes} {outer : FieldSet} (read : unpacked .ipv4 packet = .ok outer)
include read

/-- A field of four whole bytes of the outer header, cut down to 32 bits. -/
theorem fieldNumber_addressAt (f : BitField) (start : Nat)
    (member : f ∈ HeaderLayout.ipv4.fields) (offset : f.offset = 8 * start)
    (width : f.width = 8 * 4) (inside : start + 4 ≤ 20) :
    (fieldNumber outer f.name).map UInt64.toUInt32 = .ok (addressAt start packet) := by
  have enough : 20 ≤ packet.length := unpacked_length read
  have frontLength : (packet.take 20).length = 20 := List.length_take_of_le enough
  have value : f.read (packet.take HeaderLayout.ipv4.length) = (packet.drop start).take 4 := by
    rw [HeaderLayout.length_ipv4,
      BitField.read_of_aligned offset width (by rw [frontLength]; exact inside),
      List.drop_take, List.take_take, Nat.min_eq_left (by omega)]
  rw [fieldNumber_of_unpacked HeaderLayout.ipv4_proper read member, value]
  exact congrArg Except.ok (UInt64.toUInt32_ofNat' _)

theorem addresses_of_unpacked : addresses outer = .ok (outerSrc packet, outerDst packet) := by
  have src := fieldNumber_addressAt read ⟨"srcAddr", 96, 32⟩ 12 (by decide) rfl rfl (by decide)
  have dst := fieldNumber_addressAt read ⟨"dstAddr", 128, 32⟩ 16 (by decide) rfl rfl (by decide)
  obtain ⟨srcNumber, srcRead, srcSame⟩ := map_eq_ok.mp src
  obtain ⟨dstNumber, dstRead, dstSame⟩ := map_eq_ok.mp dst
  unfold addresses
  simp only [srcRead, dstRead, bind, Except.bind]
  rw [srcSame, dstSame]
  rfl

/-- Behind the protocol, the ESP header is read from length and inside alone. -/
theorem parseEsp_of_protocol (protocol : packet[9]? = some 50) :
    parseEsp outer packet =
      if packet.length < outerLength then .error (.noEspHeader packet.length)
      else unpacked .esp (packet.drop ipv4HeaderLength) := by
  obtain ⟨found, present, number⟩ := protocol_of_unpacked read
  obtain rfl : found = 50 := Option.some.inj (present.symm.trans protocol)
  rw [parseEsp_of_unpacked number]
  exact if_neg (not_not.mpr rfl)

end Outer

/-! ## Summaries -/

theorem summarize_silent (spi seq : UInt64) (ends : UInt32 × UInt32)
    (ended : Decryption FieldSet FieldSet) :
    summarize spi seq ends ended.silent = summarize spi seq ends ended := rfl

/-- The addresses decide nothing about the rest of a summary. -/
theorem summarize_ends (spi seq : UInt64) (ends other : UInt32 × UInt32)
    (ended : Decryption FieldSet FieldSet) :
    summarize spi seq other ended =
      (summarize spi seq ends ended).map fun summary =>
        { summary with src := other.1, dst := other.2 } := by
  unfold summarize
  cases reported ended.result with
  | error error => rfl
  | ok report =>
      cases release ended with
      | error error => rfl
      | ok released => rfl

/-! ## Two packets with one inside -/

section Inside

variable {association other : EspAssociation} {packet packet' : Bytes}

/-- Packets that are too short for an ESP header fail for their length. -/
theorem espDecrypt_of_short (first : packet.head? = some 0x45) (protocol : packet[9]? = some 50)
    (short : packet.length < 28) :
    (espDecrypt association packet).result =
      .error (if packet.length < 20 then .noIpv4Header packet.length
        else .noEspHeader packet.length) := by
  by_cases bare : packet.length < 20
  · rw [if_pos bare, espDecrypt_of_no_ipv4 (parseIpv4_of_short bare)]
  · obtain ⟨outer, parsed⟩ := exists_parseIpv4_iff.mpr ⟨Nat.le_of_not_lt bare, first⟩
    obtain ⟨read, -⟩ := parseIpv4_eq_ok.mp parsed
    have failed : parseEsp outer packet = .error (.noEspHeader packet.length) := by
      rw [parseEsp_of_protocol read protocol]
      exact if_pos short
    rw [if_neg bare, espDecrypt_of_no_esp parsed failed]

/-- **Nothing but the inside of a packet has a say.**  Two packets of one length that
differ in the first twenty bytes only, each with a plain IPv4 header and the protocol of
ESP, are both too short or both summarized, under all associations with the same keys.
The summaries tell each packet's own addresses and are the same otherwise. -/
theorem espDecrypt_ignores_outer
    (sameCipher : normalize 20 other.cipherKey = normalize 20 association.cipherKey)
    (sameAuth : normalize 16 other.authKey = normalize 16 association.authKey)
    (sameLength : packet'.length = packet.length) (sameInside : packet'.drop 20 = packet.drop 20)
    (first : packet.head? = some 0x45) (first' : packet'.head? = some 0x45)
    (protocol : packet[9]? = some 50) (protocol' : packet'[9]? = some 50) :
    ((∃ summary, (espDecrypt association packet).result = .ok summary) ↔ 28 ≤ packet.length) ∧
    (espDecrypt other packet').result =
      (espDecrypt association packet).result.map fun summary =>
        { summary with src := outerSrc packet', dst := outerDst packet' } := by
  by_cases short : packet.length < 28
  · rw [espDecrypt_of_short first protocol short,
      espDecrypt_of_short first' protocol' (sameLength ▸ short), sameLength]
    refine ⟨iff_of_false ?_ (Nat.not_le.mpr short), rfl⟩
    rintro ⟨summary, succeeds⟩
    cases succeeds
  · have enough : 28 ≤ packet.length := Nat.le_of_not_lt short
    obtain ⟨outer, esp, parsed, espParsed⟩ := parses_iff.mpr ⟨enough, first, protocol⟩
    obtain ⟨outer', esp', parsed', espParsed'⟩ :=
      parses_iff.mpr ⟨sameLength ▸ enough, first', protocol'⟩
    obtain ⟨read, -⟩ := parseIpv4_eq_ok.mp parsed
    obtain ⟨read', -⟩ := parseIpv4_eq_ok.mp parsed'
    obtain ⟨espRead, -⟩ := (parseEsp_eq_ok read).mp espParsed
    obtain ⟨espRead', -⟩ := (parseEsp_eq_ok read').mp espParsed'
    obtain rfl : esp' = esp := by
      rw [show packet'.drop ipv4HeaderLength = _ from sameInside] at espRead'
      exact Except.ok.inj (espRead'.symm.trans espRead)
    have samePayload : packet'.drop outerLength = packet.drop outerLength := by
      have behind := congrArg (List.drop 8) sameInside
      rwa [List.drop_drop, List.drop_drop] at behind
    have proper := HeaderLayout.esp_proper
    have spi := fieldNumber_of_unpacked proper espRead (f := ⟨"spi", 0, 32⟩) (by decide)
    have seq := fieldNumber_of_unpacked proper espRead (f := ⟨"seqNo", 32, 32⟩) (by decide)
    obtain ⟨summary, succeeds, -⟩ := espDecrypt_concludes association parsed espParsed
    refine ⟨iff_of_true ⟨summary, succeeds⟩ enough, ?_⟩
    rw [result_espDecrypt parsed espParsed spi seq (addresses_of_unpacked read),
      result_espDecrypt parsed' espParsed' spi seq (addresses_of_unpacked read'),
      summarize_ends _ _ (outerSrc packet, outerDst packet), samePayload, ← summarize_silent,
      silent_decrypt sameCipher sameAuth, summarize_silent]

end Inside

/-- A packet on its way: another time to live, another checksum and other addresses, and
a receiver that spells its keys in another way and expects another index. -/
theorem espDecrypt_ignores_outer_forwarded :
    ∃ (association other : EspAssociation) (packet packet' inside : Bytes) (summary : EspSummary),
      association = ⟨1, 2, [3], [4]⟩ ∧ other = ⟨9, 9, [0, 3], [0, 4]⟩ ∧
      packet = [0x45, 0, 0, 0x50, 0, 0, 0, 0, 0, 50, 0xba, 0x7d, 0, 0, 0, 0, 0, 0, 0, 0] ++ inside ∧
      packet' =
        [0x45, 7, 0, 9, 1, 2, 0x3f, 0xff, 64, 50, 0, 0, 10, 0, 1, 1, 10, 0, 2, 1] ++ inside ∧
      normalize 20 other.cipherKey = normalize 20 association.cipherKey ∧
      normalize 16 other.authKey = normalize 16 association.authKey ∧
      packet'.length = packet.length ∧ packet'.drop 20 = packet.drop 20 ∧
      packet.head? = some 0x45 ∧ packet'.head? = some 0x45 ∧
      packet[9]? = some 50 ∧ packet'[9]? = some 50 ∧
      (espDecrypt association packet).result = .ok summary ∧ summary.icv = some .valid ∧
      summary.packet = some (0x45 :: List.replicate 19 0) ∧
      (espDecrypt other packet').result =
        .ok { summary with src := 0x0a000101, dst := 0x0a000201 } := by
  let inside : Bytes :=
    [0, 0, 0, 1, 0, 0, 0, 2, 7, 7, 7, 7, 7, 7, 7, 7, 0x59, 0xeb, 0xff, 0x78, 0xae, 0x8a, 0xfb, 0x5b,
     0x5f, 0x99, 0xdc, 0x8b, 1, 0x31, 9, 0x1b, 0xd8, 0x60, 0xa4, 0x52, 0xfe, 0xdb, 0x9a, 0x7b,
     0x9f, 0xf9, 0x81, 0x43, 0x40, 0xc9, 0x9f, 0xaa, 0xff, 0x3a, 0x4c, 0xc, 0x45, 0x8a, 0x86,
     0xba, 0x58, 0xf4, 0x71, 0xe9]
  let packet : Bytes :=
    [0x45, 0, 0, 0x50, 0, 0, 0, 0, 0, 50, 0xba, 0x7d, 0, 0, 0, 0, 0, 0, 0, 0] ++ inside
  let packet' : Bytes :=
    [0x45, 7, 0, 9, 1, 2, 0x3f, 0xff, 64, 50, 0, 0, 10, 0, 1, 1, 10, 0, 2, 1] ++ inside
  have succeeds : (espDecrypt ⟨1, 2, [3], [4]⟩ packet).result = .ok
      { action := .decrypt, spi := 1, seq := 2, src := 0, dst := 0, icv := some .valid
        packet := some (0x45 :: List.replicate 19 0) } := by
    decide +kernel
  have sameCipher : normalize 20 [0, 3] = normalize 20 [3] := by decide
  have sameAuth : normalize 16 [0, 4] = normalize 16 [4] := by decide
  obtain ⟨-, same⟩ := @espDecrypt_ignores_outer ⟨1, 2, [3], [4]⟩ ⟨9, 9, [0, 3], [0, 4]⟩ packet
    packet' sameCipher sameAuth rfl rfl rfl rfl rfl rfl
  have src : outerSrc packet' = 0x0a000101 := by decide
  have dst : outerDst packet' = 0x0a000201 := by decide
  rw [succeeds, src, dst] at same
  exact ⟨_, _, packet, packet', inside, _, rfl, rfl, rfl, rfl, sameCipher, sameAuth, rfl, rfl, rfl,
    rfl, rfl, rfl, succeeds, rfl, rfl, same⟩

end PacketProtection.Command

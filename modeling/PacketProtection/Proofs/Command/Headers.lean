import PacketProtection.Command.Esp
import PacketProtection.Proofs.Header.Packing

/-!
# Headers at the front of a packet

The ESP command reads an IPv4 header and an ESP header into field sets.  Only a
few bytes decide whether it does.  *The IPv4 header* is read from a packet of at
least 20 bytes whose first byte says version 4 and no options
(`parseIpv4_eq_ok`).  *The ESP header* is read after it, from a packet of at
least 28 bytes whose protocol is ESP (`parseEsp_eq_ok`, `parses_iff`).

A field set that was read is packed as the bytes it was read from
(`packed_of_unpacked`), and each of its numbers can be asked for
(`fieldNumber_of_unpacked`).
-/

namespace PacketProtection.Command

open HeaderHost

/-! ## Field sets that were read -/

section Unpacked

variable {layout : HeaderLayout} {packet : Bytes} {fields : FieldSet}

theorem unpacked_eq_ok : unpacked layout packet = .ok fields ↔
    unpack layout packet (FieldSet.new layout) = (.ok (), fields) :=
  mapError_eq_ok.trans FieldSet.ofBytes_eq_ok

theorem of_unpacked (read : unpacked layout packet = .ok fields) : FieldSet.Of layout fields :=
  .ofBytes (mapError_eq_ok.mp read)

theorem unpacked_length (read : unpacked layout packet = .ok fields) :
    layout.length ≤ packet.length := by
  apply Nat.le_of_not_lt
  intro short
  have done := unpacked_eq_ok.mp read
  rw [unpack, TransformError.require_of_lt short] at done
  cases done

variable (proper : layout.Proper)
include proper

theorem exists_unpacked (enough : layout.length ≤ packet.length) :
    ∃ fields, unpacked layout packet = .ok fields := by
  obtain ⟨fields, read⟩ := FieldSet.exists_ofBytes proper.names_nodup enough
  exact ⟨fields, mapError_eq_ok.mpr read⟩

/-- What was read is packed as it stood in the packet. -/
theorem packed_of_unpacked (full : layout.Full) (read : unpacked layout packet = .ok fields) :
    pack layout fields = .ok (packet.take layout.length) :=
  pack_unpack proper full (unpacked_length read) (unpacked_eq_ok.mp read)

theorem fieldNumber_of_unpacked (read : unpacked layout packet = .ok fields) {f : BitField}
    (member : f ∈ layout.fields) :
    fieldNumber fields f.name =
      .ok (UInt64.ofNat (f.read (packet.take layout.length)).toNat) := by
  have present := get_unpack proper.names_nodup (unpacked_length read)
    (unpacked_eq_ok.mp read) member
  rw [fieldNumber, getUint, present]
  rfl

end Unpacked

/-! ## Field sets that were written -/

section Numbers

variable {fields next : FieldSet} {name other : String} {number : UInt64}

theorem fieldNumber_withNumber (stored : withNumber fields name number = .ok next) :
    fieldNumber next name = .ok number := by
  rw [fieldNumber, getUint_setUint (mapError_eq_ok.mp stored)]
  rfl

theorem fieldNumber_withNumber_of_ne (stored : withNumber fields name number = .ok next)
    (different : other ≠ name) : fieldNumber next other = fieldNumber fields other := by
  rw [fieldNumber, fieldNumber, getUint, getUint,
    get_setUint_of_ne (mapError_eq_ok.mp stored) different]

variable {layout : HeaderLayout} (proper : layout.Proper)
include proper

/-- A field takes every number that fits its bits, and no other field changes. -/
theorem exists_withNumber (sound : FieldSet.Of layout fields) (f : BitField)
    (member : f ∈ layout.fields) (number : UInt64) (fits : number.toNat < 2 ^ f.width) :
    ∃ next, withNumber fields f.name number = .ok next ∧ FieldSet.Of layout next ∧
      fieldNumber next f.name = .ok number ∧
      ∀ other ≠ f.name, fieldNumber next other = fieldNumber fields other := by
  obtain ⟨next, done, nextSound⟩ :=
    sound.setUint proper.names_nodup f member (proper.narrow f member) number fits
  have stored : withNumber fields f.name number = .ok next := mapError_eq_ok.mpr done
  exact ⟨next, stored, nextSound, fieldNumber_withNumber stored,
    fun _ => fieldNumber_withNumber_of_ne stored⟩

theorem exists_packed (sound : FieldSet.Of layout fields) :
    ∃ raw, packed layout fields = .ok raw := by
  obtain ⟨raw, packs⟩ := sound.pack proper.names_nodup
  exact ⟨raw, mapError_eq_ok.mpr packs⟩

/-- A packed header is read as the fields it was packed from, whatever follows it. -/
theorem exists_unpacked_of_packed {raw : Bytes} (packs : packed layout fields = .ok raw)
    (rest : Bytes) :
    ∃ again, unpacked layout (raw ++ rest) = .ok again ∧
      ∀ f ∈ layout.fields, fieldNumber again f.name = fieldNumber fields f.name := by
  have packs := mapError_eq_ok.mp packs
  have enough : layout.length ≤ (raw ++ rest).length := by
    rw [List.length_append, length_pack packs]
    exact Nat.le_add_right _ _
  obtain ⟨again, read⟩ := exists_unpacked proper enough
  refine ⟨again, read, fun f member => ?_⟩
  rw [fieldNumber, fieldNumber, getUint, getUint,
    get_unpack_pack proper packs (unpacked_eq_ok.mp read) member]

end Numbers

/-! ## The IPv4 header -/

/-- The first byte of an IPv4 header is version and header length. -/
theorem toNat_version (first : UInt8) (rest : Bytes) :
    (BitField.read ⟨"version", 0, 4⟩ (first :: rest)).toNat = first.toNat / 16 := by
  have bound : first.toNat < 256 := first.toNat_lt
  rw [BitField.toNat_read, BitField.bitsIn, Bits.ofBytes_cons, Bits.ofNat_add 4 4,
    List.append_assoc, Bits.slice, List.drop_zero, List.take_left' (Bits.length_ofNat 4 _),
    Bits.toNat_ofNat]
  omega

theorem toNat_ihl (first : UInt8) (rest : Bytes) :
    (BitField.read ⟨"ihl", 4, 4⟩ (first :: rest)).toNat = first.toNat % 16 := by
  rw [BitField.toNat_read, BitField.bitsIn, Bits.ofBytes_cons, Bits.ofNat_add 4 4,
    List.append_assoc, Bits.slice, List.drop_left' (Bits.length_ofNat 4 _),
    List.take_left' (Bits.length_ofNat 4 _)]
  have lower := Bits.toNat_ofNat 4 first.toNat
  omega

theorem uint64_ofNat_eq_iff {number : Nat} (small : number < 256) (wanted : UInt64) :
    UInt64.ofNat number = wanted ↔ number = wanted.toNat := by
  rw [← UInt64.toNat_inj, UInt64.toNat_ofNat', Nat.mod_eq_of_lt (by omega)]

theorem parseIpv4_of_short {packet : Bytes} (short : packet.length < Esp.ipv4HeaderLength) :
    parseIpv4 packet = .error (.noIpv4Header packet.length) := by
  unfold parseIpv4
  rw [if_pos short]
  rfl

/-- The IPv4 header is read if it is there and its numbers are right. -/
theorem parseIpv4_eq_ok_iff_numbers {packet : Bytes} {outer : FieldSet} :
    parseIpv4 packet = .ok outer ↔
      unpacked .ipv4 packet = .ok outer ∧ fieldNumber outer "version" = .ok 4 ∧
        fieldNumber outer "ihl" = .ok 5 := by
  by_cases short : packet.length < Esp.ipv4HeaderLength
  · rw [parseIpv4_of_short short]
    refine iff_of_false (fun same => by cases same) fun right => ?_
    exact absurd (unpacked_length right.1) (Nat.not_le.mpr short)
  · obtain ⟨fields, read⟩ := exists_unpacked HeaderLayout.ipv4_proper (Nat.le_of_not_lt short)
    have proper := HeaderLayout.ipv4_proper
    have version := fieldNumber_of_unpacked proper read (f := ⟨"version", 0, 4⟩) (by decide)
    have ihl := fieldNumber_of_unpacked proper read (f := ⟨"ihl", 4, 4⟩) (by decide)
    unfold parseIpv4
    simp only [if_neg short, read, version, ihl, bind, Except.bind, throw, throwThe,
      MonadExceptOf.throw]
    constructor
    · intro parsed
      split at parsed
      · cases parsed
      next isVersion =>
        split at parsed
        · cases parsed
        next isIhl =>
          cases parsed
          rw [version, ihl, not_not.mp isVersion, not_not.mp isIhl]
          exact ⟨rfl, rfl, rfl⟩
    · rintro ⟨same, isVersion, isIhl⟩
      cases same
      rw [if_neg (not_not.mpr (Except.ok.inj (version.symm.trans isVersion))),
        if_neg (not_not.mpr (Except.ok.inj (ihl.symm.trans isIhl)))]
      rfl

/-- The IPv4 header is read if it is there and its first byte is `0x45`. -/
theorem parseIpv4_eq_ok {packet : Bytes} {outer : FieldSet} :
    parseIpv4 packet = .ok outer ↔
      unpacked .ipv4 packet = .ok outer ∧ packet.head? = some 0x45 := by
  rw [parseIpv4_eq_ok_iff_numbers]
  apply and_congr_right
  intro read
  cases packet with
  | nil => exact absurd (unpacked_length read) (by decide)
  | cons first rest =>
      have bound : first.toNat < 256 := first.toNat_lt
      have proper := HeaderLayout.ipv4_proper
      have version := fieldNumber_of_unpacked proper read (f := ⟨"version", 0, 4⟩) (by decide)
      have ihl := fieldNumber_of_unpacked proper read (f := ⟨"ihl", 4, 4⟩) (by decide)
      rw [HeaderLayout.length_ipv4, List.take_succ_cons, toNat_version] at version
      rw [HeaderLayout.length_ipv4, List.take_succ_cons, toNat_ihl] at ihl
      have four : UInt64.ofNat (first.toNat / 16) = 4 ↔ first.toNat / 16 = 4 :=
        uint64_ofNat_eq_iff (by omega) 4
      have five : UInt64.ofNat (first.toNat % 16) = 5 ↔ first.toNat % 16 = 5 :=
        uint64_ofNat_eq_iff (by omega) 5
      have both : first = 0x45 ↔ first.toNat / 16 = 4 ∧ first.toNat % 16 = 5 := by
        rw [← UInt8.toNat_inj, show (0x45 : UInt8).toNat = 69 from rfl]
        omega
      rw [version, ihl, Except.ok.injEq, Except.ok.injEq, four, five, List.head?_cons,
        Option.some_inj, both]

theorem exists_parseIpv4_iff {packet : Bytes} :
    (∃ outer, parseIpv4 packet = .ok outer) ↔ 20 ≤ packet.length ∧ packet.head? = some 0x45 := by
  constructor
  · rintro ⟨outer, parsed⟩
    obtain ⟨read, first⟩ := parseIpv4_eq_ok.mp parsed
    exact ⟨unpacked_length read, first⟩
  · rintro ⟨enough, first⟩
    obtain ⟨outer, read⟩ := exists_unpacked HeaderLayout.ipv4_proper enough
    exact ⟨outer, parseIpv4_eq_ok.mpr ⟨read, first⟩⟩

theorem exists_addresses {packet : Bytes} {outer : FieldSet}
    (read : unpacked .ipv4 packet = .ok outer) : ∃ ends, addresses outer = .ok ends := by
  have proper := HeaderLayout.ipv4_proper
  have src := fieldNumber_of_unpacked proper read (f := ⟨"srcAddr", 96, 32⟩) (by decide)
  have dst := fieldNumber_of_unpacked proper read (f := ⟨"dstAddr", 128, 32⟩) (by decide)
  unfold addresses
  simp only [src, dst, bind, Except.bind]
  exact ⟨_, rfl⟩

/-! ## The ESP header -/

/-- The protocol is the byte with number nine. -/
theorem protocol_of_unpacked {packet : Bytes} {outer : FieldSet}
    (read : unpacked .ipv4 packet = .ok outer) :
    ∃ protocol, packet[9]? = some protocol ∧
      fieldNumber outer "protocol" = .ok (UInt64.ofNat protocol.toNat) := by
  have enough : 20 ≤ packet.length := unpacked_length read
  have inside : 9 < packet.length := by omega
  have value : BitField.read ⟨"protocol", 72, 8⟩ (packet.take 20) = [packet[9]] := by
    rw [@BitField.read_of_aligned _ 9 1 rfl rfl _ (by rw [List.length_take]; omega),
      List.drop_take, List.take_take, List.drop_eq_getElem_cons inside]
    rfl
  have number := fieldNumber_of_unpacked HeaderLayout.ipv4_proper read
    (f := ⟨"protocol", 72, 8⟩) (by decide)
  rw [HeaderLayout.length_ipv4, value, Bytes.toNat_singleton] at number
  exact ⟨packet[9], List.getElem?_eq_getElem inside, number⟩

theorem parseEsp_of_unpacked {packet : Bytes} {outer : FieldSet} {protocol : UInt8}
    (number : fieldNumber outer "protocol" = .ok (UInt64.ofNat protocol.toNat)) :
    parseEsp outer packet =
      if UInt64.ofNat protocol.toNat ≠ 50 then .error .notEsp
      else if packet.length < Esp.outerLength then .error (.noEspHeader packet.length)
      else unpacked .esp (packet.drop Esp.ipv4HeaderLength) := by
  unfold parseEsp
  simp only [number, bind, Except.bind, throw, throwThe, MonadExceptOf.throw]
  rfl

theorem parseEsp_of_number {packet : Bytes} {outer esp : FieldSet}
    (number : fieldNumber outer "protocol" = .ok 50)
    (read : unpacked .esp (packet.drop Esp.ipv4HeaderLength) = .ok esp) :
    parseEsp outer packet = .ok esp := by
  have enough := unpacked_length read
  rw [HeaderLayout.length_esp, List.length_drop, Esp.ipv4HeaderLength] at enough
  have room : ¬packet.length < Esp.outerLength := by
    rw [Esp.outerLength]
    omega
  have fifty : UInt64.ofNat (50 : UInt8).toNat = 50 := rfl
  rw [@parseEsp_of_unpacked packet outer 50 number, if_neg (not_not.mpr fifty), if_neg room]
  exact read

/-- The ESP header is read if it is there and the protocol is 50. -/
theorem parseEsp_eq_ok {packet : Bytes} {outer esp : FieldSet}
    (read : unpacked .ipv4 packet = .ok outer) :
    parseEsp outer packet = .ok esp ↔
      unpacked .esp (packet.drop Esp.ipv4HeaderLength) = .ok esp ∧ packet[9]? = some 50 := by
  obtain ⟨protocol, found, number⟩ := protocol_of_unpacked read
  have fifty := uint64_ofNat_eq_iff protocol.toNat_lt 50
  have same : protocol = 50 ↔ protocol.toNat = 50 := UInt8.toNat_inj.symm
  rw [parseEsp_of_unpacked number, found, Option.some_inj, same]
  by_cases isEsp : protocol.toNat = 50
  · rw [if_neg (not_not.mpr (fifty.mpr isEsp))]
    split
    next short =>
      constructor
      · intro parsed
        cases parsed
      · rintro ⟨header, -⟩
        have enough := unpacked_length header
        rw [HeaderLayout.length_esp, List.length_drop, Esp.ipv4HeaderLength] at enough
        rw [Esp.outerLength] at short
        omega
    next => exact ⟨fun parsed => ⟨parsed, isEsp⟩, And.left⟩
  · rw [if_pos fun wrong => isEsp (fifty.mp wrong)]
    exact ⟨fun parsed => (by cases parsed), fun wrong => absurd wrong.2 isEsp⟩

/-- Both headers are read from a packet of 28 bytes whose first byte and whose
protocol are right. -/
theorem parses_iff {packet : Bytes} :
    (∃ outer esp, parseIpv4 packet = .ok outer ∧ parseEsp outer packet = .ok esp) ↔
      28 ≤ packet.length ∧ packet.head? = some 0x45 ∧ packet[9]? = some 50 := by
  constructor
  · rintro ⟨outer, esp, parsed, espParsed⟩
    obtain ⟨outerRead, first⟩ := parseIpv4_eq_ok.mp parsed
    obtain ⟨espRead, protocol⟩ := (parseEsp_eq_ok outerRead).mp espParsed
    have enough := unpacked_length espRead
    rw [HeaderLayout.length_esp, List.length_drop, Esp.ipv4HeaderLength] at enough
    exact ⟨by omega, first, protocol⟩
  · rintro ⟨enough, first, protocol⟩
    have outerEnough : HeaderLayout.ipv4.length ≤ packet.length := by
      rw [HeaderLayout.length_ipv4]
      omega
    have espEnough : HeaderLayout.esp.length ≤ (packet.drop Esp.ipv4HeaderLength).length := by
      rw [HeaderLayout.length_esp, List.length_drop, Esp.ipv4HeaderLength]
      omega
    obtain ⟨outer, outerRead⟩ := exists_unpacked HeaderLayout.ipv4_proper outerEnough
    obtain ⟨esp, espRead⟩ := exists_unpacked HeaderLayout.esp_proper espEnough
    exact ⟨outer, esp, parseIpv4_eq_ok.mpr ⟨outerRead, first⟩,
      (parseEsp_eq_ok outerRead).mpr ⟨espRead, protocol⟩⟩

end PacketProtection.Command

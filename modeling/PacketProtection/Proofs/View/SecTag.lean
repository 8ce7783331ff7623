import PacketProtection.Proofs.Numeral
import PacketProtection.View.SecTag

/-!
# Security tags as byte strings

Reading a security tag and writing it out undo each other, so a byte string of
at least eight bytes is the byte string of one view and no other
(`parse?_eq_some`, `exists_parse?`).

*Places.*  Each field stands where the format puts it.  The EtherType is the
first two bytes (`take_etherType`), the bit SC is one bit of the third
(`hasSci_iff`), the packet number is the fifth to the eighth
(`take_packetNumber`), and the SCI, where it is whole, the eight after them
(`sci_eq_take`).

*More bytes.*  A whole SCI stays what it was when more bytes follow the tag
(`sci_append`).
-/

namespace PacketProtection.View.SecTag

variable {bytes : Bytes} {tag : SecTag}

/-! ## Reading and writing -/

theorem control_lt (tag : SecTag) : 4 * tag.tci.toNat + tag.associationNumber.toNat < 256 := by
  have tciBound := tag.tci.isLt
  have anBound := tag.associationNumber.isLt
  omega

theorem short_lt (tag : SecTag) : 64 * tag.reserved.toNat + tag.shortLength.toNat < 256 := by
  have reservedBound := tag.reserved.isLt
  have lengthBound := tag.shortLength.isLt
  omega

theorem toNat_control (tag : SecTag) :
    (UInt8.ofNat (4 * tag.tci.toNat + tag.associationNumber.toNat)).toNat =
      4 * tag.tci.toNat + tag.associationNumber.toNat := by
  rw [UInt8.toNat_ofNat', Nat.mod_eq_of_lt tag.control_lt]

theorem toNat_short (tag : SecTag) :
    (UInt8.ofNat (64 * tag.reserved.toNat + tag.shortLength.toNat)).toNat =
      64 * tag.reserved.toNat + tag.shortLength.toNat := by
  rw [UInt8.toNat_ofNat', Nat.mod_eq_of_lt tag.short_lt]

theorem ofNat_upper {m n : Nat} {upper : BitVec m} (lower : BitVec n) {base : Nat}
    (same : base = 2 ^ n) : BitVec.ofNat m ((base * upper.toNat + lower.toNat) / base) = upper := by
  subst same
  rw [Nat.mul_add_div (Nat.two_pow_pos n), Nat.div_eq_of_lt lower.isLt, Nat.add_zero,
    BitVec.ofNat_toNat, BitVec.setWidth_eq]

theorem ofNat_lower {n : Nat} {lower : BitVec n} (upper : Nat) {base : Nat}
    (same : base = 2 ^ n) : BitVec.ofNat n (base * upper + lower.toNat) = lower := by
  subst same
  apply BitVec.eq_of_toNat_eq
  rw [BitVec.toNat_ofNat, Nat.mul_add_mod, Nat.mod_eq_of_lt lower.isLt]

/-- What was written is read. -/
@[simp] theorem parse?_toBytes (tag : SecTag) : parse? tag.toBytes = some tag := by
  have etherType : UInt16.ofNat (Bytes.toNat (Bytes.ofNat 2 tag.etherType.toNat)) =
      tag.etherType := by
    rw [Bytes.toNat_ofNat_of_lt tag.etherType.toNat_lt, UInt16.ofNat_toNat]
  have packetNumber : UInt32.ofNat (Bytes.toNat (Bytes.ofNat 4 tag.packetNumber.toNat)) =
      tag.packetNumber := by
    rw [Bytes.toNat_ofNat_of_lt tag.packetNumber.toNat_lt, UInt32.ofNat_toNat]
  have four : 4 = 2 ^ 2 := rfl
  have sixtyFour : 64 = 2 ^ 6 := rfl
  show some (SecTag.mk (UInt16.ofNat (Bytes.toNat (Bytes.ofNat 2 tag.etherType.toNat)))
    (BitVec.ofNat 6
      ((UInt8.ofNat (4 * tag.tci.toNat + tag.associationNumber.toNat)).toNat / 4))
    (BitVec.ofNat 2 (UInt8.ofNat (4 * tag.tci.toNat + tag.associationNumber.toNat)).toNat)
    (BitVec.ofNat 2
      ((UInt8.ofNat (64 * tag.reserved.toNat + tag.shortLength.toNat)).toNat / 64))
    (BitVec.ofNat 6 (UInt8.ofNat (64 * tag.reserved.toNat + tag.shortLength.toNat)).toNat)
    (UInt32.ofNat (Bytes.toNat (Bytes.ofNat 4 tag.packetNumber.toNat))) tag.rest) = some tag
  rw [etherType, packetNumber, toNat_control, toNat_short, ofNat_upper tag.associationNumber four,
    ofNat_lower tag.tci.toNat four, ofNat_upper tag.shortLength sixtyFour,
    ofNat_lower tag.reserved.toNat sixtyFour]

/-- What was read is written as it stood. -/
theorem toBytes_of_parse? (parsed : parse? bytes = some tag) : tag.toBytes = bytes := by
  unfold parse? at parsed
  split at parsed
  next t0 t1 control short p0 p1 p2 p3 rest =>
    cases parsed
    have etherType : Bytes.ofNat 2 (UInt16.ofNat (Bytes.toNat [t0, t1])).toNat = [t0, t1] := by
      have bound : Bytes.toNat [t0, t1] < 2 ^ 16 :=
        Nat.lt_of_lt_of_eq (Bytes.toNat_lt [t0, t1]) (by decide : 256 ^ 2 = 2 ^ 16)
      rw [UInt16.toNat_ofNat', Nat.mod_eq_of_lt bound]
      exact Bytes.ofNat_toNat [t0, t1]
    have packetNumber :
        Bytes.ofNat 4 (UInt32.ofNat (Bytes.toNat [p0, p1, p2, p3])).toNat = [p0, p1, p2, p3] :=
      Bytes.ofNat_toNat_uint32 rfl
    have controlBound := control.toNat_lt
    have shortBound := short.toNat_lt
    have controlByte : UInt8.ofNat (4 * (BitVec.ofNat 6 (control.toNat / 4)).toNat
        + (BitVec.ofNat 2 control.toNat).toNat) = control := by
      apply UInt8.toNat_inj.mp
      rw [UInt8.toNat_ofNat', BitVec.toNat_ofNat, BitVec.toNat_ofNat]
      omega
    have shortByte : UInt8.ofNat (64 * (BitVec.ofNat 2 (short.toNat / 64)).toNat
        + (BitVec.ofNat 6 short.toNat).toNat) = short := by
      apply UInt8.toNat_inj.mp
      rw [UInt8.toNat_ofNat', BitVec.toNat_ofNat, BitVec.toNat_ofNat]
      omega
    rw [toBytes, fixedPart, etherType, packetNumber, controlByte, shortByte]
    rfl
  · cases parsed

/-- A view is read from its own byte string only. -/
theorem parse?_eq_some : parse? bytes = some tag ↔ bytes = tag.toBytes := by
  constructor
  · intro parsed
    exact (toBytes_of_parse? parsed).symm
  · rintro rfl
    exact parse?_toBytes tag

/-- Eight bytes are enough for a view. -/
theorem exists_parse? (bytes : Bytes) (enough : fixedLength ≤ bytes.length) :
    ∃ tag, parse? bytes = some tag := by
  match bytes, enough with
  | _ :: _ :: _ :: _ :: _ :: _ :: _ :: _ :: _, _ => exact ⟨_, rfl⟩

theorem length_toBytes (tag : SecTag) : tag.toBytes.length = 8 + tag.rest.length := by
  rw [toBytes, List.length_append, length_fixedPart]

/-! ## Places -/

theorem take_etherType (tag : SecTag) :
    tag.toBytes.take 2 = Bytes.ofNat 2 tag.etherType.toNat := rfl

theorem take_packetNumber (tag : SecTag) :
    (tag.toBytes.drop 4).take 4 = Bytes.ofNat 4 tag.packetNumber.toNat := rfl

theorem drop_fixedPart (tag : SecTag) : tag.toBytes.drop 8 = tag.rest := rfl

/-- Two bytes tell the MACsec EtherType from every other. -/
theorem etherType_eq_macsec_iff (tag : SecTag) :
    tag.etherType = EtherType.macsec ↔ tag.toBytes.take 2 = [0x88, 0xe5] := by
  rw [take_etherType]
  constructor
  · intro same
    rw [same]
    rfl
  · intro same
    have number := congrArg Bytes.toNat same
    rw [Bytes.toNat_ofNat_of_lt tag.etherType.toNat_lt] at number
    exact UInt16.toNat_inj.mp number

/-- The bit SC in the byte that the control bits share with the association
number. -/
theorem sc_iff : ∀ (tci : BitVec 6) (an : BitVec 2),
    (tci &&& Tci.sc != 0) = true ↔ UInt8.ofNat (4 * tci.toNat + an.toNat) &&& 0x20 ≠ 0 := by
  decide

theorem hasSci_iff (tag : SecTag) : tag.hasSci = true ↔ tag.toBytes.getD 2 0 &&& 0x20 ≠ 0 :=
  sc_iff tag.tci tag.associationNumber

theorem announcedSci_of_hasSci (carries : tag.hasSci = true) : tag.announcedSci = 8 :=
  if_pos carries

theorem sci_eq_take (carries : tag.hasSci = true) :
    tag.sci = (tag.toBytes.drop 8).take 8 := by
  rw [sci, announcedSci_of_hasSci carries, drop_fixedPart]

/-! ## Bytes after a tag -/

theorem sci_append (whole : tag.announcedSci ≤ tag.rest.length) (more : Bytes) :
    ({ tag with rest := tag.rest ++ more } : SecTag).sci = tag.sci :=
  List.take_append_of_le_length whole

end PacketProtection.View.SecTag

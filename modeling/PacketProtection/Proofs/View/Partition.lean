import PacketProtection.Proofs.Header.Packing
import PacketProtection.Proofs.View.Format
import PacketProtection.Proofs.View.SecTag
import PacketProtection.View.Esp

/-!
# Views of a buffer

A view *shows* a buffer if it has the numbers of the fixed fields, and if the parts behind
the fixed part, put in order, are the rest of the buffer.  Every buffer that is long enough
for its fixed part is shown by its view, for each of the three kinds of packets
(`EspHeader.shows_of_parse?`, `EspTrailer.shows_of_parse?`, `SecTag.shows_of_parse?`).

*SCI.*  The part between the fixed part and the payload of a security tag is as long as the
bit SC and the end of the buffer let it be.  Both decide again after each write, so that
writing the control bits moves the boundary, and no byte is lost by it.

*Two descriptions.*  A view of an ESP header places its fields by their widths, and the
layout of the pipeline by a table of offsets.  Both read the same numbers
(`EspHeader.getUint_ofBytes`).
-/

namespace PacketProtection.View

/-- A view of a buffer: the numbers of its fixed fields in order, and the parts behind the
fixed part. -/
structure Shows (format : Format) (numbers : List Nat) (parts : List Bytes) (size : Nat)
    (buffer : Bytes) : Prop where
  numbers_eq : format.fields.map (·.number buffer) = numbers
  /-- No byte is lost, and none is in two parts. -/
  parts_eq : buffer.take format.length ++ parts.flatten = buffer
  size_eq : size = buffer.length

/-! ## ESP header -/

namespace EspHeader

variable {buffer : Bytes} {view : EspHeader}

theorem exists_parse? (enough : headerLength ≤ buffer.length) : ∃ view, parse? buffer = some view :=
  ⟨_, if_neg (Nat.not_lt.mpr enough)⟩

/-- What was read is written as it stood. -/
theorem toBytes_of_parse? (parsed : parse? buffer = some view) : view.toBytes = buffer := by
  unfold parse? at parsed
  split at parsed
  · cases parsed
  next long =>
    cases parsed
    rw [headerLength] at long
    have first : (buffer.take 4).length = 4 := by
      rw [List.length_take]
      omega
    have second : ((buffer.drop 4).take 4).length = 4 := by
      rw [List.length_take, List.length_drop]
      omega
    rw [toBytes, Bytes.ofNat_toNat_uint32 first, Bytes.ofNat_toNat_uint32 second, headerLength,
      List.append_assoc, show 8 = 4 + 4 from rfl, ← List.drop_drop, List.take_append_drop,
      List.take_append_drop]

/-- A view of an ESP header shows its buffer. -/
theorem shows_of_parse? (parsed : parse? buffer = some view) :
    Shows format [view.spi.toNat, view.seq.toNat] [view.payload] view.size buffer := by
  obtain rfl := toBytes_of_parse? parsed
  have bits : Bits.ofBytes view.toBytes =
      Bits.ofNat 32 view.spi.toNat ++ (Bits.ofNat 32 view.seq.toNat ++ []) ++
        Bits.ofBytes view.payload := by
    rw [toBytes, Bits.ofBytes_append, Bits.ofBytes_append, Bits.ofBytes_ofNat, Bits.ofBytes_ofNat,
      List.append_nil]
  refine ⟨?_, ?_, ?_⟩
  · refine Format.numbers_of_bits (Bits.ofBytes view.payload)
      [(("spi", 32), view.spi.toNat), (("sequence_number", 32), view.seq.toNat)] ?_ bits
    simp [view.spi.toNat_lt, view.seq.toNat_lt]
  · rw [List.flatten_cons, List.flatten_nil, List.append_nil]
    rfl
  · rw [toBytes, List.length_append, List.length_append, Bytes.length_ofNat, Bytes.length_ofNat,
      size, headerLength]

/-- The layout of the pipeline reads the same numbers. -/
theorem getUint_ofBytes (parsed : parse? buffer = some view) :
    ∃ fields, FieldSet.ofBytes .esp buffer = .ok fields ∧
      HeaderHost.getUint fields "spi" = .ok view.spi.toUInt64 ∧
      HeaderHost.getUint fields "seqNo" = .ok view.seq.toUInt64 := by
  obtain rfl := toBytes_of_parse? parsed
  have names := HeaderLayout.esp_proper.names_nodup
  have enough : HeaderLayout.esp.length ≤ view.toBytes.length := by
    rw [← (shows_of_parse? parsed).size_eq, size]
    exact Nat.le_add_right _ _
  obtain ⟨fields, read⟩ := FieldSet.exists_ofBytes names enough
  have value {f : BitField} (start : Nat) (aligned : f.Aligned start 4) (inside : start + 4 ≤ 8)
      (member : f ∈ HeaderLayout.esp.fields) :
      HeaderHost.get fields f.name = .ok (((view.toBytes.take 8).drop start).take 4) := by
    have front : (view.toBytes.take 8).length = 8 := by
      rw [List.length_take]
      exact Nat.min_eq_left enough
    rw [HeaderHost.get_unpack names enough (FieldSet.ofBytes_eq_ok.mp read) member,
      HeaderLayout.length_esp, BitField.read_of_aligned aligned.offset_eq aligned.width_eq]
    rw [front]
    exact inside
  have spi : HeaderHost.get fields "spi" = .ok (Bytes.ofNat 4 view.spi.toUInt64.toNat) :=
    value (f := ⟨"spi", 0, 32⟩) 0 ⟨rfl, rfl⟩ (by decide) (by decide)
  have seqNo : HeaderHost.get fields "seqNo" = .ok (Bytes.ofNat 4 view.seq.toUInt64.toNat) :=
    value (f := ⟨"seqNo", 32, 32⟩) 4 ⟨rfl, rfl⟩ (by decide) (by decide)
  exact ⟨fields, read, HeaderHost.getUint_of_get_ofNat spi view.spi.toNat_lt,
    HeaderHost.getUint_of_get_ofNat seqNo view.seq.toNat_lt⟩

end EspHeader

/-! ## ESP trailer -/

namespace EspTrailer

variable {buffer : Bytes} {view : EspTrailer}

theorem exists_parse? (enough : trailerLength ≤ buffer.length) :
    ∃ view, parse? buffer = some view := by
  match buffer, enough with
  | _ :: _ :: _, _ => exact ⟨_, rfl⟩

theorem shows_of_parse? (parsed : parse? buffer = some view) :
    Shows format [view.padLength.toNat, view.nextHeader.toNat] [view.payload] view.size buffer := by
  unfold parse? at parsed
  split at parsed
  next padLength nextHeader payload =>
    cases parsed
    refine ⟨?_, ?_, ?_⟩
    · refine Format.numbers_of_bits (Bits.ofBytes payload)
        [(("pad_length", 8), padLength.toNat), (("next_header", 8), nextHeader.toNat)] ?_ ?_
      · simp [padLength.toNat_lt, nextHeader.toNat_lt]
      · simp [Bits.ofBytes_cons]
    · rw [List.flatten_cons, List.flatten_nil, List.append_nil]
      rfl
    · exact Nat.add_comm 2 payload.length
  · cases parsed

end EspTrailer

/-! ## Security tag -/

namespace SecTag

variable {buffer : Bytes} {tag : SecTag}

/-- The bits of the fixed part are those of its fields. -/
theorem ofBytes_toBytes (tag : SecTag) :
    Bits.ofBytes tag.toBytes =
      Bits.ofNat 16 tag.etherType.toNat ++
        (Bits.ofNat 6 tag.tci.toNat ++ Bits.ofNat 2 tag.associationNumber.toNat) ++
        (Bits.ofNat 2 tag.reserved.toNat ++ Bits.ofNat 6 tag.shortLength.toNat) ++
        Bits.ofNat 32 tag.packetNumber.toNat ++ Bits.ofBytes tag.rest := by
  have controlBits := Bits.ofNat_pair tag.associationNumber.isLt 6 tag.tci.toNat
  have shortBits := Bits.ofNat_pair tag.shortLength.isLt 2 tag.reserved.toNat
  rw [toBytes, fixedPart, Bits.ofBytes_append, Bits.ofBytes_append, Bits.ofBytes_append,
    Bits.ofBytes_ofNat, Bits.ofBytes_ofNat, Bits.ofBytes_cons, Bits.ofBytes_cons, toNat_control,
    toNat_short, ← controlBits, ← shortBits]
  simp [Bits.ofBytes]

/-- The parts of a tag that are not fixed make up the rest. -/
theorem sci_append_payload (tag : SecTag) : tag.sci ++ tag.payload = tag.rest :=
  List.take_append_drop _ _

/-- One bit tells whether there is an SCI. -/
theorem hasSci_eq_getLsbD : ∀ tci : BitVec 6, (tci &&& Tci.sc != 0) = tci.getLsbD 3 := by
  decide

/-- A view of a security tag shows its buffer.  Its control bits and its association number
share a byte, as do its reserved bits and its short length. -/
theorem shows_of_parse? (parsed : parse? buffer = some tag) :
    Shows format
      [tag.etherType.toNat, tag.tci.toNat, tag.associationNumber.toNat, tag.reserved.toNat,
        tag.shortLength.toNat, tag.packetNumber.toNat]
      [tag.sci, tag.payload] tag.size buffer := by
  obtain rfl := toBytes_of_parse? parsed
  have parts : [tag.sci, tag.payload].flatten = tag.rest := by
    rw [List.flatten_cons, List.flatten_cons, List.flatten_nil, List.append_nil]
    exact tag.sci_append_payload
  refine ⟨?_, ?_, ?_⟩
  · refine Format.numbers_of_bits (Bits.ofBytes tag.rest)
      [(("ethertype", 16), tag.etherType.toNat), (("tci", 6), tag.tci.toNat),
        (("association_number", 2), tag.associationNumber.toNat),
        (("reserved0", 2), tag.reserved.toNat), (("short_length", 6), tag.shortLength.toNat),
        (("packet_number", 32), tag.packetNumber.toNat)] ?_ ?_
    · simp [tag.etherType.toNat_lt, tag.tci.isLt, tag.associationNumber.isLt, tag.reserved.isLt,
        tag.shortLength.isLt, tag.packetNumber.toNat_lt]
    · rw [ofBytes_toBytes]
      simp
  · rw [parts]
    rfl
  · rw [size, fixedLength, Nat.add_assoc, ← List.length_append, sci_append_payload,
      length_toBytes]

theorem sci_eq (parsed : parse? buffer = some tag) :
    tag.sci = (buffer.drop 8).take (if tag.tci.getLsbD 3 then 8 else 0) := by
  obtain rfl := toBytes_of_parse? parsed
  rw [drop_fixedPart, sci, announcedSci, hasSci, hasSci_eq_getLsbD, sciLength]

end SecTag

/-- **Views partition the buffer, and writes stay in their fields.**  Whatever numbers are
written to the fixed fields of a buffer that is long enough for them, each field then holds
what was last written to it, or what it held before, and all bytes behind the fixed part
stay.  The view of the buffer reads these numbers; the fixed part and the parts behind it
are the whole buffer in order, and the view has its size.  The SCI of a security tag is
there if the bit SC is set, as far as the buffer goes, whether the bit was written or not.
An ESP header has the numbers that the pipeline reads. -/
theorem writeAll_partition :
    (∀ (buffer : Bytes) (writes : List (Write EspHeader.format)), 8 ≤ buffer.length →
      Written writes buffer (writeAll buffer writes) ∧
      ∃ view, EspHeader.parse? (writeAll buffer writes) = some view ∧
        Shows EspHeader.format [view.spi.toNat, view.seq.toNat] [view.payload] view.size
          (writeAll buffer writes) ∧
        ∃ fields, FieldSet.ofBytes .esp (writeAll buffer writes) = .ok fields ∧
          HeaderHost.getUint fields "spi" = .ok view.spi.toUInt64 ∧
          HeaderHost.getUint fields "seqNo" = .ok view.seq.toUInt64) ∧
    (∀ (buffer : Bytes) (writes : List (Write EspTrailer.format)), 2 ≤ buffer.length →
      Written writes buffer (writeAll buffer writes) ∧
      ∃ view, EspTrailer.parse? (writeAll buffer writes) = some view ∧
        Shows EspTrailer.format [view.padLength.toNat, view.nextHeader.toNat] [view.payload]
          view.size (writeAll buffer writes)) ∧
    (∀ (buffer : Bytes) (writes : List (Write SecTag.format)), 8 ≤ buffer.length →
      Written writes buffer (writeAll buffer writes) ∧
      ∃ tag, SecTag.parse? (writeAll buffer writes) = some tag ∧
        Shows SecTag.format
          [tag.etherType.toNat, tag.tci.toNat, tag.associationNumber.toNat, tag.reserved.toNat,
            tag.shortLength.toNat, tag.packetNumber.toNat]
          [tag.sci, tag.payload] tag.size (writeAll buffer writes) ∧
        tag.sci = (buffer.drop 8).take (if tag.tci.getLsbD 3 then 8 else 0)) := by
  refine ⟨fun buffer writes enough => ?_, fun buffer writes enough => ?_,
    fun buffer writes enough => ?_⟩
  · have room : EspHeader.format.length ≤ buffer.length := enough
    have written := written_writeAll room writes
    obtain ⟨view, parsed⟩ := EspHeader.exists_parse? (written.length_eq ▸ enough)
    exact ⟨written, view, parsed, EspHeader.shows_of_parse? parsed,
      EspHeader.getUint_ofBytes parsed⟩
  · have room : EspTrailer.format.length ≤ buffer.length := enough
    have written := written_writeAll room writes
    obtain ⟨view, parsed⟩ := EspTrailer.exists_parse? (written.length_eq ▸ enough)
    exact ⟨written, view, parsed, EspTrailer.shows_of_parse? parsed⟩
  · have room : SecTag.format.length ≤ buffer.length := enough
    have written := written_writeAll room writes
    obtain ⟨tag, parsed⟩ := SecTag.exists_parse? _ (written.length_eq ▸ enough)
    refine ⟨written, tag, parsed, SecTag.shows_of_parse? parsed, ?_⟩
    rw [SecTag.sci_eq parsed]
    exact congrArg (List.take _) written.drop_eq

/-- A number written twice, a trailer with bytes behind it, and control bits that make three
bytes of payload a cut SCI. -/
theorem writeAll_partition_cut_sci :
    (∃ view, EspHeader.parse? (writeAll [0, 0, 0, 1, 0, 0, 0, 2, 9]
        [(⟨⟨"sequence_number", 32, 32⟩, 7, by decide, by decide⟩ : Write EspHeader.format),
          ⟨⟨"sequence_number", 32, 32⟩, 8, by decide, by decide⟩]) = some view ∧
      view.spi.toNat = 1 ∧ view.seq.toNat = 8 ∧ view.size = 9) ∧
    (∃ view, EspTrailer.parse? (writeAll [5, 6, 7]
        [(⟨⟨"next_header", 8, 8⟩, 4, by decide, by decide⟩ : Write EspTrailer.format)]) =
          some view ∧
      view.padLength.toNat = 5 ∧ view.nextHeader.toNat = 4 ∧ view.size = 3) ∧
    ∃ tag, SecTag.parse? (writeAll [0x88, 0xe5, 0x01, 0x10, 0, 0, 0, 5, 0xaa, 0xbb, 0xcc]
        [(⟨⟨"tci", 16, 6⟩, 0b001011, by decide, by decide⟩ : Write SecTag.format)]) = some tag ∧
      tag.tci.toNat = 0b001011 ∧ tag.associationNumber.toNat = 1 ∧
      tag.sci = [0xaa, 0xbb, 0xcc] ∧ tag.payload = [] ∧ tag.size = 11 := by
  obtain ⟨headers, trailers, tags⟩ := writeAll_partition
  refine ⟨?_, ?_, ?_⟩
  · obtain ⟨written, view, parsed, shows, -⟩ := headers [0, 0, 0, 1, 0, 0, 0, 2, 9]
      [⟨⟨"sequence_number", 32, 32⟩, 7, by decide, by decide⟩,
        ⟨⟨"sequence_number", 32, 32⟩, 8, by decide, by decide⟩] (by decide)
    have spi := Option.some.inj (congrArg (·[0]?) shows.numbers_eq)
    have seq := Option.some.inj (congrArg (·[1]?) shows.numbers_eq)
    exact ⟨view, parsed, spi.symm.trans (written.number_eq ⟨"spi", 0, 32⟩ (by decide)),
      seq.symm.trans (written.number_eq ⟨"sequence_number", 32, 32⟩ (by decide)),
      shows.size_eq.trans written.length_eq⟩
  · obtain ⟨written, view, parsed, shows⟩ := trailers [5, 6, 7]
      [⟨⟨"next_header", 8, 8⟩, 4, by decide, by decide⟩] (by decide)
    have pad := Option.some.inj (congrArg (·[0]?) shows.numbers_eq)
    have next := Option.some.inj (congrArg (·[1]?) shows.numbers_eq)
    exact ⟨view, parsed, pad.symm.trans (written.number_eq ⟨"pad_length", 0, 8⟩ (by decide)),
      next.symm.trans (written.number_eq ⟨"next_header", 8, 8⟩ (by decide)),
      shows.size_eq.trans written.length_eq⟩
  · obtain ⟨written, tag, parsed, shows, sci⟩ :=
      tags [0x88, 0xe5, 0x01, 0x10, 0, 0, 0, 5, 0xaa, 0xbb, 0xcc]
        [⟨⟨"tci", 16, 6⟩, 0b001011, by decide, by decide⟩] (by decide)
    have tci : tag.tci.toNat = 0b001011 :=
      (Option.some.inj (congrArg (·[1]?) shows.numbers_eq)).symm.trans
        (written.number_eq ⟨"tci", 16, 6⟩ (by decide))
    have an : tag.associationNumber.toNat = 1 :=
      (Option.some.inj (congrArg (·[2]?) shows.numbers_eq)).symm.trans
        (written.number_eq ⟨"association_number", 22, 2⟩ (by decide))
    have size : tag.size = 11 := shows.size_eq.trans written.length_eq
    have bits : tag.tci = 0b001011#6 := BitVec.eq_of_toNat_eq tci
    rw [bits] at sci
    refine ⟨tag, parsed, tci, an, sci, ?_, size⟩
    rw [SecTag.size, sci] at size
    exact List.eq_nil_of_length_eq_zero (Nat.add_left_cancel size)

end PacketProtection.View

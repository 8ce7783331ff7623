import PacketProtection.Proofs.Header.Aligned
import PacketProtection.View.Format

/-!
# Fields in place

A field is read from the few bytes in which it has bits, and written by putting these
bytes back.  Seen from the whole buffer, reading gives its bits (`BitField.number_eq`), and
writing replaces its bits and no others (`BitField.ofBytes_store`).

*One write.*  What was written is read, fields elsewhere hold what they held, and bytes
behind the field stay (`BitField.number_store_self`, `BitField.number_store_of_apart`,
`BitField.drop_store`).

*Formats.*  Fields that lie one behind the other share no bit
(`View.pairwise_consecutive`), and a buffer that starts with numbers in their widths holds
these numbers (`View.Format.numbers_of_bits`).

*Many writes.*  Each field holds the last number that was written to it, or else what it
held at the beginning (`View.written_writeAll`).
-/

namespace PacketProtection

/-! ## One field -/

namespace BitField

variable {f g : BitField} {buffer : Bytes}

theorem eight_mul_firstByte (f : BitField) : 8 * f.firstByte + f.offset % 8 = f.offset :=
  Nat.div_add_mod f.offset 8

theorem within_held (f : BitField) : f.offset % 8 + f.width ≤ 8 * f.byteCount := by
  rw [byteCount]
  omega

theorem ofBytes_held (f : BitField) (buffer : Bytes) :
    Bits.ofBytes (f.held buffer) =
      (Bits.ofBytes buffer).slice (8 * f.firstByte) (8 * f.byteCount) :=
  (Bits.slice_ofBytes buffer f.firstByte f.byteCount).symm

/-- A field holds its bits of the buffer. -/
theorem number_eq (f : BitField) (buffer : Bytes) : f.number buffer = (f.bitsIn buffer).toNat := by
  rw [number, ofBytes_held, Bits.slice_slice f.within_held, eight_mul_firstByte, bitsIn]

section Fits

variable (fits : f.offset + f.width ≤ 8 * buffer.length)
include fits

theorem held_fits : f.firstByte + f.byteCount ≤ buffer.length := by
  rw [firstByte, byteCount]
  omega

theorem length_held : (f.held buffer).length = f.byteCount := by
  have room := held_fits fits
  rw [held, List.length_take, List.length_drop]
  omega

/-- The bits of a field are changed among those of its bytes. -/
theorem ofBytes_renewed (number : Nat) :
    Bits.ofBytes (f.renewed number buffer) =
      (Bits.ofBytes (f.held buffer)).write (f.offset % 8) (Bits.ofNat f.width number) := by
  apply Bits.ofBytes_toBytes
  rw [Bits.length_write, Bits.length_ofBytes]
  rw [Bits.length_ofNat, Bits.length_ofBytes, length_held fits]
  exact f.within_held

theorem length_renewed (number : Nat) : (f.renewed number buffer).length = f.byteCount := by
  have bits := congrArg List.length (ofBytes_renewed fits number)
  rw [Bits.length_write, Bits.length_ofBytes, Bits.length_ofBytes, length_held fits] at bits
  · omega
  · rw [Bits.length_ofNat, Bits.length_ofBytes, length_held fits]
    exact f.within_held

theorem store_eq_overwrite (number : Nat) :
    f.store number buffer = buffer.overwrite f.firstByte (f.renewed number buffer) := by
  rw [store, Bytes.overwrite, length_renewed fits]

theorem renewed_fits (number : Nat) :
    f.firstByte + (f.renewed number buffer).length ≤ buffer.length := by
  rw [length_renewed fits]
  exact held_fits fits

@[simp] theorem length_store (number : Nat) : (f.store number buffer).length = buffer.length := by
  rw [store_eq_overwrite fits, Bytes.length_overwrite (renewed_fits fits number)]

/-- Writing a field replaces its bits and no others. -/
theorem ofBytes_store (number : Nat) :
    Bits.ofBytes (f.store number buffer) =
      (Bits.ofBytes buffer).write f.offset (Bits.ofNat f.width number) := by
  have inside : f.offset % 8 + (Bits.ofNat f.width number).length ≤ 8 * f.byteCount := by
    rw [Bits.length_ofNat]
    exact f.within_held
  have room : 8 * f.firstByte + 8 * f.byteCount ≤ (Bits.ofBytes buffer).length := by
    have bytes := held_fits fits
    rw [Bits.length_ofBytes]
    omega
  rw [store_eq_overwrite fits, Bits.ofBytes_overwrite, ofBytes_renewed fits, ofBytes_held,
    Bits.write_slice inside room, eight_mul_firstByte]

theorem bits_fit (number : Nat) :
    f.offset + (Bits.ofNat f.width number).length ≤ (Bits.ofBytes buffer).length := by
  rw [Bits.length_ofNat, Bits.length_ofBytes]
  exact fits

/-- What was written is read, if the field has the bits for it. -/
theorem number_store_self {number : Nat} (inRange : number < 2 ^ f.width) :
    f.number (f.store number buffer) = number := by
  have same := Bits.slice_write_self (bits_fit fits number)
  rw [Bits.length_ofNat] at same
  rw [number_eq, bitsIn, ofBytes_store fits, same, Bits.toNat_ofNat, Nat.mod_eq_of_lt inRange]

/-- A field elsewhere holds what it held. -/
theorem number_store_of_apart (apart : f.Apart g) (number : Nat) :
    g.number (f.store number buffer) = g.number buffer := by
  have same : (Bits.ofBytes (f.store number buffer)).slice g.offset g.width =
      (Bits.ofBytes buffer).slice g.offset g.width := by
    rw [ofBytes_store fits]
    apply Bits.slice_write_of_apart (bits_fit fits number)
    rw [Bits.length_ofNat]
    exact apart
  rw [number_eq, number_eq, bitsIn, same, bitsIn]

/-- Bytes behind a field stay. -/
theorem drop_store {count : Nat} (ends : f.offset + f.width ≤ 8 * count) (number : Nat) :
    (f.store number buffer).drop count = buffer.drop count := by
  have before : f.firstByte + f.byteCount ≤ count := by
    rw [firstByte, byteCount]
    omega
  apply List.ext_getElem?
  intro i
  rw [List.getElem?_drop, List.getElem?_drop, store_eq_overwrite fits,
    Bytes.getElem?_overwrite_of_outside (renewed_fits fits number)]
  right
  rw [length_renewed fits]
  omega

end Fits

end BitField

/-! ## Fields one behind the other -/

namespace View

theorem bounds_of_mem_consecutive {start : Nat} {widths : List (String × Nat)} {f : BitField}
    (member : f ∈ consecutive start widths) :
    start ≤ f.offset ∧ f.offset + f.width ≤ start + totalWidth widths := by
  induction widths generalizing start with
  | nil => cases member
  | cons entry rest ih =>
      rw [totalWidth]
      rcases List.mem_cons.mp member with rfl | later
      · exact ⟨Nat.le_refl start, by show start + entry.2 ≤ _; omega⟩
      · obtain ⟨behind, ends⟩ := ih later
        exact ⟨by omega, by omega⟩

theorem pairwise_consecutive (start : Nat) (widths : List (String × Nat)) :
    (consecutive start widths).Pairwise BitField.Apart := by
  induction widths generalizing start with
  | nil => exact List.Pairwise.nil
  | cons entry rest ih =>
      refine List.Pairwise.cons (fun g later => ?_) (ih _)
      exact BitField.apart_iff.mpr (.inr (.inr (.inl (bounds_of_mem_consecutive later).1)))

/-- Numbers one behind the other, each with the bits for it, are held by fields of their
widths. -/
theorem map_number_consecutive {buffer : Bytes} (front : Bits) {rest : Bits}
    (entries : List ((String × Nat) × Nat)) (inRange : ∀ entry ∈ entries, entry.2 < 2 ^ entry.1.2)
    (same : Bits.ofBytes buffer =
      front ++ entries.flatMap (fun entry => Bits.ofNat entry.1.2 entry.2) ++ rest) :
    (consecutive front.length (entries.map (·.1))).map (·.number buffer) = entries.map (·.2) := by
  induction entries generalizing front with
  | nil => rfl
  | cons entry later ih =>
      obtain ⟨⟨name, width⟩, number⟩ := entry
      obtain ⟨fits, laterFit⟩ := List.forall_mem_cons.mp inRange
      have first :
          (BitField.mk name front.length width).bitsIn buffer = Bits.ofNat width number := by
        rw [BitField.bitsIn, same, List.flatMap_cons, Bits.slice, List.append_assoc,
          List.drop_left, List.append_assoc, List.take_left' (Bits.length_ofNat _ _)]
      have others := ih (front ++ Bits.ofNat width number) laterFit (by
        rw [same, List.flatMap_cons, List.append_assoc front (Bits.ofNat width number)])
      rw [List.length_append, Bits.length_ofNat] at others
      rw [List.map_cons, consecutive, List.map_cons, List.map_cons, BitField.number_eq, first,
        Bits.toNat_ofNat, Nat.mod_eq_of_lt fits, others]

namespace Format

variable {format : Format} {f g : BitField}

theorem apart_of_ne (inFormat : f ∈ format.fields) (alsoInFormat : g ∈ format.fields)
    (different : f ≠ g) : f.Apart g := by
  have symmetric : Std.Symm BitField.Apart := ⟨fun _ _ => BitField.Apart.symm⟩
  exact (pairwise_consecutive 0 format.widths).forall inFormat alsoInFormat different

/-- Every field ends within the fixed part. -/
theorem end_le_length (inFormat : f ∈ format.fields) : f.offset + f.width ≤ 8 * format.length := by
  obtain ⟨-, ends⟩ := bounds_of_mem_consecutive inFormat
  rw [length]
  omega

/-- A buffer that starts with numbers in the widths of a format holds these numbers. -/
theorem numbers_of_bits {buffer : Bytes} (rest : Bits) (entries : List ((String × Nat) × Nat))
    (inRange : ∀ entry ∈ entries, entry.2 < 2 ^ entry.1.2)
    (same : Bits.ofBytes buffer =
      entries.flatMap (fun entry => Bits.ofNat entry.1.2 entry.2) ++ rest) :
    (mk (entries.map (·.1))).fields.map (·.number buffer) = entries.map (·.2) :=
  map_number_consecutive [] entries inRange same

end Format

/-! ## Writes -/

/-- A number that is written to a field of the format that has the bits for it. -/
structure Write (format : Format) where
  field : BitField
  number : Nat
  isField : field ∈ format.fields
  inRange : number < 2 ^ field.width

variable {format : Format}

/-- The buffer after writes, one after the other. -/
def writeAll (buffer : Bytes) (writes : List (Write format)) : Bytes :=
  writes.foldl (fun buffer write => write.field.store write.number buffer) buffer

/-- The number that was last written to a field. -/
def last? (f : BitField) (writes : List (Write format)) : Option Nat :=
  ((writes.filter (·.field = f)).map (·.number)).getLast?

theorem writeAll_concat (buffer : Bytes) (writes : List (Write format)) (write : Write format) :
    writeAll buffer (writes ++ [write]) =
      write.field.store write.number (writeAll buffer writes) := by
  rw [writeAll, List.foldl_append, List.foldl_cons, List.foldl_nil, writeAll]

theorem last?_concat (f : BitField) (writes : List (Write format)) (write : Write format) :
    last? f (writes ++ [write]) =
      if write.field = f then some write.number else last? f writes := by
  rw [last?, List.filter_append, List.map_append, List.getLast?_append, last?]
  by_cases same : write.field = f
  · simp [same]
  · simp [same]

/-- What writes to fixed fields make of a buffer. -/
structure Written (writes : List (Write format)) (before after : Bytes) : Prop where
  length_eq : after.length = before.length
  /-- The last number that was written, or else what was there. -/
  number_eq : ∀ f ∈ format.fields, f.number after = (last? f writes).getD (f.number before)
  /-- Everything behind the fixed part stays. -/
  drop_eq : after.drop format.length = before.drop format.length

theorem Written.nil (buffer : Bytes) : Written ([] : List (Write format)) buffer buffer :=
  ⟨rfl, fun _ _ => rfl, rfl⟩

/-- One more write. -/
theorem Written.concat {writes : List (Write format)} {before after : Bytes}
    (written : Written writes before after) (enough : format.length ≤ before.length)
    (write : Write format) :
    Written (writes ++ [write]) before (write.field.store write.number after) := by
  have ends := Format.end_le_length write.isField
  have fits : write.field.offset + write.field.width ≤ 8 * after.length := by
    have same := written.length_eq
    omega
  refine ⟨?_, fun f member => ?_, ?_⟩
  · rw [BitField.length_store fits, written.length_eq]
  · rw [last?_concat]
    by_cases same : write.field = f
    · subst same
      rw [BitField.number_store_self fits write.inRange, if_pos rfl, Option.getD_some]
    · have apart := Format.apart_of_ne write.isField member same
      rw [BitField.number_store_of_apart fits apart, if_neg same, written.number_eq f member]
  · rw [BitField.drop_store fits ends, written.drop_eq]

/-- Any number of writes; by induction from the end, as the last one counts. -/
theorem written_writeAll {buffer : Bytes} (enough : format.length ≤ buffer.length)
    (writes : List (Write format)) : Written writes buffer (writeAll buffer writes) := by
  induction writes using List.reverseRecOn with
  | nil => exact .nil buffer
  | append_singleton writes write ih =>
      rw [writeAll_concat]
      exact ih.concat enough write

end View

end PacketProtection

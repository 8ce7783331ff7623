import PacketProtection.Header.Layout
import PacketProtection.Proofs.Numeral

/-!
# Fields in a bit string

A field is a piece of a header's bits.  Cutting a piece out and writing one over
another are described position by position (`Bits.getElem?_slice`,
`Bits.getElem?_write`); what is written is cut out again, and a piece that lies
elsewhere is not touched (`Bits.slice_write_self`, `Bits.slice_write_of_apart`).

*Values.*  `BitField.check_eq_ok_iff` says when a value fits a field of at most
64 bits.  What is read from a header always fits (`BitField.check_read`), and
the bits of a value that fits determine it (`BitField.ofNat_toNat_bits`).

*Layouts.*  A layout is *proper* when its fields have different names, do not
overlap and have at most 64 bits.  It is *full* when its fields cover all its
bits.  The three layouts of the pipeline are proper, and those of both headers
are full.
-/

namespace PacketProtection

/-! ## Pieces -/

namespace Bits

theorem length_slice {bits : Bits} {offset width : Nat} (fits : offset + width ≤ bits.length) :
    (bits.slice offset width).length = width := by
  rw [slice, List.length_take, List.length_drop]
  omega

theorem getElem?_slice (bits : Bits) (offset width i : Nat) :
    (bits.slice offset width)[i]? = if i < width then bits[offset + i]? else none := by
  rw [slice, List.getElem?_take, List.getElem?_drop]

theorem length_write {bits piece : Bits} {offset : Nat}
    (fits : offset + piece.length ≤ bits.length) :
    (bits.write offset piece).length = bits.length := by
  rw [write, List.length_append, List.length_append, List.length_take, List.length_drop]
  omega

theorem getElem?_write {bits piece : Bits} {offset : Nat}
    (fits : offset + piece.length ≤ bits.length) (i : Nat) :
    (bits.write offset piece)[i]? =
      if offset ≤ i ∧ i < offset + piece.length then piece[i - offset]? else bits[i]? := by
  have front : (bits.take offset).length = offset := by
    rw [List.length_take]
    omega
  rw [write, List.append_assoc]
  by_cases before : i < offset
  · rw [List.getElem?_append_left (by omega), List.getElem?_take_of_lt before,
      if_neg (by omega)]
  · rw [List.getElem?_append_right (by omega), front]
    by_cases inside : i < offset + piece.length
    · rw [List.getElem?_append_left (by omega), if_pos (by omega)]
    · rw [List.getElem?_append_right (by omega), List.getElem?_drop, if_neg (by omega)]
      congr 1
      omega

theorem slice_write_self {bits piece : Bits} {offset : Nat}
    (fits : offset + piece.length ≤ bits.length) :
    (bits.write offset piece).slice offset piece.length = piece := by
  apply List.ext_getElem?
  intro i
  rw [getElem?_slice, getElem?_write fits]
  by_cases inside : i < piece.length
  · rw [if_pos inside, if_pos (by omega), Nat.add_sub_cancel_left]
  · rw [if_neg inside, List.getElem?_eq_none (by omega)]

theorem slice_write_of_apart {bits piece : Bits} {offset other width : Nat}
    (fits : offset + piece.length ≤ bits.length)
    (apart : ∀ position, offset ≤ position ∧ position < offset + piece.length →
      ¬(other ≤ position ∧ position < other + width)) :
    (bits.write offset piece).slice other width = bits.slice other width := by
  apply List.ext_getElem?
  intro i
  rw [getElem?_slice, getElem?_slice, getElem?_write fits]
  by_cases inside : i < width
  · have elsewhere : ¬(offset ≤ other + i ∧ other + i < offset + piece.length) :=
      fun written => apart _ written (by omega)
    rw [if_pos inside, if_pos inside, if_neg elsewhere]
  · rw [if_neg inside, if_neg inside]

theorem slice_slice {start count offset width : Nat} (inside : offset + width ≤ count)
    (bits : Bits) :
    (bits.slice start count).slice offset width = bits.slice (start + offset) width := by
  apply List.ext_getElem?
  intro i
  rw [getElem?_slice, getElem?_slice, getElem?_slice]
  by_cases within : i < width
  · rw [if_pos within, if_pos within, if_pos (by omega), Nat.add_assoc]
  · rw [if_neg within, if_neg within]

/-- A piece may be cut out, changed and put back. -/
theorem write_slice {bits piece : Bits} {start count offset : Nat}
    (inside : offset + piece.length ≤ count) (fits : start + count ≤ bits.length) :
    bits.write start ((bits.slice start count).write offset piece) =
      bits.write (start + offset) piece := by
  have sliceLength : (bits.slice start count).length = count := length_slice fits
  have insideSlice : offset + piece.length ≤ (bits.slice start count).length := by omega
  have changedLength : ((bits.slice start count).write offset piece).length = count :=
    (length_write insideSlice).trans sliceLength
  have changedFits :
      start + ((bits.slice start count).write offset piece).length ≤ bits.length := by omega
  have pieceFits : start + offset + piece.length ≤ bits.length := by omega
  apply List.ext_getElem?
  intro i
  rw [getElem?_write changedFits, changedLength, getElem?_write pieceFits]
  by_cases cut : start ≤ i ∧ i < start + count
  · have near : i - start < count := by omega
    rw [if_pos cut, getElem?_write insideSlice, getElem?_slice, if_pos near,
      Nat.add_sub_cancel' cut.1, Nat.sub_sub]
    -- Both sides ask whether the position is in the piece, one counting from the cut.
    congr 1
    apply propext
    omega
  · rw [if_neg cut, if_neg (by omega)]

/-- A piece made of whole bytes. -/
theorem slice_ofBytes (bytes : Bytes) (start count : Nat) :
    (ofBytes bytes).slice (8 * start) (8 * count) = ofBytes ((bytes.drop start).take count) := by
  rw [slice, drop_ofBytes, take_ofBytes]

end Bits

/-! ## Values of a field -/

namespace BitField

/-- Does a field hold the bit at a position of the header? -/
def Covers (f : BitField) (position : Nat) : Prop :=
  f.offset ≤ position ∧ position < f.offset + f.width

instance (f : BitField) (position : Nat) : Decidable (f.Covers position) :=
  inferInstanceAs (Decidable (_ ∧ _))

/-- Two fields that share no bit. -/
def Apart (f g : BitField) : Prop :=
  ∀ position, f.Covers position → ¬g.Covers position

theorem Apart.symm {f g : BitField} (apart : f.Apart g) : g.Apart f :=
  fun position inSecond inFirst => apart position inFirst inSecond

/-- One of two fields ends before the other, or is empty and may lie anywhere. -/
theorem apart_iff {f g : BitField} :
    f.Apart g ↔ f.width = 0 ∨ g.width = 0 ∨ f.offset + f.width ≤ g.offset ∨
      g.offset + g.width ≤ f.offset := by
  simp only [Apart, Covers]
  constructor
  · intro apart
    have atStart := apart (max f.offset g.offset)
    omega
  · intro ends position
    omega

instance (f g : BitField) : Decidable (Apart f g) :=
  decidable_of_iff _ apart_iff.symm

theorem two_pow_width_le (f : BitField) : 2 ^ f.width ≤ 256 ^ f.byteWidth := by
  rw [show (256 : Nat) = 2 ^ 8 from rfl, ← Nat.pow_mul]
  apply Nat.pow_le_pow_right (by decide)
  rw [byteWidth]
  omega

/-- A value fits a field if it has the field's bytes and, below 64 bits, is
less than two to the width. -/
theorem check_eq_ok {f : BitField} {value : Bytes} :
    f.check value = .ok () ↔
      value.length = f.byteWidth ∧ (f.width < 64 → value.toNat < 2 ^ f.width) := by
  unfold check
  split
  next wrongLength => simp [wrongLength]
  next rightLength =>
    split
    next tooLarge =>
      constructor
      · intro impossible
        cases impossible
      · rintro ⟨-, below⟩
        exact absurd (below tooLarge.1) (Nat.not_lt.mpr tooLarge.2)
    next notTooLarge =>
      refine ⟨fun _ => ⟨not_not.mp rightLength, fun narrow => ?_⟩, fun _ => rfl⟩
      exact Nat.lt_of_not_le fun large => notTooLarge ⟨narrow, large⟩

theorem check_eq_ok_iff {f : BitField} {value : Bytes} (narrow : f.width ≤ 64) :
    f.check value = .ok () ↔ value.length = f.byteWidth ∧ value.toNat < 2 ^ f.width := by
  rw [check_eq_ok]
  refine and_congr_right fun rightLength => ⟨fun below => ?_, fun below _ => below⟩
  rcases Nat.lt_or_eq_of_le narrow with short | full
  · exact below short
  · -- Eight whole bytes cannot exceed 64 bits, so nothing is left to check.
    have bound := value.toNat_lt
    rw [rightLength, byteWidth, full] at bound
    rw [full]
    exact bound

theorem length_of_check {f : BitField} {value : Bytes} (fits : f.check value = .ok ()) :
    value.length = f.byteWidth :=
  (check_eq_ok.mp fits).1

/-- A value is refused for its number of bytes, or for a number beyond the bits. -/
theorem check_eq_error {f : BitField} {value : Bytes} {cause : TransformError}
    (refused : f.check value = .error cause) :
    (value.length ≠ f.byteWidth ∧ cause = .fieldWidth f.name f.byteWidth value.length) ∨
      (value.length = f.byteWidth ∧ 2 ^ f.width ≤ value.toNat ∧
        cause = .fieldOverflow f.name f.width) := by
  unfold check at refused
  split at refused
  next wrongLength =>
    cases refused
    exact .inl ⟨wrongLength, rfl⟩
  next rightLength =>
    split at refused
    next tooLarge =>
      cases refused
      exact .inr ⟨not_not.mp rightLength, tooLarge.2, rfl⟩
    · cases refused

/-- A value that does not fit is the host's fault, not the frame's. -/
theorem check_error_not_malformed {f : BitField} {value : Bytes} {cause : TransformError}
    (refused : f.check value = .error cause) : cause.isMalformed = false := by
  rcases check_eq_error refused with ⟨-, rfl⟩ | ⟨-, -, rfl⟩ <;> rfl

/-- Only a field with fewer bits than its bytes have can refuse a number. -/
theorem width_lt_of_overflow {f : BitField} {value : Bytes} (rightLength : value.length = f.byteWidth)
    (large : 2 ^ f.width ≤ value.toNat) : f.width < 8 * f.byteWidth := by
  have bound := value.toNat_lt
  rw [rightLength, show (256 : Nat) = 2 ^ 8 from rfl, ← Nat.pow_mul] at bound
  exact (Nat.pow_lt_pow_iff_right (by decide)).mp (Nat.lt_of_le_of_lt large bound)

/-- A value of the right length is refused for the bits of the field. -/
theorem check_of_large {f : BitField} {value : Bytes} (narrow : f.width ≤ 64)
    (rightLength : value.length = f.byteWidth) (large : 2 ^ f.width ≤ value.toNat) :
    f.check value = .error (.fieldOverflow f.name f.width) := by
  have short : f.width < 64 := by
    have inBytes := width_lt_of_overflow rightLength large
    rw [byteWidth] at inBytes
    omega
  rw [check, if_neg (not_not.mpr rightLength), if_pos ⟨short, large⟩]

/-- The bits a field holds in a packed header. -/
def bitsIn (f : BitField) (raw : Bytes) : Bits :=
  (Bits.ofBytes raw).slice f.offset f.width

theorem toNat_bitsIn_lt (f : BitField) (raw : Bytes) : (f.bitsIn raw).toNat < 2 ^ f.width := by
  refine Nat.lt_of_lt_of_le (Bits.toNat_lt _) (Nat.pow_le_pow_right (by decide) ?_)
  rw [bitsIn, Bits.slice, List.length_take]
  exact Nat.min_le_left _ _

theorem toNat_read (f : BitField) (raw : Bytes) : (f.read raw).toNat = (f.bitsIn raw).toNat :=
  Bytes.toNat_ofNat_of_lt (Nat.lt_of_lt_of_le (f.toNat_bitsIn_lt raw) f.two_pow_width_le)

@[simp] theorem length_read (f : BitField) (raw : Bytes) : (f.read raw).length = f.byteWidth :=
  Bytes.length_ofNat _ _

/-- What is read from a header fits the field it is read for. -/
theorem check_read (f : BitField) (raw : Bytes) : f.check (f.read raw) = .ok () := by
  rw [check_eq_ok]
  refine ⟨f.length_read raw, fun _ => ?_⟩
  rw [toNat_read]
  exact f.toNat_bitsIn_lt raw

/-- A field made of whole bytes holds these bytes. -/
theorem read_of_aligned {f : BitField} {start count : Nat} (offset : f.offset = 8 * start)
    (width : f.width = 8 * count) {raw : Bytes} (inside : start + count ≤ raw.length) :
    f.read raw = (raw.drop start).take count := by
  have length : ((raw.drop start).take count).length = f.byteWidth := by
    rw [List.length_take, List.length_drop, byteWidth, width]
    omega
  rw [read, offset, width, Bits.slice_ofBytes, Bits.toNat_ofBytes, ← length, Bytes.ofNat_toNat]

/-- The bits of what is read are the bits it was read from. -/
theorem ofNat_toNat_read {f : BitField} {raw : Bytes} (inside : f.offset + f.width ≤ 8 * raw.length) :
    Bits.ofNat f.width (f.read raw).toNat = f.bitsIn raw := by
  have width : (f.bitsIn raw).length = f.width :=
    Bits.length_slice (by rw [Bits.length_ofBytes]; exact inside)
  rw [toNat_read]
  conv_lhs => rw [← width]
  exact Bits.ofNat_toNat _

/-- A value that fits is read back from its bits. -/
theorem ofNat_toNat_bits {f : BitField} {value : Bytes} (narrow : f.width ≤ 64)
    (fits : f.check value = .ok ()) :
    Bytes.ofNat f.byteWidth (Bits.ofNat f.width value.toNat).toNat = value := by
  obtain ⟨rightLength, below⟩ := (check_eq_ok_iff narrow).mp fits
  rw [Bits.toNat_ofNat, Nat.mod_eq_of_lt below, ← rightLength, Bytes.ofNat_toNat]

end BitField

/-! ## Layouts -/

namespace HeaderLayout

/-- Different names, no overlap, and at most 64 bits a field. -/
structure Proper (layout : HeaderLayout) : Prop where
  names_nodup : (layout.fields.map (·.name)).Nodup
  apart : layout.fields.Pairwise BitField.Apart
  narrow : ∀ f ∈ layout.fields, f.width ≤ 64

/-- Does a field of the layout hold the bit at a position? -/
def Covers (layout : HeaderLayout) (position : Nat) : Prop :=
  ∃ f ∈ layout.fields, f.Covers position

instance (layout : HeaderLayout) (position : Nat) : Decidable (layout.Covers position) :=
  inferInstanceAs (Decidable (∃ f ∈ layout.fields, f.Covers position))

/-- Every bit of the header belongs to a field. -/
def Full (layout : HeaderLayout) : Prop :=
  ∀ position < 8 * layout.length, layout.Covers position

theorem ipv4_proper : ipv4.Proper := ⟨by decide, by decide, by decide⟩

theorem esp_proper : esp.Proper := ⟨by decide, by decide, by decide⟩

theorem standardMetadata_proper : standardMetadata.Proper := ⟨by decide, by decide, by decide⟩

theorem ipv4_full : ipv4.Full := by
  unfold Full
  decide

theorem esp_full : esp.Full := by
  unfold Full
  decide

theorem length_ipv4 : ipv4.length = 20 := rfl

theorem length_esp : esp.length = 8 := rfl

/-- The header at the start of a byte string, the bits of no field cleared. -/
def cleared (layout : HeaderLayout) (raw : Bytes) : Bytes :=
  Bits.toBytes ((Bits.ofBytes (raw.take layout.length)).mapIdx fun position bit =>
    bit && decide (layout.Covers position))

theorem cleared_take (layout : HeaderLayout) (raw : Bytes) :
    layout.cleared (raw.take layout.length) = layout.cleared raw := by
  rw [cleared, List.take_take, Nat.min_self, cleared]

theorem ofBytes_cleared (layout : HeaderLayout) (raw : Bytes) :
    Bits.ofBytes (layout.cleared raw) =
      (Bits.ofBytes (raw.take layout.length)).mapIdx fun position bit =>
        bit && decide (layout.Covers position) := by
  apply Bits.ofBytes_toBytes
  rw [List.length_mapIdx, Bits.length_ofBytes]

theorem length_cleared {layout : HeaderLayout} {raw : Bytes}
    (enough : layout.length ≤ raw.length) : (layout.cleared raw).length = layout.length := by
  rw [cleared, Bits.length_toBytes, List.length_mapIdx, Bits.length_ofBytes, List.length_take,
    Nat.min_eq_left enough, Nat.mul_div_cancel_left _ (by decide)]

theorem getElem?_cleared {layout : HeaderLayout} {raw : Bytes}
    (enough : layout.length ≤ raw.length) {position : Nat} (inside : position < 8 * layout.length) :
    (Bits.ofBytes (layout.cleared raw))[position]? =
      if layout.Covers position then (Bits.ofBytes raw)[position]? else some false := by
  have present : position < (Bits.ofBytes raw).length := by
    rw [Bits.length_ofBytes]
    omega
  rw [ofBytes_cleared, List.getElem?_mapIdx, ← Bits.take_ofBytes, List.getElem?_take_of_lt inside,
    List.getElem?_eq_getElem present]
  split <;> simp [*]

/-- In a full layout there is nothing to clear. -/
theorem cleared_of_full {layout : HeaderLayout} (full : layout.Full) (raw : Bytes) :
    layout.cleared raw = raw.take layout.length := by
  rw [cleared]
  conv_rhs => rw [← Bits.toBytes_ofBytes (raw.take layout.length)]
  congr 1
  apply List.ext_getElem?
  intro i
  rw [List.getElem?_mapIdx]
  cases present : (Bits.ofBytes (raw.take layout.length))[i]? with
  | none => rfl
  | some bit =>
      have within := (List.getElem?_eq_some_iff.mp present).1
      rw [Bits.length_ofBytes, List.length_take] at within
      simp [full i (by omega)]

theorem foldr_max_bound {fields : List BitField} {f : BitField} (member : f ∈ fields) :
    f.offset + f.width ≤ fields.foldr (fun f rest => max (f.offset + f.width) rest) 0 := by
  induction member with
  | head rest => exact Nat.le_max_left _ _
  | tail g _ ih => exact Nat.le_trans ih (Nat.le_max_right _ _)

/-- Every field ends within the packed header. -/
theorem end_le_length {layout : HeaderLayout} {f : BitField} (member : f ∈ layout.fields) :
    f.offset + f.width ≤ 8 * layout.length := by
  have bound := foldr_max_bound member
  rw [length, bitLength]
  omega

end HeaderLayout

end PacketProtection

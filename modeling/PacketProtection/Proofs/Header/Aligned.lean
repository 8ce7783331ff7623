import Mathlib.Data.List.Pairwise
import PacketProtection.Proofs.Header.Packing

/-!
# Fields of whole bytes

A field that starts at a byte and ends at one is *aligned*.  Storing another value in it
changes the packed header in these bytes only, so that what several stores do to a header
is said about bytes, without reading a field (`HeaderHost.pack_of_set`).
-/

namespace PacketProtection

/-! ## Bytes in another's place -/

namespace Bytes

/-- Replaces the bytes at a place by others. -/
def overwrite (bytes : Bytes) (start : Nat) (piece : Bytes) : Bytes :=
  bytes.take start ++ piece ++ bytes.drop (start + piece.length)

section Overwrite

variable {bytes piece : Bytes} {start : Nat} (fits : start + piece.length ≤ bytes.length)
include fits

theorem length_front : (bytes.take start).length = start := by
  rw [List.length_take]
  omega

theorem length_overwrite : (bytes.overwrite start piece).length = bytes.length := by
  rw [overwrite, List.length_append, List.length_append, length_front fits, List.length_drop]
  omega

/-- The new bytes are found at their place. -/
theorem take_drop_overwrite :
    ((bytes.overwrite start piece).drop start).take piece.length = piece := by
  rw [overwrite, List.append_assoc, List.drop_left' (length_front fits), List.take_left]

/-- All other bytes are as before. -/
theorem getElem?_overwrite_of_outside {i : Nat} (outside : i < start ∨ start + piece.length ≤ i) :
    (bytes.overwrite start piece)[i]? = bytes[i]? := by
  rw [overwrite, List.append_assoc]
  rcases outside with before | behind
  · rw [List.getElem?_append_left (by rw [length_front fits]; exact before),
      List.getElem?_take_of_lt before]
  · rw [List.getElem?_append_right (by rw [length_front fits]; omega), length_front fits,
      List.getElem?_append_right (by omega), List.getElem?_drop]
    congr 1
    omega

theorem take_drop_overwrite_of_outside {other count : Nat}
    (outside : other + count ≤ start ∨ start + piece.length ≤ other) :
    ((bytes.overwrite start piece).drop other).take count = (bytes.drop other).take count := by
  apply List.ext_getElem?
  intro i
  rw [List.getElem?_take, List.getElem?_take, List.getElem?_drop, List.getElem?_drop]
  by_cases inside : i < count
  · rw [if_pos inside, if_pos inside, getElem?_overwrite_of_outside fits (by omega)]
  · rw [if_neg inside, if_neg inside]

/-- Of two pieces of one length at one place the second stays. -/
theorem overwrite_overwrite {other : Bytes} (same : other.length = piece.length) :
    (bytes.overwrite start piece).overwrite start other = bytes.overwrite start other := by
  have front : (bytes.overwrite start piece).take start = bytes.take start := by
    rw [overwrite, List.append_assoc, List.take_left' (length_front fits)]
  have back : (bytes.overwrite start piece).drop (start + other.length) =
      bytes.drop (start + other.length) := by
    rw [overwrite, same]
    apply List.drop_left'
    rw [List.length_append, length_front fits]
  rw [overwrite, front, back, overwrite]

end Overwrite

end Bytes

theorem Bits.ofBytes_overwrite (bytes piece : Bytes) (start : Nat) :
    ofBytes (bytes.overwrite start piece) = (ofBytes bytes).write (8 * start) (ofBytes piece) := by
  rw [Bytes.overwrite, ofBytes_append, ofBytes_append, write, take_ofBytes, length_ofBytes,
    ← Nat.mul_add, drop_ofBytes]

/-! ## Aligned fields -/

namespace BitField

/-- The field holds whole bytes: so many from that byte on. -/
structure Aligned (f : BitField) (start count : Nat) : Prop where
  offset_eq : f.offset = 8 * start
  width_eq : f.width = 8 * count

variable {f g : BitField} {raw piece : Bytes} {start : Nat}

theorem Aligned.byteWidth {count : Nat} (aligned : f.Aligned start count) :
    f.byteWidth = count := by
  rw [BitField.byteWidth, aligned.width_eq]
  omega

theorem read_overwrite_self (aligned : f.Aligned start piece.length)
    (fits : start + piece.length ≤ raw.length) : f.read (raw.overwrite start piece) = piece := by
  rw [read_of_aligned aligned.offset_eq aligned.width_eq, Bytes.take_drop_overwrite fits]
  rw [Bytes.length_overwrite fits]
  exact fits

theorem read_overwrite_of_apart (aligned : f.Aligned start piece.length)
    (fits : start + piece.length ≤ raw.length) (apart : f.Apart g) :
    g.read (raw.overwrite start piece) = g.read raw := by
  have pieceBits : (Bits.ofBytes piece).length = f.width := by
    rw [Bits.length_ofBytes, aligned.width_eq]
  rw [read, read, Bits.ofBytes_overwrite, ← aligned.offset_eq, Bits.slice_write_of_apart]
  · rw [pieceBits, aligned.offset_eq, aligned.width_eq, Bits.length_ofBytes]
    omega
  · rw [pieceBits]
    exact apart

end BitField

theorem HeaderLayout.Proper.apart_of_ne {layout : HeaderLayout} (proper : layout.Proper)
    {f g : BitField} (fMember : f ∈ layout.fields) (gMember : g ∈ layout.fields)
    (different : f ≠ g) : f.Apart g := by
  have symmetric : Std.Symm BitField.Apart := ⟨fun _ _ => BitField.Apart.symm⟩
  exact proper.apart.forall fMember gMember different

namespace HeaderHost

variable {H : Type} [HeaderHost H] [LawfulHost H]

section Stores

variable {layout : HeaderLayout} (proper : layout.Proper) (full : layout.Full) {host next : H}
  {raw : Bytes} (packs : pack layout host = .ok raw) {f : BitField} (member : f ∈ layout.fields)
  {start : Nat}
include proper full packs member

/-- A value in an aligned field changes the bytes of that field. -/
theorem pack_of_set {value : Bytes} (aligned : f.Aligned start value.length)
    (stored : set host f.name value = .ok next) :
    pack layout next = .ok (raw.overwrite start value) := by
  have rawLength := length_pack packs
  have fits : start + value.length ≤ raw.length := by
    have inside := HeaderLayout.end_le_length member
    rw [aligned.offset_eq, aligned.width_eq] at inside
    omega
  have nextLength : (raw.overwrite start value).length = layout.length :=
    (Bytes.length_overwrite fits).trans rawLength
  have values : ∀ g ∈ layout.fields,
      get next g.name = .ok (g.read (raw.overwrite start value)) := by
    intro g gMember
    by_cases same : g = f
    · rw [same, LawfulHost.get_set stored, BitField.read_overwrite_self aligned fits]
    · have otherName : g.name ≠ f.name :=
        fun equal => same (List.inj_on_of_nodup_map proper.names_nodup gMember member equal)
      have apart := proper.apart_of_ne member gMember fun equal => same equal.symm
      rw [LawfulHost.get_set_of_ne stored otherName, (get_of_pack proper packs gMember).1,
        BitField.read_overwrite_of_apart aligned fits apart]
  rw [pack_of_get nextLength values, HeaderLayout.cleared_of_full full, ← nextLength,
    List.take_length]

/-- A number in an aligned field changes the bytes of that field. -/
theorem pack_of_setUint {count : Nat} (aligned : f.Aligned start count) {number : UInt64}
    (stored : setUint host f.name number = .ok next) :
    pack layout next = .ok (raw.overwrite start (Bytes.ofNat count number.toNat)) := by
  obtain ⟨current, present, -, done⟩ := setUint_eq_ok stored
  have width : current.length = count := by
    cases present.symm.trans (get_of_pack proper packs member).1
    rw [BitField.length_read, aligned.byteWidth]
  rw [width] at done
  apply pack_of_set proper full packs member ?_ done
  rw [Bytes.length_ofNat]
  exact aligned

end Stores

end HeaderHost

end PacketProtection

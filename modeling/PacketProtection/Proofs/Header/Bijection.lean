import Mathlib.Data.List.Perm.Basic
import PacketProtection.Proofs.Header.Runs

/-!
# Packing is a bijection

In a proper layout the packed header and the field values determine each other.  A
field set that was packed is read back whole (`FieldSet.Of.ofBytes_pack`): its values
are read where they were written, and a field set of a layout is its values.  A header
that was read is packed again, with the bits of no field cleared
(`FieldSet.pack_ofBytes`).

*Order.*  A packed header is its fields at their places and zero elsewhere, and neither
depends on where a field stands in the table of the layout (`HeaderHost.pack_of_perm`).

*Free bits.*  Both headers of the pipeline are covered by their fields, so nothing in
them is cleared.  The metadata have 25 bits in four bytes, and the last seven are free.
-/

namespace PacketProtection

/-! ## Layouts in another order -/

namespace HeaderLayout

section Reordered

variable {layout other : HeaderLayout} (order : layout.fields.Perm other.fields)
include order

theorem length_of_perm : layout.length = other.length := by
  have comm : LeftCommutative fun (f : BitField) (rest : Nat) => max (f.offset + f.width) rest :=
    ⟨fun f g rest => Nat.max_left_comm _ _ _⟩
  rw [length, length, bitLength, bitLength, order.foldr_eq]

theorem covers_of_perm (position : Nat) : layout.Covers position ↔ other.Covers position := by
  simp only [Covers, order.mem_iff]

theorem cleared_of_perm (raw : Bytes) : layout.cleared raw = other.cleared raw := by
  simp only [cleared, length_of_perm order, covers_of_perm order]

theorem Proper.of_perm (proper : layout.Proper) : other.Proper where
  names_nodup := (order.map _).nodup_iff.mp proper.names_nodup
  apart := order.pairwise proper.apart fun apart => apart.symm
  narrow f member := proper.narrow f (order.mem_iff.mpr member)

end Reordered

end HeaderLayout

namespace HeaderHost

/-- Two hosts with the same values are packed into the same header, in whatever order
their layouts list the fields. -/
theorem pack_of_perm {H K : Type} [HeaderHost H] [HeaderHost K] {layout other : HeaderLayout}
    (proper : layout.Proper) (order : layout.fields.Perm other.fields) {host : H} {twin : K}
    (agree : ∀ f ∈ layout.fields, get host f.name = get twin f.name) {raw : Bytes}
    (packed : pack layout host = .ok raw) : pack other twin = .ok raw := by
  have rawLength := length_pack packed
  have values := fun f member => (get_of_pack proper packed (f := f) member).1
  have same : layout.cleared raw = raw :=
    Except.ok.inj ((pack_of_get rawLength values).symm.trans packed)
  rw [← same, HeaderLayout.cleared_of_perm order]
  apply pack_of_get (rawLength.trans (HeaderLayout.length_of_perm order))
  intro f member
  have inLayout := order.mem_iff.mpr member
  rw [← agree f inLayout]
  exact values f inLayout

theorem unpack_of_short {H : Type} [HeaderHost H] {layout : HeaderLayout} {raw : Bytes}
    (short : raw.length < layout.length) (host : H) :
    unpack layout raw host = (.error (.truncated layout.name layout.length raw.length), host) := by
  rw [unpack, TransformError.require_of_lt short]

end HeaderHost

/-! ## Reading and packing -/

namespace FieldSet

open HeaderHost

theorem pack_ofBytes {layout : HeaderLayout} (names : (layout.fields.map (·.name)).Nodup)
    {raw : Bytes} (enough : layout.length ≤ raw.length) {fields : FieldSet}
    (read : ofBytes layout raw = .ok fields) : pack layout fields = .ok (layout.cleared raw) :=
  pack_unpack_cleared names enough (ofBytes_eq_ok.mp read)

/-- A field set with the values of a header is what is read from the header. -/
theorem Of.ofBytes_of_get {layout : HeaderLayout} (names : (layout.fields.map (·.name)).Nodup)
    {fields : FieldSet} (sound : Of layout fields) {raw : Bytes}
    (enough : layout.length ≤ raw.length)
    (values : ∀ f ∈ layout.fields,
      HeaderHost.get fields f.name = .ok (f.read (raw.take layout.length))) :
    FieldSet.ofBytes layout raw = .ok fields := by
  obtain ⟨next, done, nextSound⟩ := (Of.new layout).unpack names enough
  have same : next = fields := by
    refine nextSound.eq_of_get sound names fun f member => ?_
    exact (get_unpack names enough done member).trans (values f member).symm
  rw [ofBytes_eq_ok, done, same]

/-- A field set is read back whole from its packed header. -/
theorem Of.ofBytes_pack {layout : HeaderLayout} (proper : layout.Proper) {fields : FieldSet}
    (sound : Of layout fields) {raw : Bytes} (packed : HeaderHost.pack layout fields = .ok raw) :
    FieldSet.ofBytes layout raw = .ok fields := by
  have rawLength := length_pack packed
  apply sound.ofBytes_of_get proper.names_nodup (Nat.le_of_eq rawLength.symm)
  intro f member
  rw [← rawLength, List.take_length]
  exact (get_of_pack proper packed member).1

/-- What is unpacked into a field set of the layout is what is read. -/
theorem Of.ofBytes_of_unpack {layout : HeaderLayout} (names : (layout.fields.map (·.name)).Nodup)
    {fields next : FieldSet} (sound : Of layout next) {raw : Bytes}
    (enough : layout.length ≤ raw.length)
    (done : HeaderHost.unpack layout raw fields = (.ok (), next)) :
    FieldSet.ofBytes layout raw = .ok next :=
  sound.ofBytes_of_get names enough fun _ member => get_unpack names enough done member

end FieldSet

/-! ## Faithful layouts -/

namespace HeaderLayout

open HeaderHost

/-- Headers and field sets of a layout are two forms of the same data. -/
structure Faithful (layout : HeaderLayout) : Prop where
  /-- What was done to a field set survives packing and reading. -/
  ofBytes_pack : ∀ (start : FieldSet) (operations : List FieldSet.Operation),
    (start = .new layout ∨ ∃ raw, FieldSet.ofBytes layout raw = .ok start) →
    ∃ raw, pack layout (start.performAll operations) = .ok raw ∧
      FieldSet.ofBytes layout raw = .ok (start.performAll operations)
  /-- A header survives reading and packing, but for its free bits. -/
  pack_ofBytes : ∀ raw : Bytes, layout.length ≤ raw.length →
    ∃ fields, FieldSet.ofBytes layout raw = .ok fields ∧
      (∀ rest, FieldSet.ofBytes layout (raw.take layout.length ++ rest) = .ok fields) ∧
      pack layout fields = .ok (layout.cleared raw)
  /-- The values alone make the packed header, not the order of the fields. -/
  pack_eq_of_perm : ∀ other : HeaderLayout, layout.fields.Perm other.fields →
    ∀ {H K : Type} [HeaderHost H] [HeaderHost K] (host : H) (twin : K),
    (∀ f ∈ layout.fields, get host f.name = get twin f.name) →
    ∀ raw, pack layout host = .ok raw ↔ pack other twin = .ok raw
  /-- A header that is too short is refused before anything is stored. -/
  unpack_short : ∀ raw : Bytes, raw.length < layout.length →
    ∀ {H : Type} [HeaderHost H] (host : H),
    unpack layout raw host =
      (.error (.truncated layout.name layout.length raw.length), host)

theorem Proper.faithful {layout : HeaderLayout} (proper : layout.Proper) : layout.Faithful where
  ofBytes_pack start operations starts := by
    have started : FieldSet.Of layout start := by
      rcases starts with rfl | ⟨raw, read⟩
      · exact .new layout
      · exact .ofBytes read
    have sound := started.performAll operations
    obtain ⟨raw, packed⟩ := sound.pack proper.names_nodup
    exact ⟨raw, packed, sound.ofBytes_pack proper packed⟩
  pack_ofBytes raw enough := by
    obtain ⟨fields, read⟩ := FieldSet.exists_ofBytes proper.names_nodup enough
    exact ⟨fields, read, fun rest => (FieldSet.ofBytes_take_append enough rest).trans read,
      FieldSet.pack_ofBytes proper.names_nodup enough read⟩
  pack_eq_of_perm other order H K _ _ host twin agree raw := by
    refine ⟨pack_of_perm proper order agree, pack_of_perm (proper.of_perm order) order.symm ?_⟩
    intro f member
    exact (agree f (order.mem_iff.mpr member)).symm
  unpack_short raw short H _ host := unpack_of_short short host

/-- **In a proper layout packing is a bijection.**  It is inverse to reading on the
field sets that operations can reach and, but for the bits of no field, on headers.
The layouts of the pipeline are proper; nothing is cleared in an IPv4 or ESP header,
and the last seven bits in the metadata. -/
theorem faithful_of_proper :
    (∀ layout : HeaderLayout, layout.Proper → layout.Faithful) ∧
    (ipv4.Proper ∧ ∀ raw, ipv4.cleared raw = raw.take 20) ∧
    (esp.Proper ∧ ∀ raw, esp.cleared raw = raw.take 8) ∧
    (standardMetadata.Proper ∧ standardMetadata.length = 4 ∧
      ∀ position, standardMetadata.Covers position ↔ position < 25) := by
  refine ⟨fun layout proper => proper.faithful, ⟨ipv4_proper, cleared_of_full ipv4_full⟩,
    ⟨esp_proper, cleared_of_full esp_full⟩, standardMetadata_proper, rfl, fun position => ?_⟩
  simp only [Covers, standardMetadata, BitField.Covers, List.mem_cons, List.not_mem_nil,
    or_false, exists_eq_or_imp, exists_eq_left]
  omega

/-- Two fields across bytes, out of order, with bits between them and an empty field
inside the first. -/
theorem faithful_of_proper_scattered :
    ∃ layout : HeaderLayout,
      layout = ⟨"scattered", [⟨"late", 21, 13⟩, ⟨"early", 3, 7⟩, ⟨"empty", 25, 0⟩]⟩ ∧
      layout.Proper ∧
      ∃ fields, FieldSet.ofBytes layout (List.replicate 6 0xff) = .ok fields ∧
        fields.toList = [("late", [0x1f, 0xff]), ("early", [0x7f]), ("empty", [])] ∧
        pack layout fields = .ok [0x1f, 0xc0, 0x07, 0xff, 0xc0] ∧
        pack ⟨"ordered", layout.fields.reverse⟩ fields = .ok [0x1f, 0xc0, 0x07, 0xff, 0xc0] := by
  have proper : HeaderLayout.Proper
      ⟨"scattered", [⟨"late", 21, 13⟩, ⟨"early", 3, 7⟩, ⟨"empty", 25, 0⟩]⟩ :=
    ⟨by decide, by decide, by decide⟩
  have faithful := faithful_of_proper.1 _ proper
  obtain ⟨fields, read, -, packed⟩ := faithful.pack_ofBytes (List.replicate 6 0xff) (by decide)
  refine ⟨_, rfl, proper, fields, read, ?_, packed, ?_⟩
  · have same := read.symm.trans (show _ = Except.ok _ from by rfl)
    cases same
    decide +kernel
  · exact (faithful.pack_eq_of_perm _ (List.reverse_perm _).symm fields fields
      (fun _ _ => rfl) _).mp packed

end HeaderLayout

end PacketProtection

import PacketProtection.Proofs.Header.Storage

/-!
# Packing and unpacking

Packing writes the bits of each field over a zeroed header, and unpacking stores
what is found at each field's place.  In a proper layout no field disturbs
another, so a packed header holds each field where the layout says
(`get_of_pack`), and a lawful host holds after unpacking what the header held
(`get_unpack`).

*Round trip.*  Packing what was unpacked gives back the header with the bits of no
field cleared (`pack_unpack_cleared`), so byte for byte when every bit belongs to a
field (`pack_unpack`).  In the other direction no fullness is needed: what was
packed is what is read (`get_unpack_pack`).

*When it works.*  A host that serves a layout and has its fields takes any
header that is long enough (`unpack_of_serves`), and a field set of a layout is
always packed (`FieldSet.Of.pack`).  So every header that is long enough is read,
whatever follows it (`FieldSet.exists_ofBytes`, `FieldSet.ofBytes_take_append`).
-/

namespace PacketProtection

namespace HeaderHost

variable {H : Type} [HeaderHost H]

/-! ## Writing fields -/

theorem bits_eq_ok {host : H} {f : BitField} {piece : Bits} :
    bits host f = .ok piece ↔
      ∃ value, get host f.name = .ok value ∧ f.check value = .ok () ∧
        piece = Bits.ofNat f.width value.toNat := by
  rw [bits]
  cases get host f.name with
  | error cause => simp
  | ok value => cases fits : f.check value <;> simp [Except.map, fits, eq_comm]

theorem length_of_bits {host : H} {f : BitField} {piece : Bits}
    (found : bits host f = .ok piece) : piece.length = f.width := by
  obtain ⟨value, -, -, rfl⟩ := bits_eq_ok.mp found
  exact Bits.length_ofNat _ _

theorem writeFields_cons_eq_ok {host : H} {f : BitField} {rest : List BitField}
    {buffer out : Bits} :
    writeFields host (f :: rest) buffer = .ok out ↔
      ∃ piece, bits host f = .ok piece ∧
        writeFields host rest (buffer.write f.offset piece) = .ok out := by
  rw [writeFields]
  cases bits host f <;> simp

theorem length_writeFields {host : H} {fields : List BitField} {buffer out : Bits}
    (fits : ∀ f ∈ fields, f.offset + f.width ≤ buffer.length)
    (written : writeFields host fields buffer = .ok out) : out.length = buffer.length := by
  induction fields generalizing buffer with
  | nil =>
      cases written
      rfl
  | cons f rest ih =>
      obtain ⟨piece, found, continued⟩ := writeFields_cons_eq_ok.mp written
      have kept : (buffer.write f.offset piece).length = buffer.length := by
        apply Bits.length_write
        rw [length_of_bits found]
        exact fits f (.head _)
      rw [ih (fun g member => kept ▸ fits g (.tail _ member)) continued, kept]

/-- Writing fields leaves a piece alone that none of them touches. -/
theorem slice_writeFields_of_apart {host : H} {fields : List BitField} {buffer out : Bits}
    {f : BitField} (fits : ∀ g ∈ fields, g.offset + g.width ≤ buffer.length)
    (apart : ∀ g ∈ fields, f.Apart g)
    (written : writeFields host fields buffer = .ok out) :
    out.slice f.offset f.width = buffer.slice f.offset f.width := by
  induction fields generalizing buffer with
  | nil =>
      cases written
      rfl
  | cons g rest ih =>
      obtain ⟨piece, found, continued⟩ := writeFields_cons_eq_ok.mp written
      have pieceFits : g.offset + piece.length ≤ buffer.length := by
        rw [length_of_bits found]
        exact fits g (.head _)
      have kept := Bits.length_write pieceFits
      rw [ih (fun h member => kept ▸ fits h (.tail _ member))
        (fun h member => apart h (.tail _ member)) continued]
      apply Bits.slice_write_of_apart pieceFits
      rw [length_of_bits found]
      exact (apart g (.head _)).symm

/-- Each field's bits stand at the field's place. -/
theorem bits_eq_slice_writeFields {host : H} {fields : List BitField} {buffer out : Bits}
    (fits : ∀ f ∈ fields, f.offset + f.width ≤ buffer.length)
    (apart : fields.Pairwise BitField.Apart)
    (written : writeFields host fields buffer = .ok out) {f : BitField} (member : f ∈ fields) :
    bits host f = .ok (out.slice f.offset f.width) := by
  induction fields generalizing buffer with
  | nil => cases member
  | cons g rest ih =>
      obtain ⟨piece, found, continued⟩ := writeFields_cons_eq_ok.mp written
      obtain ⟨gApart, restApart⟩ := List.pairwise_cons.mp apart
      have width := length_of_bits found
      have pieceFits : g.offset + piece.length ≤ buffer.length := by
        rw [width]
        exact fits g (.head _)
      have kept := Bits.length_write pieceFits
      have restFits : ∀ h ∈ rest, h.offset + h.width ≤ (buffer.write g.offset piece).length :=
        fun h inRest => kept ▸ fits h (.tail _ inRest)
      rcases List.mem_cons.mp member with rfl | later
      · rw [slice_writeFields_of_apart restFits gApart continued, found, ← width,
          Bits.slice_write_self pieceFits]
      · exact ih restFits restApart continued later

theorem writeFields_of_forall_bits {host : H} {fields : List BitField}
    (found : ∀ f ∈ fields, ∃ piece, bits host f = .ok piece) (buffer : Bits) :
    ∃ out, writeFields host fields buffer = .ok out := by
  induction fields generalizing buffer with
  | nil => exact ⟨buffer, rfl⟩
  | cons f rest ih =>
      obtain ⟨piece, here⟩ := found f (.head _)
      obtain ⟨out, written⟩ :=
        ih (fun g member => found g (.tail _ member)) (buffer.write f.offset piece)
      exact ⟨out, writeFields_cons_eq_ok.mpr ⟨piece, here, written⟩⟩

/-- Fields cut out of one bit string and written over another give the first
where a field lies and the second elsewhere. -/
theorem writeFields_of_bits {host : H} {fields : List BitField} {source buffer : Bits}
    (sameLength : source.length = buffer.length)
    (fits : ∀ f ∈ fields, f.offset + f.width ≤ buffer.length)
    (found : ∀ f ∈ fields, bits host f = .ok (source.slice f.offset f.width)) :
    ∃ out, writeFields host fields buffer = .ok out ∧ out.length = buffer.length ∧
      ∀ i, out[i]? = if ∃ f ∈ fields, f.Covers i then source[i]? else buffer[i]? := by
  induction fields generalizing buffer with
  | nil => exact ⟨buffer, rfl, rfl, fun i => by simp⟩
  | cons f rest ih =>
      have fFits := fits f (.head _)
      have width : (source.slice f.offset f.width).length = f.width :=
        Bits.length_slice (sameLength ▸ fFits)
      have pieceFits : f.offset + (source.slice f.offset f.width).length ≤ buffer.length := by
        rw [width]
        exact fFits
      have kept := Bits.length_write pieceFits
      obtain ⟨out, written, outLength, inside⟩ :=
        @ih (buffer.write f.offset (source.slice f.offset f.width))
          (sameLength.trans kept.symm) (fun g member => kept ▸ fits g (.tail _ member))
          (fun g member => found g (.tail _ member))
      refine ⟨out, writeFields_cons_eq_ok.mpr ⟨_, found f (.head _), written⟩,
        outLength.trans kept, fun i => ?_⟩
      rw [inside i, Bits.getElem?_write pieceFits, Bits.getElem?_slice, width]
      by_cases later : ∃ g ∈ rest, g.Covers i
      · obtain ⟨g, member, covers⟩ := later
        rw [if_pos ⟨g, member, covers⟩, if_pos ⟨g, .tail _ member, covers⟩]
      · rw [if_neg later]
        by_cases here : f.Covers i
        · obtain ⟨start, stop⟩ := here
          rw [if_pos ⟨start, stop⟩, if_pos (by omega), if_pos ⟨f, .head _, start, stop⟩,
            Nat.add_sub_cancel' start]
        · have nowhere : ¬∃ g ∈ f :: rest, g.Covers i := by
            rintro ⟨g, member, covers⟩
            rcases List.mem_cons.mp member with rfl | inRest
            · exact here covers
            · exact later ⟨g, inRest, covers⟩
          rw [if_neg nowhere]
          exact if_neg here

/-! ## Packed headers -/

theorem pack_eq_ok {layout : HeaderLayout} {host : H} {raw : Bytes} :
    pack layout host = .ok raw ↔
      ∃ out, writeFields host layout.fields (List.replicate (8 * layout.length) false) = .ok out ∧
        raw = out.toBytes := by
  rw [pack]
  cases writeFields host layout.fields (List.replicate (8 * layout.length) false) <;>
    simp [Except.map, eq_comm]

theorem fields_fit (layout : HeaderLayout) :
    ∀ f ∈ layout.fields,
      f.offset + f.width ≤ (List.replicate (8 * layout.length) false).length := by
  intro f member
  rw [List.length_replicate]
  exact HeaderLayout.end_le_length member

theorem length_pack {layout : HeaderLayout} {host : H} {raw : Bytes}
    (packed : pack layout host = .ok raw) : raw.length = layout.length := by
  obtain ⟨out, written, rfl⟩ := pack_eq_ok.mp packed
  rw [Bits.length_toBytes, length_writeFields (fields_fit layout) written,
    List.length_replicate, Nat.mul_div_cancel_left _ (by decide)]

theorem bits_of_pack {layout : HeaderLayout} (proper : layout.Proper) {host : H} {raw : Bytes}
    (packed : pack layout host = .ok raw) {f : BitField} (member : f ∈ layout.fields) :
    bits host f = .ok (f.bitsIn raw) := by
  obtain ⟨out, written, rfl⟩ := pack_eq_ok.mp packed
  have whole : out.length = 8 * layout.length :=
    (length_writeFields (fields_fit layout) written).trans List.length_replicate
  rw [BitField.bitsIn, Bits.ofBytes_toBytes whole]
  exact bits_eq_slice_writeFields (fields_fit layout) proper.apart written member

/-- A packed header holds each field at its place. -/
theorem get_of_pack {layout : HeaderLayout} (proper : layout.Proper) {host : H} {raw : Bytes}
    (packed : pack layout host = .ok raw) {f : BitField} (member : f ∈ layout.fields) :
    get host f.name = .ok (f.read raw) ∧ f.check (f.read raw) = .ok () := by
  obtain ⟨value, present, fits, same⟩ := bits_eq_ok.mp (bits_of_pack proper packed member)
  have recovered : f.read raw = value := by
    rw [BitField.read, show (Bits.ofBytes raw).slice f.offset f.width = f.bitsIn raw from rfl,
      same, BitField.ofNat_toNat_bits (proper.narrow f member) fits]
  rw [recovered]
  exact ⟨present, fits⟩

/-- Every field of a packed header can be read as a number. -/
theorem getUint_of_pack {layout : HeaderLayout} (proper : layout.Proper) {host : H} {raw : Bytes}
    (packed : pack layout host = .ok raw) {f : BitField} (member : f ∈ layout.fields) :
    getUint host f.name = .ok (UInt64.ofNat (f.read raw).toNat) := by
  rw [getUint, (get_of_pack proper packed member).1]
  rfl

/-- A host that was packed takes every number that fits a field it serves. -/
theorem setUint_of_pack {layout : HeaderLayout} (proper : layout.Proper) {host : H}
    {raw : Bytes} (serves : Serves layout host) (packed : pack layout host = .ok raw)
    {f : BitField} (member : f ∈ layout.fields) {number : UInt64}
    (fits : number.toNat < 2 ^ f.width) :
    ∃ next, setUint host f.name number = .ok next := by
  obtain ⟨present, -⟩ := get_of_pack proper packed member
  obtain ⟨taken, stores⟩ :=
    setUint_of_fits (proper.narrow f member) present (f.length_read raw) fits
  obtain ⟨next, stored⟩ := serves f member _ _ present taken
  refine ⟨next, ?_⟩
  rw [stores, stored]
  rfl

/-- A host that was packed refuses every number that needs more bytes than the
field. -/
theorem setUint_overflow_of_pack {layout : HeaderLayout} (proper : layout.Proper) {host : H}
    {raw : Bytes} (packed : pack layout host = .ok raw) {f : BitField}
    (member : f ∈ layout.fields) {number : UInt64} (large : 256 ^ f.byteWidth ≤ number.toNat) :
    setUint host f.name number = .error (.error (.fieldOverflow f.name (8 * f.byteWidth))) := by
  obtain ⟨present, -⟩ := get_of_pack proper packed member
  rw [← f.length_read raw] at large ⊢
  exact setUint_of_overflow present large

/-- A host that holds the fields of a header is packed into that header, with the
bits of no field cleared. -/
theorem pack_of_get {layout : HeaderLayout} {host : H} {raw : Bytes}
    (rawLength : raw.length = layout.length)
    (present : ∀ f ∈ layout.fields, get host f.name = .ok (f.read raw)) :
    pack layout host = .ok (layout.cleared raw) := by
  have enough : layout.length ≤ raw.length := Nat.le_of_eq rawLength.symm
  have bitLength : (Bits.ofBytes raw).length = 8 * layout.length := by
    rw [Bits.length_ofBytes, rawLength]
  have clearedLength : (Bits.ofBytes (layout.cleared raw)).length = 8 * layout.length := by
    rw [Bits.length_ofBytes, HeaderLayout.length_cleared enough]
  have found : ∀ f ∈ layout.fields,
      bits host f = .ok ((Bits.ofBytes raw).slice f.offset f.width) := by
    intro f member
    refine bits_eq_ok.mpr ⟨_, present f member, f.check_read raw, ?_⟩
    exact (BitField.ofNat_toNat_read (rawLength ▸ HeaderLayout.end_le_length member)).symm
  obtain ⟨out, written, outLength, inside⟩ :=
    writeFields_of_bits (bitLength.trans List.length_replicate.symm) (fields_fit layout) found
  rw [List.length_replicate] at outLength
  have same : out = Bits.ofBytes (layout.cleared raw) := by
    apply List.ext_getElem?'
    intro i within
    rw [outLength, clearedLength, Nat.max_self] at within
    rw [inside i, HeaderLayout.getElem?_cleared enough within, List.getElem?_replicate,
      if_pos within]
    rfl
  exact pack_eq_ok.mpr ⟨out, written, by rw [same, Bits.toBytes_ofBytes]⟩

/-! ## Unpacked headers -/

theorem unpack_of_le {layout : HeaderLayout} {raw : Bytes} (enough : layout.length ≤ raw.length)
    (host : H) : unpack layout raw host =
      storeFields (raw.take layout.length) layout.fields host := by
  rw [unpack, TransformError.require_of_le enough]

/-- What follows a header is never looked at. -/
theorem unpack_take_append {layout : HeaderLayout} {raw : Bytes}
    (enough : layout.length ≤ raw.length) (rest : Bytes) (host : H) :
    unpack layout (raw.take layout.length ++ rest) host = unpack layout raw host := by
  have front : (raw.take layout.length).length = layout.length := List.length_take_of_le enough
  have stillEnough : layout.length ≤ (raw.take layout.length ++ rest).length := by
    rw [List.length_append, front]
    exact Nat.le_add_right _ _
  rw [unpack_of_le stillEnough, unpack_of_le enough, List.take_left' front]

theorem storeFields_cons_eq_ok {raw : Bytes} {f : BitField} {rest : List BitField}
    {host next : H} :
    storeFields raw (f :: rest) host = (.ok (), next) ↔
      ∃ stored, set host f.name (f.read raw) = .ok stored ∧
        storeFields raw rest stored = (.ok (), next) := by
  rw [storeFields]
  cases set host f.name (f.read raw) <;> simp

section Lawful

variable [LawfulHost H]

theorem storeFields_of_accepts {raw : Bytes} {fields : List BitField} {host : H}
    (accepted : ∀ f ∈ fields, Accepts host f.name (f.read raw)) :
    ∃ next, storeFields raw fields host = (.ok (), next) := by
  induction fields generalizing host with
  | nil => exact ⟨host, rfl⟩
  | cons f rest ih =>
      obtain ⟨stored, here⟩ := accepted f (.head _)
      obtain ⟨next, done⟩ := @ih stored fun g member =>
        (LawfulHost.accepts_set_iff here).mpr (accepted g (.tail _ member))
      exact ⟨next, storeFields_cons_eq_ok.mpr ⟨stored, here, done⟩⟩

theorem get_storeFields_of_not_mem {raw : Bytes} {fields : List BitField} {host next : H}
    (done : storeFields raw fields host = (.ok (), next)) {name : String}
    (absent : name ∉ fields.map (·.name)) : get next name = get host name := by
  induction fields generalizing host with
  | nil =>
      cases done
      rfl
  | cons f rest ih =>
      obtain ⟨stored, here, continued⟩ := storeFields_cons_eq_ok.mp done
      rw [List.map_cons, List.mem_cons, not_or] at absent
      rw [ih continued absent.2, LawfulHost.get_set_of_ne here absent.1]

theorem get_storeFields {raw : Bytes} {fields : List BitField} {host next : H}
    (names : (fields.map (·.name)).Nodup)
    (done : storeFields raw fields host = (.ok (), next)) {f : BitField} (member : f ∈ fields) :
    get next f.name = .ok (f.read raw) := by
  induction fields generalizing host with
  | nil => cases member
  | cons g rest ih =>
      obtain ⟨stored, here, continued⟩ := storeFields_cons_eq_ok.mp done
      rw [List.map_cons, List.nodup_cons] at names
      rcases List.mem_cons.mp member with rfl | later
      · rw [get_storeFields_of_not_mem continued names.1, LawfulHost.get_set here]
      · exact ih names.2 continued later

theorem storeFields_error {raw : Bytes} {fields : List BitField} {host next : H}
    {cause : TransformError} (failed : storeFields raw fields host = (.error cause, next)) :
    cause.isMalformed = false := by
  induction fields generalizing host with
  | nil => cases failed
  | cons f rest ih =>
      rw [storeFields] at failed
      cases here : set host f.name (f.read raw) with
      | error reason =>
          rw [here] at failed
          cases failed
          exact LawfulHost.set_error here
      | ok stored =>
          rw [here] at failed
          exact ih failed

/-- A host takes every header of a layout it serves. -/
theorem unpack_of_serves {layout : HeaderLayout} {host : H} (serves : Serves layout host)
    (has : Has layout host) {raw : Bytes} (enough : layout.length ≤ raw.length) :
    ∃ next, unpack layout raw host = (.ok (), next) := by
  rw [unpack_of_le enough]
  apply storeFields_of_accepts
  intro f member
  obtain ⟨current, present⟩ := has f member
  exact serves f member current _ present (f.check_read _)

theorem get_unpack {layout : HeaderLayout} (names : (layout.fields.map (·.name)).Nodup)
    {raw : Bytes} {host next : H} (enough : layout.length ≤ raw.length)
    (done : unpack layout raw host = (.ok (), next)) {f : BitField}
    (member : f ∈ layout.fields) :
    get next f.name = .ok (f.read (raw.take layout.length)) := by
  rw [unpack_of_le enough] at done
  exact get_storeFields names done member

/-- Once a header is long enough, only the host can refuse it. -/
theorem unpack_error {layout : HeaderLayout} {raw : Bytes} {host next : H}
    {cause : TransformError} (enough : layout.length ≤ raw.length)
    (failed : unpack layout raw host = (.error cause, next)) : cause.isMalformed = false := by
  rw [unpack_of_le enough] at failed
  exact storeFields_error failed

/-- Packing what was unpacked gives the header back, its unused bits cleared. -/
theorem pack_unpack_cleared {layout : HeaderLayout} (names : (layout.fields.map (·.name)).Nodup)
    {raw : Bytes} {host next : H} (enough : layout.length ≤ raw.length)
    (done : unpack layout raw host = (.ok (), next)) :
    pack layout next = .ok (layout.cleared raw) := by
  rw [← layout.cleared_take raw]
  apply pack_of_get (by rw [List.length_take]; omega)
  intro f member
  exact get_unpack names enough done member

/-- In a full layout nothing is cleared. -/
theorem pack_unpack {layout : HeaderLayout} (proper : layout.Proper) (full : layout.Full)
    {raw : Bytes} {host next : H} (enough : layout.length ≤ raw.length)
    (done : unpack layout raw host = (.ok (), next)) :
    pack layout next = .ok (raw.take layout.length) := by
  rw [pack_unpack_cleared proper.names_nodup enough done, HeaderLayout.cleared_of_full full]

/-- Unpacking what was packed gives the fields back, whatever follows them. -/
theorem get_unpack_pack {S : Type} [HeaderHost S] {layout : HeaderLayout}
    (proper : layout.Proper) {source : S} {raw : Bytes} (packed : pack layout source = .ok raw)
    {rest : Bytes} {host next : H} (done : unpack layout (raw ++ rest) host = (.ok (), next))
    {f : BitField} (member : f ∈ layout.fields) : get next f.name = get source f.name := by
  have rawLength := length_pack packed
  have enough : layout.length ≤ (raw ++ rest).length := by
    rw [List.length_append]
    omega
  rw [get_unpack proper.names_nodup enough done member, ← rawLength, List.take_left',
    (get_of_pack proper packed member).1]
  rfl

end Lawful

end HeaderHost

/-! ## Field sets -/

namespace FieldSet

open HeaderHost

/-- A field set of a layout is always packed. -/
theorem Of.pack {layout : HeaderLayout} (names : (layout.fields.map (·.name)).Nodup)
    {fields : FieldSet} (sound : Of layout fields) :
    ∃ raw, HeaderHost.pack layout fields = .ok raw := by
  have found : ∀ f ∈ layout.fields, ∃ piece, bits fields f = .ok piece := by
    intro f member
    obtain ⟨value, present, fits⟩ := sound.get names member
    exact ⟨_, bits_eq_ok.mpr ⟨value, present, fits, rfl⟩⟩
  obtain ⟨out, written⟩ := writeFields_of_forall_bits found (List.replicate (8 * layout.length) false)
  exact ⟨_, pack_eq_ok.mpr ⟨out, written, rfl⟩⟩

/-- Storing fields keeps a field set of its layout, also where one is refused. -/
theorem Of.storeFields {layout : HeaderLayout} {fields : FieldSet} (sound : Of layout fields)
    (raw : Bytes) (wanted : List BitField) :
    Of layout (HeaderHost.storeFields raw wanted fields).2 := by
  induction wanted generalizing fields with
  | nil => exact sound
  | cons f rest ih =>
      rw [HeaderHost.storeFields]
      cases here : HeaderHost.set fields f.name (f.read raw) with
      | error cause => exact sound
      | ok stored => exact ih (sound.set here)

/-- Unpacking a header of any layout keeps a field set of its own. -/
theorem Of.unpack_after {layout : HeaderLayout} {fields : FieldSet} (sound : Of layout fields)
    (other : HeaderLayout) (raw : Bytes) :
    Of layout (HeaderHost.unpack other raw fields).2 := by
  rw [HeaderHost.unpack]
  cases TransformError.require other.name other.length raw.length with
  | error cause => exact sound
  | ok _ => exact sound.storeFields _ _

/-- A field set of a layout takes every header that is long enough. -/
theorem Of.unpack {layout : HeaderLayout} (names : (layout.fields.map (·.name)).Nodup)
    {fields : FieldSet} (sound : Of layout fields) {raw : Bytes}
    (enough : layout.length ≤ raw.length) :
    ∃ next, HeaderHost.unpack layout raw fields = (.ok (), next) ∧ Of layout next := by
  obtain ⟨next, done⟩ :=
    unpack_of_serves (serves sound.layout_eq names) (sound.has names) enough
  have kept := sound.unpack_after layout raw
  rw [done] at kept
  exact ⟨next, done, kept⟩

section Read

variable {layout : HeaderLayout} {raw : Bytes} {fields : FieldSet}

theorem ofBytes_eq_ok :
    ofBytes layout raw = .ok fields ↔ unpack layout raw (new layout) = (.ok (), fields) := by
  rw [ofBytes]
  split
  next failed => simp [failed]
  next done => simp [done]

/-- A header that was read is a field set of its layout. -/
theorem Of.ofBytes (read : FieldSet.ofBytes layout raw = .ok fields) : Of layout fields := by
  have kept := (Of.new layout).unpack_after layout raw
  rw [ofBytes_eq_ok.mp read] at kept
  exact kept

theorem exists_ofBytes (names : (layout.fields.map (·.name)).Nodup)
    (enough : layout.length ≤ raw.length) : ∃ fields, ofBytes layout raw = .ok fields := by
  obtain ⟨fields, done, -⟩ := (Of.new layout).unpack names enough
  exact ⟨fields, ofBytes_eq_ok.mpr done⟩

theorem ofBytes_take_append (enough : layout.length ≤ raw.length) (rest : Bytes) :
    ofBytes layout (raw.take layout.length ++ rest) = ofBytes layout raw := by
  rw [ofBytes, unpack_take_append enough, ofBytes]

end Read

end FieldSet

end PacketProtection

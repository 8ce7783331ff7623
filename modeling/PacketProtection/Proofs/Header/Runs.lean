import PacketProtection.Log
import PacketProtection.Proofs.Header.DropMark
import PacketProtection.Proofs.Header.Packing

/-!
# Field sets under any run of operations

A field set is written in several ways: a value or a number is stored under a
name, a header is unpacked, a packet is marked for dropping.  The last two store
several fields and can stop half-way.  Whatever is done, and however it ends, each
value keeps the bytes and the bits of its field.

*Runs.*  One operation keeps a field set of its layout (`Of.perform`), so a whole
run does (`Of.performAll`), and a run starts from a zeroed set or from a header
that was read (`Of.ofBytes`).

*Single stores.*  `StoresIf` says what storing under a name does: when it succeeds,
that a refusal changes nothing, and that a success changes no other field.  It holds
of values and of numbers, for the values and numbers that fit a field of the name
(`Of.perform_set`, `Of.perform_setUint`).
-/

namespace PacketProtection.FieldSet

open HeaderHost

/-! ## Operations -/

/-- What can be done with a field set. -/
inductive Operation where
  | get (name : String)
  | set (name : String) (value : Bytes)
  | setUint (name : String) (number : UInt64)
  /-- Reads a header, of the set's own layout or of another. -/
  | unpack (layout : HeaderLayout) (raw : Bytes)
  | markDrop

/-- How a store ends: a refused one leaves the field set as it is. -/
def settle (fields : FieldSet) : Except Fault FieldSet → Except Fault Unit × FieldSet
  | .ok next => (.ok (), next)
  | .error fault => (.error fault, fields)

/-- The result of an operation and the field set after it. -/
def perform (fields : FieldSet) : Operation → Except Fault Unit × FieldSet
  | .get name => (((HeaderHost.get fields name).map fun _ => ()).mapError .error, fields)
  | .set name value => fields.settle ((HeaderHost.set fields name value).mapError .error)
  | .setUint name number => fields.settle (HeaderHost.setUint fields name number)
  | .unpack layout raw =>
      let (result, next) := HeaderHost.unpack layout raw fields
      (result.mapError .error, next)
  | .markDrop => HeaderHost.markDrop fields

/-- The field set after operation upon operation, whatever their results. -/
def performAll (fields : FieldSet) : List Operation → FieldSet
  | [] => fields
  | operation :: rest => (fields.perform operation).2.performAll rest

/-! ## The invariant -/

section Invariant

variable {layout : HeaderLayout} {fields : FieldSet}

theorem Of.settle (sound : Of layout fields) {result : Except Fault FieldSet}
    (stores : ∀ next, result = .ok next → Of layout next) :
    Of layout (fields.settle result).2 := by
  cases result with
  | error fault => exact sound
  | ok next => exact stores next rfl

theorem Of.of_setUint (sound : Of layout fields) {name : String} {number : UInt64}
    {next : FieldSet} (stored : HeaderHost.setUint fields name number = .ok next) :
    Of layout next := by
  obtain ⟨current, -, -, done⟩ := setUint_eq_ok stored
  exact sound.set done

/-- A mark that stops half-way leaves the first of its two fields stored. -/
theorem Of.markDrop_after (sound : Of layout fields) :
    Of layout (HeaderHost.markDrop fields).2 := by
  unfold HeaderHost.markDrop
  split
  · exact sound
  next between first =>
    split
    · exact sound.of_setUint first
    next final second => exact (sound.of_setUint first).of_setUint second

/-- An operation keeps a field set of its layout, whether it succeeds or fails. -/
theorem Of.perform (sound : Of layout fields) (operation : Operation) :
    Of layout (fields.perform operation).2 := by
  cases operation with
  | get name => exact sound
  | set name value =>
      exact sound.settle fun next stored => sound.set (mapError_eq_ok.mp stored)
  | setUint name number => exact sound.settle fun next stored => sound.of_setUint stored
  | unpack other raw => exact sound.unpack_after other raw
  | markDrop => exact sound.markDrop_after

theorem Of.performAll (sound : Of layout fields) (operations : List Operation) :
    Of layout (fields.performAll operations) := by
  induction operations generalizing fields with
  | nil => exact sound
  | cons operation rest ih => exact ih (sound.perform operation)

end Invariant

/-! ## Single stores -/

/-- What a store under a name does: it succeeds under a condition, a refusal
changes nothing, and a success changes no other field. -/
structure StoresIf (accepted : Prop) (fields : FieldSet) (name : String)
    (outcome : Except Fault Unit × FieldSet) : Prop where
  ok_iff : outcome.1 = .ok () ↔ accepted
  unchanged : outcome.1 ≠ .ok () → outcome.2 = fields
  get_of_ne : ∀ other ≠ name, HeaderHost.get outcome.2 other = HeaderHost.get fields other

section Stores

variable {layout : HeaderLayout} {fields : FieldSet} {name : String}

theorem settle_eq_ok {result : Except Fault FieldSet} :
    (fields.settle result).1 = .ok () ↔ ∃ next, result = .ok next := by
  cases result <;> simp [settle]

theorem settle_storesIf {result : Except Fault FieldSet}
    (others : ∀ next, result = .ok next →
      ∀ other ≠ name, HeaderHost.get next other = HeaderHost.get fields other) :
    StoresIf (∃ next, result = .ok next) fields name (fields.settle result) where
  ok_iff := settle_eq_ok
  unchanged refused := by
    cases result with
    | error fault => rfl
    | ok next => exact absurd rfl refused
  get_of_ne other different := by
    cases result with
    | error fault => rfl
    | ok next => exact others next rfl other different

/-- The field of a name that was found. -/
theorem field_of_slot {slot : Slot} (found : fields.slot name = .ok slot) :
    slot.field ∈ fields.layout.fields ∧ slot.field.name = name := by
  have present := slot_eq_ok.mp found
  refine ⟨List.mem_map_of_mem (List.mem_of_find?_eq_some present), ?_⟩
  simpa using List.find?_some present

variable (names : (layout.fields.map (·.name)).Nodup) (narrow : ∀ f ∈ layout.fields, f.width ≤ 64)
include names narrow

/-- A field set takes exactly the values with the bytes and the bits of a field of
the name. -/
theorem Of.accepts_iff_fits (sound : Of layout fields) {value : Bytes} :
    Accepts fields name value ↔
      ∃ f ∈ layout.fields, f.name = name ∧ value.length = f.byteWidth ∧
        value.toNat < 2 ^ f.width := by
  rw [accepts_iff]
  constructor
  · rintro ⟨_, ⟨slot, found, rfl⟩, fits⟩
    obtain ⟨member, named⟩ := field_of_slot found
    rw [sound.layout_eq] at member
    exact ⟨slot.field, member, named, (BitField.check_eq_ok_iff (narrow _ member)).mp fits⟩
  · rintro ⟨f, member, rfl, fits⟩
    obtain ⟨slot, -, found, same⟩ := slot_of_mem sound.layout_eq names member
    exact ⟨f, ⟨slot, found, same⟩, (BitField.check_eq_ok_iff (narrow f member)).mpr fits⟩

/-- A number is stored exactly if it has the bits of a field of the name. -/
theorem Of.setUint_eq_ok_iff_fits (sound : Of layout fields) {number : UInt64} :
    (∃ next, HeaderHost.setUint fields name number = .ok next) ↔
      ∃ f ∈ layout.fields, f.name = name ∧ number.toNat < 2 ^ f.width := by
  constructor
  · rintro ⟨next, stored⟩
    obtain ⟨current, -, fits, done⟩ := setUint_eq_ok stored
    obtain ⟨f, member, named, -, below⟩ :=
      (sound.accepts_iff_fits names narrow).mp ⟨next, done⟩
    rw [Bytes.toNat_ofNat_of_lt fits] at below
    exact ⟨f, member, named, below⟩
  · rintro ⟨f, member, rfl, fits⟩
    obtain ⟨next, stored, -⟩ := sound.setUint names f member (narrow f member) number fits
    exact ⟨next, stored⟩

theorem Of.perform_set (sound : Of layout fields) (name : String) (value : Bytes) :
    StoresIf
      (∃ f ∈ layout.fields, f.name = name ∧ value.length = f.byteWidth ∧
        value.toNat < 2 ^ f.width)
      fields name (fields.perform (.set name value)) := by
  rw [← sound.accepts_iff_fits names narrow, Accepts]
  simp only [← mapError_eq_ok (f := Fault.error)]
  exact settle_storesIf fun next stored other different =>
    LawfulHost.get_set_of_ne (mapError_eq_ok.mp stored) different

theorem Of.perform_setUint (sound : Of layout fields) (name : String) (number : UInt64) :
    StoresIf (∃ f ∈ layout.fields, f.name = name ∧ number.toNat < 2 ^ f.width)
      fields name (fields.perform (.setUint name number)) := by
  rw [← sound.setUint_eq_ok_iff_fits names narrow]
  exact settle_storesIf fun next stored other different => get_setUint_of_ne stored different

end Stores

theorem get_perform_set {fields : FieldSet} {name : String} {value : Bytes}
    (done : (fields.perform (.set name value)).1 = .ok ()) :
    HeaderHost.get (fields.perform (.set name value)).2 name = .ok value := by
  obtain ⟨next, stored⟩ := settle_eq_ok.mp done
  show HeaderHost.get (fields.settle _).2 name = _
  rw [stored]
  exact LawfulHost.get_set (mapError_eq_ok.mp stored)

theorem getUint_perform_setUint {fields : FieldSet} {name : String} {number : UInt64}
    (done : (fields.perform (.setUint name number)).1 = .ok ()) :
    HeaderHost.getUint (fields.perform (.setUint name number)).2 name = .ok number := by
  obtain ⟨next, stored⟩ := settle_eq_ok.mp done
  show HeaderHost.getUint (fields.settle _).2 name = _
  rw [stored]
  exact getUint_setUint stored

/-- No operation stops the program while all values have at most eight bytes. -/
theorem perform_ne_abort {fields : FieldSet} (short : Narrow fields) (operation : Operation) :
    (fields.perform operation).1 ≠ .error .abort := by
  have plain {α : Type} (result : Except TransformError α) :
      result.mapError Fault.error ≠ .error .abort := by
    cases result <;> simp [Except.mapError]
  have settled (result : Except Fault FieldSet) (sound : result ≠ .error .abort) :
      (fields.settle result).1 ≠ .error .abort := by
    cases result with
    | error fault => exact fun stops => sound (congrArg Except.error (Except.error.inj stops))
    | ok next => simp [settle]
  cases operation with
  | get name => exact plain _
  | set name value => exact settled _ (plain _)
  | setUint name number =>
      apply settled
      intro stops
      obtain ⟨cause, same, -⟩ := setUint_error short stops
      cases same
  | unpack layout raw => exact plain _
  | markDrop =>
      intro stops
      obtain ⟨cause, same, -⟩ := markDrop_error short stops
      cases same

/-! ## Any run -/

/-- The fields of a layout, each with a value of the field's bytes and bits. -/
structure Exact (layout : HeaderLayout) (fields : FieldSet) : Prop where
  layout_eq : fields.layout = layout
  length_value : ∀ slot ∈ fields.slots, slot.value.length = slot.field.byteWidth
  toNat_value_lt : ∀ slot ∈ fields.slots, slot.value.toNat < 2 ^ slot.field.width

theorem Of.exact {layout : HeaderLayout} {fields : FieldSet} (sound : Of layout fields)
    (narrow : ∀ f ∈ layout.fields, f.width ≤ 64) : Exact layout fields := by
  have fits : ∀ slot ∈ fields.slots,
      slot.value.length = slot.field.byteWidth ∧ slot.value.toNat < 2 ^ slot.field.width := by
    intro slot member
    have inLayout : slot.field ∈ layout.fields := by
      rw [← sound.layout_eq]
      exact List.mem_map_of_mem member
    exact (BitField.check_eq_ok_iff (narrow _ inLayout)).mp (sound.fits slot member)
  exact ⟨sound.layout_eq, fun slot member => (fits slot member).1,
    fun slot member => (fits slot member).2⟩

/-- **After any run every value has the bytes and the bits of its field.**  So the
set is always packed, nothing stops the program, and a value or a number is stored
exactly if it fits a field of the name, with no other change. -/
theorem performAll_exact {layout : HeaderLayout} (names : (layout.fields.map (·.name)).Nodup)
    (narrow : ∀ f ∈ layout.fields, f.width ≤ 64) {start : FieldSet}
    (starts : start = .new layout ∨ ∃ raw, FieldSet.ofBytes layout raw = .ok start)
    (operations : List Operation) :
    let fields := start.performAll operations
    Exact layout fields ∧
    (∃ raw, pack layout fields = .ok raw) ∧
    (∀ operation, (fields.perform operation).1 ≠ .error .abort) ∧
    (∀ name value,
      StoresIf
        (∃ f ∈ layout.fields, f.name = name ∧ value.length = f.byteWidth ∧
          value.toNat < 2 ^ f.width)
        fields name (fields.perform (.set name value)) ∧
      ((fields.perform (.set name value)).1 = .ok () →
        HeaderHost.get (fields.perform (.set name value)).2 name = .ok value)) ∧
    (∀ name number,
      StoresIf (∃ f ∈ layout.fields, f.name = name ∧ number.toNat < 2 ^ f.width)
        fields name (fields.perform (.setUint name number)) ∧
      ((fields.perform (.setUint name number)).1 = .ok () →
        getUint (fields.perform (.setUint name number)).2 name = .ok number)) := by
  intro fields
  have started : Of layout start := by
    rcases starts with rfl | ⟨raw, read⟩
    · exact .new layout
    · exact .ofBytes read
  have sound : Of layout fields := started.performAll operations
  refine ⟨sound.exact narrow, sound.pack names, perform_ne_abort (sound.narrow narrow), ?_, ?_⟩
  · intro name value
    exact ⟨sound.perform_set names narrow name value, get_perform_set⟩
  · intro name number
    exact ⟨sound.perform_setUint names narrow name number, getUint_perform_setUint⟩

/-- A mark and a foreign header that both stop half-way. -/
theorem performAll_exact_half_way :
    ∃ (layout : HeaderLayout) (fields : FieldSet),
      layout = ⟨"mixed", [⟨"egress_spec", 0, 9⟩, ⟨"version", 9, 4⟩]⟩ ∧
      (layout.fields.map (·.name)).Nodup ∧ (∀ f ∈ layout.fields, f.width ≤ 64) ∧
      fields = (FieldSet.new layout).performAll
        [.markDrop, .unpack .ipv4 (0x45 :: List.replicate 19 0)] ∧
      Exact layout fields ∧ fields.toList = [("egress_spec", [1, 0xff]), ("version", [4])] ∧
      (fields.perform (.setUint "version" 15)).1 = .ok () ∧
      (fields.perform (.setUint "version" 16)).1 ≠ .ok () ∧
      (fields.perform (.setUint "version" 16)).2 = fields := by
  obtain ⟨shape, -, -, -, numbers⟩ := @performAll_exact
    ⟨"mixed", [⟨"egress_spec", 0, 9⟩, ⟨"version", 9, 4⟩]⟩ (by decide) (by decide) _ (.inl rfl)
    [.markDrop, .unpack .ipv4 (0x45 :: List.replicate 19 0)]
  have small := (numbers "version" 15).1.ok_iff.mpr (by decide)
  have large : _ ≠ _ := fun done => absurd ((numbers "version" 16).1.ok_iff.mp done) (by decide)
  exact ⟨_, _, rfl, by decide, by decide, rfl, shape, by decide +kernel, small, large,
    (numbers "version" 16).1.unchanged large⟩

end PacketProtection.FieldSet

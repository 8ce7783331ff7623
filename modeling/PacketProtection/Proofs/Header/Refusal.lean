import PacketProtection.Proofs.Header.Packing

/-!
# Which error a header gives

A header is packed field by field, in the order of its layout, so the error is that
of the first field that is missing or does not fit (`pack_eq_error`), and a header
is packed exactly if there is no such field (`exists_pack_iff`).

*Hosts.*  A field set and loose fields have no error of their own but the name of a
missing field (`Host.get_error`).  A *sound* host is loose fields, or a field set
whose values fit, as they do in every set that was zeroed and written to
(`Host.sound_new`, `Host.Sound.set`).  It refuses a value of the right number of
bytes only because the value needs more bits than the field has (`Host.set_error`).
-/

namespace PacketProtection

namespace HeaderHost

variable {H : Type} [HeaderHost H]

/-- Why a field of a host cannot be packed, if there is a reason. -/
def fieldFault? (host : H) (f : BitField) : Option TransformError :=
  match get host f.name with
  | .error cause => some cause
  | .ok value =>
      match f.check value with
      | .error cause => some cause
      | .ok () => none

/-- Every field of the layout can be packed. -/
def Packable (layout : HeaderLayout) (host : H) : Prop :=
  ∀ f ∈ layout.fields, fieldFault? host f = none

/-- The reason why the first field that cannot be packed, in the order of the
layout, cannot be. -/
def FirstFault (layout : HeaderLayout) (host : H) (cause : TransformError) : Prop :=
  ∃ before f after, layout.fields = before ++ f :: after ∧ fieldFault? host f = some cause ∧
    ∀ g ∈ before, fieldFault? host g = none

/-! ## Packing -/

/-- A field has a fault exactly if its bits cannot be taken. -/
theorem fieldFault?_eq (host : H) (f : BitField) :
    fieldFault? host f =
      match bits host f with
      | .error cause => some cause
      | .ok _ => none := by
  unfold fieldFault? bits
  cases get host f.name with
  | error cause => rfl
  | ok value =>
      simp only
      cases f.check value <;> rfl

theorem bits_of_fault {host : H} {f : BitField} {cause : TransformError}
    (fault : fieldFault? host f = some cause) : bits host f = .error cause := by
  rw [fieldFault?_eq] at fault
  cases taken : bits host f with
  | error reason =>
      rw [taken] at fault
      cases fault
      rfl
  | ok piece =>
      rw [taken] at fault
      cases fault

theorem bits_of_no_fault {host : H} {f : BitField} (sound : fieldFault? host f = none) :
    ∃ piece, bits host f = .ok piece := by
  rw [fieldFault?_eq] at sound
  cases taken : bits host f with
  | error reason =>
      rw [taken] at sound
      cases sound
  | ok piece => exact ⟨piece, rfl⟩

/-- Writing fields stops at the first one with a fault. -/
theorem writeFields_of_fault {host : H} {fields : List BitField} {cause : TransformError}
    (fault : fields.findSome? (fieldFault? host) = some cause) (buffer : Bits) :
    writeFields host fields buffer = .error cause := by
  induction fields generalizing buffer with
  | nil => cases fault
  | cons f rest ih =>
      rw [List.findSome?_cons] at fault
      rw [writeFields]
      cases here : fieldFault? host f with
      | some reason =>
          rw [here] at fault
          cases fault
          rw [bits_of_fault here]
      | none =>
          rw [here] at fault
          obtain ⟨piece, found⟩ := bits_of_no_fault here
          rw [found]
          exact ih fault _

theorem exists_pack_of_packable {layout : HeaderLayout} {host : H} (packable : Packable layout host) :
    ∃ raw, pack layout host = .ok raw := by
  obtain ⟨out, written⟩ := writeFields_of_forall_bits
    (fun f member => bits_of_no_fault (packable f member))
    (List.replicate (8 * layout.length) false)
  exact ⟨_, pack_eq_ok.mpr ⟨out, written, rfl⟩⟩

theorem pack_of_firstFault {layout : HeaderLayout} {host : H} {cause : TransformError}
    (first : FirstFault layout host cause) : pack layout host = .error cause := by
  rw [pack, writeFields_of_fault (List.findSome?_eq_some_iff.mpr first)]
  rfl

/-- A header has a first field with a fault, or can be packed. -/
theorem firstFault_or_packable (layout : HeaderLayout) (host : H) :
    (∃ cause, FirstFault layout host cause) ∨ Packable layout host := by
  cases fault : layout.fields.findSome? (fieldFault? host) with
  | some cause => exact .inl ⟨cause, List.findSome?_eq_some_iff.mp fault⟩
  | none => exact .inr (List.findSome?_eq_none_iff.mp fault)

/-- The error of a header is the fault of its first field that has one. -/
theorem pack_eq_error {layout : HeaderLayout} {host : H} {cause : TransformError} :
    pack layout host = .error cause ↔ FirstFault layout host cause := by
  refine ⟨fun failed => ?_, pack_of_firstFault⟩
  rcases firstFault_or_packable layout host with ⟨reason, first⟩ | packable
  · cases (pack_of_firstFault first).symm.trans failed
    exact first
  · obtain ⟨raw, packed⟩ := exists_pack_of_packable packable
    cases packed.symm.trans failed

/-- A header is packed exactly if no field has a fault. -/
theorem exists_pack_iff {layout : HeaderLayout} {host : H} :
    (∃ raw, pack layout host = .ok raw) ↔ Packable layout host := by
  refine ⟨fun ⟨raw, packed⟩ => ?_, exists_pack_of_packable⟩
  rcases firstFault_or_packable layout host with ⟨reason, first⟩ | packable
  · cases (pack_of_firstFault first).symm.trans packed
  · exact packable

end HeaderHost

open HeaderHost

/-! ## The two hosts -/

namespace FieldSet

/-- A value of the right number of bytes is refused only for its bits. -/
theorem Of.set_error {layout : HeaderLayout} {fields : FieldSet} (sound : Of layout fields)
    {name : String} {current value : Bytes} {cause : TransformError}
    (present : fields.get name = .ok current) (same : value.length = current.length)
    (refused : fields.set name value = .error cause) :
    ∃ bits, cause = .fieldOverflow name bits ∧ 2 ^ bits ≤ value.toNat := by
  obtain ⟨slot, found, rfl⟩ := get_eq_ok.mp present
  have inSlots := List.mem_of_find?_eq_some (slot_eq_ok.mp found)
  have named : slot.field.name = name := by simpa using List.find?_some (slot_eq_ok.mp found)
  have length := BitField.length_of_check (sound.fits slot inSlots)
  rcases set_eq_error.mp refused with absent | ⟨other, again, unfit⟩
  · cases absent.symm.trans found
  · cases again.symm.trans found
    rcases BitField.check_eq_error unfit with ⟨wrongLength, -⟩ | ⟨-, large, rfl⟩
    · -- The stored value fits its slot, so the width is not what is wrong.
      exact absurd (same.trans length) wrongLength
    · exact ⟨slot.field.width, by rw [named], large⟩

end FieldSet

namespace Host

/-- Loose fields, or a field set whose values fit. -/
def Sound : Host → Prop
  | .bound fields => FieldSet.Of fields.layout fields
  | .loose _ => True

theorem sound_of {layout : HeaderLayout} {fields : FieldSet} (kept : FieldSet.Of layout fields) :
    Sound (.bound fields) := by
  show FieldSet.Of fields.layout fields
  rw [kept.layout_eq]
  exact kept

theorem sound_new (layout : HeaderLayout) : Sound (.bound (FieldSet.new layout)) :=
  sound_of (FieldSet.Of.new layout)

/-- Storing a value keeps a host sound. -/
theorem Sound.set {host next : Host} (sound : host.Sound) {name : String} {value : Bytes}
    (stored : HeaderHost.set host name value = .ok next) : next.Sound := by
  cases host with
  | bound fields =>
      obtain ⟨after, done, rfl⟩ := map_eq_ok.mp stored
      exact sound_of (FieldSet.Of.set sound done)
  | loose fields =>
      obtain ⟨after, -, rfl⟩ := map_eq_ok.mp stored
      trivial

/-- A field that is not there is named in the error. -/
theorem get_error {host : Host} {name : String} {cause : TransformError}
    (absent : HeaderHost.get host name = .error cause) : ∃ shown, cause = .unknownField shown := by
  cases host with
  | bound fields => exact FieldSet.slot_error (FieldSet.get_eq_error.mp absent)
  | loose fields => exact LooseFields.get_error absent

/-- A value of the right number of bytes is refused only for its bits. -/
theorem set_error {host : Host} (sound : host.Sound) {name : String} {current value : Bytes}
    {cause : TransformError} (present : HeaderHost.get host name = .ok current)
    (same : value.length = current.length)
    (refused : HeaderHost.set host name value = .error cause) :
    ∃ bits, cause = .fieldOverflow name bits ∧ 2 ^ bits ≤ value.toNat := by
  cases host with
  | bound fields => exact FieldSet.Of.set_error sound present same (map_eq_error.mp refused)
  | loose fields =>
      have stored : fields.set name value =
          .ok ⟨LooseFields.replace name value fields.toList⟩ :=
        LooseFields.set_eq_ok.mpr ⟨⟨current, present⟩, rfl⟩
      cases stored.symm.trans (map_eq_error.mp refused)

/-- A number for a value of at most eight bytes is refused only for its bits. -/
theorem setUint_error {host : Host} (sound : host.Sound) {name : String} {current : Bytes}
    {number : UInt64} {fault : Fault} (present : HeaderHost.get host name = .ok current)
    (narrow : current.length ≤ 8) (refused : setUint host name number = .error fault) :
    ∃ bits, fault = .error (.fieldOverflow name bits) ∧ 2 ^ bits ≤ number.toNat := by
  by_cases fits : number.toNat < 256 ^ current.length
  · rw [setUint_of_get present narrow fits] at refused
    cases stored : HeaderHost.set host name (Bytes.ofNat current.length number.toNat) with
    | error cause =>
        rw [stored] at refused
        cases refused
        obtain ⟨bits, rfl, large⟩ := set_error sound present (Bytes.length_ofNat _ _) stored
        rw [Bytes.toNat_ofNat_of_lt fits] at large
        exact ⟨bits, rfl, large⟩
    | ok next =>
        rw [stored] at refused
        cases refused
  · have large : 256 ^ current.length ≤ number.toNat := Nat.le_of_not_lt fits
    cases (setUint_of_overflow present large).symm.trans refused
    refine ⟨8 * current.length, rfl, ?_⟩
    rw [Nat.pow_mul]
    exact large

/-- The fault of a field is that it is missing, or that its value does not fit. -/
theorem fieldFault?_cases {host : Host} {f : BitField} {cause : TransformError}
    (fault : fieldFault? host f = some cause) :
    (∃ shown, cause = .unknownField shown) ∨
      (∃ got, cause = .fieldWidth f.name f.byteWidth got) ∨
      (cause = .fieldOverflow f.name f.width ∧ f.width < 8 * f.byteWidth) := by
  unfold fieldFault? at fault
  split at fault
  next absent =>
    cases fault
    exact .inl (get_error absent)
  next value _ =>
    split at fault
    next unfit =>
      cases fault
      rcases BitField.check_eq_error unfit with ⟨-, rfl⟩ | ⟨rightLength, large, rfl⟩
      · exact .inr (.inl ⟨_, rfl⟩)
      · exact .inr (.inr ⟨rfl, BitField.width_lt_of_overflow rightLength large⟩)
    · cases fault

theorem not_malformed_of_firstFault {layout : HeaderLayout} {host : Host} {cause : TransformError}
    (first : FirstFault layout host cause) : cause.isMalformed = false := by
  obtain ⟨before, f, after, -, fault, -⟩ := first
  rcases fieldFault?_cases fault with ⟨shown, rfl⟩ | ⟨got, rfl⟩ | ⟨rfl, -⟩ <;> rfl

/-- A field made of whole bytes never overflows when it is packed. -/
theorem ne_overflow_of_firstFault {layout : HeaderLayout} {host : Host} {cause : TransformError}
    {name : String} (whole : ∀ f ∈ layout.fields, f.name = name → f.width = 8 * f.byteWidth)
    (first : FirstFault layout host cause) (bits : Nat) : cause ≠ .fieldOverflow name bits := by
  rintro rfl
  obtain ⟨before, f, after, split, fault, -⟩ := first
  rcases fieldFault?_cases fault with ⟨shown, same⟩ | ⟨got, same⟩ | ⟨same, narrow⟩
  · cases same
  · cases same
  · cases same
    have member : f ∈ layout.fields := by
      rw [split]
      exact List.mem_append_right _ (.head _)
    exact absurd (whole f member rfl) (Nat.ne_of_lt narrow)

end Host

end PacketProtection

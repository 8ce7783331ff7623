import PacketProtection.Proofs.Header.Runs

/-!
# Which overflow is reported

A number is checked twice before a field set stores it.  The first check knows the
bytes of the current value and no layout; the second knows the field.  Both report an
overflow of the field, each with the bits that it knows: the second those of the field,
the first those of its bytes.  So the bits in the report depend on how large the number
is (`BitField.reportedBits`, `Of.setUint_of_large`).

*Values.*  A byte string of the right length passes the first check in any case, and its
refusal names the bits of the field (`BitField.check_of_large`).

*Agreement.*  Both reports are the same for all numbers exactly in a field of whole bytes,
and in one of more than 56 bits, whose eight bytes hold every number
(`BitField.forall_reportedBits_iff`).  All other fields have their number of bits reported
too high as soon as the number is too large for their bytes.
-/

namespace PacketProtection

/-! ## Bits in a report -/

namespace BitField

/-- The bits that the refusal of a number names. -/
def reportedBits (f : BitField) (number : UInt64) : Nat :=
  if number.toNat < 256 ^ f.byteWidth then f.width else 8 * f.byteWidth

/-- Seven bytes or fewer do not hold every number. -/
theorem exists_number_of_byteWidth_lt {f : BitField} (few : f.byteWidth < 8) :
    ∃ number : UInt64, number.toNat = 256 ^ f.byteWidth := by
  have inWord : 256 ^ f.byteWidth < 256 ^ 8 := Nat.pow_lt_pow_right (by decide) few
  exact ⟨_, UInt64.toNat_ofNat_of_lt' inWord⟩

/-- The report is right for every number exactly where whole bytes or eight of them make
up the field. -/
theorem forall_reportedBits_iff {f : BitField} (narrow : f.width ≤ 64) :
    (∀ number : UInt64, 2 ^ f.width ≤ number.toNat → f.reportedBits number = f.width) ↔
      8 ∣ f.width ∨ 56 < f.width := by
  constructor
  · intro right
    by_contra partly
    rw [not_or] at partly
    have few : f.byteWidth < 8 := by
      rw [byteWidth]
      omega
    obtain ⟨number, exactly⟩ := exists_number_of_byteWidth_lt few
    have reported := right number (exactly ▸ f.two_pow_width_le)
    rw [reportedBits, if_neg (by omega), byteWidth] at reported
    omega
  · intro whole number _
    rw [reportedBits]
    split
    · rfl
    next large =>
      rcases whole with bytes | wide
      · rw [byteWidth]
        omega
      · -- Eight bytes hold every number.
        have eight : f.byteWidth = 8 := by
          rw [byteWidth]
          omega
        rw [eight] at large
        exact absurd number.toNat_lt large

end BitField

/-! ## Refusals of a field set -/

namespace FieldSet

open HeaderHost

section Refusals

variable {layout : HeaderLayout} {fields : FieldSet} {f : BitField}

/-- A field set refuses a value for the check of its field. -/
theorem Of.set_of_unfit (sound : Of layout fields) (names : (layout.fields.map (·.name)).Nodup)
    (member : f ∈ layout.fields) {value : Bytes} {cause : TransformError}
    (unfit : f.check value = .error cause) : HeaderHost.set fields f.name value = .error cause := by
  obtain ⟨slot, -, found, rfl⟩ := slot_of_mem sound.layout_eq names member
  exact set_eq_error.mpr (.inr ⟨slot, found, unfit⟩)

/-- A number that needs more bits than the field is refused by the first check if it
needs more bytes, too, and else by the second. -/
theorem Of.setUint_of_large (sound : Of layout fields)
    (names : (layout.fields.map (·.name)).Nodup) (member : f ∈ layout.fields)
    (narrow : f.width ≤ 64) {number : UInt64} (large : 2 ^ f.width ≤ number.toNat) :
    HeaderHost.setUint fields f.name number =
      .error (.error (.fieldOverflow f.name (f.reportedBits number))) := by
  obtain ⟨current, present, fits⟩ := sound.get names member
  have width := BitField.length_of_check fits
  rw [BitField.reportedBits]
  split
  next inBytes =>
    have bytes : f.check (Bytes.ofNat f.byteWidth number.toNat) =
        .error (.fieldOverflow f.name f.width) := by
      apply BitField.check_of_large narrow (Bytes.length_ofNat _ _)
      rw [Bytes.toNat_ofNat_of_lt inBytes]
      exact large
    have short : f.byteWidth ≤ 8 := by
      rw [BitField.byteWidth]
      omega
    rw [← width] at inBytes short bytes
    rw [setUint_of_get present short inBytes, sound.set_of_unfit names member bytes]
    rfl
  next beyond =>
    rw [← width] at beyond ⊢
    exact setUint_of_overflow present (Nat.le_of_not_lt beyond)

end Refusals

/-! ## Reports -/

/-- How a field set refuses what is too large for a field: nothing is stored, and the
report names the field. -/
structure RefusesOverflow (fields : FieldSet) (f : BitField) : Prop where
  /-- A value of the right length is refused for the bits of the field. -/
  set : ∀ value : Bytes, value.length = f.byteWidth → 2 ^ f.width ≤ value.toNat →
    fields.perform (.set f.name value) =
      (.error (.error (.fieldOverflow f.name f.width)), fields)
  setUint : ∀ number : UInt64, 2 ^ f.width ≤ number.toNat →
    fields.perform (.setUint f.name number) =
      (.error (.error (.fieldOverflow f.name (f.reportedBits number))), fields)
  /-- Numbers are refused like values in fields of whole bytes or of more than 56 bits. -/
  alike_iff :
    (∀ number : UInt64, 2 ^ f.width ≤ number.toNat →
      fields.perform (.setUint f.name number) =
        (.error (.error (.fieldOverflow f.name f.width)), fields)) ↔
      8 ∣ f.width ∨ 56 < f.width

theorem Of.refusesOverflow {layout : HeaderLayout} {fields : FieldSet} {f : BitField}
    (sound : Of layout fields) (names : (layout.fields.map (·.name)).Nodup)
    (member : f ∈ layout.fields) (narrow : f.width ≤ 64) : RefusesOverflow fields f := by
  have numbers (number : UInt64) (large : 2 ^ f.width ≤ number.toNat) :
      fields.perform (.setUint f.name number) =
        (.error (.error (.fieldOverflow f.name (f.reportedBits number))), fields) :=
    congrArg fields.settle (sound.setUint_of_large names member narrow large)
  refine ⟨?_, numbers, ?_⟩
  · intro value rightLength large
    have refused := sound.set_of_unfit names member
      (BitField.check_of_large narrow rightLength large)
    exact congrArg (fun result => fields.settle (Except.mapError .error result)) refused
  · rw [← BitField.forall_reportedBits_iff narrow]
    refine forall₂_congr fun number large => ?_
    rw [numbers number large]
    simp

/-- **An overflow is refused without a trace in the field set, and reported under the
name of the field.**  A value is reported with the bits of the field; so is a number as
long as the bytes of the field hold it, and beyond with the bits of these bytes. -/
theorem performAll_refusesOverflow {layout : HeaderLayout}
    (names : (layout.fields.map (·.name)).Nodup) (narrow : ∀ f ∈ layout.fields, f.width ≤ 64)
    {start : FieldSet}
    (starts : start = .new layout ∨ ∃ raw, FieldSet.ofBytes layout raw = .ok start)
    (operations : List Operation) {f : BitField} (member : f ∈ layout.fields) :
    RefusesOverflow (start.performAll operations) f := by
  have started : Of layout start := by
    rcases starts with rfl | ⟨raw, read⟩
    · exact .new layout
    · exact .ofBytes read
  exact (started.performAll operations).refusesOverflow names member (narrow f member)

/-- A field of three bits, after a value was stored in it. -/
theorem performAll_refusesOverflow_flags :
    ∃ (fields : FieldSet) (f : BitField),
      (HeaderLayout.ipv4.fields.map (·.name)).Nodup ∧
      (∀ f ∈ HeaderLayout.ipv4.fields, f.width ≤ 64) ∧
      fields = (FieldSet.new .ipv4).performAll [.set "flags" [2], .setUint "ttl" 64] ∧
      f = ⟨"flags", 48, 3⟩ ∧ f ∈ HeaderLayout.ipv4.fields ∧
      fields.perform (.set "flags" [8]) = (.error (.error (.fieldOverflow "flags" 3)), fields) ∧
      fields.perform (.setUint "flags" 8) = (.error (.error (.fieldOverflow "flags" 3)), fields) ∧
      fields.perform (.setUint "flags" 255) =
        (.error (.error (.fieldOverflow "flags" 3)), fields) ∧
      fields.perform (.setUint "flags" 256) =
        (.error (.error (.fieldOverflow "flags" 8)), fields) := by
  have proper := HeaderLayout.ipv4_proper
  have member : (⟨"flags", 48, 3⟩ : BitField) ∈ HeaderLayout.ipv4.fields := by decide
  have refuses := performAll_refusesOverflow proper.names_nodup proper.narrow (.inl rfl)
    [.set "flags" [2], .setUint "ttl" 64] member
  exact ⟨_, _, proper.names_nodup, proper.narrow, rfl, rfl, member,
    refuses.set [8] (by decide) (by decide), refuses.setUint 8 (by decide),
    refuses.setUint 255 (by decide), refuses.setUint 256 (by decide)⟩

/-- Nine bits are reported as sixteen: a number is not always refused like a value, not
even by a field set that is still zeroed. -/
theorem setUint_overflow_nine_bits :
    ¬∀ (layout : HeaderLayout) (f : BitField) (number : UInt64),
      (layout.fields.map (·.name)).Nodup → (∀ f ∈ layout.fields, f.width ≤ 64) →
      f ∈ layout.fields → 2 ^ f.width ≤ number.toNat →
      (FieldSet.new layout).perform (.setUint f.name number) =
        (.error (.error (.fieldOverflow f.name f.width)), FieldSet.new layout) := by
  intro alike
  have proper := HeaderLayout.standardMetadata_proper
  have claimed := alike .standardMetadata ⟨"egress_spec", 0, 9⟩ 65536 proper.names_nodup
    proper.narrow (.head _) (by decide)
  have found : (FieldSet.new .standardMetadata).perform (.setUint "egress_spec" 65536) =
      (.error (.error (.fieldOverflow "egress_spec" 16)), .new .standardMetadata) := by decide
  exact absurd (claimed.symm.trans found) (by decide)

end FieldSet

end PacketProtection

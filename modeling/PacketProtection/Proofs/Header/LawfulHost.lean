import PacketProtection.Header.Host
import PacketProtection.Proofs.Header.Field

/-!
# Lawful hosts

The transforms see a pipeline through a host, and rely on what every store of
named values does.  A *lawful* host gives back what was stored, leaves the other
fields alone, does not change its mind about what it stores, and never blames
the frame for a field it refuses.

*Serving a layout.*  A host serves a layout if each field of the layout that it
has takes every value that fits.  Loose fields serve every layout, and a field
set serves its own.

*Numbers.*  A number stored in a field is read back from it
(`getUint_setUint`).  Storing one stops the program for a field of more than eight
bytes (`setUint_of_wide`), and never on a host that has no such field
(`setUint_error`).
-/

namespace PacketProtection

namespace HeaderHost

variable {H : Type} [HeaderHost H]

/-- The host stores this value under this name. -/
def Accepts (host : H) (name : String) (value : Bytes) : Prop :=
  ∃ next, set host name value = .ok next

/-- Each field of a layout that the host has takes every value that fits. -/
def Serves (layout : HeaderLayout) (host : H) : Prop :=
  ∀ f ∈ layout.fields, ∀ current value : Bytes, get host f.name = .ok current →
    f.check value = .ok () → Accepts host f.name value

/-- The host has all fields of a layout. -/
def Has (layout : HeaderLayout) (host : H) : Prop :=
  ∀ f ∈ layout.fields, ∃ value, get host f.name = .ok value

/-- No value of the host is wider than a 64-bit number. -/
def Narrow (host : H) : Prop :=
  ∀ name value, get host name = .ok value → value.length ≤ 8

end HeaderHost

open HeaderHost

/-- What every store of named values does. -/
class LawfulHost (H : Type) [HeaderHost H] : Prop where
  /-- A stored value is read back. -/
  get_set {host next : H} {name : String} {value : Bytes} :
    set host name value = .ok next → get next name = .ok value
  /-- Storing under a name changes no other field. -/
  get_set_of_ne {host next : H} {name other : String} {value : Bytes} :
    set host name value = .ok next → other ≠ name → get next other = get host other
  /-- What is accepted does not depend on what was stored before. -/
  accepts_set_iff {host next : H} {name other : String} {value wanted : Bytes} :
    set host name value = .ok next → (Accepts next other wanted ↔ Accepts host other wanted)
  /-- A field that is not there is no fault of the frame. -/
  get_error {host : H} {name : String} {cause : TransformError} :
    get host name = .error cause → cause.isMalformed = false
  /-- A refused value is no fault of the frame. -/
  set_error {host : H} {name : String} {value : Bytes} {cause : TransformError} :
    set host name value = .error cause → cause.isMalformed = false

/-! ## Numbers -/

namespace HeaderHost

variable {H : Type} [HeaderHost H]

theorem setUint_of_get {host : H} {name : String} {current : Bytes} {number : UInt64}
    (present : get host name = .ok current) (narrow : current.length ≤ 8)
    (fits : number.toNat < 256 ^ current.length) :
    setUint host name number =
      (set host name (Bytes.ofNat current.length number.toNat)).mapError .error := by
  rw [setUint, present]
  simp only
  rw [if_neg (fun large => absurd large.2 (Nat.not_le.mpr fits)), if_neg (by omega)]

/-- A number that fits the bits of a field is stored as a value that fits it. -/
theorem setUint_of_fits {host : H} {f : BitField} {current : Bytes} {number : UInt64}
    (narrow : f.width ≤ 64) (present : get host f.name = .ok current)
    (width : current.length = f.byteWidth) (fits : number.toNat < 2 ^ f.width) :
    f.check (Bytes.ofNat f.byteWidth number.toNat) = .ok () ∧
      setUint host f.name number =
        (set host f.name (Bytes.ofNat f.byteWidth number.toNat)).mapError .error := by
  have inBytes : number.toNat < 256 ^ f.byteWidth :=
    Nat.lt_of_lt_of_le fits f.two_pow_width_le
  have short : f.byteWidth ≤ 8 := by
    rw [BitField.byteWidth]
    omega
  constructor
  · rw [BitField.check_eq_ok_iff narrow, Bytes.length_ofNat, Bytes.toNat_ofNat_of_lt inBytes]
    exact ⟨rfl, fits⟩
  · rw [← width] at short inBytes ⊢
    exact setUint_of_get present short inBytes

/-- A number that needs more bytes than the field has is refused. -/
theorem setUint_of_overflow {host : H} {name : String} {current : Bytes} {number : UInt64}
    (present : get host name = .ok current) (large : 256 ^ current.length ≤ number.toNat) :
    setUint host name number = .error (.error (.fieldOverflow name (8 * current.length))) := by
  have short : current.length < 8 := by
    apply Nat.lt_of_not_le
    intro wide
    have all : 256 ^ 8 ≤ 256 ^ current.length := Nat.pow_le_pow_right (by decide) wide
    exact absurd (Nat.le_trans all large) (Nat.not_le.mpr number.toNat_lt)
  rw [setUint, present]
  exact if_pos ⟨short, large⟩

/-- No number fits a field of more than eight bytes: storing one stops the program. -/
theorem setUint_of_wide {host : H} {name : String} {current : Bytes}
    (present : get host name = .ok current) (wide : 8 < current.length) (number : UInt64) :
    setUint host name number = .error .abort := by
  rw [setUint, present]
  simp only
  rw [if_neg (by omega), if_pos wide]

/-- What a successful store of a number did. -/
theorem setUint_eq_ok {host next : H} {name : String} {number : UInt64}
    (stored : setUint host name number = .ok next) :
    ∃ current, get host name = .ok current ∧ number.toNat < 256 ^ current.length ∧
      set host name (Bytes.ofNat current.length number.toNat) = .ok next := by
  cases present : get host name with
  | error cause =>
      rw [setUint, present] at stored
      cases stored
  | ok current =>
      refine ⟨current, rfl, ?_⟩
      by_cases fits : number.toNat < 256 ^ current.length
      · refine ⟨fits, ?_⟩
        by_cases narrow : current.length ≤ 8
        · rw [setUint_of_get present narrow fits] at stored
          cases result : set host name (Bytes.ofNat current.length number.toNat) with
          | error cause =>
              rw [result] at stored
              cases stored
          | ok after =>
              rw [result] at stored
              exact congrArg Except.ok (Except.ok.inj stored)
        · rw [setUint_of_wide present (Nat.lt_of_not_le narrow)] at stored
          cases stored
      · rw [setUint_of_overflow present (Nat.le_of_not_lt fits)] at stored
        cases stored

/-- A number that fits its width is read from it. -/
theorem getUint_of_get_ofNat {host : H} {name : String} {width : Nat} {number : UInt64}
    (present : get host name = .ok (Bytes.ofNat width number.toNat))
    (fits : number.toNat < 256 ^ width) : getUint host name = .ok number := by
  rw [getUint, present]
  show Except.ok (UInt64.ofNat _) = _
  rw [Bytes.toNat_ofNat_of_lt fits, UInt64.ofNat_toNat]

section Lawful

variable [LawfulHost H]

theorem getUint_setUint {host next : H} {name : String} {number : UInt64}
    (stored : setUint host name number = .ok next) : getUint next name = .ok number := by
  obtain ⟨current, -, fits, done⟩ := setUint_eq_ok stored
  exact getUint_of_get_ofNat (LawfulHost.get_set done) fits

theorem get_setUint_of_ne {host next : H} {name other : String} {number : UInt64}
    (stored : setUint host name number = .ok next) (different : other ≠ name) :
    get next other = get host other := by
  obtain ⟨current, -, -, done⟩ := setUint_eq_ok stored
  exact LawfulHost.get_set_of_ne done different

/-- A number takes the width of the value it replaces. -/
theorem narrow_setUint {host next : H} {name : String} {number : UInt64} (narrow : Narrow host)
    (stored : setUint host name number = .ok next) : Narrow next := by
  obtain ⟨current, present, -, done⟩ := setUint_eq_ok stored
  intro other value found
  by_cases same : other = name
  · subst same
    rw [LawfulHost.get_set done] at found
    cases found
    rw [Bytes.length_ofNat]
    exact narrow other current present
  · rw [LawfulHost.get_set_of_ne done same] at found
    exact narrow other value found

/-- On a narrow host a number that cannot be stored is an error of the
pipeline: the program goes on and the frame is not to blame. -/
theorem setUint_error {host : H} {name : String} {number : UInt64} {fault : Fault}
    (narrow : Narrow host) (refused : setUint host name number = .error fault) :
    ∃ cause, fault = .error cause ∧ cause.isMalformed = false := by
  cases present : get host name with
  | error cause =>
      rw [setUint, present] at refused
      exact ⟨cause, (Except.error.inj refused).symm, LawfulHost.get_error present⟩
  | ok current =>
      by_cases fits : number.toNat < 256 ^ current.length
      · rw [setUint_of_get present (narrow name current present) fits] at refused
        cases result : set host name (Bytes.ofNat current.length number.toNat) with
        | error cause =>
            rw [result] at refused
            exact ⟨cause, (Except.error.inj refused).symm, LawfulHost.set_error result⟩
        | ok after =>
            rw [result] at refused
            cases refused
      · rw [setUint_of_overflow present (Nat.le_of_not_lt fits)] at refused
        exact ⟨_, (Except.error.inj refused).symm, rfl⟩

end Lawful

end HeaderHost

end PacketProtection

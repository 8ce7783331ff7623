import PacketProtection.Macsec.SecTag
import PacketProtection.Proofs.View.SecTag

/-!
# Built security tags

A security tag is built from an SCI, a packet number and any number of *settings*, of
which the last for each parameter counts (`setAll_eq`).  Building fails for an
association number of more than two bits, and for nothing else.

*Fields.*  The bytes that come out are read as a tag that shows all that it was built
from (`Shows`, `setAll_build_exact`).  Fields share bytes, and a long length must not
come out as the short one with the same low bits, so each field is read off the tag as
a number of its own width (`toNat_shortLength_view`, `toNat_associationNumber_view`).

*Order.*  The tag is the one that is written field by field over sixteen zero bytes.
The SCI has to come behind the control bits, as there is no room for it before
(`written_view`, `setSci?_blank`).
-/

namespace PacketProtection.Macsec

open View (SecTag)

namespace SecTagBuilder

/-! ## Fields -/

theorem build_eq_ok {builder : SecTagBuilder} {secTag : Octets 16} :
    builder.build = .ok secTag ↔
      builder.associationNumber ≤ 3 ∧ secTag.toList = builder.view.toBytes := by
  rw [build]
  by_cases large : 3 < builder.associationNumber
  · rw [if_pos large]
    constructor
    · intro built
      cases built
    · rintro ⟨fits, -⟩
      exact absurd large (UInt8.not_lt.mpr fits)
  · rw [if_neg large, Except.ok.injEq]
    constructor
    · rintro rfl
      exact ⟨UInt8.not_lt.mp large, rfl⟩
    · rintro ⟨-, same⟩
      exact Octets.ext same.symm

theorem toNat_shortLength_view (builder : SecTagBuilder) :
    builder.view.shortLength.toNat = builder.shortLength := by
  have bound : builder.shortLength < 2 ^ 6 := by
    unfold shortLength
    split
    · split
      next below => exact Nat.lt_trans below (by decide)
      next => decide
    · decide
  rw [view, BitVec.toNat_ofNat, Nat.mod_eq_of_lt bound]

theorem toNat_associationNumber_view {builder : SecTagBuilder}
    (fits : builder.associationNumber ≤ 3) :
    builder.view.associationNumber.toNat = builder.associationNumber.toNat := by
  have bound : builder.associationNumber.toNat < 2 ^ 2 :=
    Nat.lt_succ_of_le (UInt8.le_iff_toNat_le.mp fits)
  rw [view, BitVec.toNat_ofNat, Nat.mod_eq_of_lt bound]

theorem hasSci_view (builder : SecTagBuilder) : builder.view.hasSci = true := by
  show (builder.tci &&& View.Tci.sc != 0) = true
  unfold tci
  split
  · decide
  · decide

theorem sci_view (builder : SecTagBuilder) : builder.view.sci = builder.sci.toList := by
  rw [SecTag.sci, SecTag.announcedSci_of_hasSci builder.hasSci_view]
  exact List.take_of_length_le (Nat.le_of_eq builder.sci.length_toList)

theorem payload_view (builder : SecTagBuilder) : builder.view.payload = [] := by
  rw [SecTag.payload, SecTag.announcedSci_of_hasSci builder.hasSci_view]
  exact List.drop_of_length_le (Nat.le_of_eq builder.sci.length_toList)

/-! ## Order of writing -/

/-- The view of sixteen zero bytes. -/
def blank : SecTag where
  etherType := 0
  tci := 0
  associationNumber := 0
  reserved := 0
  shortLength := 0
  packetNumber := 0
  rest := .replicate 8 0

theorem parse?_blank : SecTag.parse? (.replicate 16 0) = some blank := rfl

/-- Before the control bits are written there is no room for an SCI. -/
theorem setSci?_blank (sci : Octets 8) : blank.setSci? sci.toList = none := by
  rw [SecTag.setSci?, sci.length_toList]
  rfl

/-- Behind them the tag is written field by field, reserved bits apart, and then the
SCI. -/
theorem written_view (builder : SecTagBuilder) :
    ({ blank with
        etherType := View.EtherType.macsec
        tci := builder.tci
        associationNumber := .ofNat 2 builder.associationNumber.toNat
        shortLength := .ofNat 6 builder.shortLength
        packetNumber := builder.packetNumber } : SecTag).setSci? builder.sci.toList =
      some builder.view := by
  have length := builder.sci.length_toList
  have room : SecTag.announcedSci { builder.view with rest := blank.rest } = 8 :=
    SecTag.announcedSci_of_hasSci builder.hasSci_view
  have fits : builder.sci.toList.length ≤
        SecTag.announcedSci { builder.view with rest := blank.rest } ∧
      builder.sci.toList.length ≤ blank.rest.length := by
    rw [length, room]
    exact ⟨Nat.le_refl 8, Nat.le_refl 8⟩
  have behind : builder.sci.toList ++ blank.rest.drop builder.sci.toList.length =
      builder.sci.toList := by
    rw [length]
    exact List.append_nil _
  exact (if_pos fits).trans (congrArg (fun rest => some { builder.view with rest }) behind)

end SecTagBuilder

/-! ## Settings -/

namespace TagSetting

/-- The association number that is set, if it is one. -/
def associationNumber? : TagSetting → Option UInt8
  | .associationNumber number => some number
  | _ => none

/-- Whether encryption is set, if it is that. -/
def encrypted? : TagSetting → Option Bool
  | .encrypted isEncrypted => some isEncrypted
  | _ => none

/-- The length that is set, if it is one. -/
def secureDataLength? : TagSetting → Option Nat
  | .secureDataLength length => some length
  | _ => none

/-- The last value that settings give to a parameter. -/
def last? {α : Type} (parameter : TagSetting → Option α) (settings : List TagSetting) : Option α :=
  (settings.filterMap parameter).getLast?

theorem last?_concat {α : Type} (parameter : TagSetting → Option α) (settings : List TagSetting)
    (setting : TagSetting) :
    last? parameter (settings ++ [setting]) =
      (parameter setting).or (last? parameter settings) := by
  rw [last?, List.filterMap_append, List.getLast?_append, last?]
  cases set : parameter setting with
  | none => simp [set]
  | some value => simp [set]

end TagSetting

namespace SecTagBuilder

open TagSetting

/-- The last setting of each parameter counts. -/
theorem setAll_eq (sci : Octets 8) (packetNumber : UInt32) (settings : List TagSetting) :
    setAll { sci, packetNumber } settings =
      { sci, packetNumber
        associationNumber := (last? associationNumber? settings).getD 0
        encrypted := (last? encrypted? settings).getD true
        secureDataLength := last? secureDataLength? settings } := by
  induction settings using List.reverseRecOn with
  | nil => rfl
  | append_singleton settings setting ih =>
      rw [setAll, List.foldl_append, List.foldl_cons, List.foldl_nil, ← setAll, ih, last?_concat,
        last?_concat, last?_concat]
      cases setting with
      | associationNumber number => rfl
      | encrypted isEncrypted => rfl
      | secureDataLength length => rfl

/-- A tag shows what it was built from. -/
structure Shows (tag : SecTag) (sci : Octets 8) (packetNumber : UInt32) (an : UInt8)
    (isEncrypted : Bool) (length : Option Nat) : Prop where
  etherType_eq : tag.etherType = 0x88e5
  tci_eq : tag.tci =
    if isEncrypted then View.Tci.sc ||| View.Tci.e ||| View.Tci.c else View.Tci.sc
  an_eq : tag.associationNumber.toNat = an.toNat
  reserved_eq : tag.reserved = 0
  /-- Only lengths below 48 are shown, and none else is taken for one of them. -/
  shortLength_eq : tag.shortLength.toNat = (length.filter (· < 48)).getD 0
  packetNumber_eq : tag.packetNumber = packetNumber
  sci_eq : tag.sci = sci.toList
  payload_eq : tag.payload = []

theorem shortLength_eq (builder : SecTagBuilder) :
    builder.shortLength = (builder.secureDataLength.filter (· < 48)).getD 0 := by
  rw [shortLength]
  cases builder.secureDataLength with
  | none => rfl
  | some length =>
      by_cases short : length < 48
      · simp [shortLengthLimit, short, Option.filter_some]
      · simp [shortLengthLimit, short, Option.filter_some]

theorem shows_view {builder : SecTagBuilder} (fits : builder.associationNumber ≤ 3) :
    Shows builder.view builder.sci builder.packetNumber builder.associationNumber builder.encrypted
      builder.secureDataLength where
  etherType_eq := rfl
  tci_eq := rfl
  an_eq := toNat_associationNumber_view fits
  reserved_eq := rfl
  shortLength_eq := builder.toNat_shortLength_view.trans builder.shortLength_eq
  packetNumber_eq := rfl
  sci_eq := builder.sci_view
  payload_eq := builder.payload_view

theorem build_eq_error_iff {builder : SecTagBuilder} {error : TransformError} :
    builder.build = .error error ↔
      3 < builder.associationNumber ∧ error = .fieldOverflow "association_number" 2 := by
  rw [build]
  by_cases large : 3 < builder.associationNumber
  · rw [if_pos large]
    simp [large, eq_comm]
  · rw [if_neg large]
    simp [large]

theorem exists_build {builder : SecTagBuilder} (fits : builder.associationNumber ≤ 3) :
    ∃ bytes, builder.build = .ok bytes ∧ SecTag.parse? bytes.toList = some builder.view :=
  ⟨_, if_neg (UInt8.not_lt.mpr fits), SecTag.parse?_toBytes _⟩

/-- **Building a security tag and reading it undo each other**, whatever was set and in
whatever order.  Building is refused for an association number above three, and the tag
that is built otherwise shows the last value of each parameter, or else its default. -/
theorem setAll_build_exact (sci : Octets 8) (packetNumber : UInt32) (settings : List TagSetting) :
    let an := (last? associationNumber? settings).getD 0
    let isEncrypted := (last? encrypted? settings).getD true
    let built := (setAll { sci, packetNumber } settings).build
    ((∃ error, built = .error error) ↔ 3 < an) ∧
    (∀ error, built = .error error → error = .fieldOverflow "association_number" 2) ∧
    (an ≤ 3 → ∃ bytes tag, built = .ok bytes ∧ SecTag.parse? bytes.toList = some tag ∧
      Shows tag sci packetNumber an isEncrypted (last? secureDataLength? settings)) := by
  intro an isEncrypted built
  let builder : SecTagBuilder :=
    { sci, packetNumber
      associationNumber := an
      encrypted := isEncrypted
      secureDataLength := last? secureDataLength? settings }
  have chosen : built = builder.build := congrArg build (setAll_eq sci packetNumber settings)
  rw [chosen]
  refine ⟨?_, fun error failed => (build_eq_error_iff.mp failed).2, fun fits => ?_⟩
  · simp only [build_eq_error_iff, exists_and_left, exists_eq, and_true]
    exact Iff.rfl
  · have narrow : builder.associationNumber ≤ 3 := fits
    obtain ⟨bytes, done, parses⟩ := exists_build narrow
    exact ⟨bytes, builder.view, done, parses, shows_view narrow⟩

/-- A length that is short up to a multiple of 256, set before a number is set twice. -/
theorem setAll_build_exact_long :
    ∃ (bytes : Octets 16) (tag : SecTag),
      (last? associationNumber? [.secureDataLength 258, .associationNumber 4, .encrypted false,
        .associationNumber 3]).getD 0 ≤ 3 ∧
      (setAll { sci := .replicate 8 7, packetNumber := 9 } [.secureDataLength 258,
        .associationNumber 4, .encrypted false, .associationNumber 3]).build = .ok bytes ∧
      SecTag.parse? bytes.toList = some tag ∧
      Shows tag (.replicate 8 7) 9 3 false (some 258) ∧ tag.shortLength = 0 := by
  obtain ⟨-, -, builds⟩ := setAll_build_exact (.replicate 8 7) 9 [.secureDataLength 258,
    .associationNumber 4, .encrypted false, .associationNumber 3]
  obtain ⟨bytes, tag, built, parses, shown⟩ := builds (by decide)
  exact ⟨bytes, tag, by decide, built, parses, shown,
    BitVec.eq_of_toNat_eq shown.shortLength_eq⟩

end SecTagBuilder

end PacketProtection.Macsec

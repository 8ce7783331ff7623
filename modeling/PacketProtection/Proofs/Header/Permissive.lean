import PacketProtection.Proofs.Header.DropMark

/-!
# Hosts that take every value

A pipeline may keep its fields in any widths, and check none of them.  Such a
host is *permissive*: under a name that is there it takes every value, gives it
back, and leaves the other fields alone.

*Numbers.*  The width of a number is that of the value it replaces, and the host
does not see to it.  A field *stores a number faithfully* if the number is refused
exactly when it needs more bytes than the field has, and otherwise takes these
bytes (`StoresNumber`).  On a permissive host every field of at most eight bytes
does, down to a field of no bytes (`storesNumber_of_le`).  A wider one stops the
program (`setUint_of_wide`).

*Drop marks.*  So whether a packet can be marked for dropping is a matter of the
widths of two fields (`exists_markDrop_iff`).
-/

namespace PacketProtection

open HeaderHost

/-- A host that keeps values of any width. -/
class PermissiveHost (H : Type) [HeaderHost H] : Prop where
  /-- A field that is there takes every value. -/
  accepts {host : H} {name : String} {current : Bytes} :
    get host name = .ok current → ∀ value, Accepts host name value
  /-- A stored value is read back. -/
  get_set {host next : H} {name : String} {value : Bytes} :
    set host name value = .ok next → get next name = .ok value
  /-- Storing under a name changes no other field. -/
  get_set_of_ne {host next : H} {name other : String} {value : Bytes} :
    set host name value = .ok next → other ≠ name → get next other = get host other

instance : PermissiveHost LooseFields where
  accepts present _ := LooseFields.accepts_iff.mpr ⟨_, present⟩
  get_set stored := LooseFields.get_set_self stored
  get_set_of_ne stored different := LooseFields.get_set_of_ne stored different

namespace HeaderHost

/-- A field of a width stores a number faithfully. -/
structure StoresNumber {H : Type} [HeaderHost H] (host : H) (name : String) (width : Nat)
    (number : UInt64) : Prop where
  /-- The program does not stop. -/
  total : setUint host name number ≠ .error .abort
  ok_iff : (∃ next, setUint host name number = .ok next) ↔ number.toNat < 256 ^ width
  stored : ∀ next, setUint host name number = .ok next →
    get next name = .ok (Bytes.ofNat width number.toNat) ∧ getUint next name = .ok number ∧
      ∀ other ≠ name, get next other = get host other
  refused : 256 ^ width ≤ number.toNat →
    setUint host name number = .error (.error (.fieldOverflow name (8 * width)))

section Permissive

variable {H : Type} [HeaderHost H] [PermissiveHost H] {host : H} {name : String}
  {current : Bytes}

/-- A number that fits is stored. -/
theorem exists_setUint (present : get host name = .ok current) (narrow : current.length ≤ 8)
    {number : UInt64} (fits : number.toNat < 256 ^ current.length) :
    ∃ next, setUint host name number = .ok next := by
  obtain ⟨next, stored⟩ := PermissiveHost.accepts present (Bytes.ofNat current.length number.toNat)
  rw [setUint_of_get present narrow fits, stored]
  exact ⟨next, rfl⟩

/-- What is stored is the number, in the width of the value it replaced. -/
theorem stored_of_setUint (present : get host name = .ok current) {number : UInt64} {next : H}
    (stored : setUint host name number = .ok next) :
    get next name = .ok (Bytes.ofNat current.length number.toNat) ∧
      getUint next name = .ok number ∧ ∀ other ≠ name, get next other = get host other := by
  obtain ⟨found, foundPresent, fits, done⟩ := setUint_eq_ok stored
  obtain rfl := Except.ok.inj (present.symm.trans foundPresent)
  have kept := PermissiveHost.get_set done
  exact ⟨kept, getUint_of_get_ofNat kept fits, fun other different =>
    PermissiveHost.get_set_of_ne done different⟩

theorem storesNumber_of_le (present : get host name = .ok current) (narrow : current.length ≤ 8)
    (number : UInt64) : StoresNumber host name current.length number := by
  have refused (large : 256 ^ current.length ≤ number.toNat) :=
    setUint_of_overflow present large
  refine ⟨?_, ⟨?_, exists_setUint present narrow⟩, fun next => stored_of_setUint present, refused⟩
  · intro stopped
    by_cases fits : number.toNat < 256 ^ current.length
    · obtain ⟨next, stored⟩ := exists_setUint present narrow fits
      cases stopped.symm.trans stored
    · cases stopped.symm.trans (refused (Nat.le_of_not_lt fits))
  · rintro ⟨next, stored⟩
    by_contra large
    cases stored.symm.trans (refused (Nat.le_of_not_lt large))

/-- **Numbers are stored faithfully up to a width of eight bytes.**  A field of more
bytes takes no number at all: storing one stops the program. -/
theorem setUint_permissive (host : H) (name : String) {current : Bytes}
    (present : get host name = .ok current) (number : UInt64) :
    (StoresNumber host name current.length number ↔ current.length ≤ 8) ∧
      (8 < current.length → setUint host name number = .error .abort) := by
  refine ⟨⟨?_, fun narrow => storesNumber_of_le present narrow number⟩,
    fun wide => setUint_of_wide present wide number⟩
  intro faithful
  by_contra wide
  exact faithful.total (setUint_of_wide present (Nat.lt_of_not_le wide) number)

end Permissive

/-- A field of no bytes, one of eight and one of nine. -/
theorem setUint_permissive_widths :
    ∃ host : LooseFields,
      host = ⟨[("none", []), ("eight", List.replicate 8 0), ("nine", List.replicate 9 0)]⟩ ∧
      get host "none" = .ok [] ∧ get host "eight" = .ok (List.replicate 8 0) ∧
      get host "nine" = .ok (List.replicate 9 0) ∧
      StoresNumber host "none" 0 0 ∧ StoresNumber host "none" 0 1 ∧
      StoresNumber host "eight" 8 0xffffffffffffffff ∧ ¬StoresNumber host "nine" 9 1 ∧
      setUint host "nine" 1 = .error .abort := by
  let host : LooseFields :=
    ⟨[("none", []), ("eight", List.replicate 8 0), ("nine", List.replicate 9 0)]⟩
  have none : get host "none" = .ok [] := by decide
  have eight : get host "eight" = .ok (List.replicate 8 0) := by decide
  have nine : get host "nine" = .ok (List.replicate 9 0) := by decide
  obtain ⟨wide, stops⟩ := setUint_permissive host "nine" nine 1
  exact ⟨host, rfl, none, eight, nine, (setUint_permissive host "none" none 0).1.mpr (by decide),
    (setUint_permissive host "none" none 1).1.mpr (by decide),
    (setUint_permissive host "eight" eight 0xffffffffffffffff).1.mpr (by decide),
    fun faithful => absurd (wide.mp faithful) (by decide), stops (by decide)⟩

/-- Nine bytes are too many, although every number fits them. -/
theorem setUint_nine_bytes :
    ¬∀ (H : Type) [HeaderHost H] [PermissiveHost H] (host : H) (name : String) (current : Bytes)
        (number : UInt64), get host name = .ok current →
      StoresNumber host name current.length number := by
  intro faithful
  let host : LooseFields := ⟨[("egress_spec", List.replicate 9 0), ("mcast_grp", [0, 0])]⟩
  have present : get host "egress_spec" = .ok (List.replicate 9 0) := by decide
  have stops : setUint host "egress_spec" 1 = .error .abort := by decide
  exact (faithful LooseFields host "egress_spec" _ 1 present).total stops

/-! ## Drop marks -/

/-- The mark of the egress needs two bytes; none of the two fields may have more
than eight. -/
theorem exists_markDrop_iff {H : Type} [HeaderHost H] [PermissiveHost H] {metadata : H}
    {egress group : Bytes} (hasEgress : get metadata "egress_spec" = .ok egress)
    (hasGroup : get metadata "mcast_grp" = .ok group) :
    (∃ marked, markDrop metadata = (.ok (), marked)) ↔
      2 ≤ egress.length ∧ egress.length ≤ 8 ∧ group.length ≤ 8 := by
  have fits : dropEgress.toNat < 256 ^ egress.length ↔ 2 ≤ egress.length := by
    constructor
    · intro small
      by_contra short
      have least : 256 ^ egress.length ≤ 256 ^ 1 := Nat.pow_le_pow_right (by decide) (by omega)
      exact absurd (Nat.lt_of_lt_of_le small least) (by decide)
    · intro enough
      exact Nat.lt_of_lt_of_le (by decide : dropEgress.toNat < 256 ^ 2)
        (Nat.pow_le_pow_right (by decide) enough)
  constructor
  · rintro ⟨marked, done⟩
    obtain ⟨between, first, second⟩ := markDrop_eq_ok done
    obtain ⟨-, -, others⟩ := stored_of_setUint hasEgress first
    have stillGroup : get between "mcast_grp" = .ok group :=
      (others "mcast_grp" (by decide)).trans hasGroup
    refine ⟨?_, ?_, ?_⟩
    · rw [← fits]
      by_contra large
      cases first.symm.trans (setUint_of_overflow hasEgress (Nat.le_of_not_lt large))
    · by_contra wide
      cases first.symm.trans (setUint_of_wide hasEgress (Nat.lt_of_not_le wide) dropEgress)
    · by_contra wide
      cases second.symm.trans (setUint_of_wide stillGroup (Nat.lt_of_not_le wide) 0)
  · rintro ⟨enough, narrow, groupNarrow⟩
    obtain ⟨between, first⟩ := exists_setUint hasEgress narrow (fits.mpr enough)
    obtain ⟨-, -, others⟩ := stored_of_setUint hasEgress first
    have stillGroup : get between "mcast_grp" = .ok group :=
      (others "mcast_grp" (by decide)).trans hasGroup
    have zeroFits : (0 : UInt64).toNat < 256 ^ group.length := Nat.pow_pos (by decide)
    obtain ⟨marked, second⟩ := exists_setUint stillGroup groupNarrow zeroFits
    refine ⟨marked, ?_⟩
    rw [markDrop, first]
    simp only
    rw [second]

end HeaderHost

end PacketProtection

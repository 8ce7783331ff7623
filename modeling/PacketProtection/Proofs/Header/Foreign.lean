import Mathlib.Data.List.TakeWhile
import PacketProtection.Proofs.Header.Permissive
import PacketProtection.Proofs.Header.Refusal

/-!
# Headers of foreign hosts

A foreign pipeline hands over fields of its own making: some may be missing, and the
others may have any width and value.

*Packing* asks every field of the layout for a value that fits (`Fits`).  The first field
that has none decides the error, and each reason has its own (`Misfit`).  This holds of any
host, whatever it does with what is stored in it (`packsWhereFits`).

*Unpacking* does not look at what the fields held.  On a host that takes every value under a
name that is there, and makes no field by storing, it goes on as far as the fields are there
(`present`): these hold the new values, all else is as before (`storesPresent_storeFields`,
by induction over the fields of the layout).  Whether a field is there does not change on the
way, since the names of a layout are different.
-/

namespace PacketProtection

open HeaderHost

/-! ## Why a header is not packed -/

namespace HeaderHost

section Packing

variable {H : Type} [HeaderHost H]

/-- A field of a host that can be packed: it is there, with the bytes and the bits that the
layout gives it. -/
def Fits (host : H) (f : BitField) : Prop :=
  ∃ value, get host f.name = .ok value ∧ value.length = f.byteWidth ∧ value.toNat < 2 ^ f.width

/-- Why a field of a host cannot be packed. -/
inductive Misfit (host : H) (f : BitField) : TransformError → Prop
  /-- There is no such field; the host says so in its own words. -/
  | missing {cause : TransformError} : get host f.name = .error cause → Misfit host f cause
  | length {value : Bytes} : get host f.name = .ok value → value.length ≠ f.byteWidth →
      Misfit host f (.fieldWidth f.name f.byteWidth value.length)
  | bits {value : Bytes} : get host f.name = .ok value → value.length = f.byteWidth →
      2 ^ f.width ≤ value.toNat → Misfit host f (.fieldOverflow f.name f.width)

theorem fieldFault?_eq_none {host : H} {f : BitField} (narrow : f.width ≤ 64) :
    fieldFault? host f = none ↔ Fits host f := by
  unfold fieldFault? Fits
  cases get host f.name with
  | error cause => simp
  | ok value =>
      have checked := @BitField.check_eq_ok_iff f value narrow
      cases fits : f.check value with
      | error cause =>
          rw [fits] at checked
          simpa [fits] using checked
      | ok _ =>
          rw [fits] at checked
          simpa [fits] using checked

theorem fieldFault?_eq_some {host : H} {f : BitField} (narrow : f.width ≤ 64)
    {cause : TransformError} : fieldFault? host f = some cause ↔ Misfit host f cause := by
  constructor
  · intro fault
    unfold fieldFault? at fault
    split at fault
    next absent =>
      cases fault
      exact .missing absent
    next value found =>
      split at fault
      next unfit =>
        cases fault
        rcases BitField.check_eq_error unfit with ⟨wrongLength, rfl⟩ | ⟨rightLength, large, rfl⟩
        · exact .length found wrongLength
        · exact .bits found rightLength large
      · cases fault
  · intro misfit
    unfold fieldFault?
    cases misfit with
    | missing absent => rw [absent]
    | length found wrongLength =>
        rw [found]
        simp only
        rw [BitField.check, if_pos wrongLength]
    | bits found rightLength large =>
        rw [found]
        simp only
        rw [BitField.check_of_large narrow rightLength large]

/-- Packing succeeds on fields that fit, and else gives the reason of the first that does
not. -/
structure PacksWhereFits (layout : HeaderLayout) (host : H) : Prop where
  ok_iff : (∃ raw, pack layout host = .ok raw) ↔ ∀ f ∈ layout.fields, Fits host f
  error_iff : ∀ cause, pack layout host = .error cause ↔
    ∃ before f after, layout.fields = before ++ f :: after ∧ (∀ g ∈ before, Fits host g) ∧
      Misfit host f cause

theorem packsWhereFits {layout : HeaderLayout} (narrow : ∀ f ∈ layout.fields, f.width ≤ 64)
    (host : H) : PacksWhereFits layout host where
  ok_iff := by
    rw [exists_pack_iff]
    exact forall₂_congr fun f member => fieldFault?_eq_none (narrow f member)
  error_iff cause := by
    rw [pack_eq_error]
    refine exists₃_congr fun before f after => and_congr_right fun split => ?_
    have inLayout : ∀ g ∈ before ++ f :: after, g.width ≤ 64 := split ▸ narrow
    have earlier : (∀ g ∈ before, fieldFault? host g = none) ↔ ∀ g ∈ before, Fits host g :=
      forall₂_congr fun g member =>
        fieldFault?_eq_none (inLayout g (List.mem_append_left _ member))
    rw [earlier, fieldFault?_eq_some (inLayout f (List.mem_append_right _ (.head _))), and_comm]

end Packing

end HeaderHost

/-! ## How far a header is unpacked -/

/-- A permissive host that makes no field by storing. -/
class ClosedHost (H : Type) [HeaderHost H] : Prop extends PermissiveHost H where
  /-- A field that is not there takes no value. -/
  refuses {host : H} {name : String} {cause : TransformError} :
    get host name = .error cause → ∀ value, ∃ reason, set host name value = .error reason

theorem LooseFields.get_eq_error {fields : LooseFields} {name : String} {cause : TransformError} :
    fields.get name = .error cause ↔
      fields.toList.lookup name = none ∧ cause = .unknownField name := by
  unfold LooseFields.get
  split
  next present => simp [present]
  next absent => simp [absent, eq_comm]

instance : ClosedHost LooseFields where
  refuses {host name cause} absent value := by
    have missing : host.get name = .error cause := absent
    exact ⟨cause, by
      show host.set name value = _
      rw [LooseFields.set, missing]
      rfl⟩

namespace HeaderHost

variable {H : Type} [HeaderHost H]

/-- Has the host a field of the name? -/
def isPresent (host : H) (name : String) : Bool :=
  (get host name).isOk

/-- The fields before the first that the host does not have. -/
def present (host : H) (fields : List BitField) : List BitField :=
  fields.takeWhile fun f => isPresent host f.name

/-- What storing the fields of a header in a host does. -/
structure StoresPresent (raw : Bytes) (fields : List BitField) (host : H)
    (outcome : Except TransformError Unit × H) : Prop where
  ok_iff : outcome.1 = .ok () ↔ ∀ f ∈ fields, ∃ value, get host f.name = .ok value
  stored : ∀ f ∈ present host fields, get outcome.2 f.name = .ok (f.read raw)
  kept : ∀ name ∉ (present host fields).map (·.name), get outcome.2 name = get host name
  /-- The error is the host's answer to the first field that is missing. -/
  error_eq : ∀ cause, outcome.1 = .error cause →
    ∃ f after, fields = present host fields ++ f :: after ∧
      set outcome.2 f.name (f.read raw) = .error cause

section Present

variable {host : H} {f : BitField} {rest : List BitField}

theorem isPresent_of_get {name : String} {value : Bytes} (found : get host name = .ok value) :
    isPresent host name = true := by
  rw [isPresent, found]
  rfl

theorem present_cons_of_get {value : Bytes} (found : get host f.name = .ok value) :
    present host (f :: rest) = f :: present host rest :=
  List.takeWhile_cons_of_pos (isPresent_of_get found)

theorem present_cons_of_missing {cause : TransformError} (absent : get host f.name = .error cause) :
    present host (f :: rest) = [] := by
  apply List.takeWhile_cons_of_neg
  rw [isPresent, absent]
  exact Bool.false_ne_true

theorem mem_of_mem_present (member : f ∈ present host rest) : f ∈ rest :=
  List.takeWhile_sublist _ |>.subset member

theorem present_eq_self (all : ∀ f ∈ rest, ∃ value, get host f.name = .ok value) :
    present host rest = rest := by
  rw [present, List.takeWhile_eq_self_iff]
  intro f member
  obtain ⟨value, found⟩ := all f member
  exact isPresent_of_get found

/-- Hosts with the same values have the same fields. -/
theorem present_congr {other : H} (same : ∀ f ∈ rest, get other f.name = get host f.name) :
    present other rest = present host rest := by
  induction rest with
  | nil => rfl
  | cons f rest ih =>
      have later := ih fun g member => same g (.tail _ member)
      rw [present, present, List.takeWhile_cons, List.takeWhile_cons, isPresent,
        same f (.head _), ← isPresent]
      exact if_congr Iff.rfl (congrArg _ later) rfl

end Present

/-! ### Field by field -/

namespace StoresPresent

variable {raw : Bytes} {host : H} {f : BitField} {rest : List BitField}

theorem nil (raw : Bytes) (host : H) : StoresPresent raw [] host (.ok (), host) where
  ok_iff := iff_of_true rfl (List.forall_mem_nil _)
  stored _ member := by cases member
  kept _ _ := rfl
  error_eq _ failed := by cases failed

/-- Storing stops at a field that is missing. -/
theorem missing {cause reason : TransformError} (absent : get host f.name = .error cause)
    (refused : set host f.name (f.read raw) = .error reason) :
    StoresPresent raw (f :: rest) host (.error reason, host) where
  ok_iff := by
    refine iff_of_false (fun done => by cases done) fun all => ?_
    obtain ⟨value, there⟩ := all f (.head _)
    cases there.symm.trans absent
  stored g member := by
    rw [present_cons_of_missing absent] at member
    cases member
  kept _ _ := rfl
  error_eq _ failed := by
    cases failed
    exact ⟨f, rest, by rw [present_cons_of_missing absent]; rfl, refused⟩

/-- A field that is there is overwritten, and the names behind it are other ones. -/
theorem cons [PermissiveHost H] {value : Bytes} {next : H}
    {outcome : Except TransformError Unit × H} (found : get host f.name = .ok value)
    (here : set host f.name (f.read raw) = .ok next) (notLater : f.name ∉ rest.map (·.name))
    (stores : StoresPresent raw rest next outcome) :
    StoresPresent raw (f :: rest) host outcome := by
  have others : ∀ g ∈ rest, get next g.name = get host g.name := fun g member =>
    PermissiveHost.get_set_of_ne here fun same =>
      notLater (same ▸ List.mem_map_of_mem member)
  have front : present host (f :: rest) = f :: present next rest := by
    rw [present_cons_of_get found, present_congr others]
  obtain ⟨ok_iff, stored, kept, error_eq⟩ := stores
  constructor
  case ok_iff =>
    rw [ok_iff, List.forall_mem_cons]
    simp only [found, Except.ok.injEq, exists_eq', true_and]
    exact forall₂_congr fun g member => by rw [others g member]
  case stored =>
    intro g member
    rw [front] at member
    rcases List.mem_cons.mp member with rfl | later
    · have untouched : g.name ∉ (present next rest).map (·.name) := fun again => by
        obtain ⟨h, inFront, same⟩ := List.mem_map.mp again
        exact notLater (same ▸ List.mem_map_of_mem (mem_of_mem_present inFront))
      exact (kept _ untouched).trans (PermissiveHost.get_set here)
    · exact stored g later
  case kept =>
    intro name outside
    rw [front, List.map_cons, List.mem_cons, not_or] at outside
    exact (kept name outside.2).trans (PermissiveHost.get_set_of_ne here outside.1)
  case error_eq =>
    intro cause failed
    obtain ⟨g, after, split, refused⟩ := error_eq cause failed
    exact ⟨g, after, by rw [front, List.cons_append, ← split], refused⟩

end StoresPresent

/-- A foreign host takes the fields up to the first that is missing. -/
theorem storesPresent_storeFields [ClosedHost H] (raw : Bytes) {fields : List BitField}
    (names : (fields.map (·.name)).Nodup) (host : H) :
    StoresPresent raw fields host (storeFields raw fields host) := by
  induction fields generalizing host with
  | nil => exact .nil raw host
  | cons f rest ih =>
      rw [List.map_cons, List.nodup_cons] at names
      rw [storeFields]
      cases found : get host f.name with
      | error cause =>
          obtain ⟨reason, refused⟩ := ClosedHost.refuses found (f.read raw)
          rw [refused]
          exact .missing found refused
      | ok current =>
          obtain ⟨next, here⟩ := PermissiveHost.accepts found (f.read raw)
          rw [here]
          exact .cons found here names.1 (ih names.2 next)

/-- A header that was unpacked into the host is packed again, its free bits cleared. -/
theorem pack_of_storesPresent {layout : HeaderLayout} {raw : Bytes}
    (enough : layout.length ≤ raw.length) {host : H} {outcome : Except TransformError Unit × H}
    (stores : StoresPresent (raw.take layout.length) layout.fields host outcome)
    (done : outcome.1 = .ok ()) : pack layout outcome.2 = .ok (layout.cleared raw) := by
  rw [← layout.cleared_take raw]
  apply pack_of_get (List.length_take_of_le enough)
  intro f member
  apply stores.stored
  rw [present_eq_self (stores.ok_iff.mp done)]
  exact member

/-- **Any host is packed exactly if all fields of the layout fit, and a foreign host is
unpacked into as far as it has the fields.**  The first field in the order of the layout that
does not fit gives the error of packing.  Unpacking overwrites the fields before the first
that is missing, all of them if none is, and nothing else; what was unpacked whole is packed
again.  Loose fields are such a host, and name the field that is missing. -/
theorem foreign_headers {layout : HeaderLayout} (proper : layout.Proper) :
    (∀ {H : Type} [HeaderHost H] (host : H), PacksWhereFits layout host) ∧
    (∀ {H : Type} [HeaderHost H] [ClosedHost H] (host : H) (raw : Bytes),
      layout.length ≤ raw.length →
      StoresPresent (raw.take layout.length) layout.fields host (unpack layout raw host) ∧
      ((unpack layout raw host).1 = .ok () →
        pack layout (unpack layout raw host).2 = .ok (layout.cleared raw))) ∧
    ∀ (fields : LooseFields) (name : String) (cause : TransformError),
      get fields name = .error cause ↔
        fields.toList.lookup name = none ∧ cause = .unknownField name := by
  refine ⟨fun host => packsWhereFits proper.narrow host, ?_, fun fields name cause =>
    LooseFields.get_eq_error⟩
  intro H _ _ host raw enough
  have stores : StoresPresent (raw.take layout.length) layout.fields host
      (unpack layout raw host) := by
    rw [unpack_of_le enough]
    exact storesPresent_storeFields _ proper.names_nodup host
  exact ⟨stores, pack_of_storesPresent enough stores⟩

/-- A field of too many bytes, one that is missing in one of two hosts, and one behind it. -/
theorem foreign_headers_missing_field :
    ∃ (layout : HeaderLayout) (partly whole : LooseFields) (raw : Bytes),
      layout = ⟨"mixed", [⟨"early", 3, 4⟩, ⟨"between", 9, 9⟩, ⟨"late", 20, 3⟩]⟩ ∧
      partly = ⟨[("late", [5]), ("early", [1, 2, 3])]⟩ ∧
      whole = ⟨[("other", [6]), ("between", []), ("late", [5]), ("early", [1, 2, 3])]⟩ ∧
      raw = List.replicate 5 0xff ∧ layout.Proper ∧ layout.length ≤ raw.length ∧
      pack layout partly = .error (.fieldWidth "early" 1 3) ∧
      unpack layout raw partly =
        (.error (.unknownField "between"), ⟨[("late", [5]), ("early", [15])]⟩) ∧
      get (unpack layout raw partly).2 "early" = .ok [15] ∧
      get (unpack layout raw partly).2 "late" = get partly "late" ∧
      (unpack layout raw whole).1 = .ok () ∧
      get (unpack layout raw whole).2 "other" = .ok [6] ∧
      pack layout (unpack layout raw whole).2 = .ok [0x1e, 0x7f, 0xce] := by
  let layout : HeaderLayout := ⟨"mixed", [⟨"early", 3, 4⟩, ⟨"between", 9, 9⟩, ⟨"late", 20, 3⟩]⟩
  let partly : LooseFields := ⟨[("late", [5]), ("early", [1, 2, 3])]⟩
  let whole : LooseFields :=
    ⟨[("other", [6]), ("between", []), ("late", [5]), ("early", [1, 2, 3])]⟩
  let raw : Bytes := List.replicate 5 0xff
  have proper : layout.Proper := ⟨by decide, by decide, by decide⟩
  have enough : layout.length ≤ raw.length := by decide
  obtain ⟨packs, unpacks, named⟩ := foreign_headers proper
  obtain ⟨stops, -⟩ := unpacks partly raw enough
  obtain ⟨goes, again⟩ := unpacks whole raw enough
  have done : (unpack layout raw whole).1 = .ok () :=
    goes.ok_iff.mpr (LooseFields.has_iff.mpr (by decide))
  have misfit : Misfit partly ⟨"early", 3, 4⟩ (.fieldWidth "early" 1 3) :=
    .length (show _ = Except.ok [1, 2, 3] by decide) (by decide)
  refine ⟨layout, partly, whole, raw, rfl, rfl, rfl, rfl, proper, enough, ?_, by decide +kernel,
    ?_, ?_, done, ?_, ?_⟩
  · exact ((packs partly).error_iff _).mpr ⟨[], _, _, rfl, nofun, misfit⟩
  · exact (stops.stored ⟨"early", 3, 4⟩ (by decide)).trans (by decide +kernel)
  · exact stops.kept "late" (by decide)
  · exact goes.kept "other" (by decide)
  · exact (again done).trans (by decide +kernel)

end HeaderHost

end PacketProtection

import Mathlib.Data.List.Nodup
import PacketProtection.Header.FieldSet
import PacketProtection.Proofs.Header.LawfulHost

/-!
# Field sets and loose fields are lawful

Both hosts of the library keep what is stored in them.  A field set asks the
first field of a name whether it takes a value (`FieldSet.set_eq_ok`); loose
fields take any value under a name that is there (`LooseFields.set_eq_ok`).

*Field sets of a layout.*  A field set is *of* a layout when its slots are the
fields of the layout and every value fits its slot.  The zeroed set is of its
layout, and whatever is stored keeps it so (`FieldSet.Of.set`).
-/

namespace PacketProtection

open HeaderHost

section Results

variable {ε α β : Type} {f : α → β} {result : Except ε α}

theorem map_eq_ok {value : β} :
    result.map f = .ok value ↔ ∃ found, result = .ok found ∧ f found = value := by
  cases result <;> simp [Except.map]

theorem map_eq_error {cause : ε} : result.map f = .error cause ↔ result = .error cause := by
  cases result <;> simp [Except.map]

theorem bind_eq_ok {next : α → Except ε β} {value : β} :
    (result >>= next) = .ok value ↔ ∃ found, result = .ok found ∧ next found = .ok value := by
  cases result <;> simp [bind, Except.bind]

end Results

/-! ## Slots -/

namespace Slot

theorem map_field_replace (name : String) (value : Bytes) (slots : List Slot) :
    (replace name value slots).map (·.field) = slots.map (·.field) := by
  induction slots with
  | nil => rfl
  | cons slot rest ih =>
      rw [replace]
      split
      · rfl
      · rw [List.map_cons, List.map_cons, ih]

theorem find?_replace_self {name : String} {value : Bytes} {slots : List Slot} {found : Slot}
    (present : slots.find? (·.field.name = name) = some found) :
    (replace name value slots).find? (·.field.name = name) = some { found with value } := by
  induction slots with
  | nil => cases present
  | cons slot rest ih =>
      rw [List.find?_cons] at present
      by_cases here : slot.field.name = name
      · rw [replace, if_pos here, List.find?_cons]
        simp only [here, decide_true] at present ⊢
        cases present
        rfl
      · rw [replace, if_neg here, List.find?_cons]
        simp only [here, decide_false] at present ⊢
        exact ih present

theorem find?_replace_of_ne {name other : String} (different : other ≠ name) (value : Bytes)
    (slots : List Slot) :
    (replace name value slots).find? (·.field.name = other) =
      slots.find? (·.field.name = other) := by
  induction slots with
  | nil => rfl
  | cons slot rest ih =>
      by_cases here : slot.field.name = name
      · have elsewhere : slot.field.name ≠ other := fun same => different (same.symm.trans here)
        rw [replace, if_pos here, List.find?_cons, List.find?_cons]
        simp only [elsewhere, decide_false]
      · rw [replace, if_neg here, List.find?_cons, List.find?_cons, ih]

end Slot

namespace FieldSet

theorem slot_eq_ok {fields : FieldSet} {name : String} {slot : Slot} :
    fields.slot name = .ok slot ↔ fields.slots.find? (·.field.name = name) = some slot := by
  unfold FieldSet.slot
  split
  next found present => rw [present, Option.some_inj, Except.ok.injEq]
  next absent => rw [absent]; simp

theorem slot_error {fields : FieldSet} {name : String} {cause : TransformError}
    (absent : fields.slot name = .error cause) : ∃ shown, cause = .unknownField shown := by
  unfold FieldSet.slot at absent
  split at absent
  · cases absent
  · cases absent
    exact ⟨_, rfl⟩

theorem get_eq_ok {fields : FieldSet} {name : String} {value : Bytes} :
    fields.get name = .ok value ↔ ∃ slot, fields.slot name = .ok slot ∧ slot.value = value :=
  map_eq_ok

/-- A value is stored when the first field of the name takes it. -/
theorem set_eq_ok {fields next : FieldSet} {name : String} {value : Bytes} :
    fields.set name value = .ok next ↔
      ∃ slot, fields.slot name = .ok slot ∧ slot.field.check value = .ok () ∧
        next = { fields with slots := Slot.replace name value fields.slots } := by
  rw [set]
  cases fields.slot name with
  | error cause => simp
  | ok slot =>
      cases fits : slot.field.check value with
      | error cause => simp [Except.map, fits]
      | ok _ => simp [Except.map, fits, eq_comm]

theorem slot_set_of_ne {fields next : FieldSet} {name other : String} {value : Bytes}
    (stored : fields.set name value = .ok next) (different : other ≠ name) (slot : Slot) :
    next.slot other = .ok slot ↔ fields.slot other = .ok slot := by
  obtain ⟨-, -, -, rfl⟩ := set_eq_ok.mp stored
  rw [slot_eq_ok, slot_eq_ok, Slot.find?_replace_of_ne different]

theorem slot_set_self {fields next : FieldSet} {name : String} {value : Bytes} {slot : Slot}
    (stored : fields.set name value = .ok next) (before : fields.slot name = .ok slot) :
    next.slot name = .ok { slot with value } := by
  obtain ⟨-, -, -, rfl⟩ := set_eq_ok.mp stored
  rw [slot_eq_ok] at before ⊢
  exact Slot.find?_replace_self before

theorem layout_set {fields next : FieldSet} {name : String} {value : Bytes}
    (stored : fields.set name value = .ok next) : next.layout = fields.layout := by
  obtain ⟨-, -, -, rfl⟩ := set_eq_ok.mp stored
  rw [FieldSet.layout, FieldSet.layout, Slot.map_field_replace]

/-- A name is bound to the same field before and after a value is stored. -/
theorem field_set {fields next : FieldSet} {name other : String} {value : Bytes} {f : BitField}
    (stored : fields.set name value = .ok next) :
    (∃ slot, next.slot other = .ok slot ∧ slot.field = f) ↔
      ∃ slot, fields.slot other = .ok slot ∧ slot.field = f := by
  by_cases same : other = name
  · subst same
    obtain ⟨slot, before, -, -⟩ := set_eq_ok.mp stored
    have after := slot_set_self stored before
    rw [before, after]
    simp
  · simp only [slot_set_of_ne stored same]

theorem accepts_iff {fields : FieldSet} {name : String} {value : Bytes} :
    Accepts fields name value ↔
      ∃ f, (∃ slot, fields.slot name = .ok slot ∧ slot.field = f) ∧ f.check value = .ok () := by
  constructor
  · rintro ⟨next, stored⟩
    obtain ⟨slot, found, fits, -⟩ := set_eq_ok.mp stored
    exact ⟨slot.field, ⟨slot, found, rfl⟩, fits⟩
  · rintro ⟨f, ⟨slot, found, rfl⟩, fits⟩
    exact ⟨_, set_eq_ok.mpr ⟨slot, found, fits, rfl⟩⟩

theorem get_eq_error {fields : FieldSet} {name : String} {cause : TransformError} :
    fields.get name = .error cause ↔ fields.slot name = .error cause :=
  map_eq_error

theorem set_eq_error {fields : FieldSet} {name : String} {value : Bytes}
    {cause : TransformError} :
    fields.set name value = .error cause ↔
      fields.slot name = .error cause ∨
        ∃ slot, fields.slot name = .ok slot ∧ slot.field.check value = .error cause := by
  rw [set]
  cases fields.slot name with
  | error reason => simp
  | ok slot => simp [map_eq_error]

instance : LawfulHost FieldSet where
  get_set stored := by
    obtain ⟨slot, before, -, -⟩ := set_eq_ok.mp stored
    exact get_eq_ok.mpr ⟨_, slot_set_self stored before, rfl⟩
  get_set_of_ne {host next name other value} stored different := by
    obtain ⟨-, -, -, rfl⟩ := set_eq_ok.mp stored
    show FieldSet.get _ other = FieldSet.get host other
    rw [FieldSet.get, FieldSet.get, FieldSet.slot, FieldSet.slot,
      Slot.find?_replace_of_ne different]
  accepts_set_iff stored := by
    rw [accepts_iff, accepts_iff]
    exact exists_congr fun f => and_congr_left fun _ => field_set stored
  get_error absent := by
    obtain ⟨shown, rfl⟩ := slot_error (get_eq_error.mp absent)
    rfl
  set_error refused := by
    rcases set_eq_error.mp refused with absent | ⟨slot, -, unfit⟩
    · obtain ⟨shown, rfl⟩ := slot_error absent
      rfl
    · exact BitField.check_error_not_malformed unfit

/-! ## Field sets of a layout -/

/-- The slots are the fields of the layout, and every value fits its slot. -/
structure Of (layout : HeaderLayout) (fields : FieldSet) : Prop where
  layout_eq : fields.layout = layout
  fits : ∀ slot ∈ fields.slots, slot.field.check slot.value = .ok ()

theorem check_zero (f : BitField) : f.check (List.replicate f.byteWidth 0) = .ok () := by
  have zero (count : Nat) : Bytes.toNat (List.replicate count 0) = 0 := by
    induction count with
    | zero => rfl
    | succ count ih =>
        rw [List.replicate_succ', Bytes.toNat_append, ih, Bytes.toNat_singleton]
        rfl
  rw [BitField.check_eq_ok, zero]
  exact ⟨List.length_replicate, fun _ => Nat.two_pow_pos _⟩

theorem Of.new (layout : HeaderLayout) : Of layout (FieldSet.new layout) where
  layout_eq := by
    rw [FieldSet.layout, FieldSet.new, List.map_map]
    show HeaderLayout.mk _ (layout.fields.map id) = layout
    rw [List.map_id]
  fits slot member := by
    obtain ⟨f, -, rfl⟩ := List.mem_map.mp member
    exact check_zero f

theorem mem_replace {name : String} {value : Bytes} {slots : List Slot} {slot found : Slot}
    (present : slots.find? (·.field.name = name) = some found)
    (member : slot ∈ Slot.replace name value slots) :
    slot ∈ slots ∨ slot = { found with value } := by
  induction slots with
  | nil => cases present
  | cons first rest ih =>
      rw [List.find?_cons] at present
      by_cases here : first.field.name = name
      · simp only [here, decide_true] at present
        cases present
        rw [Slot.replace, if_pos here] at member
        rcases List.mem_cons.mp member with rfl | later
        · exact .inr rfl
        · exact .inl (.tail _ later)
      · simp only [here, decide_false] at present
        rw [Slot.replace, if_neg here] at member
        rcases List.mem_cons.mp member with rfl | later
        · exact .inl (.head _)
        · exact (ih present later).imp_left (.tail _)

/-- Storing a value keeps a field set a field set of its layout. -/
theorem Of.set {layout : HeaderLayout} {fields next : FieldSet} {name : String} {value : Bytes}
    (sound : Of layout fields) (stored : fields.set name value = .ok next) : Of layout next where
  layout_eq := (layout_set stored).trans sound.layout_eq
  fits slot member := by
    obtain ⟨found, present, taken, rfl⟩ := set_eq_ok.mp stored
    rcases mem_replace (slot_eq_ok.mp present) member with old | rfl
    · exact sound.fits slot old
    · exact taken

/-- In a layout with different names, each slot is found under its name. -/
theorem slot_eq_of_mem {fields : FieldSet} {layout : HeaderLayout} (same : fields.layout = layout)
    (names : (layout.fields.map (·.name)).Nodup) {slot : Slot} (inSlots : slot ∈ fields.slots) :
    fields.slot slot.field.name = .ok slot := by
  subst same
  rw [FieldSet.layout, List.map_map] at names
  cases found : fields.slots.find? (·.field.name = slot.field.name) with
  | none =>
      have absent := List.find?_eq_none.mp found slot inSlots
      simp at absent
  | some other =>
      have sameName : other.field.name = slot.field.name := by
        simpa using List.find?_some found
      have sameSlot : other = slot :=
        List.inj_on_of_nodup_map names (List.mem_of_find?_eq_some found) inSlots sameName
      rw [slot_eq_ok, found, sameSlot]

/-- In a layout with different names, each field's name finds its slot. -/
theorem slot_of_mem {fields : FieldSet} {layout : HeaderLayout} (same : fields.layout = layout)
    (names : (layout.fields.map (·.name)).Nodup) {f : BitField} (member : f ∈ layout.fields) :
    ∃ slot ∈ fields.slots, fields.slot f.name = .ok slot ∧ slot.field = f := by
  obtain ⟨slot, inSlots, rfl⟩ := List.mem_map.mp (same ▸ member)
  exact ⟨slot, inSlots, slot_eq_of_mem same names inSlots, rfl⟩

theorem Of.get {layout : HeaderLayout} {fields : FieldSet} (sound : Of layout fields)
    (names : (layout.fields.map (·.name)).Nodup) {f : BitField} (member : f ∈ layout.fields) :
    ∃ value, fields.get f.name = .ok value ∧ f.check value = .ok () := by
  obtain ⟨slot, inSlots, found, rfl⟩ := slot_of_mem sound.layout_eq names member
  exact ⟨slot.value, get_eq_ok.mpr ⟨slot, found, rfl⟩, sound.fits slot inSlots⟩

/-- The values under the names of a layout make up the whole field set. -/
theorem Of.eq_of_get {layout : HeaderLayout} {left right : FieldSet} (leftSound : Of layout left)
    (rightSound : Of layout right) (names : (layout.fields.map (·.name)).Nodup)
    (agree : ∀ f ∈ layout.fields, left.get f.name = right.get f.name) : left = right := by
  have layouts : left.layout = right.layout := leftSound.layout_eq.trans rightSound.layout_eq.symm
  rw [FieldSet.layout, FieldSet.layout, HeaderLayout.mk.injEq] at layouts
  obtain ⟨sameName, sameFields⟩ := layouts
  have sameSlots : left.slots = right.slots := by
    have lengths : left.slots.length = right.slots.length := by
      simpa using congrArg List.length sameFields
    refine List.ext_getElem lengths fun i inLeft inRight => ?_
    have sameField : left.slots[i].field = right.slots[i].field := by
      simpa [inLeft, inRight] using congrArg (·[i]?) sameFields
    have leftFound := slot_eq_of_mem leftSound.layout_eq names (List.getElem_mem inLeft)
    have rightFound := slot_eq_of_mem rightSound.layout_eq names (List.getElem_mem inRight)
    have member : left.slots[i].field ∈ layout.fields := by
      rw [← leftSound.layout_eq]
      exact List.mem_map_of_mem (List.getElem_mem inLeft)
    have sameValue := agree _ member
    rw [FieldSet.get, FieldSet.get, leftFound, sameField, rightFound] at sameValue
    cases leftSlot : left.slots[i]
    cases rightSlot : right.slots[i]
    rw [leftSlot, rightSlot] at sameField sameValue
    cases sameField
    cases sameValue
    rfl
  cases left
  cases right
  cases sameName
  cases sameSlots
  rfl

theorem Of.has {layout : HeaderLayout} {fields : FieldSet} (sound : Of layout fields)
    (names : (layout.fields.map (·.name)).Nodup) : Has layout fields := by
  intro f member
  obtain ⟨value, found, -⟩ := sound.get names member
  exact ⟨value, found⟩

theorem Of.narrow {layout : HeaderLayout} {fields : FieldSet} (sound : Of layout fields)
    (narrow : ∀ f ∈ layout.fields, f.width ≤ 64) : Narrow fields := by
  intro name value present
  obtain ⟨slot, found, rfl⟩ := get_eq_ok.mp present
  have member := List.mem_of_find?_eq_some (slot_eq_ok.mp found)
  have inLayout : slot.field ∈ layout.fields := by
    rw [← sound.layout_eq]
    exact List.mem_map_of_mem member
  have width := narrow _ inLayout
  rw [BitField.length_of_check (sound.fits slot member), BitField.byteWidth]
  omega

/-- A field takes every number that fits its bits. -/
theorem Of.setUint {layout : HeaderLayout} {fields : FieldSet} (sound : Of layout fields)
    (names : (layout.fields.map (·.name)).Nodup) (f : BitField) (member : f ∈ layout.fields)
    (narrow : f.width ≤ 64) (number : UInt64) (fits : number.toNat < 2 ^ f.width) :
    ∃ next, HeaderHost.setUint fields f.name number = .ok next ∧ Of layout next := by
  obtain ⟨slot, inSlots, found, rfl⟩ := slot_of_mem sound.layout_eq names member
  have present : HeaderHost.get fields slot.field.name = .ok slot.value :=
    get_eq_ok.mpr ⟨slot, found, rfl⟩
  obtain ⟨taken, stores⟩ := setUint_of_fits narrow present
    (BitField.length_of_check (sound.fits slot inSlots)) fits
  have stored := set_eq_ok.mpr ⟨slot, found, taken, rfl⟩
  refine ⟨_, ?_, sound.set stored⟩
  rw [stores]
  exact congrArg (Except.mapError Fault.error) stored

/-- A field set serves its own layout. -/
theorem serves {fields : FieldSet} {layout : HeaderLayout} (same : fields.layout = layout)
    (names : (layout.fields.map (·.name)).Nodup) : Serves layout fields := by
  intro f member _ value _ fits
  obtain ⟨slot, -, found, rfl⟩ := slot_of_mem same names member
  exact accepts_iff.mpr ⟨_, ⟨slot, found, rfl⟩, fits⟩

end FieldSet

/-! ## Loose fields -/

namespace LooseFields

theorem get_eq_ok {fields : LooseFields} {name : String} {value : Bytes} :
    fields.get name = .ok value ↔ fields.toList.lookup name = some value := by
  unfold LooseFields.get
  split
  next found present => rw [present, Option.some_inj, Except.ok.injEq]
  next absent => rw [absent]; simp

/-- Loose fields are as narrow as their values. -/
theorem narrow_of_forall {fields : LooseFields}
    (short : ∀ entry ∈ fields.toList, entry.2.length ≤ 8) : Narrow fields := by
  intro name value present
  obtain ⟨before, after, split, -⟩ := List.lookup_eq_some_iff.mp (get_eq_ok.mp present)
  apply short (name, value)
  rw [split]
  exact List.mem_append_right _ (List.mem_cons_self ..)

theorem get_error {fields : LooseFields} {name : String} {cause : TransformError}
    (absent : fields.get name = .error cause) : ∃ shown, cause = .unknownField shown := by
  unfold LooseFields.get at absent
  split at absent
  · cases absent
  · cases absent
    exact ⟨_, rfl⟩

/-- Loose fields take any value under a name that is there. -/
theorem set_eq_ok {fields next : LooseFields} {name : String} {value : Bytes} :
    fields.set name value = .ok next ↔
      (∃ current, fields.get name = .ok current) ∧
        next = ⟨replace name value fields.toList⟩ := by
  rw [set]
  cases fields.get name <;> simp [Except.map, eq_comm]

theorem lookup_replace_self {name : String} {value current : Bytes}
    {entries : List (String × Bytes)} (present : entries.lookup name = some current) :
    (replace name value entries).lookup name = some value := by
  induction entries with
  | nil => cases present
  | cons entry rest ih =>
      rw [List.lookup_cons] at present
      by_cases here : entry.1 = name
      · rw [replace, if_pos here, List.lookup_cons, beq_self_eq_true]
      · have elsewhere : (name == entry.1) = false := beq_eq_false_iff_ne.mpr (Ne.symm here)
        rw [elsewhere] at present
        rw [replace, if_neg here, List.lookup_cons, elsewhere]
        exact ih present

theorem lookup_replace_of_ne {name other : String} (different : other ≠ name) (value : Bytes)
    (entries : List (String × Bytes)) :
    (replace name value entries).lookup other = entries.lookup other := by
  induction entries with
  | nil => rfl
  | cons entry rest ih =>
      by_cases here : entry.1 = name
      · have notNew : (other == name) = false := beq_eq_false_iff_ne.mpr different
        rw [replace, if_pos here, List.lookup_cons, List.lookup_cons, here, notNew]
      · rw [replace, if_neg here, List.lookup_cons, List.lookup_cons, ih]

theorem get_set_self {fields next : LooseFields} {name : String} {value : Bytes}
    (stored : fields.set name value = .ok next) : next.get name = .ok value := by
  obtain ⟨⟨current, present⟩, rfl⟩ := set_eq_ok.mp stored
  exact get_eq_ok.mpr (lookup_replace_self (get_eq_ok.mp present))

theorem get_set_of_ne {fields next : LooseFields} {name other : String} {value : Bytes}
    (stored : fields.set name value = .ok next) (different : other ≠ name) :
    next.get other = fields.get other := by
  obtain ⟨-, rfl⟩ := set_eq_ok.mp stored
  rw [LooseFields.get, LooseFields.get, lookup_replace_of_ne different]

theorem accepts_iff {fields : LooseFields} {name : String} {value : Bytes} :
    Accepts fields name value ↔ ∃ current, fields.get name = .ok current := by
  constructor
  · rintro ⟨next, stored⟩
    exact (set_eq_ok.mp stored).1
  · intro present
    exact ⟨_, set_eq_ok.mpr ⟨present, rfl⟩⟩

instance : LawfulHost LooseFields where
  get_set stored := get_set_self stored
  get_set_of_ne stored different := get_set_of_ne stored different
  accepts_set_iff {host next name other value wanted} stored := by
    rw [accepts_iff, accepts_iff]
    by_cases same : other = name
    · subst same
      exact ⟨fun _ => (set_eq_ok.mp stored).1, fun _ => ⟨value, get_set_self stored⟩⟩
    · rw [get_set_of_ne stored same]
  get_error absent := by
    obtain ⟨shown, rfl⟩ := get_error absent
    rfl
  set_error refused := by
    obtain ⟨shown, rfl⟩ := get_error (map_eq_error.mp refused)
    rfl

theorem has_iff {layout : HeaderLayout} {fields : LooseFields} :
    Has layout fields ↔ ∀ f ∈ layout.fields, (fields.toList.lookup f.name).isSome := by
  refine forall₂_congr fun f _ => ?_
  rw [Option.isSome_iff_exists]
  exact exists_congr fun value => get_eq_ok

/-- Loose fields serve every layout. -/
theorem serves (layout : HeaderLayout) (fields : LooseFields) : Serves layout fields :=
  fun _ _ current _ present _ => accepts_iff.mpr ⟨current, present⟩

end LooseFields

end PacketProtection

import PacketProtection.Header.Host

/-!
# Field storage

Two hosts.  A *field set* is bound to a layout and stores only values that fit
their fields.  *Loose fields* belong to no layout: they store any byte string
under a name that is already there, as a foreign pipeline might do.
-/

namespace PacketProtection

/-! ## Field sets -/

/-- A field and its value. -/
structure Slot where
  field : BitField
  value : Bytes
deriving DecidableEq

namespace Slot

/-- The slot of a field whose bits are all zero. -/
def zero (f : BitField) : Slot :=
  ⟨f, List.replicate f.byteWidth 0⟩

/-- Replaces the value of the first slot of a name. -/
def replace (name : String) (value : Bytes) : List Slot → List Slot
  | [] => []
  | slot :: rest =>
      if slot.field.name = name then { slot with value } :: rest
      else slot :: replace name value rest

end Slot

/-- The fields of a layout with their values. -/
structure FieldSet where
  /-- The name of the layout. -/
  name : String
  slots : List Slot
deriving DecidableEq

namespace FieldSet

/-- All fields of a layout, zeroed. -/
def new (layout : HeaderLayout) : FieldSet :=
  ⟨layout.name, layout.fields.map Slot.zero⟩

/-- The layout of a field set. -/
def layout (fields : FieldSet) : HeaderLayout :=
  ⟨fields.name, fields.slots.map (·.field)⟩

/-- Names and values in the order of the layout. -/
def toList (fields : FieldSet) : List (String × Bytes) :=
  fields.slots.map fun slot => (slot.field.name, slot.value)

/-- The slot of a name, or the error that gives the name in full. -/
def slot (fields : FieldSet) (name : String) : Except TransformError Slot :=
  match fields.slots.find? (·.field.name = name) with
  | some slot => .ok slot
  | none => .error (.unknownField s!"{fields.name}.{name}")

/-- The value of a field. -/
def get (fields : FieldSet) (name : String) : Except TransformError Bytes :=
  (fields.slot name).map (·.value)

/-- Stores a value that fits. -/
def set (fields : FieldSet) (name : String) (value : Bytes) : Except TransformError FieldSet :=
  match fields.slot name with
  | .error cause => .error cause
  | .ok slot =>
      (slot.field.check value).map fun _ =>
        { fields with slots := Slot.replace name value fields.slots }

instance : HeaderHost FieldSet := ⟨get, set⟩

/-- The fields of a packed header. -/
def ofBytes (layout : HeaderLayout) (raw : Bytes) : Except TransformError FieldSet :=
  match HeaderHost.unpack layout raw (new layout) with
  | (.error cause, _) => .error cause
  | (.ok (), fields) => .ok fields

end FieldSet

/-! ## Loose fields -/

/-- Named byte strings of any width. -/
structure LooseFields where
  toList : List (String × Bytes)
deriving DecidableEq

namespace LooseFields

/-- The value of a field. -/
def get (fields : LooseFields) (name : String) : Except TransformError Bytes :=
  match fields.toList.lookup name with
  | some value => .ok value
  | none => .error (.unknownField name)

/-- Replaces the first value of a name. -/
def replace (name : String) (value : Bytes) : List (String × Bytes) → List (String × Bytes)
  | [] => []
  | entry :: rest =>
      if entry.1 = name then (name, value) :: rest else entry :: replace name value rest

/-- Stores any value under a name that is there. -/
def set (fields : LooseFields) (name : String) (value : Bytes) :
    Except TransformError LooseFields :=
  (fields.get name).map fun _ => ⟨replace name value fields.toList⟩

instance : HeaderHost LooseFields := ⟨get, set⟩

end LooseFields

/-! ## A host chosen at run time -/

/-- Either of the two hosts. -/
inductive Host where
  | bound (fields : FieldSet)
  | loose (fields : LooseFields)
deriving DecidableEq

namespace Host

/-- Names and values. -/
def toList : Host → List (String × Bytes)
  | .bound fields => fields.toList
  | .loose fields => fields.toList

instance : HeaderHost Host where
  get
    | .bound fields, name => fields.get name
    | .loose fields, name => fields.get name
  set
    | .bound fields, name, value => (fields.set name value).map .bound
    | .loose fields, name, value => (fields.set name value).map .loose

end Host

end PacketProtection

import PacketProtection.Proofs.Association.Entries

/-!
# Files that hold associations

A *file* is what stands in an association file, as a tree: for each key a *section*,
which is a scalar or the entries of a mapping (`Holds`).  A file *spells* associations if
its values are read as theirs and what is left out has its default (`RootKey.Spell`),
whatever the order of the keys, the style of the scalars and the nodes that an alias
repeats.

*Loading.*  Each mapping is read into a draft that holds the keys that were seen, and the
draft of all entries is complete (`EspDraft.fills`, `MacsecDraft.fills`, `Draft.fills`).
So a text that holds a file is loaded as the associations that the file spells, with the
warnings about them (`load_of_holds`).
-/

namespace PacketProtection.Association

variable {α δ κ : Type} {document : Yaml.Document} {events behind : Yaml.Events}

/-! ## Values held by a draft -/

/-- The value of a key in a draft that holds some keys. -/
def held [DecidableEq κ] (seen : List κ) (key : κ) (value : α) : Option α :=
  if key ∈ seen then some value else none

section Held

variable [DecidableEq κ] {seen : List κ} {key other : κ} {value : α}

@[simp] theorem held_cons : held (other :: seen) key value =
    if key = other then some value else held seen key value := by
  by_cases same : key = other
  · rw [if_pos same, held, if_pos (List.mem_cons.mpr (.inl same))]
  · simp only [held, List.mem_cons, same, false_or, if_false]

@[simp] theorem isSome_held : (held seen key value).isSome = true ↔ key ∈ seen := by
  simp [held]

theorem held_of_mem (member : key ∈ seen) : held seen key value = some value :=
  if_pos member

/-- A value that is not held is the default. -/
theorem getD_held {default : α} (lack : key ∉ seen → value = default) :
    (held seen key value).getD default = value := by
  by_cases member : key ∈ seen
  · rw [held_of_mem member, Option.getD_some]
  · rw [held, if_neg member, Option.getD_none, lack member]

theorem join_held {value : Option α} (lack : key ∉ seen → value = none) :
    (held seen key value).join = value := by
  by_cases member : key ∈ seen
  · rw [held_of_mem member, Option.join_some]
  · rw [held, if_neg member, lack member]
    rfl

end Held

theorem ScalarAt.readInto {scalar : Yaml.Scalar} {field : Field α} {value : α}
    (stands : ScalarAt document scalar events behind) (fits : field.read scalar = .ok value)
    (path : List String) (store : α → δ) :
    readInto document path field store events = .ok (store value, behind) := by
  obtain ⟨stands, rfl⟩ := stands
  simp only [Association.readInto, stands.readField fits, bind, Except.bind]
  rfl

/-! ## ESP associations -/

/-- A scalar is read as the value that an association has for a key. -/
def EspKey.Fits (esp : EspAssociation) : EspKey → Yaml.Scalar → Prop
  | .spi, scalar => Field.uint32.read scalar = .ok esp.spi
  | .seq, scalar => Field.uint32.read scalar = .ok esp.seq
  | .cipherKey, scalar => (Field.ofText decodeHex).read scalar = .ok esp.cipherKey
  | .authKey, scalar => (Field.ofText decodeHex).read scalar = .ok esp.authKey

/-- The value for a key is what it is by default. -/
def EspKey.IsDefault (esp : EspAssociation) : EspKey → Prop
  | .seq => esp.seq = 1
  | _ => False

/-- The entries of an ESP association spell it. -/
def EspKey.Spell (esp : EspAssociation) (entries : List (EspKey × Yaml.Scalar)) : Prop :=
  Spells (EspKey.Fits esp) (EspKey.IsDefault esp) entries

/-- A draft that holds some values of an association. -/
def EspDraft.holding (esp : EspAssociation) (seen : List EspKey) : EspDraft where
  spi := held seen .spi esp.spi
  seq := held seen .seq esp.seq
  cipherKey := held seen .cipherKey esp.cipherKey
  authKey := held seen .authKey esp.authKey

theorem EspDraft.fills (document : Yaml.Document) (esp : EspAssociation) :
    EspDraft.shape.Fills document (ScalarAt document) (EspKey.Fits esp)
      (EspDraft.holding esp) where
  has seen key := by cases key <;> exact isSome_held
  read {key value} fits events behind stands path seen := by
    cases key <;> simp only [EspDraft.shape, stands.readInto fits] <;> simp [holding]

/-- A draft of all keys but such as have their default is complete. -/
theorem EspDraft.finish_holding {esp : EspAssociation} {seen : List EspKey}
    (complete : ∀ key, key ∉ seen → key.IsDefault esp) : (holding esp seen).finish = .ok esp := by
  have spi : .spi ∈ seen := Decidable.not_not.mp (complete .spi)
  have cipherKey : .cipherKey ∈ seen := Decidable.not_not.mp (complete .cipherKey)
  have authKey : .authKey ∈ seen := Decidable.not_not.mp (complete .authKey)
  simp only [finish, holding, held_of_mem spi, held_of_mem cipherKey, held_of_mem authKey,
    getD_held (complete .seq)]

theorem EspDraft.readMapping {esp : EspAssociation} {entries : List (EspKey × Yaml.Scalar)}
    {rest : Yaml.Events} (spell : EspKey.Spell esp entries)
    (read : Entries document EspKey.named (ScalarAt document) entries events rest)
    (location : Location) :
    EspDraft.shape.readMapping {} EspDraft.finish document location events = .ok (esp, rest) :=
  (EspDraft.fills document esp).readMapping read spell EspDraft.finish_holding location

/-! ## MACsec associations -/

/-- A scalar is read as the value that an association has for a key. -/
def MacsecKey.Fits (macsec : MacsecAssociation) : MacsecKey → Yaml.Scalar → Prop
  | .sak, scalar => (Field.ofText decodeHex).read scalar = .ok macsec.sak
  | .sci, scalar => (Field.optional decodeHex).read scalar = .ok macsec.sci
  | .systemMac, scalar => (Field.optional decodeMac).read scalar = .ok macsec.systemMac
  | .channelNumber, scalar => Field.uint16.read scalar = .ok macsec.channelNumber
  | .pn, scalar => Field.uint32.read scalar = .ok macsec.pn
  | .an, scalar => Field.uint8.read scalar = .ok macsec.an
  | .secTag, scalar => (Field.optional decodeHex).read scalar = .ok macsec.secTag

/-- The value for a key is what it is by default. -/
def MacsecKey.IsDefault (macsec : MacsecAssociation) : MacsecKey → Prop
  | .sak => False
  | .sci => macsec.sci = none
  | .systemMac => macsec.systemMac = none
  | .channelNumber => macsec.channelNumber = Macsec.defaultChannelNumber
  | .pn => macsec.pn = 1
  | .an => macsec.an = 0
  | .secTag => macsec.secTag = none

/-- The entries of a MACsec association spell it. -/
def MacsecKey.Spell (macsec : MacsecAssociation) (entries : List (MacsecKey × Yaml.Scalar)) :
    Prop :=
  Spells (MacsecKey.Fits macsec) (MacsecKey.IsDefault macsec) entries

/-- A draft that holds some values of an association. -/
def MacsecDraft.holding (macsec : MacsecAssociation) (seen : List MacsecKey) : MacsecDraft where
  sak := held seen .sak macsec.sak
  sci := held seen .sci macsec.sci
  systemMac := held seen .systemMac macsec.systemMac
  channelNumber := held seen .channelNumber macsec.channelNumber
  pn := held seen .pn macsec.pn
  an := held seen .an macsec.an
  secTag := held seen .secTag macsec.secTag

theorem MacsecDraft.fills (document : Yaml.Document) (macsec : MacsecAssociation) :
    MacsecDraft.shape.Fills document (ScalarAt document) (MacsecKey.Fits macsec)
      (MacsecDraft.holding macsec) where
  has seen key := by cases key <;> exact isSome_held
  read {key value} fits events behind stands path seen := by
    cases key <;> simp only [MacsecDraft.shape, stands.readInto fits] <;> simp [holding]

/-- A draft of all keys but such as have their default is complete. -/
theorem MacsecDraft.finish_holding {macsec : MacsecAssociation} {seen : List MacsecKey}
    (complete : ∀ key, key ∉ seen → key.IsDefault macsec) :
    (holding macsec seen).finish = .ok macsec := by
  have sak : .sak ∈ seen := Decidable.not_not.mp (complete .sak)
  simp only [finish, holding, held_of_mem sak, join_held (complete .sci),
    join_held (complete .systemMac), getD_held (complete .channelNumber),
    getD_held (complete .pn), getD_held (complete .an), join_held (complete .secTag)]

theorem MacsecDraft.readMapping {macsec : MacsecAssociation}
    {entries : List (MacsecKey × Yaml.Scalar)} {rest : Yaml.Events}
    (spell : MacsecKey.Spell macsec entries)
    (read : Entries document MacsecKey.named (ScalarAt document) entries events rest)
    (location : Location) :
    MacsecDraft.shape.readMapping {} MacsecDraft.finish document location events =
      .ok (macsec, rest) :=
  (MacsecDraft.fills document macsec).readMapping read spell MacsecDraft.finish_holding location

/-! ## Files -/

/-- The value of a key of a file. -/
inductive Section where
  | scalar (scalar : Yaml.Scalar)
  | esp (entries : List (EspKey × Yaml.Scalar))
  | macsec (entries : List (MacsecKey × Yaml.Scalar))

/-- A file as a tree. -/
abbrev File := List (RootKey × Section)

/-- The node at the front of some events is a mapping of scalars, or repeats one. -/
def MappingAt (document : Yaml.Document) (named : List (String × κ)) :
    ValueAt (List (κ × Yaml.Scalar)) := fun entries events behind =>
  ∃ place inside rest, document.resolve events = ⟨.mappingStart, place⟩ :: inside ∧
    Entries document named (ScalarAt document) entries inside rest ∧
    behind = if Yaml.Document.startsAlias events then events.drop 1 else rest

/-- What stands at some events. -/
def SectionAt (document : Yaml.Document) : ValueAt Section
  | .scalar scalar => ScalarAt document scalar
  | .esp entries => MappingAt document EspKey.named entries
  | .macsec entries => MappingAt document MacsecKey.named entries

/-- A section is read as what a file has for a key. -/
def RootKey.Fits (config : Config) : RootKey → Section → Prop
  | .version, .scalar scalar => scalar.text = config.version
  | .esp, .scalar scalar => scalar.isSet? = some false ∧ config.esp = none
  | .esp, .esp entries =>
      ∃ esp, config.esp = some esp ∧ EspKey.Spell esp entries
  | .macsec, .scalar scalar => scalar.isSet? = some false ∧ config.macsec = none
  | .macsec, .macsec entries =>
      ∃ macsec, config.macsec = some macsec ∧ MacsecKey.Spell macsec entries
  | _, _ => False

/-- What a file has for a key is what it is by default. -/
def RootKey.IsDefault (config : Config) : RootKey → Prop
  | .version => False
  | .esp => config.esp = none
  | .macsec => config.macsec = none

/-- A file spells associations. -/
def RootKey.Spell (config : Config) (file : File) : Prop :=
  Spells (RootKey.Fits config) (RootKey.IsDefault config) file

/-- A draft that holds some values of a file. -/
def Draft.holding (config : Config) (seen : List RootKey) : Draft where
  version := held seen .version config.version
  esp := held seen .esp config.esp
  macsec := held seen .macsec config.macsec

/-- A mapping whose entries can be read is read as a section. -/
theorem MappingAt.readSection {named : List (String × κ)} {entries : List (κ × Yaml.Scalar)}
    {value : α} {read : Location → Reader α}
    (stands : MappingAt document named entries events behind)
    (reads : ∀ location inside rest,
      Entries document named (ScalarAt document) entries inside rest →
        read location inside = .ok (value, rest))
    (path : List String) (expected : String) :
    readSection document path expected read events = .ok (some value, behind) := by
  obtain ⟨place, inside, rest, resolved, entries, rfl⟩ := stands
  simp only [Association.readSection, resolved, reads _ _ _ entries, bind, Except.bind]
  rfl

/-- A null is read as a section that is not there. -/
theorem ScalarAt.readSection {scalar : Yaml.Scalar} {read : Location → Reader α}
    (stands : ScalarAt document scalar events behind) (unset : scalar.isSet? = some false)
    (path : List String) (expected : String) :
    readSection document path expected read events = .ok (none, behind) := by
  obtain ⟨⟨place, rest, resolved⟩, rfl⟩ := stands
  simp only [Association.readSection, resolved, unset]

theorem Draft.fills (document : Yaml.Document) (config : Config) :
    Draft.shape.Fills document (SectionAt document) (RootKey.Fits config)
      (Draft.holding config) where
  has seen key := by cases key <;> exact isSome_held
  read {key value} fits events behind stands path seen := by
    match key, value, fits with
    | .version, .scalar scalar, fits =>
        have read : (Field.ofText .ok).read scalar = .ok config.version := congrArg Except.ok fits
        simp only [Draft.shape, ScalarAt.readInto stands read]
        simp [holding]
    | .esp, .scalar scalar, ⟨unset, absent⟩ =>
        simp only [Draft.shape, ScalarAt.readSection stands unset, bind, Except.bind]
        simp [holding, absent]
        rfl
    | .esp, .esp entries, ⟨esp, present, spell⟩ =>
        have read := MappingAt.readSection stands
          (fun location inside rest entries => EspDraft.readMapping spell entries location) path
        simp only [Draft.shape, read, bind, Except.bind]
        simp [holding, present]
        rfl
    | .macsec, .scalar scalar, ⟨unset, absent⟩ =>
        simp only [Draft.shape, ScalarAt.readSection stands unset, bind, Except.bind]
        simp [holding, absent]
        rfl
    | .macsec, .macsec entries, ⟨macsec, present, spell⟩ =>
        have read := MappingAt.readSection stands
          (fun location inside rest entries => MacsecDraft.readMapping spell entries location) path
        simp only [Draft.shape, read, bind, Except.bind]
        simp [holding, present]
        rfl

/-- A draft of all keys but such as have their default is complete. -/
theorem Draft.finish_holding {config : Config} {seen : List RootKey}
    (complete : ∀ key, key ∉ seen → key.IsDefault config) :
    (holding config seen).finish = .ok config := by
  have version : .version ∈ seen := Decidable.not_not.mp (complete .version)
  simp only [finish, holding, held_of_mem version, join_held (complete .esp),
    join_held (complete .macsec)]

/-- A document is a file and nothing else. -/
def Holds (document : Yaml.Document) (file : File) : Prop :=
  ∃ place events rest, document.events = ⟨.mappingStart, place⟩ :: events ∧
    Entries document RootKey.named (SectionAt document) file events rest ∧
    document.ending = .closed

/-- What is in a file whatever the rest of it: a version that is known, and an association
number of two bits. -/
structure Config.IsSound (config : Config) : Prop where
  version : "1.".toList <+: config.version.toList
  number : ∀ macsec ∈ config.macsec, macsec.an ≤ 3

theorem ofDocument_of_holds {file : File} {config : Config} (holds : Holds document file)
    (spell : RootKey.Spell config file) : ofDocument document = .ok config := by
  obtain ⟨place, events, rest, started, entries, closed⟩ := holds
  have read : Draft.shape.readMapping {} Draft.finish document ⟨[], place⟩ events =
      .ok (config, rest) :=
    (Draft.fills document config).readMapping entries spell Draft.finish_holding ⟨[], place⟩
  simp only [ofDocument, started, closed, read, bind, Except.bind]
  rfl

/-- A text that holds a file is loaded as what the file spells. -/
theorem load_of_holds {text : String} {file : File} {config : Config}
    (holds : Holds (.ofText text) file) (spell : RootKey.Spell config file)
    (sound : config.IsSound) : load text = ⟨.ok config, config.warnings⟩ := by
  have parsed : parse text = .ok config := ofDocument_of_holds holds spell
  have version : ¬(!"1.".toList.isPrefixOf config.version.toList) = true := by
    simpa using sound.version
  have number : ¬(config.macsec.any fun macsec => 3 < macsec.an) = true := by
    simpa [Option.any_eq_true] using sound.number
  rw [load, parsed]
  simp only [if_neg version, if_neg number]

end PacketProtection.Association

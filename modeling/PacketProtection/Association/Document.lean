import PacketProtection.Association.Basic
import PacketProtection.Association.Value
import PacketProtection.KeyMaterial

/-!
# Association files

A file holds a format version, and optionally an ESP and a MACsec association.
It is a YAML mapping of known keys; each value is a scalar or, for the two
associations, a mapping of known keys to scalars.  An alias may stand for any of
them, and for a key.

*Which fault is reported.*  The file is read in order, and the first fault
counts: a key that is unknown or repeated, a value that does not fit, or the end
of a mapping where a key is missing.  Only then comes what is wrong with the
text behind.
-/

namespace PacketProtection.Association

/-! ## Keys -/

/-- The keys of a file. -/
inductive RootKey where
  | version
  | esp
  | macsec
deriving DecidableEq

/-- The keys of an ESP association. -/
inductive EspKey where
  | spi
  | seq
  | cipherKey
  | authKey
deriving DecidableEq

/-- The keys of a MACsec association. -/
inductive MacsecKey where
  | sak
  | sci
  | systemMac
  | channelNumber
  | pn
  | an
  | secTag
deriving DecidableEq

/-- The keys of a file by their names. -/
def RootKey.named : List (String × RootKey) :=
  [("version", .version), ("esp", .esp), ("macsec", .macsec)]

/-- The keys of an ESP association by their names. -/
def EspKey.named : List (String × EspKey) :=
  [("spi", .spi), ("seq", .seq), ("cipher_key", .cipherKey), ("auth_key", .authKey)]

/-- The keys of a MACsec association by their names. -/
def MacsecKey.named : List (String × MacsecKey) :=
  [("sak", .sak), ("sci", .sci), ("system_mac", .systemMac), ("port", .channelNumber),
   ("pn", .pn), ("an", .an), ("sectag", .secTag)]

/-! ## Drafts -/

/-- An ESP association as far as it was read. -/
structure EspDraft where
  spi : Option UInt32 := none
  seq : Option UInt32 := none
  cipherKey : Option Bytes := none
  authKey : Option Bytes := none

/-- A MACsec association as far as it was read.  The inner option says whether
an optional value is set. -/
structure MacsecDraft where
  sak : Option Bytes := none
  sci : Option (Option Bytes) := none
  systemMac : Option (Option MacAddress) := none
  channelNumber : Option UInt16 := none
  pn : Option UInt32 := none
  an : Option UInt8 := none
  secTag : Option (Option Bytes) := none

/-- A file as far as it was read. -/
structure Draft where
  version : Option String := none
  esp : Option (Option EspAssociation) := none
  macsec : Option (Option MacsecAssociation) := none

/-- Was the value of a key read before? -/
def Draft.has (draft : Draft) : RootKey → Bool
  | .version => draft.version.isSome
  | .esp => draft.esp.isSome
  | .macsec => draft.macsec.isSome

/-- Was the value of a key read before? -/
def EspDraft.has (draft : EspDraft) : EspKey → Bool
  | .spi => draft.spi.isSome
  | .seq => draft.seq.isSome
  | .cipherKey => draft.cipherKey.isSome
  | .authKey => draft.authKey.isSome

/-- Was the value of a key read before? -/
def MacsecDraft.has (draft : MacsecDraft) : MacsecKey → Bool
  | .sak => draft.sak.isSome
  | .sci => draft.sci.isSome
  | .systemMac => draft.systemMac.isSome
  | .channelNumber => draft.channelNumber.isSome
  | .pn => draft.pn.isSome
  | .an => draft.an.isSome
  | .secTag => draft.secTag.isSome

/-- The association of a complete draft; only the sequence number has a default. -/
def EspDraft.finish (draft : EspDraft) : Except Cause EspAssociation :=
  match draft.spi, draft.cipherKey, draft.authKey with
  | none, _, _ => .error (.missingKey "spi")
  | _, none, _ => .error (.missingKey "cipher_key")
  | _, _, none => .error (.missingKey "auth_key")
  | some spi, some cipherKey, some authKey =>
      .ok { spi, seq := draft.seq.getD 1, cipherKey, authKey }

/-- The association of a complete draft; only the key has no default. -/
def MacsecDraft.finish (draft : MacsecDraft) : Except Cause MacsecAssociation :=
  match draft.sak with
  | none => .error (.missingKey "sak")
  | some sak =>
      .ok
        { sak, sci := draft.sci.join, systemMac := draft.systemMac.join
          channelNumber := draft.channelNumber.getD Macsec.defaultChannelNumber
          pn := draft.pn.getD 1, an := draft.an.getD 0, secTag := draft.secTag.join }

/-- The associations of a file. -/
structure Config where
  version : String
  esp : Option EspAssociation
  macsec : Option MacsecAssociation
deriving DecidableEq

/-- The associations of a complete draft; only the version has to be there. -/
def Draft.finish (draft : Draft) : Except Cause Config :=
  match draft.version with
  | none => .error (.missingKey "version")
  | some version => .ok { version, esp := draft.esp.join, macsec := draft.macsec.join }

/-! ## Reading nodes -/

/-- A reader of the node that some events start with; it gives the events behind
the node. -/
abbrev Reader (α : Type) := Yaml.Events → Except Error (α × Yaml.Events)

/-- The error of events that start with no node of the right kind. -/
def misplaced (path : List String) (expected : String) : Yaml.Events → Error
  | ⟨.scalar scalar, place⟩ :: _ => ⟨.unfit scalar expected, some ⟨path, place⟩⟩
  | ⟨.mappingStart, place⟩ :: _ => ⟨.collection true expected, some ⟨path, place⟩⟩
  | ⟨.sequenceStart, place⟩ :: _ => ⟨.collection false expected, some ⟨path, place⟩⟩
  | _ => { cause := .notYaml }

/-- Reads a scalar. -/
def readField {α : Type} (document : Yaml.Document) (path : List String) (field : Field α) :
    Reader α := fun events =>
  match document.resolve events with
  | ⟨.scalar scalar, place⟩ :: _ =>
      match field.read scalar with
      | .ok value => .ok (value, events.drop 1)
      | .error cause =>
          .error { cause, location := if cause.isOfScalar then some ⟨path, place⟩ else none }
  | events => .error (misplaced path field.expected events)

/-- A key by its name, with the name. -/
def keyField {κ : Type} (named : List (String × κ)) : Field (String × κ) where
  expected := "field identifier"
  read scalar :=
    match named.lookup scalar.text with
    | some key => .ok (scalar.text, key)
    | none => .error (.unknownKey scalar.text (named.map (·.1)))

/-- What the entries of a mapping are, and how they fill a draft. -/
structure Shape (κ δ : Type) where
  /-- The keys by their names. -/
  named : List (String × κ)
  /-- Was the value of a key read before? -/
  has : δ → κ → Bool
  /-- Reads the value of a key, which has a path. -/
  read : Yaml.Document → List String → δ → κ → Reader δ

/-- Reads the entries of a mapping, up to its end, into a draft.  As no key may be
repeated, `fuel` need not be more than one above the number of keys. -/
def Shape.readEntries {κ δ : Type} (shape : Shape κ δ) (document : Yaml.Document)
    (path : List String) : (fuel : Nat) → δ → Reader δ
  | 0, _, _ => .error { cause := .notYaml }
  | _ + 1, draft, ⟨.mappingEnd, _⟩ :: events => .ok (draft, events)
  | fuel + 1, draft, events => do
      let ((name, key), events) ← readField document path (keyField shape.named) events
      if shape.has draft key then
        throw { cause := .repeatedKey name }
      let (draft, events) ← shape.read document (path ++ [name]) draft key events
      shape.readEntries document path fuel draft events

/-- Reads the entries of a mapping that starts at a place.  What is missing in the
end is missing in the mapping. -/
def Shape.readMapping {κ δ α : Type} (shape : Shape κ δ) (empty : δ)
    (finish : δ → Except Cause α) (document : Yaml.Document) (location : Location) : Reader α :=
  fun events => location.refine do
    let (draft, events) ←
      shape.readEntries document location.path (shape.named.length + 1) empty events
    match finish draft with
    | .ok value => return (value, events)
    | .error cause => throw { cause }

/-- Stores the value of a scalar. -/
def readInto {α δ : Type} (document : Yaml.Document) (path : List String) (field : Field α)
    (store : α → δ) : Reader δ := fun events => do
  let (value, events) ← readField document path field events
  return (store value, events)

/-- The entries of an ESP association. -/
def EspDraft.shape : Shape EspKey EspDraft where
  named := EspKey.named
  has := EspDraft.has
  read document path draft key :=
    match key with
    | .spi => readInto document path .uint32 fun spi => { draft with spi }
    | .seq => readInto document path .uint32 fun seq => { draft with seq }
    | .cipherKey =>
        readInto document path (.ofText decodeHex) fun cipherKey => { draft with cipherKey }
    | .authKey => readInto document path (.ofText decodeHex) fun authKey => { draft with authKey }

/-- The entries of a MACsec association. -/
def MacsecDraft.shape : Shape MacsecKey MacsecDraft where
  named := MacsecKey.named
  has := MacsecDraft.has
  read document path draft key :=
    match key with
    | .sak => readInto document path (.ofText decodeHex) fun sak => { draft with sak }
    | .sci => readInto document path (.optional decodeHex) fun sci => { draft with sci := some sci }
    | .systemMac =>
        readInto document path (.optional decodeMac) fun mac => { draft with systemMac := some mac }
    | .channelNumber =>
        readInto document path .uint16 fun number => { draft with channelNumber := number }
    | .pn => readInto document path .uint32 fun pn => { draft with pn }
    | .an => readInto document path .uint8 fun an => { draft with an }
    | .secTag =>
        readInto document path (.optional decodeHex) fun tag => { draft with secTag := some tag }

/-- Reads a mapping that may be unset; `read` starts at its first entry, and
`expected` names what fits. -/
def readSection {α : Type} (document : Yaml.Document) (path : List String) (expected : String)
    (read : Location → Reader α) : Reader (Option α) := fun events =>
  match document.resolve events with
  | ⟨.mappingStart, place⟩ :: entries => do
      let (value, behind) ← read ⟨path, place⟩ entries
      return (some value, if Yaml.Document.startsAlias events then events.drop 1 else behind)
  | ⟨.scalar scalar, place⟩ :: _ =>
      match scalar.isSet? with
      | none => .error { cause := .notNull scalar.text }
      | some false => .ok (none, events.drop 1)
      | some true => .error ⟨.unfit scalar expected, some ⟨path, place⟩⟩
  | events => .error (misplaced path expected events)

/-- The entries of a file. -/
def Draft.shape : Shape RootKey Draft where
  named := RootKey.named
  has := Draft.has
  read document path draft key :=
    match key with
    | .version => readInto document path (.ofText .ok) fun version => { draft with version }
    | .esp => fun events => do
        let read := EspDraft.shape.readMapping {} EspDraft.finish document
        let (esp, events) ← readSection document path "struct EspSa" read events
        return ({ draft with esp := some esp }, events)
    | .macsec => fun events => do
        let read := MacsecDraft.shape.readMapping {} MacsecDraft.finish document
        let (macsec, events) ← readSection document path "struct MacsecSa" read events
        return ({ draft with macsec := some macsec }, events)

/-! ## Files -/

/-- The associations that a document holds. -/
def ofDocument (document : Yaml.Document) : Except Error Config :=
  match document.events, document.ending with
  | ⟨.mappingStart, place⟩ :: events, ending => do
      let (config, _) ← Draft.shape.readMapping {} Draft.finish document ⟨[], place⟩ events
      match ending with
      | .closed => return config
      | .followed => throw { cause := .manyDocuments }
      | .broken => throw { cause := .notYaml }
  | [], .closed => .error { cause := .missingKey "version" }
  | events, _ => .error (misplaced [] "struct SaConfig" events)

/-- The associations that a text holds, before anything is checked. -/
def parse (text : String) : Except Error Config :=
  ofDocument (.ofText text)

/-! ## Checks -/

/-- The warning about a key that is not as long as it should be. -/
def lengthWarning (what : String) (key : Bytes) (expected : Nat) : Log :=
  let length := key.length
  let change := if length < expected then "padded" else "truncated"
  if length = expected then []
  else
    [⟨.warn, s!"{what} is {length} bytes long, it will be {change} to {expected} bytes"⟩]

/-- The warnings about an ESP association. -/
def espWarnings (esp : EspAssociation) : Log :=
  lengthWarning "ESP cipher key" esp.cipherKey Esp.cipherBlobSize
    ++ lengthWarning "ESP auth key" esp.authKey Esp.authKeySize

/-- The warnings about a MACsec association. -/
def macsecWarnings (macsec : MacsecAssociation) : Log :=
  lengthWarning "MACsec SAK" macsec.sak 16
    ++ (macsec.sci.map fun sci => lengthWarning "MACsec SCI" sci 8).getD []

/-- The warnings about the associations of a file. -/
def Config.warnings (config : Config) : Log :=
  (config.esp.map espWarnings).getD [] ++ (config.macsec.map macsecWarnings).getD []

/-- Loads the associations of a file.  The version has to start with `1.`, and
an association number has two bits. -/
def load (text : String) : Traced Error Config :=
  match parse text with
  | .error error => .fail error
  | .ok config =>
      if !"1.".toList.isPrefixOf config.version.toList then
        .fail { cause := .version config.version }
      else if config.macsec.any fun macsec => 3 < macsec.an then
        ⟨.error { cause := .associationNumber }, config.warnings⟩
      else ⟨.ok config, config.warnings⟩

/-- What is said when a file has no ESP association. -/
def noEspMessage : String := "No ESP security association defined"

/-- What is said when a file has no MACsec association. -/
def noMacsecMessage : String := "No MACsec secure association defined"

end PacketProtection.Association

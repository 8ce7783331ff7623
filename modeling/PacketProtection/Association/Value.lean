import PacketProtection.Address
import PacketProtection.Yaml.Document

/-!
# Values in association files

*Texts.*  A text is the text of any scalar.  Where a value is optional, a plain
null or nothing at all means that it is not set; a tag other than that of null
makes it set.

*Numbers.*  A number has to be written without quotes, in decimal without
leading zeros or with `0x`, `0o` or `0b` in front, and must be in range.

*Faults.*  A value that is not what its place asks for is named in the message,
in quotes.  If its tag promises a kind of value, the message asks for that kind.
-/

namespace PacketProtection

/-! ## Scalars -/

namespace Yaml.Scalar

/-- The tag of a kind of value that needs no declaration. -/
def coreTag (kind : String) : Bytes :=
  Bytes.ofString ("tag:yaml.org,2002:" ++ kind)

/-- Is a text one of the spellings of null? -/
def isNullText (text : String) : Bool :=
  text = "null" || text = "Null" || text = "NULL" || text = "~"

/-- The digits of a number to a base, all of them. -/
def digits? (base : Nat) (text : List Char) : Option Nat :=
  if text.isEmpty then none
  else
    text.foldlM
      (fun number c => do
        let digit ← Hex.charValue? c
        if digit < base then some (base * number + digit) else none)
      0

/-- The number that a text is written as. -/
def number? (text : String) : Option Nat :=
  let unsigned := match text.toList with
    | '+' :: rest => rest
    | chars => chars
  match unsigned with
  | '0' :: 'x' :: rest => digits? 16 rest
  | '0' :: 'o' :: rest => digits? 8 rest
  | '0' :: 'b' :: rest => digits? 2 rest
  | ['0'] => some 0
  | '0' :: _ => none
  | _ => digits? 10 unsigned

/-- The number of a scalar below a limit. -/
def number (scalar : Scalar) (limit : Nat) : Option Nat :=
  let isNumeric := match scalar.style with
    | .plain => true
    | .literal => scalar.tag = some (coreTag "int")
    | _ => false
  if isNumeric then (number? scalar.text).filter (· < limit) else none

/-- Whether an optional value is set; neither if its tag promises a null and it
is none. -/
def isSet? (scalar : Scalar) : Option Bool :=
  if scalar.style ≠ .plain then some true
  else
    match scalar.tag with
    | none => some (!(scalar.text.isEmpty || isNullText scalar.text))
    | some tag =>
        if tag ≠ coreTag "null" then some true
        else if isNullText scalar.text then some false
        else none

/-- The kind of value that the tag of a scalar promises. -/
def promise? (scalar : Scalar) : Option String :=
  scalar.tag.bind fun tag =>
    [(coreTag "bool", "a boolean"), (coreTag "int", "an integer"), (coreTag "float", "a float"),
     (coreTag "null", "null")].lookup tag

end Yaml.Scalar

namespace Association

/-! ## Errors -/

/-- What is wrong with a file. -/
inductive Cause where
  /-- The text is not YAML. -/
  | notYaml
  /-- There is something behind the first document. -/
  | manyDocuments
  | missingKey (key : String)
  | repeatedKey (key : String)
  /-- A key that is none of the known ones. -/
  | unknownKey (key : String) (known : List String)
  /-- A mapping, or else a sequence, where something else is expected. -/
  | collection (isMapping : Bool) (expected : String)
  /-- A scalar that is not what is expected in its place. -/
  | unfit (scalar : Yaml.Scalar) (expected : String)
  /-- A scalar whose tag promises a null. -/
  | notNull (text : String)
  /-- A value is not hexadecimal. -/
  | hex (text : String) (cause : Hex.Error)
  /-- A value is no Ethernet address. -/
  | mac (cause : MacAddress.Error)
  | version (text : String)
  | associationNumber
deriving DecidableEq, Repr

/-- The text of a cause. -/
def Cause.message : Cause → String
  | .notYaml => "the text is not well formed"
  | .manyDocuments =>
      "deserializing from YAML containing more than one document is not supported"
  | .missingKey key => s!"missing field `{key}`"
  | .repeatedKey key => s!"duplicate field `{key}`"
  | .unknownKey key known =>
      let names := ", ".intercalate (known.map fun name => "`" ++ name ++ "`")
      s!"unknown field `{key}`, expected one of {names}"
  | .collection isMapping expected =>
      let kind := if isMapping then "map" else "sequence"
      s!"invalid type: {kind}, expected {expected}"
  | .unfit scalar expected =>
      let text := Quoted.text scalar.text
      match scalar.promise? with
      | some kind => s!"invalid value: string {text}, expected {kind}"
      | none => s!"invalid type: string {text}, expected {expected}"
  | .notNull text =>
      let text := Quoted.text text
      s!"invalid value: string {text}, expected null"
  | .hex text cause =>
      let reason := cause.message
      s!"invalid hex string '{text}': {reason}"
  | .mac cause => cause.message
  | .version text => s!"Unsupported security associations version {text}"
  | .associationNumber => "MACsec association number must be in 0..=3"

/-- Does a cause lie in a single scalar, and not in the mapping around it? -/
def Cause.isOfScalar : Cause → Bool
  | .unknownKey .. | .unfit .. => true
  | _ => false

/-- A node of a file. -/
structure Location where
  /-- The keys that lead to the node. -/
  path : List String
  place : Yaml.Place
deriving DecidableEq, Repr

/-- Why a file holds no associations. -/
structure Error where
  cause : Cause
  /-- The node at fault, if it is a certain one. -/
  location : Option Location := none
deriving DecidableEq, Repr

/-- The text of an error.  The start of the file is not named as a place. -/
def Error.message (error : Error) : String :=
  let text := error.cause.message
  match error.location with
  | none => text
  | some ⟨path, place⟩ =>
      let node := if path.isEmpty then "" else ".".intercalate path ++ ": "
      let start := if place = {} then "" else " at " ++ place.name
      node ++ text ++ start

/-- A result with the location of a node in an error that has none. -/
def Location.refine {α : Type} (location : Location) : Except Error α → Except Error α
  | .ok value => .ok value
  | .error error => .error { error with location := error.location <|> some location }

/-! ## Fields -/

/-- How the scalar of a field is read, and what is said to be expected there. -/
structure Field (α : Type) where
  expected : String
  read : Yaml.Scalar → Except Cause α

/-- Bytes from hexadecimal text, with or without `0x` in front. -/
def decodeHex (text : String) : Except Cause Bytes :=
  let digits := match text.toList with
    | '0' :: 'x' :: rest => String.ofList rest
    | _ => text
  (Hex.decode (Bytes.ofString digits)).mapError (.hex digits)

/-- An Ethernet address. -/
def decodeMac (text : String) : Except Cause MacAddress :=
  (MacAddress.parse text).mapError .mac

namespace Field

/-- A field whose text is read by a function. -/
def ofText {α : Type} (read : String → Except Cause α) : Field α :=
  ⟨"a string", fun scalar => read scalar.text⟩

/-- A field that may be unset, whose text is read by a function. -/
def optional {α : Type} (read : String → Except Cause α) : Field (Option α) where
  expected := "a string"
  read scalar :=
    match scalar.isSet? with
    | none => .error (.notNull scalar.text)
    | some false => .ok none
    | some true => (read scalar.text).map some

/-- A number below a limit. -/
def number (expected : String) (limit : Nat) : Field Nat where
  expected
  read scalar :=
    match scalar.number limit with
    | some number => .ok number
    | none => .error (.unfit scalar expected)

/-- A field whose value goes through a function. -/
def map {α β : Type} (f : α → β) (field : Field α) : Field β :=
  ⟨field.expected, fun scalar => (field.read scalar).map f⟩

/-- A number of eight bits. -/
def uint8 : Field UInt8 :=
  (number "u8" UInt8.size).map UInt8.ofNat

/-- A number of sixteen bits. -/
def uint16 : Field UInt16 :=
  (number "u16" UInt16.size).map UInt16.ofNat

/-- A number of thirty-two bits. -/
def uint32 : Field UInt32 :=
  (number "u32" UInt32.size).map UInt32.ofNat

end Field

end Association

end PacketProtection

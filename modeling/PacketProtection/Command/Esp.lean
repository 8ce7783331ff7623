import PacketProtection.Association.Basic
import PacketProtection.Esp.Tunnel
import PacketProtection.Header.FieldSet
import PacketProtection.Json.Basic

/-!
# ESP command

The command plays the pipeline: it parses the headers of a packet, runs a
transform on the rest, and puts a packet together again.

*Encrypting* takes an IPv4 packet without options and gives a tunnel packet
that keeps the header of the inner packet, with total length, protocol and
checksum changed.  *Decrypting* gives the inner packet, unless the packet was
marked for dropping; a packet that cannot be decoded is dropped and the error
becomes part of the summary.
-/

namespace PacketProtection.Command

/-! ## Checksum -/

/-- Sum of sixteen bits with the carry added back at the end. -/
def endAroundSum (x y : Nat) : Nat :=
  if x + y < 65536 then x + y else x + y - 65535

/-- The Internet checksum of a header whose checksum field is zero (RFC
1071). -/
def checksum (header : Bytes) : Nat :=
  let words := (header.chunks 2 ((header.length + 1) / 2)).map Bytes.toNat
  65535 - words.foldl endAroundSum 0

/-! ## Errors and summaries -/

/-- Why the ESP command has no result. -/
inductive EspError where
  | noIpv4Header (length : Nat)
  | notIpv4
  | ipv4Options
  | notEsp
  | noEspHeader (length : Nat)
  | transform (cause : Fault)
deriving DecidableEq, Repr

/-- The text of a fault. -/
def faultMessage : Fault → String
  | .error cause => cause.message
  | .abort => "header field too wide for a number"

/-- The text of an error. -/
def EspError.message : EspError → String
  | .noIpv4Header length => s!"Packet too short to hold an IPv4 header ({length} bytes)"
  | .notIpv4 => "Not an IPv4 packet"
  | .ipv4Options => "IPv4 options are not supported"
  | .notEsp => "Not an ESP packet"
  | .noEspHeader length => s!"Packet too short to hold an ESP header ({length} bytes)"
  | .transform cause => faultMessage cause

/-- What the ESP command can do. -/
inductive EspAction where
  | encrypt
  | decrypt
deriving DecidableEq, Repr

/-- The name of an action. -/
def EspAction.name : EspAction → String
  | .encrypt => "encrypt"
  | .decrypt => "decrypt"

/-- All actions. -/
def EspAction.all : List EspAction :=
  [.encrypt, .decrypt]

/-- The action of a name. -/
def EspAction.ofName? (name : String) : Option EspAction :=
  all.find? (·.name = name)

/-- What the ESP command reports. -/
structure EspSummary where
  action : EspAction
  spi : UInt32
  seq : UInt32
  /-- Source address of the outer packet. -/
  src : UInt32
  /-- Destination address of the outer packet. -/
  dst : UInt32
  /-- Result of the integrity check, when there was one. -/
  icv : Option Esp.Verdict := none
  dropped : Bool := false
  /-- Why the packet could not be decoded. -/
  error : Option TransformError := none
  /-- The resulting packet, unless it was dropped. -/
  packet : Option Bytes := none
deriving DecidableEq

/-- The name of a verdict. -/
def verdictName : Esp.Verdict → String
  | .valid => "valid"
  | .mismatch => "mismatch"

/-- A summary as JSON; what is not there is left out, except the packet. -/
def EspSummary.toJson (summary : EspSummary) : Json :=
  .obj <|
    [("action", .str summary.action.name), ("spi", .num summary.spi.toNat),
      ("seq", .num summary.seq.toNat), ("src", .str (formatIpv4 summary.src)),
      ("dst", .str (formatIpv4 summary.dst))]
    ++ (summary.icv.map fun verdict => ("icv", Json.str (verdictName verdict))).toList
    ++ [("dropped", .bool summary.dropped)]
    ++ (summary.error.map fun error => ("error", Json.str error.message)).toList
    ++ [("packet", Json.ofBytes? summary.packet)]

/-! ## Headers -/

/-- The number in a field. -/
def fieldNumber (fields : FieldSet) (name : String) : Except EspError UInt64 :=
  (HeaderHost.getUint fields name).mapError (.transform ∘ .error)

/-- Fields with another number in one of them. -/
def withNumber (fields : FieldSet) (name : String) (number : UInt64) :
    Except EspError FieldSet :=
  (HeaderHost.setUint fields name number).mapError .transform

/-- The packed header of fields. -/
def packed (layout : HeaderLayout) (fields : FieldSet) : Except EspError Bytes :=
  (HeaderHost.pack layout fields).mapError (.transform ∘ .error)

/-- The fields of a header at the front of a packet. -/
def unpacked (layout : HeaderLayout) (packet : Bytes) : Except EspError FieldSet :=
  (FieldSet.ofBytes layout packet).mapError (.transform ∘ .error)

/-- The fields of the IPv4 header of a packet. -/
def parseIpv4 (packet : Bytes) : Except EspError FieldSet := do
  if packet.length < Esp.ipv4HeaderLength then
    throw (.noIpv4Header packet.length)
  let ipv4 ← unpacked .ipv4 packet
  if (← fieldNumber ipv4 "version") ≠ 4 then
    throw .notIpv4
  if (← fieldNumber ipv4 "ihl") ≠ 5 then
    throw .ipv4Options
  return ipv4

/-- The IPv4 header of fields, with its checksum. -/
def buildIpv4 (ipv4 : FieldSet) : Except EspError Bytes := do
  let blank ← withNumber ipv4 "hdrChecksum" 0
  let sum := checksum (← packed .ipv4 blank)
  packed .ipv4 (← withNumber blank "hdrChecksum" (UInt64.ofNat sum))

/-- Source and destination address. -/
def addresses (ipv4 : FieldSet) : Except EspError (UInt32 × UInt32) := do
  let src ← fieldNumber ipv4 "srcAddr"
  let dst ← fieldNumber ipv4 "dstAddr"
  return (src.toUInt32, dst.toUInt32)

/-! ## The two actions -/

/-- Encapsulates a packet under an initialization vector. -/
def espEncrypt (association : EspAssociation) (packet : Bytes) (iv : Octets Esp.ivLength) :
    Traced EspError EspSummary := do
  let ipv4 ← .ofExcept (parseIpv4 packet)
  let esp ← .ofExcept (withNumber (.new .esp) "spi" association.spi.toUInt64)
  let esp ← .ofExcept (withNumber esp "seqNo" association.seq.toUInt64)
  let encryption := Esp.encrypt (packet.drop Esp.ipv4HeaderLength) ipv4 esp
    association.cipherKey association.authKey iv.toList
  (⟨encryption.result.mapError .transform, encryption.log⟩ : Traced EspError Unit)
  .ofExcept do
    let outer ← withNumber encryption.ipv4 "protocol" IpProtocol.esp.toUInt64
    let header ← buildIpv4 outer
    let espHeader ← packed .esp esp
    let (src, dst) ← addresses outer
    return {
      action := .encrypt, spi := association.spi, seq := association.seq, src, dst
      packet := some (header ++ espHeader ++ encryption.packet) }

/-- The fields of the ESP header of a packet whose IPv4 header was parsed. -/
def parseEsp (outer : FieldSet) (packet : Bytes) : Except EspError FieldSet := do
  if (← fieldNumber outer "protocol") ≠ IpProtocol.esp.toUInt64 then
    throw .notEsp
  if packet.length < Esp.outerLength then
    throw (.noEspHeader packet.length)
  unpacked .esp (packet.drop Esp.ipv4HeaderLength)

/-- Warns of a packet that names another association. -/
def warnOfSpi (expected found : UInt32) : Traced EspError Unit :=
  if found = expected then pure ()
  else
    let found := Hex.ofNat found.toNat
    let expected := Hex.ofNat expected.toNat
    .say .warn s!"SPI {found} does not match the security association ({expected})"

/-- What is reported of a decryption: its verdict, or why there is none.  Only
the fault of a frame can be reported. -/
def reported : Except Fault Esp.Verdict →
    Except EspError (Option Esp.Verdict × Option TransformError)
  | .ok verdict => .ok (some verdict, none)
  | .error (.error cause) =>
      if cause.isMalformed then .ok (none, some cause) else .error (.transform (.error cause))
  | .error .abort => .error (.transform .abort)

/-- Acts as the pipeline does: drops the packet if its metadata says so, and
puts it together otherwise. -/
def release (decryption : Esp.Decryption FieldSet FieldSet) :
    Except EspError (Bool × Option Bytes) := do
  let egress ← fieldNumber decryption.metadata "egress_spec"
  if egress = HeaderHost.dropEgress then return (true, none)
  else
    let header ← packed .ipv4 decryption.ipv4
    return (false, some (header ++ decryption.packet))

/-- Decapsulates a packet. -/
def espDecrypt (association : EspAssociation) (packet : Bytes) : Traced EspError EspSummary := do
  let outer ← .ofExcept (parseIpv4 packet)
  let esp ← .ofExcept (parseEsp outer packet)
  let spi ← .ofExcept (fieldNumber esp "spi")
  warnOfSpi association.spi spi.toUInt32
  let seq ← .ofExcept (fieldNumber esp "seqNo")
  let addresses ← .ofExcept (addresses outer)
  let decryption := Esp.decrypt (packet.drop Esp.outerLength) (FieldSet.new .ipv4) esp
    (FieldSet.new .standardMetadata) association.cipherKey association.authKey
  let report ← ⟨reported decryption.result, decryption.log⟩
  let released ← .ofExcept (release decryption)
  return {
    action := .decrypt, spi := spi.toUInt32, seq := seq.toUInt32
    src := addresses.1, dst := addresses.2
    icv := report.1, dropped := released.1, error := report.2, packet := released.2 }

end PacketProtection.Command

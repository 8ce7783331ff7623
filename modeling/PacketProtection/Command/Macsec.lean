import PacketProtection.Association.Basic
import PacketProtection.Json.Basic
import PacketProtection.Macsec.Protection

/-!
# MACsec command

The command plays the pipeline for Ethernet frames: it handles addresses,
EtherType and security tag, and hands the payload to a transform.

*Protecting* puts a security tag after the addresses; the EtherType moves into
the secure data.  Nonce and tag come from one source, so that the receiver
finds on the wire everything it needs besides the key: a configured security
tag decides over the packet number and the channel identifier, and only without
one do the settings of the association.

*Validating* takes the channel from the frame.  A frame whose tag is wrong is
dropped.
-/

namespace PacketProtection.Command

/-- Length of destination and source address. -/
def addressesLength : Nat := 12

/-! ## Errors and summaries -/

/-- Why the MACsec command has no result. -/
inductive MacsecError where
  | noEthernetHeader (length : Nat)
  | alreadyProtected
  | noIpv4Header
  | badSecTag
  | noSecTag (length : Nat)
  | notMacsec
  | noSci
  | transform (cause : TransformError)
deriving DecidableEq, Repr

/-- The text of an error. -/
def MacsecError.message : MacsecError → String
  | .noEthernetHeader length => s!"Frame too short to hold an Ethernet header ({length} bytes)"
  | .alreadyProtected => "Frame is already protected"
  | .noIpv4Header => "No IPv4 header to hand over"
  | .badSecTag => "Configured SecTAG must be a 16 bytes MACsec tag carrying the SCI"
  | .noSecTag length => s!"Frame too short to hold a SecTAG ({length} bytes)"
  | .notMacsec => "Not a MACsec frame"
  | .noSci => "SecTAG without SCI are not supported"
  | .transform cause => cause.message

/-- What the MACsec command can do. -/
inductive MacsecAction where
  | protect
  | validate
deriving DecidableEq, Repr

/-- The name of an action. -/
def MacsecAction.name : MacsecAction → String
  | .protect => "protect"
  | .validate => "validate"

/-- All actions. -/
def MacsecAction.all : List MacsecAction :=
  [.protect, .validate]

/-- The action of a name. -/
def MacsecAction.ofName? (name : String) : Option MacsecAction :=
  all.find? (·.name = name)

/-- What the MACsec command reports. -/
structure MacsecSummary where
  action : MacsecAction
  src : MacAddress
  dst : MacAddress
  sci : Bytes
  pn : UInt32
  an : Nat
  /-- Result of the validation, when there was one. -/
  valid : Option Bool := none
  /-- The protected EtherType, if it is known. -/
  etherType : Option (Octets 2)
  /-- The resulting frame, unless it was dropped. -/
  packet : Option Bytes
deriving DecidableEq

/-- The text of an EtherType, empty if it is not known. -/
def etherTypeText : Option (Octets 2) → String
  | some etherType => Hex.encode etherType.toList
  | none => ""

/-- A summary as JSON; what is not there is left out, except the packet. -/
def MacsecSummary.toJson (summary : MacsecSummary) : Json :=
  .obj <|
    [("action", .str summary.action.name), ("src", .str summary.src.format),
      ("dst", .str summary.dst.format), ("sci", .str (Hex.encode summary.sci)),
      ("pn", .num summary.pn.toNat), ("an", .num summary.an)]
    ++ (summary.valid.map fun valid => ("valid", Json.bool valid)).toList
    ++ [("ethertype", .str (etherTypeText summary.etherType)),
        ("packet", Json.ofBytes? summary.packet)]

/-! ## Frames -/

/-- Destination and source address, and what follows them. -/
structure Ethernet where
  dst : MacAddress
  src : MacAddress
  rest : Bytes
deriving DecidableEq

/-- The addresses of a frame. -/
def Ethernet.parse? (frame : Bytes) : Option Ethernet :=
  if h : addressesLength ≤ frame.length then
    some
      { dst := .first 6 frame (by simp [addressesLength] at h; omega)
        src := .first 6 (frame.drop 6) (by simp [addressesLength] at h ⊢; omega)
        rest := frame.drop addressesLength }
  else none

/-- A frame as EtherType and payload after the addresses. -/
def Ethernet.typed? (frame : Bytes) : Option (Ethernet × Octets 2 × Bytes) := do
  let ethernet ← parse? frame
  if h : 2 ≤ ethernet.rest.length then
    some (ethernet, .first 2 ethernet.rest h, ethernet.rest.drop 2)
  else none

/-! ## Protecting -/

/-- The part of a channel that the security tag carries. -/
structure TagChannel where
  secTag : Bytes
  sci : Bytes
  pn : UInt32
  an : Nat
deriving DecidableEq

/-- The channel of a configured security tag, which has to be complete. -/
def TagChannel.ofSecTag? (secTag : Bytes) : Option TagChannel := do
  let view ← View.SecTag.parse? secTag
  if secTag.length = View.SecTag.fullLength ∧ view.etherType = View.EtherType.macsec
      ∧ view.hasSci then
    some ⟨secTag, view.sci, view.packetNumber, view.associationNumber.toNat⟩
  else none

/-- The channel for a frame from a source address, of a length after the
addresses. -/
def TagChannel.choose (association : MacsecAssociation) (src : MacAddress) (length : Nat) :
    Traced MacsecError TagChannel := do
  let sci := association.sciFor src
  match association.secTag with
  | some secTag =>
      match ofSecTag? secTag with
      | none => Traced.fail .badSecTag
      | some channel => do
          if channel.pn ≠ association.pn ∨ channel.sci ≠ sci then
            Traced.say .debug "Using the PN and SCI of the configured SecTAG"
          return channel
  | none =>
      let builder : Macsec.SecTagBuilder :=
        { sci := normalize 8 sci
          packetNumber := association.pn
          associationNumber := association.an
          secureDataLength := some length }
      match builder.build with
      | .error cause => ⟨.error (.transform cause), normalizeLog 8 sci.length⟩
      | .ok secTag =>
          ⟨.ok ⟨secTag.toList, sci, association.pn, association.an.toNat⟩,
           normalizeLog 8 sci.length⟩

/-- The channel parameters for the transforms. -/
def rawChannel (association : MacsecAssociation) (ethernet : Ethernet) (secTag sci : Bytes)
    (pn : UInt32) : Macsec.RawChannel where
  sak := association.sak
  sci := sci
  pn := Bytes.ofNat 4 pn.toNat
  srcMac := ethernet.src.toList
  dstMac := ethernet.dst.toList
  secTag := secTag

/-- Splits a payload into an IPv4 header to hand over, if one is asked for, and
the rest. -/
def handOver (includeIpv4 : Bool) (etherType : Octets 2) (payload : Bytes) :
    Except MacsecError (String × Bytes × Bytes) :=
  if includeIpv4 then
    if etherType.toNat ≠ View.EtherType.ipv4.toNat
        ∨ payload.length < Macsec.ipv4HeaderLength then
      .error .noIpv4Header
    else
      .ok ("T", payload.take Macsec.ipv4HeaderLength, payload.drop Macsec.ipv4HeaderLength)
  else .ok ("F", [], payload)

/-- Protects a frame. -/
def macsecProtect (association : MacsecAssociation) (frame : Bytes) (includeIpv4 : Bool) :
    Traced MacsecError MacsecSummary := do
  match Ethernet.typed? frame with
  | none => Traced.fail (.noEthernetHeader frame.length)
  | some (ethernet, etherType, payload) => do
      if etherType.toNat = View.EtherType.macsec.toNat then
        Traced.fail .alreadyProtected
      let (flag, ipv4Header, payload) ← .ofExcept (handOver includeIpv4 etherType payload)
      let channel ← TagChannel.choose association ethernet.src ethernet.rest.length
      let raw := rawChannel association ethernet channel.secTag channel.sci channel.pn
      let data ← (Macsec.protect raw etherType.toList flag ipv4Header payload).mapError .transform
      return {
        action := .protect, src := ethernet.src, dst := ethernet.dst
        sci := channel.sci, pn := channel.pn, an := channel.an
        etherType := some etherType
        packet := some (frame.take addressesLength ++ channel.secTag ++ data) }

/-! ## Validating -/

/-- The addresses and the security tag of a frame; the tag must be long enough
to carry its SCI. -/
def parseProtected (frame : Bytes) : Except MacsecError (Ethernet × View.SecTag) :=
  match Ethernet.parse? frame with
  | none => .error (.noSecTag frame.length)
  | some ethernet =>
      if ethernet.rest.length < View.SecTag.fullLength then .error (.noSecTag frame.length)
      else
        match View.SecTag.parse? ethernet.rest with
        | none => .error .notMacsec
        | some view =>
            if view.etherType ≠ View.EtherType.macsec then .error .notMacsec
            else if ¬view.hasSci then .error .noSci
            else .ok (ethernet, view)

/-- Validates a frame. -/
def macsecValidate (association : MacsecAssociation) (frame : Bytes) :
    Traced MacsecError MacsecSummary := do
  let (ethernet, view) ← .ofExcept (parseProtected frame)
  let sci := view.sci
  let pn := view.packetNumber
  if sci ≠ association.sciFor ethernet.src then
    let text := Hex.encode sci
    Traced.say .warn s!"SCI {text} does not match the secure association"
  if pn < association.pn then
    let lowest := association.pn.toNat
    let found := pn.toNat
    Traced.say .debug s!"PN {found} is below the lowest acceptable one ({lowest})"
  let raw := rawChannel association ethernet (ethernet.rest.take View.SecTag.fullLength) sci pn
  let validation ←
    (Macsec.validate raw (ethernet.rest.drop View.SecTag.fullLength)).mapError .transform
  let summary (etherType : Option (Octets 2)) (packet : Option Bytes) : MacsecSummary :=
    { action := .validate, src := ethernet.src, dst := ethernet.dst, sci, pn
      an := view.associationNumber.toNat
      valid := some validation.isValid, etherType, packet }
  match validation with
  | .rejected => return summary none none
  | .accepted etherType payload =>
      return summary (some etherType)
        (some (frame.take addressesLength ++ etherType.toList ++ payload))

end PacketProtection.Command

import PacketProtection.Fault
import PacketProtection.View.SecTag

/-!
# Building security tags

The controller gives the pipeline its security tags ready-made.  A tag built
here always carries the SCI, so that its length is sixteen bytes.

The short length tells the length of the secure data when that is below 48
bytes, and is zero for all other lengths and when the length is not known.
-/

namespace PacketProtection.Macsec

/-- The number of the system's secure channel when none is configured. -/
def defaultChannelNumber : UInt16 := 1

/-- The channel identifier of a system: its address and a channel number. -/
def sciOf (mac : Octets 6) (channelNumber : UInt16) : Octets 8 :=
  mac.append (.ofNat 2 channelNumber.toNat)

/-- Secure data of this length and above leave the short length at zero. -/
def shortLengthLimit : Nat := 48

/-- The parameters of a security tag. -/
structure SecTagBuilder where
  sci : Octets 8
  packetNumber : UInt32
  associationNumber : UInt8 := 0
  /-- Is the data encrypted, or only authenticated? -/
  encrypted : Bool := true
  secureDataLength : Option Nat := none
deriving DecidableEq

/-- A parameter of a security tag that has a default. -/
inductive TagSetting where
  | associationNumber (number : UInt8)
  | encrypted (isEncrypted : Bool)
  | secureDataLength (length : Nat)
deriving DecidableEq

namespace SecTagBuilder

/-- The builder with another value for a parameter. -/
def set (builder : SecTagBuilder) : TagSetting → SecTagBuilder
  | .associationNumber number => { builder with associationNumber := number }
  | .encrypted isEncrypted => { builder with encrypted := isEncrypted }
  | .secureDataLength length => { builder with secureDataLength := some length }

/-- The builder with parameters set one after the other. -/
def setAll (builder : SecTagBuilder) (settings : List TagSetting) : SecTagBuilder :=
  settings.foldl set builder

/-- The control bits of a tag. -/
def tci (builder : SecTagBuilder) : BitVec 6 :=
  if builder.encrypted then View.Tci.sc ||| View.Tci.e ||| View.Tci.c else View.Tci.sc

/-- The short length of a tag. -/
def shortLength (builder : SecTagBuilder) : Nat :=
  match builder.secureDataLength with
  | some length => if length < shortLengthLimit then length else 0
  | none => 0

/-- The fields of the tag, whatever its association number. -/
def view (builder : SecTagBuilder) : View.SecTag where
  etherType := View.EtherType.macsec
  tci := builder.tci
  associationNumber := .ofNat 2 builder.associationNumber.toNat
  reserved := 0
  shortLength := .ofNat 6 builder.shortLength
  packetNumber := builder.packetNumber
  rest := builder.sci.toList

/-- The tag; the association number has two bits. -/
def build (builder : SecTagBuilder) : Except TransformError (Octets 16) :=
  if 3 < builder.associationNumber then .error (.fieldOverflow "association_number" 2)
  else .ok ⟨builder.view.toBytes, by simp [View.SecTag.toBytes, view]⟩

end SecTagBuilder

end PacketProtection.Macsec

import PacketProtection.Address
import PacketProtection.Macsec.SecTag

/-!
# Security associations

What both ends of a protected link agree on.  Keys are byte strings of any
length; the transforms bring them to their widths.
-/

namespace PacketProtection

/-- An ESP security association. -/
structure EspAssociation where
  /-- Security parameters index. -/
  spi : UInt32
  /-- Sequence number of the packet. -/
  seq : UInt32
  /-- AES key and nonce. -/
  cipherKey : Bytes
  authKey : Bytes
deriving DecidableEq

/-- A MACsec secure association. -/
structure MacsecAssociation where
  sak : Bytes
  /-- The channel identifier, if it does not follow from an address. -/
  sci : Option Bytes
  systemMac : Option MacAddress
  /-- Number of the secure channel within the system. -/
  channelNumber : UInt16
  /-- Packet number. -/
  pn : UInt32
  /-- Association number. -/
  an : UInt8
  /-- The security tag, if it is not to be built from the rest. -/
  secTag : Option Bytes
deriving DecidableEq

/-- The channel identifier for frames from a source address. -/
def MacsecAssociation.sciFor (association : MacsecAssociation) (source : MacAddress) : Bytes :=
  match association.sci with
  | some sci => sci
  | none =>
      (Macsec.sciOf (association.systemMac.getD source) association.channelNumber).toList

end PacketProtection

import PacketProtection.KeyMaterial

/-!
# Secure channels

The parameters under which a MACsec frame is protected: the association key
(SAK), the channel identifier (SCI), the packet number, both addresses and the
security tag.  The pipeline gives each of them as a byte string of any length,
and each is brought to its own width.

The nonce of the frame is the SCI followed by the packet number.  Both
addresses, destination first, and the security tag are authenticated with the
data but not encrypted.
-/

namespace PacketProtection.Macsec

/-- Channel parameters as the pipeline gives them. -/
structure RawChannel where
  sak : Bytes := []
  sci : Bytes := []
  pn : Bytes := []
  srcMac : Bytes := []
  dstMac : Bytes := []
  secTag : Bytes := []
deriving DecidableEq

/-- Channel parameters in their widths. -/
structure Channel where
  sak : Octets 16
  sci : Octets 8
  pn : Octets 4
  srcMac : Octets 6
  dstMac : Octets 6
  secTag : Octets 16
deriving DecidableEq

namespace RawChannel

/-- Brings every parameter to its width. -/
def normalize (raw : RawChannel) : Channel where
  sak := PacketProtection.normalize 16 raw.sak
  sci := PacketProtection.normalize 8 raw.sci
  pn := PacketProtection.normalize 4 raw.pn
  srcMac := PacketProtection.normalize 6 raw.srcMac
  dstMac := PacketProtection.normalize 6 raw.dstMac
  secTag := PacketProtection.normalize 16 raw.secTag

/-- What is logged while the parameters are brought to their widths. -/
def normalizeLog (raw : RawChannel) : Log :=
  PacketProtection.normalizeLog 16 raw.sak.length
    ++ PacketProtection.normalizeLog 8 raw.sci.length
    ++ PacketProtection.normalizeLog 4 raw.pn.length
    ++ PacketProtection.normalizeLog 6 raw.srcMac.length
    ++ PacketProtection.normalizeLog 6 raw.dstMac.length
    ++ PacketProtection.normalizeLog 16 raw.secTag.length

end RawChannel

namespace Channel

/-- The nonce of a frame. -/
def nonce (channel : Channel) : Octets 12 :=
  channel.sci.append channel.pn

/-- What is authenticated besides the data. -/
def associated (channel : Channel) : Octets 28 :=
  (channel.dstMac.append channel.srcMac).append channel.secTag

end Channel

end PacketProtection.Macsec

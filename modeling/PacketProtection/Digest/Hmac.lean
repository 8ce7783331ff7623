import PacketProtection.Digest.Md5

/-!
# HMAC-MD5-96

The keyed digest of RFC 2104 over MD5, cut to its first twelve bytes as RFC
2403 asks.  The integrity check value (ICV) of an ESP packet is this digest of
several parts of the packet, taken as one message.
-/

namespace PacketProtection

namespace Hmac

/-- A key brought to the block size of the digest: a longer one is digested
first, then zeros follow. -/
def blockKey (key : Bytes) : Bytes :=
  let short := if key.length ≤ 64 then key else (Md5.digest key).toList
  short ++ List.replicate (64 - short.length) 0

/-- HMAC-MD5 of a message. -/
def md5 (key message : Bytes) : Octets 16 :=
  let inner := (blockKey key).map (· ^^^ 0x36)
  let outer := (blockKey key).map (· ^^^ 0x5c)
  Md5.digest (outer ++ (Md5.digest (inner ++ message)).toList)

end Hmac

namespace Icv

/-- Number of bytes of an integrity check value. -/
def size : Nat := 12

/-- The integrity check value of a message made of parts. -/
def compute (key : Bytes) (parts : List Bytes) : Octets size :=
  .first size (Hmac.md5 key parts.flatten).toList (by simp [size])

/-- Is the received value, of any length, the right one? -/
def verify (key : Bytes) (parts : List Bytes) (received : Bytes) : Bool :=
  (compute key parts).toList == received

end Icv

end PacketProtection

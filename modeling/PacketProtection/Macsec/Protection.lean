import PacketProtection.Cipher.Gcm
import PacketProtection.Fault
import PacketProtection.Hex
import PacketProtection.Macsec.Channel

/-!
# MACsec protection and validation

The pipeline keeps the addresses and the security tag; a transform sees the
payload of the frame and the channel parameters.  *Protecting* encrypts the
user data, which is the EtherType, the IPv4 header if it is handed over
separately, and the payload; the result is followed by the tag.  *Validating*
checks the tag, decrypts, and takes the EtherType off again.

A wrong tag is not an error: the frame is rejected and its payload stays as it
is.
-/

namespace PacketProtection.Macsec

/-- Length of the authentication tag. -/
def tagLength : Nat := 16

/-- Length of an EtherType. -/
def etherTypeLength : Nat := 2

/-- Length of an IPv4 header without options. -/
def ipv4HeaderLength : Nat := 20

/-- Does a flag ask for the IPv4 header to be protected?  Only `T` does. -/
def isPrependFlag (flag : String) : Bool :=
  flag == "T"

/-- The data to protect.  EtherType and IPv4 header are brought to their
widths. -/
def userData (etherType : Bytes) (ipv4Header : Option Bytes) (payload : Bytes) : Bytes :=
  let header := ipv4Header.map fun raw => (normalize ipv4HeaderLength raw).toList
  (normalize etherTypeLength etherType).toList ++ header.getD [] ++ payload

/-- What is logged while the user data is put together. -/
def userDataLog (etherType : Bytes) (ipv4Header : Option Bytes) : Log :=
  let header := ipv4Header.map fun raw => normalizeLog ipv4HeaderLength raw.length
  normalizeLog etherTypeLength etherType.length ++ header.getD []

/-! ## Protection -/

/-- The payload of a frame that holds some user data under a channel; none
beyond the limits of the cipher mode. -/
def Channel.seal? (channel : Channel) (data : Bytes) : Option Bytes :=
  (Gcm.seal? channel.sak channel.nonce channel.associated.toList data).map
    fun (ciphertext, tag) => ciphertext ++ tag.toList

/-- Protects a payload; gives the new one. -/
def protect (raw : RawChannel) (etherType : Bytes) (flag : String) (ipv4Header : Bytes)
    (payload : Bytes) : Traced TransformError Bytes :=
  let header := if isPrependFlag flag then some ipv4Header else none
  let data := userData etherType header payload
  let log := raw.normalizeLog ++ userDataLog etherType header
  match raw.normalize.seal? data with
  | none => ⟨.error (.crypto "GCM-AES-128 encryption"), log⟩
  | some sealed =>
      let length := data.length
      let included := if header.isSome then "included" else "not included"
      ⟨.ok sealed,
       log ++ [⟨.debug, s!"macsec: protected {length} bytes (ipv4 header {included})"⟩]⟩

/-! ## Validation -/

/-- What validation finds. -/
inductive Validation where
  /-- The tag is right: the EtherType and the payload after it. -/
  | accepted (etherType : Octets etherTypeLength) (payload : Bytes)
  /-- The tag is wrong. -/
  | rejected
deriving DecidableEq

namespace Validation

/-- Did the tag match? -/
def isValid : Validation → Bool
  | .accepted .. => true
  | .rejected => false

/-- The EtherType as hexadecimal text, empty for a rejected frame. -/
def etherTypeText : Validation → String
  | .accepted etherType _ => Hex.encode etherType.toList
  | .rejected => ""

/-- The payload after validation of `before`: only an accepted frame changes
it. -/
def payloadAfter (before : Bytes) : Validation → Bytes
  | .accepted _ payload => payload
  | .rejected => before

end Validation

/-- Splits user data into EtherType and payload. -/
def splitUserData (data : Bytes) : Except TransformError (Octets etherTypeLength × Bytes) :=
  if h : etherTypeLength ≤ data.length then
    .ok (.first etherTypeLength data h, data.drop etherTypeLength)
  else .error (.truncated "MACsec EtherType" etherTypeLength data.length)

/-- The user data of a payload with the right tag. -/
def Channel.open? (channel : Channel) (payload : Bytes) (enough : tagLength ≤ payload.length) :
    Option Bytes :=
  Gcm.open? channel.sak channel.nonce channel.associated.toList
    (payload.take (payload.length - tagLength))
    ⟨payload.drop (payload.length - tagLength), by simp [tagLength] at *; omega⟩

/-- Validates a payload. -/
def validate (raw : RawChannel) (payload : Bytes) : Traced TransformError Validation :=
  let channel := raw.normalize
  let log := raw.normalizeLog
  if enough : tagLength ≤ payload.length then
    match channel.open? payload enough with
    | none =>
        let sci := Hex.encode channel.sci.toList
        ⟨.ok .rejected, log ++ [⟨.warn, s!"macsec: authentication failed (sci {sci})"⟩]⟩
    | some data =>
        match splitUserData data with
        | .error cause => ⟨.error cause, log⟩
        | .ok (etherType, rest) =>
            let length := data.length
            let text := Hex.encode etherType.toList
            ⟨.ok (.accepted etherType rest),
             log ++ [⟨.debug, s!"macsec: validated {length} bytes, ethertype {text}"⟩]⟩
  else ⟨.error (.truncated "MACsec ICV" tagLength payload.length), log⟩

end PacketProtection.Macsec

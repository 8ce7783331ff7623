import PacketProtection.Proofs.Esp.WireFormat
import PacketProtection.Proofs.Macsec.Image

/-!
# What the log discloses

Messages are shown and kept where keys and packets are not, so no transform may
write a byte of either into them.  That it does not is a statement about two runs:
whatever the secret bytes are, the messages are the same.

*Simulated logs.*  For each transform the log is written once more, by a function
that is given only what may be known: lengths, the index of an association, the
identifier of a channel, the outcome of a validation (`Esp.encryptionLog`,
`Macsec.protectionLog`, `Macsec.validationLog`).  A function cannot write what it
was not given; that the transforms log exactly this is `Esp.log_encrypt`,
`Macsec.log_protect` and `Macsec.log_validate`.

*Two runs.*  Runs that agree in what may be known leave the same messages
(`logs_eq_of_disclosed`).
-/

namespace PacketProtection

open HeaderHost

/-! ## ESP -/

namespace Esp

/-- What an encryption logs when it succeeds, by the lengths of its byte strings and
the index of the association. -/
def encryptionLog (cipherLength authLength payloadLength : Nat) (spi : UInt64) : Log :=
  let inner := ipv4HeaderLength + payloadLength
  let total := outerTotal payloadLength - outerLength
  let spi := Hex.ofNat spi.toNat
  keyLog cipherLength authLength ++
    [⟨.debug, s!"esp: encapsulated {inner} bytes into {total} bytes (spi {spi})"⟩]

variable {I E : Type} [HeaderHost I] [HeaderHost E]

/-- A successful encryption read the index of the association. -/
theorem exists_spi_of_encrypt {packet cipherKey authKey random : Bytes} {ipv4 : I} {esp : E}
    (succeeds : (encrypt packet ipv4 esp cipherKey authKey random).result = .ok ()) :
    ∃ spi, getUint esp "spi" = .ok spi := by
  obtain ⟨_, _, _, espPacks, -⟩ := encrypt_eq_ok succeeds
  exact exists_spi espPacks

/-- **A successful encryption logs lengths and the index of the association**, and
nothing else of what it was given. -/
theorem log_encrypt {packet cipherKey authKey random : Bytes} {ipv4 : I} {esp : E} {spi : UInt64}
    (succeeds : (encrypt packet ipv4 esp cipherKey authKey random).result = .ok ())
    (read : getUint esp "spi" = .ok spi) :
    (encrypt packet ipv4 esp cipherKey authKey random).log =
      encryptionLog cipherKey.length authKey.length packet.length spi := by
  obtain ⟨header, inner, iv, espPacks, ipv4Packs, drawn, packet_eq, stored⟩ :=
    encrypt_eq_ok succeeds
  have innerLength : inner.length = ipv4HeaderLength :=
    (length_pack ipv4Packs).trans HeaderLayout.length_ipv4
  have total : (wire cipherKey authKey header inner packet iv).length =
      outerTotal packet.length - outerLength :=
    Nat.eq_sub_of_add_eq (length_wire innerLength)
  rw [packet_eq] at stored
  rw [wire] at stored total
  unfold encrypt
  rw [headerBytes_eq, ipv4Bytes_eq, espPacks, ipv4Packs]
  simp only [requireBlocks_appendTrailer, drawn, stored, read]
  rw [encryptionLog, total, List.length_append, innerLength]

example : encryptionLog 19 16 3 256 =
    [⟨.debug, "key material padded from 19 to 20 bytes"⟩,
      ⟨.debug, "esp: encapsulated 23 bytes into 52 bytes (spi 0x100)"⟩] := by
  decide

end Esp

/-! ## MACsec -/

namespace Macsec

/-- The lengths of channel parameters. -/
structure Lengths where
  sak : Nat
  sci : Nat
  pn : Nat
  srcMac : Nat
  dstMac : Nat
  secTag : Nat
deriving DecidableEq

def RawChannel.lengths (raw : RawChannel) : Lengths where
  sak := raw.sak.length
  sci := raw.sci.length
  pn := raw.pn.length
  srcMac := raw.srcMac.length
  dstMac := raw.dstMac.length
  secTag := raw.secTag.length

/-- What is logged while parameters of these lengths are brought to their widths. -/
def Lengths.log (lengths : Lengths) : Log :=
  normalizeLog 16 lengths.sak ++ normalizeLog 8 lengths.sci ++ normalizeLog 4 lengths.pn
    ++ normalizeLog 6 lengths.srcMac ++ normalizeLog 6 lengths.dstMac
    ++ normalizeLog 16 lengths.secTag

theorem RawChannel.normalizeLog_eq (raw : RawChannel) : raw.normalizeLog = raw.lengths.log := rfl

/-! ### Protection -/

/-- What a protection logs when it succeeds. -/
def protectionLog (lengths : Lengths) (kindLength headerLength payloadLength : Nat)
    (prepends : Bool) : Log :=
  let length := etherTypeLength + (if prepends then ipv4HeaderLength else 0) + payloadLength
  let included := if prepends then "included" else "not included"
  lengths.log
    ++ (normalizeLog etherTypeLength kindLength
      ++ if prepends then normalizeLog ipv4HeaderLength headerLength else [])
    ++ [⟨.debug, s!"macsec: protected {length} bytes (ipv4 header {included})"⟩]

section Flagged

variable (etherType : Bytes) (flag : String) (ipv4Header payload : Bytes)

theorem isSome_flaggedHeader :
    (flaggedHeader flag ipv4Header).isSome = isPrependFlag flag := by
  rw [flaggedHeader]
  cases isPrependFlag flag <;> rfl

theorem length_userData_flaggedHeader :
    (userData etherType (flaggedHeader flag ipv4Header) payload).length =
      etherTypeLength + (if isPrependFlag flag then ipv4HeaderLength else 0) + payload.length := by
  rw [userData, flaggedHeader, List.length_append, List.length_append, Octets.length_toList]
  cases isPrependFlag flag with
  | true =>
      show _ + (normalize ipv4HeaderLength ipv4Header).toList.length + _ = _
      rw [Octets.length_toList]
      rfl
  | false => rfl

theorem userDataLog_flaggedHeader :
    userDataLog etherType (flaggedHeader flag ipv4Header) =
      normalizeLog etherTypeLength etherType.length ++
        if isPrependFlag flag then normalizeLog ipv4HeaderLength ipv4Header.length else [] := by
  rw [userDataLog, flaggedHeader]
  cases isPrependFlag flag <;> rfl

end Flagged

/-- **A successful protection logs lengths**, and whether the IPv4 header was
included. -/
theorem log_protect {raw : RawChannel} {etherType : Bytes} {flag : String}
    {ipv4Header payload sealed : Bytes}
    (done : (protect raw etherType flag ipv4Header payload).result = .ok sealed) :
    (protect raw etherType flag ipv4Header payload).log =
      protectionLog raw.lengths etherType.length ipv4Header.length payload.length
        (isPrependFlag flag) := by
  have found := seal?_of_protect done
  rw [← userData_flaggedHeader] at found
  rw [protect, ← flaggedHeader]
  simp only [found, protectionLog, RawChannel.normalizeLog_eq, isSome_flaggedHeader,
    length_userData_flaggedHeader, userDataLog_flaggedHeader]

/-! ### Validation -/

/-- What the pipeline is told of a validation: whether the tag matched, and the
EtherType as text. -/
def Validation.shown (found : Validation) : Bool × String :=
  (found.isValid, found.etherTypeText)

/-- What a validation logs, by what the pipeline is told of it. -/
def validationLog (lengths : Lengths) (sci : Octets 8) (payloadLength : Nat) :
    Except TransformError (Bool × String) → Log
  | .error _ => lengths.log
  | .ok (false, _) =>
      let sci := Hex.encode sci.toList
      lengths.log ++ [⟨.warn, s!"macsec: authentication failed (sci {sci})"⟩]
  | .ok (true, text) =>
      let length := payloadLength - tagLength
      lengths.log ++ [⟨.debug, s!"macsec: validated {length} bytes, ethertype {text}"⟩]

/-- **A validation logs lengths, the identifier of the channel and its outcome.**  The
EtherType is the only part of the payload in it, and the outcome has it too. -/
theorem log_validate (raw : RawChannel) (payload : Bytes) :
    (validate raw payload).log =
      validationLog raw.lengths raw.normalize.sci payload.length
        ((validate raw payload).result.map Validation.shown) := by
  rw [validate, RawChannel.normalizeLog_eq]
  split
  next enough =>
    simp only
    cases opened : raw.normalize.open? payload enough with
    | none => rfl
    | some data =>
        simp only
        cases parts : splitUserData data with
        | error cause => rfl
        | ok found =>
            have length : payload.length - tagLength = data.length :=
              Nat.sub_eq_of_eq_add (Channel.length_of_open? enough opened)
            simp only [Except.map, Validation.shown, Validation.isValid,
              Validation.etherTypeText, validationLog, length]
  next => rfl

end Macsec

/-! ## Two runs -/

open Esp Macsec

/-- **No byte of a key or a payload reaches the log.**  Two encryptions that succeed
log the same if their byte strings have the same lengths and their associations the
same index; the hosts and the vectors may differ in everything else.  Two protections
that succeed log the same if the lengths agree and both flags ask for the same, and
two validations if the lengths, the identifier of the channel and the outcome agree. -/
theorem logs_eq_of_disclosed {I J E F : Type} [HeaderHost I] [HeaderHost J] [HeaderHost E]
    [HeaderHost F] :
    (∀ (packet packet' cipherKey cipherKey' authKey authKey' random random' : Bytes)
        (ipv4 : I) (ipv4' : J) (esp : E) (esp' : F),
      let first := encrypt packet ipv4 esp cipherKey authKey random
      let second := encrypt packet' ipv4' esp' cipherKey' authKey' random'
      first.result = .ok () → second.result = .ok () →
      cipherKey.length = cipherKey'.length → authKey.length = authKey'.length →
      packet.length = packet'.length → getUint esp "spi" = getUint esp' "spi" →
      first.log = second.log) ∧
    (∀ (raw raw' : RawChannel) (etherType etherType' : Bytes) (flag flag' : String)
        (ipv4Header ipv4Header' payload payload' sealed sealed' : Bytes),
      let first := protect raw etherType flag ipv4Header payload
      let second := protect raw' etherType' flag' ipv4Header' payload'
      first.result = .ok sealed → second.result = .ok sealed' →
      raw.lengths = raw'.lengths → etherType.length = etherType'.length →
      ipv4Header.length = ipv4Header'.length → payload.length = payload'.length →
      isPrependFlag flag = isPrependFlag flag' →
      first.log = second.log) ∧
    ∀ (raw raw' : RawChannel) (payload payload' : Bytes),
      let first := validate raw payload
      let second := validate raw' payload'
      raw.lengths = raw'.lengths → payload.length = payload'.length →
      normalize 8 raw.sci = normalize 8 raw'.sci →
      first.result.map Validation.shown = second.result.map Validation.shown →
      first.log = second.log := by
  refine ⟨?_, ?_, ?_⟩
  · intro packet packet' cipherKey cipherKey' authKey authKey' random random' ipv4 ipv4' esp esp'
      first second succeeds succeeds' sameCipherLength sameAuthLength sameLength sameSpi
    obtain ⟨spi, read⟩ := exists_spi_of_encrypt succeeds
    rw [log_encrypt succeeds read, log_encrypt succeeds' (sameSpi.symm.trans read),
      sameCipherLength, sameAuthLength, sameLength]
  · intro raw raw' etherType etherType' flag flag' ipv4Header ipv4Header' payload payload' sealed
      sealed' first second done done' sameLengths sameKind sameHeader sameLength sameFlag
    rw [log_protect done, log_protect done', sameLengths, sameKind, sameHeader, sameLength,
      sameFlag]
  · intro raw raw' payload payload' first second sameLengths sameLength sameSci sameOutcome
    have sci : raw.normalize.sci = raw'.normalize.sci := sameSci
    rw [log_validate, log_validate, sameLengths, sameLength, sci, sameOutcome]

/-- Tunnels of the same index with other keys, vectors and headers, and channels of
the same identifier with other keys: the packets differ, and the logs do not. -/
theorem logs_eq_of_disclosed_other_secrets :
    (∃ ipv4 esp first second,
      set (FieldSet.new .ipv4) "ttl" [64] = .ok ipv4 ∧
      set (FieldSet.new .esp) "seqNo" [0, 0, 0, 5] = .ok esp ∧
      first = encrypt [1, 2, 3] (FieldSet.new .ipv4) (FieldSet.new .esp) [1] [2]
        (.replicate 8 9) ∧
      second = encrypt [4, 5, 6] ipv4 esp [7] [8] (.replicate 8 3) ∧
      first.result = .ok () ∧ second.result = .ok () ∧
      getUint (FieldSet.new .esp) "spi" = getUint esp "spi" ∧
      first.packet ≠ second.packet ∧ first.log = second.log) ∧
    let raw : RawChannel := { sak := [1], sci := [3] }
    let raw' : RawChannel := { sak := [2], sci := [3] }
    let first := protect raw [8, 0] "F" [] [1, 2, 3]
    let second := protect raw' [8, 0] "" [] [4, 5, 6]
    raw.lengths = raw'.lengths ∧ isPrependFlag "F" = isPrependFlag "" ∧
    normalize 8 raw.sci = normalize 8 raw'.sci ∧ first.log = second.log ∧
    ∃ sealed sealed' : Bytes,
      first.result = .ok sealed ∧ second.result = .ok sealed' ∧ sealed.length = sealed'.length ∧
      (validate raw sealed).result.map Validation.shown = .ok (true, "0800") ∧
      (validate raw' sealed').result.map Validation.shown = .ok (true, "0800") ∧
      (validate raw sealed).log = (validate raw' sealed').log := by
  obtain ⟨encryptions, protections, validations⟩ :=
    @logs_eq_of_disclosed FieldSet FieldSet FieldSet FieldSet _ _ _ _
  constructor
  · refine ⟨_, _, _, _, rfl, rfl, rfl, rfl, ?first, ?second, ?spi, ?packets,
      encryptions _ _ _ _ _ _ _ _ _ _ _ _ ?first ?second rfl rfl rfl ?spi⟩
    case first => decide +kernel
    case second => decide +kernel
    case spi => decide +kernel
    case packets => decide +kernel
  · intro raw raw' first second
    let kind : Octets etherTypeLength := ⟨[8, 0], rfl⟩
    have limit : (kind.toList ++ [1, 2, 3]).length ≤ Gcm.maxPlaintext := by decide
    have limit' : (kind.toList ++ [4, 5, 6]).length ≤ Gcm.maxPlaintext := by decide
    obtain ⟨sealed, sealing, length⟩ := raw.normalize.seal?_of_le limit
    obtain ⟨sealed', sealing', length'⟩ := raw'.normalize.seal?_of_le limit'
    have done : first.result = .ok sealed := (protect_eq_ok (by decide)).mpr sealing
    have done' : second.result = .ok sealed' := (protect_eq_ok (by decide)).mpr sealing'
    have outcome : (validate raw sealed).result.map Validation.shown = .ok (true, "0800") := by
      rw [result_validate_of_seal? sealing]
      decide
    have outcome' : (validate raw' sealed').result.map Validation.shown = .ok (true, "0800") := by
      rw [result_validate_of_seal? sealing']
      decide
    have sameLength : sealed.length = sealed'.length := length.trans length'.symm
    exact ⟨rfl, by decide, rfl,
      protections _ _ _ _ _ _ _ _ _ _ _ _ done done' rfl rfl rfl rfl (by decide),
      sealed, sealed', done, done', sameLength, outcome, outcome',
      validations raw raw' sealed sealed' rfl sameLength rfl (outcome.trans outcome'.symm)⟩

end PacketProtection

import PacketProtection.Proofs.Esp.Separation
import PacketProtection.Proofs.Macsec.RoundTrip

/-!
# Keys and headers spelled in other ways

Table entries lose their leading zero bytes, so one key can reach a transform in
several *spellings*: cut to its width or filled up to it, and with any number of
zeros in front (`Respelled`).  Spellings of one byte string are the same in their
width (`Respelled.normalize_eq`), and nothing but the log of a transform looks at
more (`Esp.silent_encrypt`, `Esp.silent_decrypt`, `Macsec.result_protect_congr`,
`Macsec.result_validate_congr`).

*Cipher blob.*  A blob is brought to its width before it is split, so a blob of at
least four bytes keeps its last four as the nonce (`Esp.CipherKey.nonce_ofBlob`).
-/

namespace PacketProtection

/-! ## Spellings -/

/-- Another spelling of a byte string that is brought to a width. -/
inductive Respelled (width : Nat) : (raw other : Bytes) → Prop
  | same (raw : Bytes) : Respelled width raw raw
  | normalized (raw : Bytes) : Respelled width raw (normalize width raw).toList
  /-- Zeros in front are taken away or put there, within the width. -/
  | zeros {before after : Nat} {core : Bytes} :
      before + core.length ≤ width → after + core.length ≤ width →
      Respelled width (List.replicate before 0 ++ core) (List.replicate after 0 ++ core)

theorem normalize_of_le {width : Nat} {raw : Bytes} (short : raw.length ≤ width) :
    (normalize width raw).toList = List.replicate (width - raw.length) 0 ++ raw := by
  show List.replicate _ 0 ++ raw.take width = _
  rw [List.take_of_length_le short]

/-- Zeros in front are made up for by the filling. -/
theorem normalize_zeros {width zeros : Nat} {core : Bytes} (short : zeros + core.length ≤ width) :
    normalize width (List.replicate zeros 0 ++ core) = normalize width core := by
  have length : (List.replicate zeros (0 : UInt8) ++ core).length = zeros + core.length := by
    rw [List.length_append, List.length_replicate]
  apply Octets.ext
  rw [normalize_of_le (length ▸ short), normalize_of_le (by omega), length, ← List.append_assoc,
    List.replicate_append_replicate, show width - (zeros + core.length) + zeros =
      width - core.length by omega]

theorem Respelled.normalize_eq {width : Nat} {raw other : Bytes} (spelled : Respelled width raw other) :
    normalize width other = normalize width raw := by
  cases spelled with
  | same => rfl
  | normalized => exact normalize_toList _
  | zeros before after => rw [normalize_zeros before, normalize_zeros after]

namespace Esp

open HeaderHost

/-! ## Cipher blobs -/

/-- The zeros that a blob lacks are missing from its key. -/
theorem CipherKey.key_ofBlob {raw : Bytes} (enough : 4 ≤ raw.length) (short : raw.length ≤ 20) :
    (CipherKey.ofBlob raw).key.toList =
      List.replicate (20 - raw.length) 0 ++ raw.take (raw.length - 4) := by
  show (normalize 20 raw).toList.take 16 = _
  rw [normalize_of_le short, List.take_append, List.take_of_length_le (by simp; omega),
    List.length_replicate, show 16 - (20 - raw.length) = raw.length - 4 by omega]

theorem CipherKey.nonce_ofBlob {raw : Bytes} (enough : 4 ≤ raw.length) (short : raw.length ≤ 20) :
    (CipherKey.ofBlob raw).nonce.toList = raw.drop (raw.length - 4) := by
  show (normalize 20 raw).toList.drop 16 = _
  rw [normalize_of_le short, List.drop_append, List.drop_of_length_le (by simp; omega),
    List.length_replicate, show 16 - (20 - raw.length) = raw.length - 4 by omega,
    List.nil_append]

/-! ## Encryption -/

variable {I E M : Type}

/-- All that an encryption gives but its log. -/
def Encryption.silent (sent : Encryption I) : Encryption I :=
  { sent with log := [] }

/-- Encryption looks at its keys in their widths only. -/
theorem silent_encrypt [HeaderHost I] [HeaderHost E] {cipherKey cipherKey' authKey authKey' : Bytes}
    (sameCipher : normalize 20 cipherKey' = normalize 20 cipherKey)
    (sameAuth : normalize 16 authKey' = normalize 16 authKey) (packet : Bytes) (ipv4 : I) (esp : E)
    (random : Bytes) :
    (encrypt packet ipv4 esp cipherKey' authKey' random).silent =
      (encrypt packet ipv4 esp cipherKey authKey random).silent := by
  unfold encrypt
  rw [ofBlob_congr sameCipher, show Esp.authKey authKey' = Esp.authKey authKey from sameAuth]
  cases headerBytes esp with
  | error cause => rfl
  | ok header =>
      cases ipv4Bytes ipv4 with
      | error cause => rfl
      | ok inner =>
          simp only
          cases requireBlocks (appendTrailer (inner ++ packet)).length with
          | error cause => rfl
          | ok _ =>
              cases drawIv? random with
              | none => rfl
              | some drawn =>
                  simp only
                  split
                  · rfl
                  · cases getUint esp "spi" <;> rfl

/-! ## Decryption -/

/-- All that a decryption gives but its log. -/
def Decryption.silent (ended : Decryption I M) : Decryption I M :=
  { ended with log := [] }

theorem Decryption.silent_deliver [HeaderHost I] (packet : Bytes) (ipv4 : I) (metadata : M) (log log' : Log)
    (verdict : Verdict) (frame : Frame) (cipherKey : CipherKey) :
    (deliver packet ipv4 metadata log' verdict frame cipherKey).silent =
      (deliver packet ipv4 metadata log verdict frame cipherKey).silent := by
  unfold deliver
  cases frame.datagram cipherKey with
  | error cause => rfl
  | ok decoded =>
      simp only
      cases TransformError.require "inner IPv4 header" ipv4HeaderLength decoded.1.length with
      | error cause => rfl
      | ok _ =>
          simp only
          split <;> rfl

theorem silent_attempt [HeaderHost I] [HeaderHost E] [HeaderHost M] {cipherKey cipherKey' authKey authKey' : Bytes}
    (sameCipher : normalize 20 cipherKey' = normalize 20 cipherKey)
    (sameAuth : normalize 16 authKey' = normalize 16 authKey) (packet : Bytes) (ipv4 : I) (esp : E)
    (metadata : M) :
    (attempt packet ipv4 esp metadata cipherKey' authKey').silent =
      (attempt packet ipv4 esp metadata cipherKey authKey).silent := by
  unfold attempt
  rw [ofBlob_congr sameCipher, show Esp.authKey authKey' = Esp.authKey authKey from sameAuth]
  cases headerBytes esp with
  | error cause => rfl
  | ok header =>
      cases Frame.split packet with
      | error cause => rfl
      | ok frame =>
          simp only
          split
          · exact Decryption.silent_deliver _ _ _ _ _ _ _ _
          · cases getUint esp "spi" with
            | error cause => rfl
            | ok spi =>
                cases getUint esp "seqNo" with
                | error cause => rfl
                | ok seq =>
                    simp only
                    split
                    · rfl
                    · exact Decryption.silent_deliver _ _ _ _ _ _ _ _

/-- Marking a malformed frame looks at no log. -/
theorem Decryption.silent_markMalformed [HeaderHost M] (attempted : Decryption I M) :
    attempted.markMalformed.silent = attempted.silent.markMalformed.silent := by
  obtain ⟨result, packet, ipv4, metadata, log⟩ := attempted
  unfold markMalformed silent
  match result with
  | .ok verdict => rfl
  | .error .abort => rfl
  | .error (.error cause) =>
      cases malformed : cause.isMalformed with
      | false => simp only [malformed, Bool.false_eq_true, if_false]
      | true =>
          simp only [malformed, if_true]
          cases markDrop metadata with
          | mk marking after => cases marking <;> rfl

/-- Decryption looks at its keys in their widths only. -/
theorem silent_decrypt [HeaderHost I] [HeaderHost E] [HeaderHost M] {cipherKey cipherKey' authKey authKey' : Bytes}
    (sameCipher : normalize 20 cipherKey' = normalize 20 cipherKey)
    (sameAuth : normalize 16 authKey' = normalize 16 authKey) (packet : Bytes) (ipv4 : I) (esp : E)
    (metadata : M) :
    (decrypt packet ipv4 esp metadata cipherKey' authKey').silent =
      (decrypt packet ipv4 esp metadata cipherKey authKey).silent := by
  rw [decrypt, Decryption.silent_markMalformed, silent_attempt sameCipher sameAuth,
    ← Decryption.silent_markMalformed]
  rfl

end Esp

namespace Macsec

/-! ## MACsec -/

/-- Another spelling of any of a channel's parameters. -/
structure RawChannel.Respelled (raw other : RawChannel) : Prop where
  sak : PacketProtection.Respelled 16 raw.sak other.sak
  sci : PacketProtection.Respelled 8 raw.sci other.sci
  pn : PacketProtection.Respelled 4 raw.pn other.pn
  srcMac : PacketProtection.Respelled 6 raw.srcMac other.srcMac
  dstMac : PacketProtection.Respelled 6 raw.dstMac other.dstMac
  secTag : PacketProtection.Respelled 16 raw.secTag other.secTag

theorem RawChannel.Respelled.normalize_eq {raw other : RawChannel} (spelled : raw.Respelled other) :
    other.normalize = raw.normalize := by
  rw [RawChannel.normalize, spelled.sak.normalize_eq, spelled.sci.normalize_eq,
    spelled.pn.normalize_eq, spelled.srcMac.normalize_eq, spelled.dstMac.normalize_eq,
    spelled.secTag.normalize_eq]
  rfl

/-- Protection looks at channel, EtherType and IPv4 header in their widths only. -/
theorem result_protect_congr {raw other : RawChannel} {etherType etherType' ipv4Header ipv4Header' :
    Bytes} (sameChannel : other.normalize = raw.normalize)
    (sameType : normalize 2 etherType' = normalize 2 etherType)
    (sameHeader : normalize 20 ipv4Header' = normalize 20 ipv4Header) (flag : String)
    (payload : Bytes) :
    (protect other etherType' flag ipv4Header' payload).result =
      (protect raw etherType flag ipv4Header payload).result := by
  rw [result_protect, result_protect, sameChannel, etherTypeLength, sameType, userBody, userBody,
    ipv4HeaderLength, sameHeader]

end Macsec

/-! ## Any spelling -/

/-- **No transform tells the spellings of its inputs apart.**  Whichever of them are
spelled in another way, the results are the same but for the log; and a cipher blob
of at least four bytes has its last four as the nonce. -/
theorem respelled_inputs_agree :
    (∀ {I E : Type} [HeaderHost I] [HeaderHost E] (packet : Bytes) (ipv4 : I) (esp : E)
        (random : Bytes) {cipherKey cipherKey' authKey authKey' : Bytes},
      Respelled 20 cipherKey cipherKey' → Respelled 16 authKey authKey' →
        (Esp.encrypt packet ipv4 esp cipherKey' authKey' random).silent =
          (Esp.encrypt packet ipv4 esp cipherKey authKey random).silent) ∧
    (∀ {I E M : Type} [HeaderHost I] [HeaderHost E] [HeaderHost M] (packet : Bytes) (ipv4 : I)
        (esp : E) (metadata : M) {cipherKey cipherKey' authKey authKey' : Bytes},
      Respelled 20 cipherKey cipherKey' → Respelled 16 authKey authKey' →
        (Esp.decrypt packet ipv4 esp metadata cipherKey' authKey').silent =
          (Esp.decrypt packet ipv4 esp metadata cipherKey authKey).silent) ∧
    (∀ (flag : String) (payload : Bytes) {raw other : Macsec.RawChannel}
        {etherType etherType' ipv4Header ipv4Header' : Bytes},
      raw.Respelled other → Respelled 2 etherType etherType' →
        Respelled 20 ipv4Header ipv4Header' →
        (Macsec.protect other etherType' flag ipv4Header' payload).result =
          (Macsec.protect raw etherType flag ipv4Header payload).result) ∧
    (∀ (payload : Bytes) {raw other : Macsec.RawChannel}, raw.Respelled other →
      (Macsec.validate other payload).result = (Macsec.validate raw payload).result) ∧
    ∀ {blob : Bytes}, 4 ≤ blob.length → blob.length ≤ 20 →
      (Esp.CipherKey.ofBlob blob).key.toList =
        List.replicate (20 - blob.length) 0 ++ blob.take (blob.length - 4) ∧
      (Esp.CipherKey.ofBlob blob).nonce.toList = blob.drop (blob.length - 4) := by
  refine ⟨?encryption, ?decryption, ?protection, ?validation, ?blobs⟩
  case encryption =>
    intro I E _ _ packet ipv4 esp random cipherKey cipherKey' authKey authKey' cipher auth
    exact Esp.silent_encrypt cipher.normalize_eq auth.normalize_eq packet ipv4 esp random
  case decryption =>
    intro I E M _ _ _ packet ipv4 esp metadata cipherKey cipherKey' authKey authKey' cipher auth
    exact Esp.silent_decrypt cipher.normalize_eq auth.normalize_eq packet ipv4 esp metadata
  case protection =>
    intro flag payload raw other etherType etherType' ipv4Header ipv4Header' channel kind header
    exact Macsec.result_protect_congr channel.normalize_eq kind.normalize_eq header.normalize_eq
      flag payload
  case validation =>
    intro payload raw other channel
    exact Macsec.result_validate_congr channel.normalize_eq payload
  case blobs =>
    intro blob enough short
    exact ⟨Esp.CipherKey.key_ofBlob enough short, Esp.CipherKey.nonce_ofBlob enough short⟩

/-- Stripped keys, a channel spelled in three ways, and an EtherType that is too
long. -/
theorem respelled_inputs_agree_stripped :
    ∃ (blob full : Bytes) (raw other : Macsec.RawChannel),
      blob = [1, 2, 3, 4, 5] ∧ full = List.replicate 15 0 ++ blob ∧
      raw = { sak := [7], pn := [0, 0, 1], secTag := [0x88, 0xe5] } ∧
      other = { sak := [0, 7], pn := [1], secTag := (normalize 16 [0x88, 0xe5]).toList } ∧
      Respelled 20 blob full ∧ Respelled 16 [] (List.replicate 16 0) ∧ raw.Respelled other ∧
      Respelled 2 [8, 0, 9] [8, 0] ∧ 4 ≤ blob.length ∧ blob.length ≤ 20 ∧
      (∀ packet random : Bytes,
        (Esp.encrypt packet (FieldSet.new .ipv4) (FieldSet.new .esp) full (List.replicate 16 0)
            random).silent =
          (Esp.encrypt packet (FieldSet.new .ipv4) (FieldSet.new .esp) blob [] random).silent ∧
        (Esp.decrypt packet (FieldSet.new .ipv4) (FieldSet.new .esp)
            (FieldSet.new .standardMetadata) full (List.replicate 16 0)).silent =
          (Esp.decrypt packet (FieldSet.new .ipv4) (FieldSet.new .esp)
            (FieldSet.new .standardMetadata) blob []).silent ∧
        (Macsec.protect other [8, 0] "T" [] packet).result =
          (Macsec.protect raw [8, 0, 9] "T" [] packet).result ∧
        (Macsec.validate other packet).result = (Macsec.validate raw packet).result) ∧
      (Esp.CipherKey.ofBlob blob).nonce.toList = [2, 3, 4, 5] := by
  have cipher : Respelled 20 [1, 2, 3, 4, 5] (List.replicate 15 0 ++ [1, 2, 3, 4, 5]) :=
    @Respelled.zeros 20 0 15 [1, 2, 3, 4, 5] (by decide) (by decide)
  have auth : Respelled 16 [] (List.replicate 16 0) := .normalized []
  have channel : Macsec.RawChannel.Respelled
      { sak := [7], pn := [0, 0, 1], secTag := [0x88, 0xe5] }
      { sak := [0, 7], pn := [1], secTag := (normalize 16 [0x88, 0xe5]).toList } :=
    ⟨@Respelled.zeros 16 0 1 [7] (by decide) (by decide), .same _,
      @Respelled.zeros 4 2 0 [1] (by decide) (by decide), .same _, .same _, .normalized _⟩
  have kind : Respelled 2 [8, 0, 9] [8, 0] := .normalized [8, 0, 9]
  obtain ⟨encryption, decryption, protection, validation, blobs⟩ := respelled_inputs_agree
  refine ⟨_, _, _, _, rfl, rfl, rfl, rfl, cipher, auth, channel, kind, by decide, by decide, ?_,
    (blobs (by decide) (by decide)).2⟩
  intro packet random
  exact ⟨encryption _ _ _ _ cipher auth, decryption _ _ _ _ cipher auth,
    protection _ _ channel kind (.same _), validation _ channel⟩

end PacketProtection

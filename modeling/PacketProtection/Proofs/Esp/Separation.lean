import PacketProtection.Proofs.Esp.Ending

/-!
# Verdict and data apart

Decryption looks at the check value of a frame for its verdict and for nothing
else.  Two payloads that are *alike* differ at most in their last twelve bytes,
where the check value is.

*Data.*  Alike payloads have the same vector and the same ciphertext, so under
one cipher key they decode to the same datagram, or cannot be decoded for the
same reason (`Alike.decode`).

*Verdict.*  Under one authentication key and one ESP header only one of all
alike payloads is authentic (`Alike.eq_of_authentic`).

Together this makes the two runs of `decrypt_alike`: whatever the authentication
keys, the ESP headers and the check values are, both end with the same packet
and the same IPv4 header or both fail in the same way.
-/

namespace PacketProtection.Esp

open HeaderHost

/-! ## Alike payloads -/

/-- Two payloads of one length that differ at most in their last twelve bytes. -/
structure Alike (payload other : Bytes) : Prop where
  length_eq : other.length = payload.length
  front_eq : other.take (payload.length - 12) = payload.take (payload.length - 12)

namespace Alike

variable {payload other : Bytes}

/-- Alike payloads are frames that differ in nothing but the check value. -/
theorem split {frame : Frame} (alike : Alike payload other)
    (split : Frame.split payload = .ok frame) :
    ∃ icv, Frame.split other = .ok { frame with icv } := by
  obtain ⟨rfl, enough⟩ := Frame.split_eq_ok.mp split
  obtain ⟨lengths, fronts⟩ := alike
  have length := frame.length_toBytes
  have frontLength : frame.toBytes.length - 12 = (frame.iv.toList ++ frame.ciphertext).length := by
    rw [length, List.length_append, Octets.length_toList, ivLength]
    omega
  have front : frame.toBytes.take (frame.toBytes.length - 12) =
      frame.iv.toList ++ frame.ciphertext := by
    rw [frontLength, Frame.toBytes, List.take_left]
  refine ⟨⟨other.drop (frame.toBytes.length - 12), ?_⟩, Frame.split_eq_ok.mpr ⟨?_, enough⟩⟩
  · rw [List.length_drop, lengths, length, Icv.size]
    omega
  · rw [Frame.toBytes, ← front, ← fronts, List.take_append_drop]

theorem decode (alike : Alike payload other) (cipherKey : CipherKey) :
    Esp.decode cipherKey other = Esp.decode cipherKey payload := by
  by_cases short : payload.length < minFrameLength
  · have otherShort : other.length < minFrameLength := alike.length_eq ▸ short
    rw [Esp.decode, Esp.decode, Frame.split_of_short short, Frame.split_of_short otherShort,
      alike.length_eq]
  · cases split : Frame.split payload with
    | error cause =>
        rw [Frame.split, dif_pos (Nat.le_of_not_lt short)] at split
        cases split
    | ok frame =>
        obtain ⟨icv, otherSplit⟩ := alike.split split
        rw [Esp.decode, Esp.decode, split, otherSplit]
        rfl

/-- No two alike payloads are authentic under one key and one header. -/
theorem eq_of_authentic {authKey : Octets authKeySize} {header : Bytes}
    (alike : Alike payload other) (authentic : Authentic authKey header payload)
    (otherAuthentic : Authentic authKey header other) : other = payload := by
  obtain ⟨frame, split, right⟩ := authentic
  obtain ⟨icv, otherSplit⟩ := alike.split split
  have sameIcv : icv = frame.icv :=
    (Frame.isAuthentic_icv_iff right icv).mp ((authentic_iff otherSplit).mp otherAuthentic)
  rw [(Frame.split_eq_ok.mp split).1, (Frame.split_eq_ok.mp otherSplit).1, sameIcv]

end Alike

/-! ## Two runs -/

theorem ofBlob_congr {cipherKey cipherKey' : Bytes}
    (same : normalize 20 cipherKey' = normalize 20 cipherKey) :
    CipherKey.ofBlob cipherKey' = CipherKey.ofBlob cipherKey :=
  congrArg CipherKey.split same

/-- **Check value, authentication key and ESP header decide the verdict and
never the data.**  Two decryptions of alike payloads both succeed, with the same
packet and the same IPv4 header, or both fail for the same fault of the frame.
Where only the check value is different from that of a valid payload, the second
packet is marked for dropping. -/
theorem decrypt_alike {payload payload' cipherKey cipherKey' : Bytes}
    {ipv4 esp esp' metadata metadata' : FieldSet} (authKey authKey' : Bytes)
    (ipv4Of : FieldSet.Of .ipv4 ipv4) (espOf : FieldSet.Of .esp esp)
    (espOf' : FieldSet.Of .esp esp') (metadataOf : FieldSet.Of .standardMetadata metadata)
    (metadataOf' : FieldSet.Of .standardMetadata metadata')
    (sameKey : normalize 20 cipherKey' = normalize 20 cipherKey)
    (sameLength : payload'.length = payload.length)
    (sameFront : payload'.take (payload.length - 12) = payload.take (payload.length - 12)) :
    let first := decrypt payload ipv4 esp metadata cipherKey authKey
    let second := decrypt payload' ipv4 esp' metadata' cipherKey' authKey'
    ((∃ verdict verdict', first.result = .ok verdict ∧ second.result = .ok verdict' ∧
        second.packet = first.packet ∧ second.ipv4 = first.ipv4) ∨
      (∃ cause, cause.isMalformed = true ∧ first.result = .error (.error cause) ∧
        second.result = .error (.error cause) ∧ first.packet = payload ∧
        second.packet = payload' ∧ first.ipv4 = ipv4 ∧ second.ipv4 = ipv4)) ∧
    (first.result = .ok .valid → pack .esp esp' = pack .esp esp →
      normalize 16 authKey' = normalize 16 authKey → payload' ≠ payload →
        second.result = .ok .mismatch ∧ IsDropMarked second.metadata) := by
  intro first second
  have alike : Alike payload payload' := ⟨sameLength, sameFront⟩
  have sameData : decode (.ofBlob cipherKey') payload' = decode (.ofBlob cipherKey) payload := by
    rw [ofBlob_congr sameKey, alike.decode]
  cases decoded : decode (.ofBlob cipherKey) payload with
  | error cause =>
      obtain ⟨_, _, -, -, ends⟩ := decrypt_undecodable ipv4 authKey espOf metadataOf decoded
      obtain ⟨_, _, -, -, ends'⟩ :=
        decrypt_undecodable ipv4 authKey' espOf' metadataOf' (sameData.trans decoded)
      rw [show first = _ from ends, show second = _ from ends']
      refine ⟨.inr ⟨cause, decode_error decoded, rfl, rfl, rfl, rfl, rfl, rfl⟩, ?_⟩
      intro valid
      cases valid
  | ok inner =>
      obtain ⟨header, packs⟩ := headerBytes_of espOf
      obtain ⟨header', packs'⟩ := headerBytes_of espOf'
      obtain ⟨next, verdict, after, _, unpacked, -, judged, -, ends⟩ :=
        decrypt_delivered authKey ipv4Of metadataOf packs decoded
      obtain ⟨next', verdict', after', _, unpacked', -, judged', -, ends'⟩ :=
        decrypt_delivered authKey' ipv4Of metadataOf' packs' (sameData.trans decoded)
      cases unpacked'.symm.trans unpacked
      rw [show first = _ from ends, show second = _ from ends']
      refine ⟨.inl ⟨verdict, verdict', rfl, rfl, rfl, rfl⟩, ?_⟩
      intro valid sameHeader sameAuthKey different
      cases valid
      cases judged with
      | valid authentic =>
          cases packs'.symm.trans (sameHeader.trans packs)
          cases judged' with
          | valid authentic' =>
              rw [show Esp.authKey authKey' = Esp.authKey authKey from sameAuthKey] at authentic'
              exact absurd (alike.eq_of_authentic authentic authentic') different
          | mismatch _ marking => exact ⟨rfl, isDropMarked_markDrop marking⟩

/-- A frame as it was sent, and the frame with its check value erased. -/
theorem decrypt_alike_erased :
    ∃ sent erased : Bytes,
      sent = [9, 9, 9, 9, 9, 9, 9, 9, 176, 46, 83, 189, 184, 58, 99, 133, 220, 9, 192, 167, 184, 48,
        102, 211, 68, 230, 178, 69, 92, 45, 49, 57, 139, 196, 41, 89, 202, 198, 75, 170, 254, 111,
        210, 188, 129, 76, 3, 208, 168, 55, 123, 150] ∧
      erased = sent.take 40 ++ List.replicate 12 0 ∧
      FieldSet.Of .ipv4 (.new .ipv4) ∧ FieldSet.Of .esp (.new .esp) ∧
      FieldSet.Of .standardMetadata (.new .standardMetadata) ∧
      normalize 20 [0, 1] = normalize 20 [1] ∧ erased.length = sent.length ∧
      erased.take (sent.length - 12) = sent.take (sent.length - 12) ∧ erased ≠ sent ∧
      ∃ first second : Decryption FieldSet FieldSet,
        first = decrypt sent (.new .ipv4) (FieldSet.new .esp) (.new .standardMetadata) [1] [2] ∧
        second =
          decrypt erased (.new .ipv4) (FieldSet.new .esp) (.new .standardMetadata) [0, 1] [2] ∧
        first.result = .ok .valid ∧ second.result = .ok .mismatch ∧
        IsDropMarked second.metadata ∧ second.packet = first.packet := by
  refine ⟨_, _, rfl, rfl, .new _, .new _, .new _, by decide, by decide, by decide, by decide, _, _,
    rfl, rfl, ?_⟩
  generalize same : ([9, 9, 9, 9, 9, 9, 9, 9, 176, 46, 83, 189, 184, 58, 99, 133, 220, 9, 192, 167,
    184, 48, 102, 211, 68, 230, 178, 69, 92, 45, 49, 57, 139, 196, 41, 89, 202, 198, 75, 170, 254,
    111, 210, 188, 129, 76, 3, 208, 168, 55, 123, 150] : Bytes) = sent
  have valid : (decrypt sent (FieldSet.new .ipv4) (FieldSet.new .esp)
      (FieldSet.new .standardMetadata) [1] [2]).result = .ok .valid := by
    subst same
    decide +kernel
  obtain ⟨data, verdict⟩ := @decrypt_alike sent (sent.take 40 ++ List.replicate 12 0) [1] [0, 1] _ _
    _ _ _ [2] [2] (.new _) (.new _) (.new _) (.new _) (.new _) (by decide)
    (by subst same; decide) (by subst same; decide)
  obtain ⟨mismatch, marked⟩ := verdict valid rfl rfl (by subst same; decide)
  refine ⟨valid, mismatch, marked, ?_⟩
  rcases data with ⟨_, _, -, -, packets, -⟩ | ⟨_, -, failed, -⟩
  · exact packets
  · cases failed.symm.trans valid

end PacketProtection.Esp

import PacketProtection.Proofs.Cipher.Tag
import PacketProtection.Proofs.Macsec.Image

/-!
# Single bits of a frame in transit

Between protection and validation one bit of the frame may change: a bit of the
payload, which is the ciphertext and its tag, or a bit of the addresses and the
security tag, which travel in the clear (`Channel.OneBitApart`).

*Sensitivity.*  The tag of a changed ciphertext, or of a changed frame header,
differs from the tag that was sent, as long as the hash key of the channel is not
zero.  A changed tag differs from the right one whatever the hash key is.  So in
each case the payload does not have its tag, and validation rejects it
(`validate_rejects_flipped_bit`).
-/

namespace PacketProtection.Macsec

namespace Channel

/-! ## Frame headers -/

/-- Two channels whose authenticated fields differ in one bit. -/
inductive OneBitApart (channel : Channel) : Channel → Prop
  | dstMac {position : Nat} : position < 48 →
      OneBitApart channel { channel with dstMac := channel.dstMac.flipBit position }
  | srcMac {position : Nat} : position < 48 →
      OneBitApart channel { channel with srcMac := channel.srcMac.flipBit position }
  | secTag {position : Nat} : position < 128 →
      OneBitApart channel { channel with secTag := channel.secTag.flipBit position }

variable {channel other : Channel} {ciphertext : Bytes}

theorem toList_associated (channel : Channel) :
    channel.associated.toList =
      channel.dstMac.toList ++ (channel.srcMac.toList ++ channel.secTag.toList) :=
  List.append_assoc _ _ _

/-- The field that differs is a part of what is authenticated. -/
theorem OneBitApart.associated (apart : channel.OneBitApart other) :
    ∃ position < 8 * channel.associated.toList.length,
      other.associated.toList = channel.associated.toList.flipBit position := by
  have length : channel.associated.toList.length = 28 := channel.associated.length_toList
  have dstLength : channel.dstMac.toList.length = 6 := channel.dstMac.length_toList
  have srcLength : channel.srcMac.toList.length = 6 := channel.srcMac.length_toList
  cases apart with
  | @dstMac position inside =>
      refine ⟨position, by omega, ?_⟩
      rw [toList_associated, toList_associated, Bytes.flipBit_append_left (by omega)]
      rfl
  | @srcMac position inside =>
      refine ⟨8 * channel.dstMac.toList.length + position, by omega, ?_⟩
      rw [toList_associated, toList_associated, Bytes.flipBit_append_right,
        Bytes.flipBit_append_left (by omega)]
      rfl
  | @secTag position inside =>
      refine ⟨8 * channel.dstMac.toList.length + (8 * channel.srcMac.toList.length + position),
        by omega, ?_⟩
      rw [toList_associated, toList_associated, Bytes.flipBit_append_right,
        Bytes.flipBit_append_right]
      rfl

theorem OneBitApart.tag_ne (apart : channel.OneBitApart other)
    (nonzero : Gcm.hashKey (Aes.cipher channel.sak) ≠ 0) :
    Gcm.tag (Aes.cipher channel.sak) channel.nonce channel.associated.toList ciphertext ≠
      Gcm.tag (Aes.cipher other.sak) other.nonce other.associated.toList ciphertext := by
  obtain ⟨position, inside, flipped⟩ := apart.associated
  -- The key and the nonce are the same on both sides.
  have sameKey : other.sak = channel.sak := by cases apart <;> rfl
  have sameNonce : other.nonce = channel.nonce := by cases apart <;> rfl
  rw [sameKey, sameNonce, flipped]
  exact Gcm.tag_flipBit_associated_ne nonzero inside

theorem OneBitApart.not_hasTag {payload : Bytes} (apart : channel.OneBitApart other)
    (nonzero : Gcm.hashKey (Aes.cipher channel.sak) ≠ 0) (hasTag : channel.HasTag payload) :
    ¬other.HasTag payload := by
  intro otherTag
  exact apart.tag_ne nonzero (Octets.ext (hasTag.symm.trans otherTag))

/-! ## Payloads -/

/-- A changed tag is wrong. -/
theorem not_hasTag_of_tag {sent received : Bytes} (hasTag : channel.HasTag sent)
    (sameLength : received.length = sent.length)
    (sameFront : received.take (sent.length - tagLength) = sent.take (sent.length - tagLength))
    (different : received ≠ sent) : ¬channel.HasTag received := by
  intro otherTag
  apply different
  rw [HasTag, sameLength, sameFront, ← hasTag] at otherTag
  rw [← List.take_append_drop (sent.length - tagLength) received, sameFront, otherTag,
    List.take_append_drop]

/-- A payload with one bit changed does not have its tag. -/
theorem not_hasTag_flipBit {sent : Bytes} {position : Nat} (hasTag : channel.HasTag sent)
    (nonzero : Gcm.hashKey (Aes.cipher channel.sak) ≠ 0) (inside : position < 8 * sent.length) :
    ¬channel.HasTag (sent.flipBit position) := by
  have enough : tagLength ≤ sent.length := hasTag.enough
  have frontLength : (sent.take (sent.length - tagLength)).length = sent.length - tagLength := by
    rw [List.length_take]
    omega
  by_cases inCiphertext : position < 8 * (sent.length - tagLength)
  · intro flippedTag
    rw [HasTag, Bytes.length_flipBit, Bytes.drop_flipBit_of_lt inCiphertext, hasTag,
      Bytes.take_flipBit] at flippedTag
    exact Gcm.tag_flipBit_ciphertext_ne nonzero (by rwa [frontLength]) (Octets.ext flippedTag)
  · refine not_hasTag_of_tag hasTag (Bytes.length_flipBit _ _) ?_ (Bytes.flipBit_ne inside)
    rw [Bytes.take_flipBit, Bytes.flipBit_of_le (by omega)]

end Channel

/-! ## Rejection -/

/-- What protection produces within the limits has its tag. -/
theorem hasTag_protect (raw : RawChannel) (etherType : Bytes) (flag : String)
    (ipv4Header payload : Bytes)
    (limit : payload.length + (if flag = "T" then 22 else 2) ≤ 2 ^ 36) :
    ∃ sent, (protect raw etherType flag ipv4Header payload).result = .ok sent ∧
      raw.normalize.HasTag sent := by
  have dataLength : ((normalize etherTypeLength etherType).toList ++
      userBody flag ipv4Header payload).length =
        payload.length + (if flag = "T" then 22 else 2) := by
    rw [List.length_append, Octets.length_toList, length_userBody, etherTypeLength]
    split <;> omega
  have within : ((normalize etherTypeLength etherType).toList ++
      userBody flag ipv4Header payload).length ≤ Gcm.maxPlaintext := by
    rw [dataLength]
    exact limit
  obtain ⟨sent, done, -⟩ := raw.normalize.seal?_of_le within
  exact ⟨sent, by rw [result_protect, done], Channel.hasTag_of_seal? done⟩

/-- **Validation rejects a frame with one bit changed**, wherever in the payload,
in the addresses or in the security tag the bit is.  It rejects every changed
tag even under a hash key of zero. -/
theorem validate_rejects_flipped_bit (raw : RawChannel) (etherType : Bytes) (flag : String)
    (ipv4Header payload : Bytes)
    (limit : payload.length + (if flag = "T" then 22 else 2) ≤ 2 ^ 36) :
    ∃ sent, (protect raw etherType flag ipv4Header payload).result = .ok sent ∧
      (Aes.cipher raw.normalize.sak (.replicate 16 0) ≠ .replicate 16 0 →
        (∀ position < 8 * sent.length, Rejects raw (sent.flipBit position)) ∧
        (∀ receiver : RawChannel, raw.normalize.OneBitApart receiver.normalize →
          Rejects receiver sent)) ∧
      (∀ received : Bytes, received.length = sent.length →
        received.take (sent.length - 16) = sent.take (sent.length - 16) → received ≠ sent →
          Rejects raw received) := by
  obtain ⟨sent, done, hasTag⟩ := hasTag_protect raw etherType flag ipv4Header payload limit
  have enough : tagLength ≤ sent.length := hasTag.enough
  refine ⟨sent, done, ?_, ?_⟩
  · intro cipherNonzero
    have nonzero := Gcm.hashKey_ne_zero cipherNonzero
    constructor
    · intro position inside
      refine rejects_of_wrong ?_ (Channel.not_hasTag_flipBit hasTag nonzero inside)
      rwa [Bytes.length_flipBit]
    · intro receiver apart
      exact rejects_of_wrong enough (apart.not_hasTag nonzero hasTag)
  · intro received sameLength sameFront different
    refine rejects_of_wrong ?_ (Channel.not_hasTag_of_tag hasTag sameLength sameFront different)
    rwa [sameLength]

/-- The last bit of a payload, the first bit of a source address, and a tag of
zeros. -/
theorem validate_rejects_last_bit :
    ∃ (raw receiver : RawChannel) (sent : Bytes),
      raw = { sak := [7] } ∧ receiver = { sak := [7], srcMac := [0x80, 0, 0, 0, 0, 0] } ∧
      sent = [215, 59, 160, 34, 133, 205, 148, 227, 154, 4, 50, 244, 29, 59, 146, 1, 186, 28] ∧
      ([] : Bytes).length + (if "F" = "T" then 22 else 2) ≤ 2 ^ 36 ∧
      (protect raw [8, 0] "F" [] []).result = .ok sent ∧
      Aes.cipher raw.normalize.sak (.replicate 16 0) ≠ .replicate 16 0 ∧
      143 < 8 * sent.length ∧ Rejects raw (sent.flipBit 143) ∧
      raw.normalize.OneBitApart receiver.normalize ∧ Rejects receiver sent ∧
      Rejects raw ([215, 59] ++ List.replicate 16 0) := by
  refine ⟨_, _, _, rfl, rfl, rfl, by decide, ?_⟩
  have sealed : ({ sak := [7] } : RawChannel).normalize.seal?
      ((normalize etherTypeLength [8, 0]).toList ++ userBody "F" [] []) =
        some [215, 59, 160, 34, 133, 205, 148, 227, 154, 4, 50, 244, 29, 59, 146, 1, 186, 28] := by
    decide +kernel
  have nonzero : Aes.cipher ({ sak := [7] } : RawChannel).normalize.sak (.replicate 16 0) ≠
      .replicate 16 0 := by
    decide +kernel
  have apart : ({ sak := [7] } : RawChannel).normalize.OneBitApart
      ({ sak := [7], srcMac := [0x80, 0, 0, 0, 0, 0] } : RawChannel).normalize :=
    @Channel.OneBitApart.srcMac _ 0 (by decide)
  obtain ⟨sent, done, rejects, changedTag⟩ :=
    validate_rejects_flipped_bit { sak := [7] } [8, 0] "F" [] [] (by decide)
  rw [result_protect, sealed] at done
  obtain rfl := Except.ok.inj done
  obtain ⟨payloads, headers⟩ := rejects nonzero
  refine ⟨by rw [result_protect, sealed], nonzero, by decide, payloads 143 (by decide), apart,
    headers _ apart, changedTag _ rfl rfl (by decide)⟩

end PacketProtection.Macsec

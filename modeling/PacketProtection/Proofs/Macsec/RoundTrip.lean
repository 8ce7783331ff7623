import Mathlib.Algebra.Group.Nat.Defs
import PacketProtection.Macsec.Protection
import PacketProtection.Proofs.Cipher.Keystream
import PacketProtection.Proofs.HexDigits

/-!
# Protection and validation of MACsec payloads

Two ends that were given different byte strings agree on a channel when every
parameter comes out the same in its width.  What one end protects the other then
validates (`validate_protect`): the EtherType comes back as text and the payload
as it was, preceded by the IPv4 header if the flag asked for it.

The steps in between are a payload that was sealed under a channel
(`Channel.open?_of_seal?`) and user data that is split where it was joined
(`splitUserData_append`).
-/

namespace PacketProtection.Macsec

/-! ## User data -/

/-- What follows the EtherType in the user data. -/
def userBody (flag : String) (ipv4Header payload : Bytes) : Bytes :=
  (if flag = "T" then (normalize ipv4HeaderLength ipv4Header).toList else []) ++ payload

/-- The IPv4 header that a flag includes. -/
def flaggedHeader (flag : String) (ipv4Header : Bytes) : Option Bytes :=
  if isPrependFlag flag then some ipv4Header else none

theorem length_userBody (flag : String) (ipv4Header payload : Bytes) :
    (userBody flag ipv4Header payload).length =
      payload.length + if flag = "T" then 20 else 0 := by
  rw [userBody, List.length_append]
  split
  · rw [Octets.length_toList, ipv4HeaderLength, Nat.add_comm]
  · rw [List.length_nil, Nat.add_comm]

theorem userData_flaggedHeader (etherType : Bytes) (flag : String) (ipv4Header payload : Bytes) :
    userData etherType (flaggedHeader flag ipv4Header) payload =
      (normalize etherTypeLength etherType).toList ++ userBody flag ipv4Header payload := by
  rw [userData, userBody, flaggedHeader, isPrependFlag, List.append_assoc]
  by_cases flagged : flag = "T"
  · rw [if_pos (beq_iff_eq.mpr flagged), if_pos flagged]
    rfl
  · rw [if_neg (fun asked => flagged (beq_iff_eq.mp asked)), if_neg flagged]
    rfl

/-- Data is split after the two bytes of its EtherType. -/
theorem splitUserData_append (etherType : Octets etherTypeLength) (body : Bytes) :
    splitUserData (etherType.toList ++ body) = .ok (etherType, body) := by
  have front : etherType.toList.length = etherTypeLength := etherType.length_toList
  have enough : etherTypeLength ≤ (etherType.toList ++ body).length := by
    rw [List.length_append]
    omega
  have first : Octets.first etherTypeLength (etherType.toList ++ body) enough = etherType :=
    Octets.ext (List.take_left' front)
  rw [splitUserData, dif_pos enough, first, List.drop_left' front]

/-! ## Sealed payloads -/

theorem associated_within (channel : Channel) :
    channel.associated.toList.length ≤ Gcm.maxAssociated := by
  rw [Octets.length_toList]
  decide

/-- Data within the limit is sealed, and the tag makes it sixteen bytes longer. -/
theorem Channel.seal?_of_le (channel : Channel) {data : Bytes}
    (limit : data.length ≤ Gcm.maxPlaintext) :
    ∃ sealed, channel.seal? data = some sealed ∧ sealed.length = data.length + tagLength := by
  obtain ⟨ciphertext, tag, done, sameLength⟩ :=
    Gcm.seal?_of_le channel.sak channel.nonce limit (associated_within channel)
  refine ⟨ciphertext ++ tag.toList, by rw [Channel.seal?, done]; rfl, ?_⟩
  rw [List.length_append, Octets.length_toList, sameLength, tagLength]

/-- A sealed payload is a ciphertext and its tag. -/
theorem Channel.gcm_of_seal? {channel : Channel} {data sealed : Bytes}
    (done : channel.seal? data = some sealed) :
    ∃ ciphertext tag, Gcm.seal? channel.sak channel.nonce channel.associated.toList data =
      some (ciphertext, tag) ∧ sealed = ciphertext ++ tag.toList := by
  obtain ⟨⟨ciphertext, tag⟩, inner, rfl⟩ := Option.map_eq_some_iff.mp done
  exact ⟨ciphertext, tag, inner, rfl⟩

/-- A tag starts where its ciphertext ends. -/
theorem length_sub_tagLength (ciphertext : Bytes) (tag : Octets 16) :
    (ciphertext ++ tag.toList).length - tagLength = ciphertext.length := by
  rw [List.length_append, Octets.length_toList, tagLength, Nat.add_sub_cancel]

/-- What was sealed under a channel is opened under it. -/
theorem Channel.open?_of_seal? {channel : Channel} {data sealed : Bytes}
    (done : channel.seal? data = some sealed) (enough : tagLength ≤ sealed.length) :
    channel.open? sealed enough = some data := by
  obtain ⟨ciphertext, tag, inner, rfl⟩ := gcm_of_seal? done
  have opened := Gcm.open?_seal? inner
  rw [Channel.open?]
  simp only [length_sub_tagLength, List.take_left, List.drop_left]
  exact opened

/-! ## Both ends -/

theorem result_protect (raw : RawChannel) (etherType : Bytes) (flag : String)
    (ipv4Header payload : Bytes) :
    (protect raw etherType flag ipv4Header payload).result =
      match raw.normalize.seal? ((normalize etherTypeLength etherType).toList
          ++ userBody flag ipv4Header payload) with
      | none => .error (.crypto "GCM-AES-128 encryption")
      | some sealed => .ok sealed := by
  rw [← userData_flaggedHeader, protect]
  simp only [flaggedHeader]
  cases raw.normalize.seal? (userData etherType _ payload) <;> rfl

/-- What protection gives is the user data, sealed. -/
theorem seal?_of_protect {raw : RawChannel} {etherType : Bytes} {flag : String}
    {ipv4Header payload sealed : Bytes}
    (done : (protect raw etherType flag ipv4Header payload).result = .ok sealed) :
    raw.normalize.seal? ((normalize etherTypeLength etherType).toList
      ++ userBody flag ipv4Header payload) = some sealed := by
  rw [result_protect] at done
  split at done
  · cases done
  next found =>
    cases done
    exact found

/-- What validation finds, without what it logs. -/
theorem result_validate (raw : RawChannel) (payload : Bytes) :
    (validate raw payload).result =
      if enough : tagLength ≤ payload.length then
        match raw.normalize.open? payload enough with
        | none => .ok .rejected
        | some data => (splitUserData data).map fun (etherType, rest) => .accepted etherType rest
      else .error (.truncated "MACsec ICV" tagLength payload.length) := by
  rw [validate]
  split
  next enough =>
    simp only
    cases raw.normalize.open? payload enough with
    | none => rfl
    | some data =>
        simp only
        cases splitUserData data <;> rfl
  next => rfl

/-- Channels that come out the same validate alike. -/
theorem result_validate_congr {raw other : RawChannel} (same : raw.normalize = other.normalize)
    (payload : Bytes) : (validate raw payload).result = (validate other payload).result := by
  rw [result_validate, result_validate, same]

/-- A payload that opens to user data is accepted, with that data's parts. -/
theorem result_validate_of_open? {raw : RawChannel} {payload body : Bytes}
    {etherType : Octets etherTypeLength} (enough : tagLength ≤ payload.length)
    (opened : raw.normalize.open? payload enough = some (etherType.toList ++ body)) :
    (validate raw payload).result = .ok (.accepted etherType body) := by
  rw [validate, dif_pos enough]
  simp only [opened]
  rw [splitUserData_append]

/-- **What one end of a channel protects, the other end validates.**  It does
not matter in which byte strings the two ends were given their parameters, as
long as each comes out the same in its width. -/
theorem validate_protect {sender receiver : RawChannel}
    (agree : sender.normalize = receiver.normalize) (etherType : Bytes) (flag : String)
    (ipv4Header payload : Bytes)
    (limit : payload.length + (if flag = "T" then 22 else 2) ≤ 2 ^ 36) :
    ∃ sealed, (protect sender etherType flag ipv4Header payload).result = .ok sealed ∧
      sealed.length = payload.length + (if flag = "T" then 38 else 18) ∧
      ∃ found, (validate receiver sealed).result = .ok found ∧ found.isValid = true ∧
        found.etherTypeText = Hex.encode (normalize 2 etherType).toList ∧
        found.etherTypeText.length = 4 ∧
        (∀ c ∈ found.etherTypeText.toList, c ∈ Hex.lowerDigits) ∧
        found.payloadAfter sealed =
          (if flag = "T" then (normalize 20 ipv4Header).toList else []) ++ payload := by
  let kind := normalize etherTypeLength etherType
  let body := userBody flag ipv4Header payload
  have dataLength : (kind.toList ++ body).length =
      payload.length + (if flag = "T" then 22 else 2) := by
    rw [List.length_append, Octets.length_toList, length_userBody, etherTypeLength]
    split <;> omega
  have within : (kind.toList ++ body).length ≤ Gcm.maxPlaintext := by
    rw [dataLength]
    exact limit
  obtain ⟨sealed, done, sealedLength⟩ := sender.normalize.seal?_of_le within
  have enough : tagLength ≤ sealed.length := by omega
  have opened : receiver.normalize.open? sealed enough = some (kind.toList ++ body) :=
    Channel.open?_of_seal? (agree ▸ done) enough
  refine ⟨sealed, by rw [result_protect, done], ?_, .accepted kind body,
    result_validate_of_open? enough opened, rfl, rfl, ?_, ?_, rfl⟩
  · rw [sealedLength, dataLength, tagLength]
    split <;> omega
  · show (Hex.encode kind.toList).length = 4
    rw [Hex.length_encode, Octets.length_toList]
    rfl
  · intro c member
    exact Hex.mem_encode member

/-- The two ends may differ in leading zeros and in bytes past a width. -/
theorem validate_protect_other_spelling :
    let sender : RawChannel := { sak := [0, 0, 7], sci := [1, 2], dstMac := [1, 2, 3, 4, 5, 6, 9] }
    let receiver : RawChannel := { sak := [7], sci := [0, 1, 2], dstMac := [1, 2, 3, 4, 5, 6] }
    sender.normalize = receiver.normalize ∧
    ([1, 2, 3] : Bytes).length + (if "T" = "T" then 22 else 2) ≤ 2 ^ 36 ∧
    ∃ sealed, (protect sender [8] "T" [0x45] [1, 2, 3]).result = .ok sealed ∧
      sealed.length = 41 ∧
      ∃ found, (validate receiver sealed).result = .ok found ∧ found.isValid = true ∧
        found.etherTypeText = "0008" ∧
        found.payloadAfter sealed = List.replicate 19 0 ++ [0x45, 1, 2, 3] := by
  intro sender receiver
  have agree : sender.normalize = receiver.normalize := by decide
  refine ⟨agree, by decide, ?_⟩
  obtain ⟨sealed, done, length, found, validated, valid, text, -, -, payload⟩ :=
    validate_protect agree [8] "T" [0x45] [1, 2, 3] (by decide)
  exact ⟨sealed, done, length, found, validated, valid, text.trans (by decide), payload⟩

end PacketProtection.Macsec

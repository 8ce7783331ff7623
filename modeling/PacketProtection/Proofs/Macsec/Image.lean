import PacketProtection.Proofs.Macsec.RoundTrip

/-!
# Validation and the image of protection

A payload *has its tag* under a channel when its last sixteen bytes are the tag of
the data before them (`Channel.HasTag`).  Within the limits of the cipher mode the
payloads with their tag are exactly the sealed ones (`Channel.seal?_eq_some`,
`Channel.hasTag_iff`), and the sealed data is the only one
(`Channel.seal?_injective`).

*Outcomes.*  `Outcome` lists the four ways in which validation ends, and every
validation has one of them (`validate_outcome`).  Two are errors: there is no room
for a tag, or the tag is right and there is no room for an EtherType.  One is a
rejection, for a wrong tag.  In the last, the payload was sealed from an EtherType
and the data behind it.

So what validation accepts is what protection produces, from one EtherType and one
payload only, and everything else is left as it was (`validate_accepts_image`).
-/

namespace PacketProtection.Macsec

/-! ## Payloads with their tag -/

/-- The last sixteen bytes of a payload are the tag of the data before them. -/
def Channel.HasTag (channel : Channel) (payload : Bytes) : Prop :=
  payload.drop (payload.length - tagLength) =
    (Gcm.tag (Aes.cipher channel.sak) channel.nonce channel.associated.toList
      (payload.take (payload.length - tagLength))).toList

namespace Channel

variable {channel : Channel} {data payload : Bytes}

theorem HasTag.enough (hasTag : channel.HasTag payload) : tagLength ≤ payload.length := by
  have lengths := congrArg List.length hasTag
  rw [List.length_drop, Octets.length_toList] at lengths
  rw [tagLength] at lengths ⊢
  omega

/-- What a sealed payload consists of. -/
theorem seal?_eq_some : channel.seal? data = some payload ↔
    data.length ≤ Gcm.maxPlaintext ∧
      payload = Gcm.crypt (Aes.cipher channel.sak) channel.nonce data ++
        (Gcm.tag (Aes.cipher channel.sak) channel.nonce channel.associated.toList
          (Gcm.crypt (Aes.cipher channel.sak) channel.nonce data)).toList := by
  rw [Channel.seal?, Gcm.seal?]
  by_cases limit : data.length ≤ Gcm.maxPlaintext
  · rw [if_pos ⟨limit, associated_within channel⟩, Option.map_some, Option.some_inj]
    exact ⟨fun same => ⟨limit, same.symm⟩, fun sealed => sealed.2.symm⟩
  · rw [if_neg fun limits => limit limits.1]
    exact ⟨fun none => (by cases none), fun sealed => absurd sealed.1 limit⟩

theorem length_of_seal? (done : channel.seal? data = some payload) :
    payload.length = data.length + tagLength := by
  obtain ⟨-, rfl⟩ := seal?_eq_some.mp done
  rw [List.length_append, Gcm.length_crypt, Octets.length_toList, tagLength]

theorem hasTag_append_iff {ciphertext : Bytes} {received : Octets 16} :
    channel.HasTag (ciphertext ++ received.toList) ↔
      received = Gcm.tag (Aes.cipher channel.sak) channel.nonce channel.associated.toList
        ciphertext := by
  rw [HasTag, length_sub_tagLength, List.drop_left, List.take_left]
  exact ⟨Octets.ext, congrArg Octets.toList⟩

theorem hasTag_of_seal? (done : channel.seal? data = some payload) : channel.HasTag payload := by
  obtain ⟨-, rfl⟩ := seal?_eq_some.mp done
  exact hasTag_append_iff.mpr rfl

/-- Within the limits a payload has its tag exactly if it was sealed. -/
theorem hasTag_iff (limit : payload.length ≤ Gcm.maxPlaintext) :
    channel.HasTag payload ↔ ∃ data, channel.seal? data = some payload := by
  constructor
  · intro hasTag
    have within : (payload.take (payload.length - tagLength)).length ≤ Gcm.maxPlaintext := by
      rw [List.length_take]
      omega
    refine ⟨Gcm.crypt (Aes.cipher channel.sak) channel.nonce
      (payload.take (payload.length - tagLength)), seal?_eq_some.mpr ⟨?_, ?_⟩⟩
    · rw [Gcm.length_crypt]
      exact within
    · rw [Gcm.crypt_crypt, ← hasTag, List.take_append_drop]
  · rintro ⟨data, done⟩
    exact hasTag_of_seal? done

/-- A payload is sealed from one data only. -/
theorem seal?_injective {other : Bytes} (done : channel.seal? data = some payload)
    (otherDone : channel.seal? other = some payload) : data = other := by
  have enough : tagLength ≤ payload.length := (hasTag_of_seal? done).enough
  exact Option.some.inj
    ((open?_of_seal? done enough).symm.trans (open?_of_seal? otherDone enough))

/-- What opens is a ciphertext and its tag. -/
theorem open?_eq_some (enough : tagLength ≤ payload.length) :
    channel.open? payload enough = some data ↔
      ∃ (ciphertext : Bytes) (tag : Octets 16), payload = ciphertext ++ tag.toList ∧
        ciphertext.length ≤ Gcm.maxCiphertext ∧
        tag = Gcm.tag (Aes.cipher channel.sak) channel.nonce channel.associated.toList ciphertext ∧
        data = Gcm.crypt (Aes.cipher channel.sak) channel.nonce ciphertext := by
  constructor
  · intro opened
    obtain ⟨⟨within, -, right⟩, same⟩ := Option.ite_none_right_eq_some.mp opened
    exact ⟨_, _, (List.take_append_drop _ _).symm, within, right.symm, Option.some.inj same.symm⟩
  · rintro ⟨ciphertext, tag, rfl, within, right, rfl⟩
    rw [Channel.open?]
    simp only [length_sub_tagLength, List.take_left, List.drop_left]
    rw [Gcm.open?, if_pos ⟨within, associated_within channel, right.symm⟩]

/-- Opening takes the tag off. -/
theorem length_of_open? (enough : tagLength ≤ payload.length)
    (opened : channel.open? payload enough = some data) :
    payload.length = data.length + tagLength := by
  obtain ⟨ciphertext, tag, rfl, -, -, rfl⟩ := (open?_eq_some enough).mp opened
  rw [List.length_append, Gcm.length_crypt, Octets.length_toList, tagLength]

theorem open?_of_wrong (enough : tagLength ≤ payload.length) (wrong : ¬channel.HasTag payload) :
    channel.open? payload enough = none := by
  rw [Channel.open?, Gcm.open?]
  apply if_neg
  rintro ⟨-, -, right⟩
  exact wrong (congrArg Octets.toList right).symm

end Channel

/-! ## Outcomes -/

/-- The ways in which the validation of a payload ends. -/
inductive Outcome (channel : Channel) (payload : Bytes) :
    Except TransformError Validation → Prop
  /-- There is no room for a tag. -/
  | short : payload.length < tagLength →
      Outcome channel payload (.error (.truncated "MACsec ICV" tagLength payload.length))
  /-- The tag is wrong. -/
  | rejected : tagLength ≤ payload.length → ¬channel.HasTag payload →
      Outcome channel payload (.ok .rejected)
  /-- The tag is right, but there is no room for an EtherType. -/
  | bare {data : Bytes} : channel.seal? data = some payload → data.length < etherTypeLength →
      Outcome channel payload
        (.error (.truncated "MACsec EtherType" etherTypeLength data.length))
  /-- The payload was sealed from an EtherType and a body. -/
  | accepted {etherType : Octets etherTypeLength} {body : Bytes} :
      channel.seal? (etherType.toList ++ body) = some payload →
      Outcome channel payload (.ok (.accepted etherType body))

theorem result_validate_of_unopened {raw : RawChannel} {payload : Bytes}
    (enough : tagLength ≤ payload.length) (unopened : raw.normalize.open? payload enough = none) :
    (validate raw payload).result = .ok .rejected := by
  rw [validate, dif_pos enough, unopened]

theorem result_validate_of_wrong {raw : RawChannel} {payload : Bytes}
    (enough : tagLength ≤ payload.length) (wrong : ¬raw.normalize.HasTag payload) :
    (validate raw payload).result = .ok .rejected :=
  result_validate_of_unopened enough (Channel.open?_of_wrong enough wrong)

theorem result_validate_of_bare {raw : RawChannel} {payload data : Bytes}
    (enough : tagLength ≤ payload.length)
    (opened : raw.normalize.open? payload enough = some data)
    (bare : data.length < etherTypeLength) :
    (validate raw payload).result =
      .error (.truncated "MACsec EtherType" etherTypeLength data.length) := by
  rw [validate, dif_pos enough]
  simp only [opened]
  rw [splitUserData, dif_neg (Nat.not_le.mpr bare)]

/-- Under the channel it was sealed under, a payload is accepted. -/
theorem result_validate_of_seal? {raw : RawChannel} {payload body : Bytes}
    {etherType : Octets etherTypeLength}
    (done : raw.normalize.seal? (etherType.toList ++ body) = some payload) :
    (validate raw payload).result = .ok (.accepted etherType body) := by
  have enough : tagLength ≤ payload.length := (Channel.hasTag_of_seal? done).enough
  exact result_validate_of_open? enough (Channel.open?_of_seal? done enough)

/-- Every validation within the limits has one of the outcomes. -/
theorem validate_outcome (raw : RawChannel) {payload : Bytes}
    (limit : payload.length ≤ Gcm.maxPlaintext) :
    Outcome raw.normalize payload (validate raw payload).result := by
  by_cases enough : tagLength ≤ payload.length
  · by_cases hasTag : raw.normalize.HasTag payload
    · obtain ⟨data, done⟩ := (Channel.hasTag_iff limit).mp hasTag
      have opened := Channel.open?_of_seal? done enough
      by_cases bare : data.length < etherTypeLength
      · rw [result_validate_of_bare enough opened bare]
        exact .bare done bare
      · have split : (Octets.first etherTypeLength data (Nat.le_of_not_lt bare)).toList ++
            data.drop etherTypeLength = data := List.take_append_drop _ _
        rw [← split] at done opened
        rw [result_validate_of_open? enough opened]
        exact .accepted done
    · rw [result_validate_of_wrong enough hasTag]
      exact .rejected enough hasTag
  · rw [validate, dif_neg enough]
    exact .short (Nat.lt_of_not_le enough)

/-! ## What an outcome says -/

/-- The payload after a validation: an error leaves it alone. -/
def payloadLeft (before : Bytes) : Except TransformError Validation → Bytes
  | .ok found => found.payloadAfter before
  | .error _ => before

/-- The validation found the right tag and an EtherType. -/
def IsAccepted (result : Except TransformError Validation) : Prop :=
  ∃ found, result = .ok found ∧ found.isValid = true

/-- A payload is rejected: no EtherType comes out, and the payload stays. -/
def Rejects (raw : RawChannel) (payload : Bytes) : Prop :=
  ∃ found, (validate raw payload).result = .ok found ∧ found.isValid = false ∧
    found.etherTypeText = "" ∧ found.payloadAfter payload = payload

theorem isAccepted_ok {found : Validation} : IsAccepted (.ok found) ↔ found.isValid = true := by
  constructor
  · rintro ⟨_, same, valid⟩
    cases same
    exact valid
  · intro valid
    exact ⟨found, rfl, valid⟩

theorem not_isAccepted_error (cause : TransformError) : ¬IsAccepted (.error cause) := by
  rintro ⟨_, same, -⟩
  cases same

theorem rejects_of_wrong {raw : RawChannel} {payload : Bytes}
    (enough : tagLength ≤ payload.length) (wrong : ¬raw.normalize.HasTag payload) :
    Rejects raw payload :=
  ⟨.rejected, result_validate_of_wrong enough wrong, rfl, rfl, rfl⟩

namespace Outcome

variable {channel : Channel} {payload : Bytes} {result : Except TransformError Validation}

/-- An accepted payload was sealed from what comes out. -/
theorem eq_accepted {found : Validation} (outcome : Outcome channel payload (.ok found))
    (valid : found.isValid = true) :
    ∃ etherType body, found = .accepted etherType body ∧
      channel.seal? (etherType.toList ++ body) = some payload := by
  cases outcome with
  | rejected _ _ => cases valid
  | accepted done => exact ⟨_, _, rfl, done⟩

theorem payloadLeft_ne_iff (outcome : Outcome channel payload result) :
    payloadLeft payload result ≠ payload ↔ IsAccepted result := by
  cases outcome with
  | short _ => exact iff_of_false (fun changed => changed rfl) (not_isAccepted_error _)
  | rejected _ _ =>
      exact iff_of_false (fun changed => changed rfl) fun accepted => by
        cases isAccepted_ok.mp accepted
  | bare _ _ => exact iff_of_false (fun changed => changed rfl) (not_isAccepted_error _)
  | @accepted etherType body done =>
      refine iff_of_true (fun same : body = payload => ?_) (isAccepted_ok.mpr rfl)
      have longer := Channel.length_of_seal? done
      rw [same, List.length_append, tagLength] at longer
      omega

theorem error_iff (outcome : Outcome channel payload result) :
    (∃ cause, result = .error cause) ↔
      payload.length < 16 ∨ payload.length < 18 ∧ channel.HasTag payload := by
  cases outcome with
  | short short => exact iff_of_true ⟨_, rfl⟩ (.inl short)
  | rejected enough wrong =>
      refine iff_of_false (by simp) ?_
      rintro (short | ⟨-, hasTag⟩)
      · exact absurd enough (Nat.not_le.mpr short)
      · exact wrong hasTag
  | bare done bare =>
      refine iff_of_true ⟨_, rfl⟩ (.inr ⟨?_, Channel.hasTag_of_seal? done⟩)
      rw [Channel.length_of_seal? done, tagLength]
      rw [etherTypeLength] at bare
      omega
  | accepted done =>
      have longer := Channel.length_of_seal? done
      rw [List.length_append, Octets.length_toList, etherTypeLength, tagLength] at longer
      refine iff_of_false (by simp) ?_
      rintro (short | ⟨short, -⟩) <;> omega

theorem eq_truncated {cause : TransformError} (outcome : Outcome channel payload (.error cause)) :
    ∃ part needed available, cause = .truncated part needed available := by
  cases outcome with
  | short _ => exact ⟨_, _, _, rfl⟩
  | bare _ _ => exact ⟨_, _, _, rfl⟩

theorem isAccepted_iff (outcome : Outcome channel payload result) :
    IsAccepted result ↔
      ∃ (etherType : Octets etherTypeLength) (body : Bytes),
        channel.seal? (etherType.toList ++ body) = some payload := by
  constructor
  · rintro ⟨found, rfl, valid⟩
    obtain ⟨etherType, body, -, done⟩ := outcome.eq_accepted valid
    exact ⟨etherType, body, done⟩
  · rintro ⟨etherType, body, done⟩
    have hasTag := Channel.hasTag_of_seal? done
    cases outcome with
    | short short => exact absurd hasTag.enough (Nat.not_le.mpr short)
    | rejected _ wrong => exact absurd hasTag wrong
    | bare otherDone bare =>
        rw [Channel.seal?_injective otherDone done, List.length_append, Octets.length_toList] at bare
        omega
    | accepted _ => exact isAccepted_ok.mpr rfl

end Outcome

/-! ## The image of protection -/

/-- Without the IPv4 header, protection seals the EtherType and the payload. -/
theorem protect_eq_ok {raw : RawChannel} {etherType : Octets etherTypeLength} {flag : String}
    (noHeader : flag ≠ "T") {ipv4Header body payload : Bytes} :
    (protect raw etherType.toList flag ipv4Header body).result = .ok payload ↔
      raw.normalize.seal? (etherType.toList ++ body) = some payload := by
  have kind : normalize etherTypeLength etherType.toList = etherType := normalize_toList etherType
  rw [result_protect, userBody, if_neg noHeader, List.nil_append, kind]
  cases raw.normalize.seal? (etherType.toList ++ body) <;> simp

/-- An EtherType and a body are read off the data they make up. -/
theorem userData_injective {etherType other : Octets etherTypeLength} {body otherBody : Bytes}
    (same : other.toList ++ otherBody = etherType.toList ++ body) :
    other = etherType ∧ otherBody = body := by
  have lengths : other.toList.length = etherType.toList.length := by
    rw [Octets.length_toList, Octets.length_toList]
  obtain ⟨kinds, bodies⟩ := List.append_inj same lengths
  exact ⟨Octets.ext kinds, bodies⟩

/-- **Validation accepts exactly what protection produces.**  It changes the
payload only then, and protecting what came out gives the payload back: there is
no other EtherType and no other body from which it can be produced. -/
theorem validate_accepts_image (raw : RawChannel) {payload : Bytes}
    (limit : payload.length ≤ 2 ^ 36) :
    let result := (validate raw payload).result
    let after := payloadLeft payload result
    (after ≠ payload ↔ IsAccepted result) ∧
    ((∃ cause, result = .error cause) ↔
      payload.length < 16 ∨ payload.length < 18 ∧ raw.normalize.HasTag payload) ∧
    (∀ cause, result = .error cause →
      ∃ part needed available, cause = .truncated part needed available) ∧
    (16 ≤ payload.length → ¬raw.normalize.HasTag payload → Rejects raw payload) ∧
    (IsAccepted result ↔
      ∃ (etherType : Octets 2) (flag : String) (ipv4Header body : Bytes), flag ≠ "T" ∧
        (protect raw etherType.toList flag ipv4Header body).result = .ok payload) ∧
    (∀ found, result = .ok found → found.isValid = true →
      ∃ etherType : Octets 2,
        Hex.decode (Bytes.ofString found.etherTypeText) = .ok etherType.toList ∧
        ∀ flag ≠ "T", ∀ (ipv4Header : Bytes) (other : Octets 2) (body : Bytes),
          (protect raw other.toList flag ipv4Header body).result = .ok payload ↔
            other = etherType ∧ body = after) := by
  intro result after
  have outcome : Outcome raw.normalize payload result := validate_outcome raw limit
  refine ⟨outcome.payloadLeft_ne_iff, outcome.error_iff, ?_, rejects_of_wrong, ?_, ?_⟩
  · intro cause failed
    exact (failed ▸ outcome).eq_truncated
  · rw [outcome.isAccepted_iff]
    constructor
    · rintro ⟨etherType, body, done⟩
      exact ⟨etherType, "F", [], body, by decide, (protect_eq_ok (by decide)).mpr done⟩
    · rintro ⟨etherType, flag, ipv4Header, body, noHeader, done⟩
      exact ⟨etherType, body, (protect_eq_ok noHeader).mp done⟩
  · intro found same valid
    obtain ⟨etherType, body, rfl, done⟩ := (same ▸ outcome).eq_accepted valid
    have left : after = body := by
      show payloadLeft payload result = body
      rw [same]
      rfl
    refine ⟨etherType, Hex.decode_encode etherType.toList, ?_⟩
    intro flag noHeader ipv4Header other otherBody
    rw [left]
    refine (protect_eq_ok noHeader).trans ⟨fun otherDone => ?_, ?_⟩
    · exact userData_injective (Channel.seal?_injective otherDone done)
    · rintro ⟨rfl, rfl⟩
      exact done

/-- The shortest payload that is accepted, and one of its length that is not. -/
theorem validate_accepts_bare_etherType :
    ∃ (raw : RawChannel) (payload wrong : Bytes),
      raw = { sak := [7] } ∧
      payload = [215, 59, 160, 34, 133, 205, 148, 227, 154, 4, 50, 244, 29, 59, 146, 1, 186, 28] ∧
      wrong = List.replicate 18 0 ∧
      payload.length ≤ 2 ^ 36 ∧ wrong.length ≤ 2 ^ 36 ∧
      (validate raw payload).result = .ok (.accepted ⟨[8, 0], rfl⟩ []) ∧
      payloadLeft payload (validate raw payload).result ≠ payload ∧
      (protect raw [8, 0] "F" [] []).result = .ok payload ∧
      ¬raw.normalize.HasTag wrong ∧ Rejects raw wrong := by
  refine ⟨_, _, _, rfl, rfl, rfl, by decide, by decide, ?_⟩
  generalize channel : ({ sak := [7] } : RawChannel) = raw
  generalize sealed : ([215, 59, 160, 34, 133, 205, 148, 227, 154, 4, 50, 244, 29, 59, 146, 1,
    186, 28] : Bytes) = payload
  have length : payload.length = 18 := by
    rw [← sealed]
    rfl
  have short : payload.length ≤ 2 ^ 36 := by
    rw [length]
    decide
  have enough : tagLength ≤ payload.length := by
    rw [length]
    decide
  have opened : raw.normalize.open? payload enough = some ([8, 0] ++ []) := by
    subst channel sealed
    revert enough
    decide +kernel
  have accepted : (validate raw payload).result = .ok (.accepted ⟨[8, 0], rfl⟩ []) :=
    result_validate_of_open? enough opened
  have wrong : ¬raw.normalize.HasTag (List.replicate 18 0) := by
    rw [← channel, Channel.HasTag]
    decide +kernel
  obtain ⟨changed, -, -, -, -, unique⟩ := validate_accepts_image raw short
  obtain ⟨-, -, -, rejects, -, -⟩ :=
    validate_accepts_image raw (show (List.replicate 18 (0 : UInt8)).length ≤ 2 ^ 36 by decide)
  obtain ⟨etherType, decoded, only⟩ := unique _ accepted rfl
  have kind : etherType = ⟨[8, 0], rfl⟩ :=
    Octets.ext (Except.ok.inj (decoded.symm.trans (Hex.decode_encode [8, 0])))
  refine ⟨accepted, changed.mpr ⟨_, accepted, rfl⟩, ?_, wrong, rejects (by decide) wrong⟩
  refine (only "F" (by decide) [] ⟨[8, 0], rfl⟩ []).mpr ⟨kind.symm, ?_⟩
  rw [accepted]
  rfl

end PacketProtection.Macsec

import PacketProtection.Proofs.Command.Frames
import PacketProtection.Proofs.Macsec.Image

/-!
# Frames that leave the MACsec command

A frame *carries* data under a key when it ends in the right tag of its
ciphertext, and the data is what the ciphertext decrypts to (`Carries`).  Nonce,
associated data and ciphertext are all pieces of the frame, so this is a matter
of the key and the frame alone.  It is also what the transform checks
(`open?_frameChannel`), and one frame carries at most one data
(`Carries.unique`).

*Outcomes.*  `FrameOutcome` lists the five ways in which the validation of a
frame ends, and every validation has one of them (`macsecValidate_outcome`).
Three are errors: the frame is not a protected one, there is no room for a tag,
or the tag is right and there is no room for an EtherType.  In the other two the
tag decides whether the frame is dropped or released.

So the command releases no data but what a frame carries, and of the association
only the key has a say (`macsecValidate_releases_carried`).
-/

namespace PacketProtection.Command

open View (SecTag)

/-! ## Data that a frame carries -/

/-- A frame carries data under a key: its last sixteen bytes are the right tag of
what stands between them and the security tag, and that decrypts to the data.
The mode gives no tag beyond its limits. -/
def Carries (key : Octets 16) (frame data : Bytes) : Prop :=
  ∃ (nonce : Octets 12) (ciphertext : Bytes) (tag : Octets 16),
    frame.drop 28 = ciphertext ++ tag.toList ∧ ciphertext.length ≤ Gcm.maxCiphertext ∧
    nonce.toList = (frame.drop 20).take 8 ++ (frame.drop 16).take 4 ∧
    tag = Gcm.tag (Aes.cipher key) nonce (frame.take 28) ciphertext ∧
    data = Gcm.crypt (Aes.cipher key) nonce ciphertext

section Carries

variable {key : Octets 16} {frame data other : Bytes}

theorem Carries.length_eq (carries : Carries key frame data) : frame.length = 44 + data.length := by
  obtain ⟨nonce, ciphertext, tag, split, -, -, -, rfl⟩ := carries
  have lengths := congrArg List.length split
  rw [List.length_drop, List.length_append, Octets.length_toList] at lengths
  rw [Gcm.length_crypt]
  omega

theorem Carries.unique (carries : Carries key frame data) (otherCarries : Carries key frame other) :
    data = other := by
  obtain ⟨nonce, ciphertext, tag, split, -, own, -, rfl⟩ := carries
  obtain ⟨otherNonce, otherCiphertext, otherTag, otherSplit, -, otherOwn, -, rfl⟩ := otherCarries
  obtain rfl : nonce = otherNonce := Octets.ext (own.trans otherOwn.symm)
  have sameTags : tag.toList.length = otherTag.toList.length := by
    rw [Octets.length_toList, Octets.length_toList]
  obtain ⟨rfl, -⟩ := List.append_inj' (split.symm.trans otherSplit) sameTags
  rfl

/-- The transform opens a frame exactly to the data it carries. -/
theorem open?_frameChannel {ethernet : Ethernet} {view : SecTag}
    (parsed : parseProtected frame = .ok (ethernet, view))
    (enough : Macsec.tagLength ≤ (frame.drop 28).length) :
    (frameChannel key ethernet view).open? (frame.drop 28) enough = some data ↔
      Carries key frame data := by
  have nonce := nonce_frameChannel key parsed
  rw [sci_of_parsed parsed, packetNumber_of_parsed parsed] at nonce
  rw [Macsec.Channel.open?_eq_some, associated_frameChannel key parsed]
  constructor
  · rintro ⟨ciphertext, tag, split, within, right, opened⟩
    exact ⟨_, ciphertext, tag, split, within, nonce, right, opened⟩
  · rintro ⟨own, ciphertext, tag, split, within, told, right, opened⟩
    obtain rfl : own = (frameChannel key ethernet view).nonce := Octets.ext (told.trans nonce.symm)
    exact ⟨ciphertext, tag, split, within, right, opened⟩

end Carries

/-! ## Outcomes -/

/-- A summary reports a frame with the data behind its addresses, and the
EtherType that the data starts with. -/
structure Released (frame data : Bytes) (summary : MacsecSummary) : Prop where
  valid_eq : summary.valid = some true
  packet_eq : summary.packet = some (frame.take 12 ++ data)
  etherType_eq :
    summary.etherType.map Octets.toList = some (((frame.take 12 ++ data).drop 12).take 2)
  /-- The EtherType is reported in digits that read back as its bytes. -/
  text_decodes : Hex.decode (Bytes.ofString (etherTypeText summary.etherType)) =
    .ok (((frame.take 12 ++ data).drop 12).take 2)

/-- A summary reports a frame that was not let through. -/
structure Dropped (summary : MacsecSummary) : Prop where
  valid_eq : summary.valid = some false
  etherType_eq : summary.etherType = none
  packet_eq : summary.packet = none

/-- The ways in which the validation of a frame ends. -/
inductive FrameOutcome (key : Octets 16) (frame : Bytes) :
    Except MacsecError MacsecSummary → Prop
  /-- The frame is not a protected one. -/
  | unprotected {error : MacsecError} : ¬IsProtected frame → FrameOutcome key frame (.error error)
  /-- There is no room for a tag. -/
  | short : IsProtected frame → frame.length < 44 →
      FrameOutcome key frame (.error (.transform (.truncated "MACsec ICV" 16 (frame.length - 28))))
  /-- The tag is right, but there is no room for an EtherType. -/
  | bare {data : Bytes} : IsProtected frame → Carries key frame data → data.length < 2 →
      FrameOutcome key frame (.error (.transform (.truncated "MACsec EtherType" 2 data.length)))
  /-- The tag is wrong. -/
  | dropped {summary : MacsecSummary} : IsProtected frame → 44 ≤ frame.length →
      (¬∃ data, Carries key frame data) → Dropped summary → FrameOutcome key frame (.ok summary)
  /-- The tag is right, and the data starts with an EtherType. -/
  | released {data : Bytes} {summary : MacsecSummary} : IsProtected frame →
      Carries key frame data → 2 ≤ data.length → Released frame data summary →
      FrameOutcome key frame (.ok summary)

/-- What is reported of accepted data is the data. -/
theorem released_validated {frame : Bytes} {ethernet : Ethernet} {view : SecTag}
    (long : 12 ≤ frame.length) (etherType : Octets 2) (payload : Bytes) :
    Released frame (etherType.toList ++ payload)
      (validated frame ethernet view (.accepted etherType payload)) := by
  have front : (frame.take 12).length = 12 := List.length_take_of_le long
  have found : ((frame.take 12 ++ (etherType.toList ++ payload)).drop 12).take 2 =
      etherType.toList := by
    rw [List.drop_left' front, List.take_left' etherType.length_toList]
  constructor
  · rfl
  · exact congrArg some (List.append_assoc _ _ _)
  · rw [found]
    rfl
  · rw [found]
    exact Hex.decode_encode etherType.toList

section Validate

variable {association : MacsecAssociation} {frame : Bytes} {ethernet : Ethernet} {view : SecTag}

theorem outcome_of_unparsed {error : MacsecError}
    (failed : parseProtected frame = .error error) :
    FrameOutcome (normalize 16 association.sak) frame
      (macsecValidate association frame).result := by
  rw [result_macsecValidate_of_error failed]
  refine .unprotected fun isProtected => ?_
  obtain ⟨ethernet, view, parsed⟩ := isProtected_iff.mp isProtected
  cases failed.symm.trans parsed

variable (parsed : parseProtected frame = .ok (ethernet, view))
include parsed

theorem outcome_of_short (short : ¬Macsec.tagLength ≤ (frame.drop 28).length) :
    FrameOutcome (normalize 16 association.sak) frame
      (macsecValidate association frame).result := by
  rw [result_macsecValidate parsed, drop_fullLength_of_parsed parsed, Macsec.result_validate,
    dif_neg short, List.length_drop]
  rw [Macsec.tagLength, List.length_drop] at short
  exact .short (isProtected_iff.mpr ⟨ethernet, view, parsed⟩) (by omega)

variable {enough : Macsec.tagLength ≤ (frame.drop 28).length}

theorem outcome_of_unopened
    (unopened : (frameChannel (normalize 16 association.sak) ethernet view).open? (frame.drop 28)
      enough = none) :
    FrameOutcome (normalize 16 association.sak) frame
      (macsecValidate association frame).result := by
  have wrong : ¬∃ data, Carries (normalize 16 association.sak) frame data := by
    rintro ⟨data, carries⟩
    cases unopened.symm.trans ((open?_frameChannel parsed enough).mpr carries)
  have long : 16 ≤ frame.length - 28 := List.length_drop ▸ enough
  rw [← normalize_rawChannel_frame] at unopened
  rw [result_macsecValidate parsed, drop_fullLength_of_parsed parsed,
    Macsec.result_validate_of_unopened enough unopened]
  exact .dropped (isProtected_iff.mpr ⟨ethernet, view, parsed⟩) (by omega) wrong ⟨rfl, rfl, rfl⟩

theorem outcome_of_opened {data : Bytes}
    (opened : (frameChannel (normalize 16 association.sak) ethernet view).open? (frame.drop 28)
      enough = some data) :
    FrameOutcome (normalize 16 association.sak) frame
      (macsecValidate association frame).result := by
  have isProtected : IsProtected frame := isProtected_iff.mpr ⟨ethernet, view, parsed⟩
  have long : 28 ≤ frame.length := isProtected.enough
  have carries := (open?_frameChannel parsed enough).mp opened
  by_cases bare : data.length < Macsec.etherTypeLength
  · rw [← normalize_rawChannel_frame] at opened
    rw [result_macsecValidate parsed, drop_fullLength_of_parsed parsed,
      Macsec.result_validate_of_bare enough opened bare]
    exact .bare isProtected carries bare
  · have room : 2 ≤ data.length := Nat.le_of_not_lt bare
    have split : (Octets.first 2 data room).toList ++ data.drop 2 = data :=
      List.take_append_drop 2 data
    rw [← split] at opened carries
    rw [result_macsecValidate_of_open? parsed enough opened]
    exact .released isProtected carries (split.symm ▸ room) (released_validated (by omega) _ _)

end Validate

/-- Every validation has one of the outcomes, under the key of the association. -/
theorem macsecValidate_outcome (association : MacsecAssociation) (frame : Bytes) :
    FrameOutcome (normalize 16 association.sak) frame (macsecValidate association frame).result := by
  cases parsed : parseProtected frame with
  | error error => exact outcome_of_unparsed parsed
  | ok parts =>
      obtain ⟨ethernet, view⟩ := parts
      by_cases enough : Macsec.tagLength ≤ (frame.drop 28).length
      · cases opened : (frameChannel (normalize 16 association.sak) ethernet view).open?
            (frame.drop 28) enough with
        | none => exact outcome_of_unopened parsed opened
        | some data => exact outcome_of_opened parsed opened
      · exact outcome_of_short parsed enough

namespace FrameOutcome

variable {key : Octets 16} {frame : Bytes} {result : Except MacsecError MacsecSummary}

theorem error_iff (outcome : FrameOutcome key frame result) :
    (∃ error, result = .error error) ↔
      ¬IsProtected frame ∨ frame.length < 44 ∨
        frame.length < 46 ∧ ∃ data, Carries key frame data := by
  cases outcome with
  | unprotected unprotected => exact iff_of_true ⟨_, rfl⟩ (.inl unprotected)
  | short _ short => exact iff_of_true ⟨_, rfl⟩ (.inr (.inl short))
  | @bare data _ carries bare =>
      have length := carries.length_eq
      exact iff_of_true ⟨_, rfl⟩ (.inr (.inr ⟨by omega, data, carries⟩))
  | dropped isProtected enough wrong _ =>
      refine iff_of_false (by simp) ?_
      rintro (unprotected | short | ⟨-, carries⟩)
      · exact unprotected isProtected
      · omega
      · exact wrong carries
  | released isProtected carries enough _ =>
      have length := carries.length_eq
      refine iff_of_false (by simp) ?_
      rintro (unprotected | short | ⟨short, -⟩)
      · exact unprotected isProtected
      · omega
      · omega

theorem eq_truncated {error : MacsecError} (outcome : FrameOutcome key frame (.error error))
    (isProtected : IsProtected frame) :
    ∃ part needed available, error = .transform (.truncated part needed available) := by
  cases outcome with
  | unprotected unprotected => exact absurd isProtected unprotected
  | short _ _ => exact ⟨_, _, _, rfl⟩
  | bare _ _ _ => exact ⟨_, _, _, rfl⟩

/-- A frame that carries data is released with that data. -/
theorem released_of_carries {summary : MacsecSummary} {data : Bytes}
    (outcome : FrameOutcome key frame (.ok summary)) (carries : Carries key frame data) :
    Released frame data summary := by
  cases outcome with
  | dropped _ _ wrong _ => exact absurd ⟨data, carries⟩ wrong
  | released _ otherCarries _ released =>
      obtain rfl := otherCarries.unique carries
      exact released

/-- A frame that carries none is dropped. -/
theorem dropped_of_wrong {summary : MacsecSummary} (outcome : FrameOutcome key frame (.ok summary))
    (wrong : ¬∃ data, Carries key frame data) : Dropped summary := by
  cases outcome with
  | dropped _ _ _ dropped => exact dropped
  | released _ carries _ _ => exact absurd ⟨_, carries⟩ wrong

theorem valid_iff {summary : MacsecSummary} (outcome : FrameOutcome key frame (.ok summary)) :
    summary.valid = some true ↔ ∃ data, Carries key frame data := by
  constructor
  · intro valid
    by_contra wrong
    rw [(outcome.dropped_of_wrong wrong).valid_eq] at valid
    cases valid
  · rintro ⟨data, carries⟩
    exact (outcome.released_of_carries carries).valid_eq

theorem packet_iff {summary : MacsecSummary} (outcome : FrameOutcome key frame (.ok summary)) :
    summary.packet.isSome ↔ summary.valid = some true := by
  cases outcome with
  | dropped _ _ _ dropped => simp [dropped.packet_eq, dropped.valid_eq]
  | released _ _ _ released => simp [released.packet_eq, released.valid_eq]

end FrameOutcome

/-! ## Release -/

/-- **The command releases what a frame carries, and nothing else.**  Of the
association only the key has a say. -/
theorem macsecValidate_releases_carried (association : MacsecAssociation) (frame : Bytes) :
    let key := normalize 16 association.sak
    let result := (macsecValidate association frame).result
    ((∃ error, result = .error error) ↔
      ¬IsProtected frame ∨ frame.length < 44 ∨
        frame.length < 46 ∧ ∃ data, Carries key frame data) ∧
    (∀ error, result = .error error → IsProtected frame →
      ∃ part needed available, error = .transform (.truncated part needed available)) ∧
    (∀ summary, result = .ok summary →
      (summary.packet.isSome ↔ summary.valid = some true) ∧
      (summary.valid = some true ↔ ∃ data, Carries key frame data) ∧
      (∀ data, Carries key frame data → Released frame data summary) ∧
      ((¬∃ data, Carries key frame data) → Dropped summary)) ∧
    (∀ other : MacsecAssociation, normalize 16 other.sak = key →
      (macsecValidate other frame).result = result) := by
  intro key result
  have outcome : FrameOutcome key frame result := macsecValidate_outcome association frame
  refine ⟨outcome.error_iff, ?_, ?_, fun other sameKey => result_macsecValidate_congr sameKey frame⟩
  · intro error failed
    exact (failed ▸ outcome).eq_truncated
  · intro summary succeeded
    have found : FrameOutcome key frame (.ok summary) := succeeded ▸ outcome
    exact ⟨found.packet_iff, found.valid_iff, fun _ => found.released_of_carries,
      found.dropped_of_wrong⟩

/-- A frame that two associations with one key release, and its header alone,
which has no room for a tag. -/
theorem macsecValidate_releases_one_byte :
    ∃ (association other : MacsecAssociation) (frame : Bytes) (summary : MacsecSummary),
      association = { sak := [0x5a], sci := none, systemMac := none, channelNumber := 1, pn := 0
                      an := 0, secTag := none } ∧
      other = { sak := [0, 0x5a], sci := some [1, 2], systemMac := none, channelNumber := 7
                pn := 9, an := 3, secTag := some [] } ∧
      frame = List.replicate 12 7 ++
        [136, 229, 45, 3, 0, 0, 0, 3, 0, 0, 0, 0, 0, 0, 1, 2, 213, 100, 175, 0, 245, 169, 50, 51,
          222, 231, 137, 196, 126, 221, 250, 178, 73, 210, 50] ∧
      (macsecValidate association frame).result = .ok summary ∧
      Carries (normalize 16 association.sak) frame [8, 0, 0x45] ∧
      Released frame [8, 0, 0x45] summary ∧
      normalize 16 other.sak = normalize 16 association.sak ∧
      (macsecValidate other frame).result = .ok summary ∧
      IsProtected (frame.take 28) ∧
      ∃ part needed available, (macsecValidate association (frame.take 28)).result =
        .error (.transform (.truncated part needed available)) := by
  let association : MacsecAssociation :=
    { sak := [0x5a], sci := none, systemMac := none, channelNumber := 1, pn := 0, an := 0
      secTag := none }
  let other : MacsecAssociation :=
    { sak := [0, 0x5a], sci := some [1, 2], systemMac := none, channelNumber := 7, pn := 9, an := 3
      secTag := some [] }
  let frame : Bytes := List.replicate 12 7 ++
    [136, 229, 45, 3, 0, 0, 0, 3, 0, 0, 0, 0, 0, 0, 1, 2, 213, 100, 175, 0, 245, 169, 50, 51,
      222, 231, 137, 196, 126, 221, 250, 178, 73, 210, 50]
  have succeeds : (macsecValidate association frame).result =
      .ok { action := .validate, src := .replicate 6 7, dst := .replicate 6 7
            sci := [0, 0, 0, 0, 0, 0, 1, 2], pn := 3, an := 1, valid := some true
            etherType := some ⟨[8, 0], rfl⟩
            packet := some (List.replicate 12 7 ++ [8, 0, 0x45]) } := by
    decide +kernel
  have sameKey : normalize 16 other.sak = normalize 16 association.sak := by decide
  have header : IsProtected (frame.take 28) := ⟨by decide, by decide, by decide⟩
  obtain ⟨-, -, found, alike⟩ := macsecValidate_releases_carried association frame
  obtain ⟨-, valid, released, -⟩ := found _ succeeds
  obtain ⟨data, carries⟩ := valid.mp rfl
  obtain rfl : [8, 0, 0x45] = data :=
    List.append_cancel_left (Option.some.inj (released data carries).packet_eq)
  obtain ⟨fails, truncated, -, -⟩ := macsecValidate_releases_carried association (frame.take 28)
  obtain ⟨error, failed⟩ := fails.mpr (.inr (.inl (by decide)))
  obtain ⟨part, needed, available, rfl⟩ := truncated error failed header
  exact ⟨association, other, frame, _, rfl, rfl, rfl, succeeds, carries, released _ carries,
    sameKey, (alike other sameKey).trans succeeds, header, part, needed, available, failed⟩

end PacketProtection.Command

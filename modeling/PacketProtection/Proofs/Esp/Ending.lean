import PacketProtection.Esp.Tunnel
import PacketProtection.Proofs.Esp.Frame
import PacketProtection.Proofs.Header.DropMark
import PacketProtection.Proofs.Header.Packing

/-!
# How a decryption ends

What a payload holds and whether it is authentic are two questions about its
bytes alone.  `decode` answers the first with the inner datagram, or with the
fault of the frame, and `Authentic` asks the second.

A frame that was made around a datagram holds it with any check value and is authentic
with its own (`decode_protect`, `authentic_protect_iff`).

*Endings.*  `Ending` lists the ways in which an attempt to decapsulate a payload
can end, and says for each what becomes of the payload, of the host of the IPv4
header and of the metadata.  Every attempt has one of them (`attempt_ending`),
so the statements about decryption go through its five cases and never through
the transform itself.

*Marks.*  A malformed frame is marked after the attempt, which touches the
metadata and nothing else (`decrypt_of_malformed`, `decrypt_of_not_malformed`).
A payload that decodes is delivered wherever the host takes its header
(`decrypt_of_decoded`).

*Field sets.*  When the three hosts are field sets of the pipeline's layouts,
only two endings are left.  A payload that cannot be decoded is marked
(`decrypt_undecodable`), and any other is delivered (`decrypt_delivered`).
-/

namespace PacketProtection.Esp

open HeaderHost

/-! ## Two questions about a payload -/

/-- The inner datagram of a payload, or why the payload cannot be decoded. -/
def decode (cipherKey : CipherKey) (payload : Bytes) : Except TransformError Bytes :=
  match Frame.split payload with
  | .error cause => .error cause
  | .ok frame =>
      match frame.datagram cipherKey with
      | .error cause => .error cause
      | .ok (inner, _) =>
          match TransformError.require "inner IPv4 header" ipv4HeaderLength inner.length with
          | .error cause => .error cause
          | .ok () => .ok inner

/-- The payload is a frame with the right check value. -/
def Authentic (authKey : Octets authKeySize) (header payload : Bytes) : Prop :=
  ∃ frame, Frame.split payload = .ok frame ∧ frame.isAuthentic authKey header = true

theorem authentic_iff {authKey : Octets authKeySize} {header payload : Bytes} {frame : Frame}
    (split : Frame.split payload = .ok frame) :
    Authentic authKey header payload ↔ frame.isAuthentic authKey header = true := by
  constructor
  · rintro ⟨other, otherSplit, authentic⟩
    rw [split] at otherSplit
    cases otherSplit
    exact authentic
  · intro authentic
    exact ⟨frame, split, authentic⟩

/-- A payload decodes to the datagram of its frame if the frame has a trailer and
the datagram room for an IPv4 header. -/
theorem decode_eq_ok {cipherKey : CipherKey} {payload inner : Bytes} :
    decode cipherKey payload = .ok inner ↔
      ∃ frame nextHeader, Frame.split payload = .ok frame ∧
        Trailed inner nextHeader (cipherKey.crypt frame.iv frame.ciphertext) ∧
        ipv4HeaderLength ≤ inner.length := by
  constructor
  · intro decoded
    unfold decode at decoded
    split at decoded
    · cases decoded
    next frame split =>
      split at decoded
      · cases decoded
      next found nextHeader datagram =>
        split at decoded
        · cases decoded
        next room =>
          cases decoded
          exact ⟨frame, nextHeader, split, stripTrailer_eq_ok.mp datagram,
            TransformError.require_eq_ok.mp room⟩
  · rintro ⟨frame, nextHeader, split, trailed, enough⟩
    have datagram : frame.datagram cipherKey = .ok (inner, nextHeader) :=
      stripTrailer_eq_ok.mpr trailed
    rw [decode, split]
    simp only [datagram]
    rw [TransformError.require_of_le enough]

/-- A payload that cannot be decoded is a malformed frame. -/
theorem decode_error {cipherKey : CipherKey} {payload : Bytes} {cause : TransformError}
    (failed : decode cipherKey payload = .error cause) : cause.isMalformed = true := by
  unfold decode at failed
  split at failed
  next reason split =>
    cases failed
    exact Frame.split_error split
  next frame split =>
    split at failed
    next reason datagram =>
      cases failed
      exact stripTrailer_error datagram
    next inner nextHeader datagram =>
      split at failed
      next reason short =>
        cases failed
        exact TransformError.require_error short
      · cases failed

/-! ### Frames that were made -/

section Made

variable {datagram : Bytes} (cipherKey : CipherKey) (authKey : Octets authKeySize)
  (header : Bytes) (iv : Octets ivLength) (icv : Octets Icv.size)

/-- A frame around a datagram holds it, whatever check value it is sent with. -/
theorem decode_protect (room : ipv4HeaderLength ≤ datagram.length) :
    decode cipherKey
      (Frame.toBytes { Frame.protect cipherKey authKey header iv datagram with icv }) =
        .ok datagram := by
  have split := Frame.split_protect_icv cipherKey authKey header iv datagram icv
  have holds := Frame.datagram_protect cipherKey authKey header iv datagram
  exact decode_eq_ok.mpr ⟨_, _, split, stripTrailer_eq_ok.mp holds, room⟩

/-- A frame around a datagram is authentic with its own check value only. -/
theorem authentic_protect_iff :
    Authentic authKey header
      (Frame.toBytes { Frame.protect cipherKey authKey header iv datagram with icv }) ↔
        icv = (Frame.protect cipherKey authKey header iv datagram).icv := by
  have own := Frame.isAuthentic_protect cipherKey authKey header iv datagram
  rw [authentic_iff (Frame.split_protect_icv cipherKey authKey header iv datagram icv)]
  exact Frame.isAuthentic_icv_iff own icv

end Made

/-! ## Headers -/

variable {I E M : Type} [HeaderHost I] [HeaderHost E] [HeaderHost M]

/-- The length of a packed header is always that of its layout. -/
theorem pack_requireLength (part : String) (layout : HeaderLayout) (host : I) :
    (do
      let raw ← pack layout host
      TransformError.requireLength part layout.length raw.length
      return raw) = pack layout host := by
  cases packed : pack layout host with
  | error cause => rfl
  | ok raw =>
      show (TransformError.requireLength part layout.length raw.length).bind
        (fun _ => .ok raw) = _
      rw [TransformError.requireLength_of_eq (length_pack packed)]
      rfl

theorem headerBytes_eq (esp : E) : headerBytes esp = pack .esp esp :=
  pack_requireLength "ESP header" .esp esp

theorem ipv4Bytes_eq (ipv4 : I) : ipv4Bytes ipv4 = pack .ipv4 ipv4 :=
  pack_requireLength "IPv4 header" .ipv4 ipv4

/-- The host of a packed ESP header still gives the index of the association. -/
theorem exists_spi {esp : E} {header : Bytes} (packs : pack .esp esp = .ok header) :
    ∃ spi, getUint esp "spi" = .ok spi :=
  ⟨_, getUint_of_pack (f := ⟨"spi", 0, 32⟩) HeaderLayout.esp_proper packs (by decide)⟩

/-- The host of a packed ESP header still gives the sequence number. -/
theorem exists_seqNo {esp : E} {header : Bytes} (packs : pack .esp esp = .ok header) :
    ∃ seq, getUint esp "seqNo" = .ok seq :=
  ⟨_, getUint_of_pack (f := ⟨"seqNo", 32, 32⟩) HeaderLayout.esp_proper packs (by decide)⟩

/-! ## Endings -/

/-- A verdict, and what it made of the metadata. -/
inductive Judged (authentic : Prop) (metadata : M) : Verdict → M → Prop
  | valid : authentic → Judged authentic metadata .valid metadata
  | mismatch {marked : M} : ¬authentic → markDrop metadata = (.ok (), marked) →
      Judged authentic metadata .mismatch marked

/-- Whatever the metadata is, there is one verdict. -/
theorem Judged.verdict_unique {authentic : Prop} {metadata after metadata' after' : M}
    {verdict verdict' : Verdict} (judged : Judged authentic metadata verdict after)
    (judged' : Judged authentic metadata' verdict' after') : verdict = verdict' := by
  cases judged with
  | valid right =>
      cases judged' with
      | valid _ => rfl
      | mismatch wrong _ => exact absurd right wrong
  | mismatch wrong _ =>
      cases judged' with
      | valid right => exact absurd right wrong
      | mismatch _ _ => rfl

/-- The ways in which an attempt to decapsulate a payload ends. -/
inductive Ending (payload : Bytes) (ipv4 : I) (esp : E) (metadata : M) (cipherKey : CipherKey)
    (authKey : Octets authKeySize) : Decryption I M → Prop
  /-- The host has no ESP header to authenticate. -/
  | noHeader {cause : TransformError} {log : Log} : pack .esp esp = .error cause →
      Ending payload ipv4 esp metadata cipherKey authKey
        ⟨.error (.error cause), payload, ipv4, metadata, log⟩
  /-- The metadata does not take the mark. -/
  | unmarked {header : Bytes} {fault : Fault} {after : M} {log : Log} :
      pack .esp esp = .ok header → ¬Authentic authKey header payload →
      markDrop metadata = (.error fault, after) →
      Ending payload ipv4 esp metadata cipherKey authKey
        ⟨.error fault, payload, ipv4, after, log⟩
  /-- The payload cannot be decoded. -/
  | undecodable {header : Bytes} {cause : TransformError} {after : M} {log : Log} :
      pack .esp esp = .ok header → decode cipherKey payload = .error cause →
      (after = metadata ∨ markDrop metadata = (.ok (), after)) →
      Ending payload ipv4 esp metadata cipherKey authKey
        ⟨.error (.error cause), payload, ipv4, after, log⟩
  /-- The host does not take the fields of the inner header. -/
  | refused {header inner : Bytes} {cause : TransformError} {verdict : Verdict} {next : I}
      {after : M} {log : Log} :
      pack .esp esp = .ok header → decode cipherKey payload = .ok inner →
      Judged (Authentic authKey header payload) metadata verdict after →
      unpack .ipv4 inner ipv4 = (.error cause, next) →
      Ending payload ipv4 esp metadata cipherKey authKey
        ⟨.error (.error cause), payload, next, after, log⟩
  /-- The inner datagram takes the payload's place. -/
  | delivered {header inner : Bytes} {verdict : Verdict} {next : I} {after : M} {log : Log} :
      pack .esp esp = .ok header → decode cipherKey payload = .ok inner →
      Judged (Authentic authKey header payload) metadata verdict after →
      unpack .ipv4 inner ipv4 = (.ok (), next) →
      Ending payload ipv4 esp metadata cipherKey authKey
        ⟨.ok verdict, inner.drop ipv4HeaderLength, next, after, log⟩

/-- What is delivered once a verdict is known ends as the verdict says. -/
theorem deliver_ending {payload : Bytes} {ipv4 : I} {esp : E} {metadata : M}
    {cipherKey : CipherKey} {authKey : Octets authKeySize} {header : Bytes} {frame : Frame}
    {verdict : Verdict} {after : M} (packs : pack .esp esp = .ok header)
    (split : Frame.split payload = .ok frame)
    (judged : Judged (Authentic authKey header payload) metadata verdict after) (log : Log) :
    Ending payload ipv4 esp metadata cipherKey authKey
      (.deliver payload ipv4 after log verdict frame cipherKey) := by
  have kept : after = metadata ∨ markDrop metadata = (.ok (), after) := by
    cases judged with
    | valid _ => exact .inl rfl
    | mismatch _ marked => exact .inr marked
  unfold Decryption.deliver
  cases datagram : frame.datagram cipherKey with
  | error cause =>
      exact .undecodable packs (by rw [decode, split]; simp only [datagram]) kept
  | ok found =>
      obtain ⟨inner, nextHeader⟩ := found
      simp only
      cases room : TransformError.require "inner IPv4 header" ipv4HeaderLength inner.length with
      | error cause =>
          exact .undecodable packs (by rw [decode, split]; simp only [datagram, room]) kept
      | ok _ =>
          have decoded : decode cipherKey payload = .ok inner := by
            rw [decode, split]
            simp only [datagram, room]
          simp only
          cases stored : unpack .ipv4 inner ipv4 with
          | mk result next =>
              cases result with
              | error cause => exact .refused packs decoded judged stored
              | ok _ => exact .delivered packs decoded judged stored

/-- Every attempt has one of the endings. -/
theorem attempt_ending (payload : Bytes) (ipv4 : I) (esp : E) (metadata : M)
    (cipherKey authKey : Bytes) :
    Ending payload ipv4 esp metadata (.ofBlob cipherKey) (Esp.authKey authKey)
      (attempt payload ipv4 esp metadata cipherKey authKey) := by
  unfold attempt
  rw [headerBytes_eq]
  cases packs : pack .esp esp with
  | error cause => exact .noHeader packs
  | ok header =>
      simp only
      cases split : Frame.split payload with
      | error cause => exact .undecodable packs (by rw [decode, split]) (.inl rfl)
      | ok frame =>
          simp only
          by_cases authentic : frame.isAuthentic (Esp.authKey authKey) header = true
          · rw [if_pos authentic]
            exact deliver_ending packs split (.valid ((authentic_iff split).mpr authentic)) _
          · rw [if_neg authentic]
            have wrong : ¬Authentic (Esp.authKey authKey) header payload :=
              fun right => authentic ((authentic_iff split).mp right)
            obtain ⟨spi, spiRead⟩ := exists_spi packs
            obtain ⟨seq, seqRead⟩ := exists_seqNo packs
            rw [spiRead, seqRead]
            cases marking : markDrop metadata with
            | mk result after =>
                cases result with
                | error fault => exact .unmarked packs wrong marking
                | ok _ => exact deliver_ending packs split (.mismatch wrong marking) _

/-- The only fault of a frame that a packed ESP header and a lawful host of the
IPv4 header leave is a payload that cannot be decoded. -/
theorem Ending.undecodable_of_malformed [LawfulHost I] [LawfulHost M] {payload : Bytes}
    {ipv4 : I} {esp : E} {metadata : M} {cipherKey : CipherKey} {authKey : Octets authKeySize}
    {ended : Decryption I M} (ending : Ending payload ipv4 esp metadata cipherKey authKey ended)
    (narrow : Narrow metadata) {cause : TransformError}
    (failed : ended.result = .error (.error cause)) (malformed : cause.isMalformed = true) :
    ended.packet = payload ∧ ended.ipv4 = ipv4 ∧
      (ended.metadata = metadata ∨ markDrop metadata = (.ok (), ended.metadata)) := by
  cases ending with
  | noHeader _ => exact ⟨rfl, rfl, .inl rfl⟩
  | unmarked _ _ marking =>
      cases failed
      obtain ⟨reason, same, sound⟩ := markDrop_error narrow (congrArg Prod.fst marking)
      cases same
      rw [malformed] at sound
      cases sound
  | undecodable _ _ kept => exact ⟨rfl, rfl, kept⟩
  | refused _ decoded _ refused =>
      cases failed
      obtain ⟨-, -, -, -, enough⟩ := decode_eq_ok.mp decoded
      rw [unpack_error (le_of_eq_of_le HeaderLayout.length_ipv4 enough) refused] at malformed
      cases malformed
  | delivered => cases failed

/-! ## Marking malformed frames -/

theorem decrypt_of_not_malformed {payload : Bytes} {ipv4 : I} {esp : E} {metadata : M}
    {cipherKey authKey : Bytes}
    (sound : ∀ cause, (attempt payload ipv4 esp metadata cipherKey authKey).result =
      .error (.error cause) → cause.isMalformed = false) :
    decrypt payload ipv4 esp metadata cipherKey authKey =
      attempt payload ipv4 esp metadata cipherKey authKey := by
  unfold decrypt Decryption.markMalformed
  split
  next cause failed => rw [if_neg (by rw [sound cause failed]; decide)]
  next => rfl

theorem decrypt_of_malformed {payload : Bytes} {ipv4 : I} {esp : E} {metadata : M}
    {cipherKey authKey : Bytes} {attempted : Decryption I M} {cause : TransformError}
    (same : attempt payload ipv4 esp metadata cipherKey authKey = attempted)
    (failed : attempted.result = .error (.error cause)) (malformed : cause.isMalformed = true) :
    ∃ log, decrypt payload ipv4 esp metadata cipherKey authKey =
      ⟨(markDrop attempted.metadata).1.bind fun _ => .error (.error cause), attempted.packet,
        attempted.ipv4, (markDrop attempted.metadata).2, log⟩ := by
  unfold decrypt Decryption.markMalformed
  rw [same, failed]
  simp only
  rw [if_pos malformed]
  cases marking : markDrop attempted.metadata with
  | mk result after => cases result <;> exact ⟨_, rfl⟩

/-! ## Delivered payloads -/

/-- A payload whose datagram the host takes is delivered, if it is authentic or
its metadata can be marked. -/
theorem decrypt_of_decoded {payload cipherKey authKey header inner : Bytes} {ipv4 next : I}
    {esp : E} (metadata : M) (packs : pack .esp esp = .ok header)
    (decoded : decode (.ofBlob cipherKey) payload = .ok inner)
    (unpacked : unpack .ipv4 inner ipv4 = (.ok (), next))
    (markable : ¬Authentic (Esp.authKey authKey) header payload →
      (markDrop metadata).1 = .ok ()) :
    ∃ verdict after log,
      Judged (Authentic (Esp.authKey authKey) header payload) metadata verdict after ∧
      decrypt payload ipv4 esp metadata cipherKey authKey =
        ⟨.ok verdict, inner.drop ipv4HeaderLength, next, after, log⟩ := by
  have ending := attempt_ending payload ipv4 esp metadata cipherKey authKey
  rw [decrypt]
  generalize attempt payload ipv4 esp metadata cipherKey authKey = attempted at ending
  cases ending with
  | noHeader missing => cases missing.symm.trans packs
  | unmarked found wrong stuck =>
      cases found.symm.trans packs
      have marks := markable wrong
      rw [stuck] at marks
      cases marks
  | undecodable _ fault _ => cases fault.symm.trans decoded
  | refused _ found _ stuck =>
      cases found.symm.trans decoded
      cases stuck.symm.trans unpacked
  | delivered found read judged taken =>
      cases found.symm.trans packs
      cases read.symm.trans decoded
      cases taken.symm.trans unpacked
      exact ⟨_, _, _, judged, rfl⟩

/-! ## Field sets of the pipeline -/

section FieldSets

variable {payload : Bytes} {ipv4 esp metadata : FieldSet} {cipherKey header : Bytes}

theorem headerBytes_of (espOf : FieldSet.Of .esp esp) :
    ∃ header, pack .esp esp = .ok header :=
  espOf.pack HeaderLayout.esp_proper.names_nodup

/-- Judging a payload keeps the metadata a field set of its layout. -/
theorem Judged.of {authentic : Prop} {verdict : Verdict} {after : FieldSet}
    (judged : Judged authentic metadata verdict after)
    (metadataOf : FieldSet.Of .standardMetadata metadata) :
    FieldSet.Of .standardMetadata after := by
  cases judged with
  | valid _ => exact metadataOf
  | mismatch _ marking =>
      obtain ⟨marked, done, markedOf⟩ := metadataOf.markDrop
      cases done.symm.trans marking
      exact markedOf

/-- A payload that cannot be decoded is marked for dropping and left alone. -/
theorem decrypt_undecodable (ipv4 : FieldSet) (authKey : Bytes) (espOf : FieldSet.Of .esp esp)
    (metadataOf : FieldSet.Of .standardMetadata metadata) {cause : TransformError}
    (failed : decode (.ofBlob cipherKey) payload = .error cause) :
    ∃ marked log, IsDropMarked marked ∧ FieldSet.Of .standardMetadata marked ∧
      decrypt payload ipv4 esp metadata cipherKey authKey =
        ⟨.error (.error cause), payload, ipv4, marked, log⟩ := by
  have ending := attempt_ending payload ipv4 esp metadata cipherKey authKey
  generalize same : attempt payload ipv4 esp metadata cipherKey authKey = attempted at ending
  obtain ⟨header, packs⟩ := headerBytes_of espOf
  obtain ⟨marked, marking, markedOf⟩ := metadataOf.markDrop
  cases ending with
  | noHeader missing => cases missing.symm.trans packs
  | unmarked _ _ stuck => cases stuck.symm.trans marking
  | undecodable _ fault kept =>
      cases fault.symm.trans failed
      obtain ⟨log, undone⟩ := decrypt_of_malformed same rfl (decode_error failed)
      -- The metadata may have been marked before, but takes the mark again.
      rcases kept with rfl | before
      · rw [marking] at undone
        exact ⟨marked, log, isDropMarked_markDrop marking, markedOf, undone⟩
      · cases before.symm.trans marking
        obtain ⟨again, marking', againOf⟩ := markedOf.markDrop
        rw [marking'] at undone
        exact ⟨again, log, isDropMarked_markDrop marking', againOf, undone⟩
  | refused _ decoded _ _ => cases decoded.symm.trans failed
  | delivered _ decoded _ _ => cases decoded.symm.trans failed

/-- A payload that can be decoded is delivered, with the verdict on its check
value. -/
theorem decrypt_delivered (authKey : Bytes) (ipv4Of : FieldSet.Of .ipv4 ipv4)
    (metadataOf : FieldSet.Of .standardMetadata metadata) (packs : pack .esp esp = .ok header)
    {inner : Bytes} (decoded : decode (.ofBlob cipherKey) payload = .ok inner) :
    ∃ next verdict after log, unpack .ipv4 inner ipv4 = (.ok (), next) ∧
      FieldSet.Of .ipv4 next ∧
      Judged (Authentic (Esp.authKey authKey) header payload) metadata verdict after ∧
      FieldSet.Of .standardMetadata after ∧
      decrypt payload ipv4 esp metadata cipherKey authKey =
        ⟨.ok verdict, inner.drop ipv4HeaderLength, next, after, log⟩ := by
  obtain ⟨marked, marking, -⟩ := metadataOf.markDrop
  obtain ⟨-, -, -, -, enough⟩ := decode_eq_ok.mp decoded
  obtain ⟨next, unpacked, nextOf⟩ := ipv4Of.unpack HeaderLayout.ipv4_proper.names_nodup
    (le_of_eq_of_le HeaderLayout.length_ipv4 enough)
  obtain ⟨verdict, after, log, judged, ends⟩ :=
    decrypt_of_decoded metadata packs decoded unpacked fun _ => congrArg Prod.fst marking
  exact ⟨next, verdict, after, log, unpacked, nextOf, judged, judged.of metadataOf, ends⟩

end FieldSets

end PacketProtection.Esp

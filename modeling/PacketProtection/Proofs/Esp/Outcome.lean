import PacketProtection.Proofs.BitFlip
import PacketProtection.Proofs.Esp.Ending

/-!
# What a decryption leaves behind

The pipeline forwards a packet unless its metadata says otherwise, so a frame
that is not authentic or cannot be decoded must never leave its metadata
unmarked.  `Settled` says for each result what the payload, the host of the IPv4
header and the metadata look like after it, and every decryption is settled
(`decrypt_settled`), whatever the hosts of the headers.

*Runs.*  Several decryptions may share one set of metadata.  With field sets of
the pipeline's layouts there are no errors but malformed frames, so at the end
the metadata is marked exactly if it was marked before or some frame was not
found valid (`decryptAll_mark`).  The frames of a run do not affect each other's
results, only the mark passes from one to the next (`decryptAll_results`).
-/

namespace PacketProtection.Esp

open HeaderHost

variable {I E M : Type} [HeaderHost I] [HeaderHost E] [HeaderHost M]

/-! ## One decryption -/

/-- What a decryption leaves behind, by its result. -/
def Settled (payload : Bytes) (ipv4 : I) (metadata : M) (cipherKey : Bytes)
    (ended : Decryption I M) : Prop :=
  match ended.result with
  | .ok verdict =>
      (match verdict with
        | .valid => ended.metadata = metadata
        | .mismatch => IsDropMarked ended.metadata) ∧
      ∃ inner, decode (.ofBlob cipherKey) payload = .ok inner ∧
        ended.packet = inner.drop ipv4HeaderLength
  | .error (.error cause) =>
      ended.packet = payload ∧
      (cause.isMalformed = true → IsDropMarked ended.metadata ∧ ended.ipv4 = ipv4)
  | .error .abort => False

theorem decrypt_settled [LawfulHost I] [LawfulHost M] (payload : Bytes) (ipv4 : I) (esp : E)
    {metadata : M} (cipherKey authKey : Bytes) (narrow : Narrow metadata) :
    Settled payload ipv4 metadata cipherKey
      (decrypt payload ipv4 esp metadata cipherKey authKey) := by
  have ending := attempt_ending payload ipv4 esp metadata cipherKey authKey
  generalize same : attempt payload ipv4 esp metadata cipherKey authKey = attempted at ending
  by_cases malformed : ∃ cause, attempted.result = .error (.error cause) ∧
      cause.isMalformed = true
  · obtain ⟨cause, failed, isMalformed⟩ := malformed
    obtain ⟨packet, host, kept⟩ := ending.undecodable_of_malformed narrow failed isMalformed
    have stillNarrow : Narrow attempted.metadata := by
      rcases kept with unmarked | marked
      · rw [unmarked]
        exact narrow
      · have widths := narrow_markDrop narrow
        rw [marked] at widths
        exact widths
    obtain ⟨log, ended⟩ := decrypt_of_malformed same failed isMalformed
    rw [ended, packet, host]
    cases marking : markDrop attempted.metadata with
    | mk result after =>
        cases result with
        | ok _ => exact ⟨rfl, fun _ => ⟨isDropMarked_markDrop marking, rfl⟩⟩
        | error fault =>
            obtain ⟨reason, rfl, sound⟩ :=
              markDrop_error stillNarrow (congrArg Prod.fst marking)
            refine ⟨rfl, fun wrong => ?_⟩
            rw [sound] at wrong
            cases wrong
  · have sound : ∀ cause, attempted.result = .error (.error cause) →
        cause.isMalformed = false := by
      intro cause failed
      exact Bool.eq_false_iff.mpr fun isMalformed => malformed ⟨cause, failed, isMalformed⟩
    rw [decrypt_of_not_malformed (same ▸ sound), same]
    cases ending with
    | noHeader _ => exact ⟨rfl, fun wrong => absurd ⟨_, rfl, wrong⟩ malformed⟩
    | unmarked _ _ marking =>
        obtain ⟨reason, rfl, -⟩ := markDrop_error narrow (congrArg Prod.fst marking)
        exact ⟨rfl, fun wrong => absurd ⟨_, rfl, wrong⟩ malformed⟩
    | undecodable _ _ _ => exact ⟨rfl, fun wrong => absurd ⟨_, rfl, wrong⟩ malformed⟩
    | refused _ _ _ _ => exact ⟨rfl, fun wrong => absurd ⟨_, rfl, wrong⟩ malformed⟩
    | delivered _ decoded judged _ =>
        refine ⟨?_, _, decoded, rfl⟩
        cases judged with
        | valid _ => rfl
        | mismatch _ marking => exact isDropMarked_markDrop marking

/-- With field sets of the pipeline's layouts, the only errors are malformed
frames. -/
theorem decrypt_fieldSets {payload : Bytes} {ipv4 esp metadata : FieldSet}
    {cipherKey authKey : Bytes} (ipv4Of : FieldSet.Of .ipv4 ipv4) (espOf : FieldSet.Of .esp esp)
    (metadataOf : FieldSet.Of .standardMetadata metadata) {ended : Decryption FieldSet FieldSet}
    (ends : decrypt payload ipv4 esp metadata cipherKey authKey = ended) :
    FieldSet.Of .standardMetadata ended.metadata ∧
      ∀ fault, ended.result = .error fault → fault.isMalformed = true := by
  subst ends
  cases decoded : decode (.ofBlob cipherKey) payload with
  | error cause =>
      obtain ⟨marked, log, -, markedOf, ends⟩ :=
        decrypt_undecodable ipv4 authKey espOf metadataOf decoded
      rw [ends]
      refine ⟨markedOf, fun fault failed => ?_⟩
      cases failed
      exact decode_error decoded
  | ok inner =>
      obtain ⟨header, packs⟩ := headerBytes_of espOf
      obtain ⟨next, verdict, after, log, -, -, -, afterOf, ends⟩ :=
        decrypt_delivered authKey ipv4Of metadataOf packs decoded
      rw [ends]
      exact ⟨afterOf, fun fault failed => by cases failed⟩

/-- A frame around a datagram is judged by its check value alone. -/
theorem result_decrypt_protect {ipv4 esp metadata : FieldSet} {header datagram : Bytes}
    (cipherKey authKey : Bytes) (iv : Octets ivLength) (icv : Octets Icv.size)
    (ipv4Of : FieldSet.Of .ipv4 ipv4) (metadataOf : FieldSet.Of .standardMetadata metadata)
    (packs : pack .esp esp = .ok header) (room : ipv4HeaderLength ≤ datagram.length) :
    let made := Frame.protect (.ofBlob cipherKey) (Esp.authKey authKey) header iv datagram
    (decrypt (Frame.toBytes { made with icv }) ipv4 esp metadata cipherKey authKey).result =
      .ok (if icv = made.icv then .valid else .mismatch) := by
  intro made
  have authentic : Authentic (Esp.authKey authKey) header (Frame.toBytes { made with icv }) ↔
      icv = made.icv := authentic_protect_iff ..
  obtain ⟨next, verdict, after, log, -, -, judged, -, ends⟩ :=
    decrypt_delivered authKey ipv4Of metadataOf packs (decode_protect _ _ _ _ icv room)
  rw [ends]
  cases judged with
  | valid right => rw [if_pos (authentic.mp right)]
  | mismatch wrong _ => rw [if_neg fun same => wrong (authentic.mpr same)]

/-! ## Runs -/

/-- A frame to decrypt, with its keys and the field sets of its headers. -/
structure Call where
  payload : Bytes
  ipv4 : FieldSet
  esp : FieldSet
  cipherKey : Bytes
  authKey : Bytes
  ipv4Of : FieldSet.Of .ipv4 ipv4
  espOf : FieldSet.Of .esp esp

/-- Decrypts one frame. -/
def Call.decrypt (call : Call) (metadata : FieldSet) : Decryption FieldSet FieldSet :=
  Esp.decrypt call.payload call.ipv4 call.esp metadata call.cipherKey call.authKey

/-- Decrypts frame after frame, each with the metadata the one before left: all
results, and the metadata at the end. -/
def decryptAll (metadata : FieldSet) : List Call → List (Except Fault Verdict) × FieldSet
  | [] => ([], metadata)
  | call :: rest =>
      let ended := call.decrypt metadata
      let (results, last) := decryptAll ended.metadata rest
      (ended.result :: results, last)

/-- A single frame marks the metadata unless it is found valid, and never
removes a mark. -/
theorem isDropMarked_decrypt (call : Call) {metadata : FieldSet}
    (metadataOf : FieldSet.Of .standardMetadata metadata) :
    FieldSet.Of .standardMetadata (call.decrypt metadata).metadata ∧
      (IsDropMarked (call.decrypt metadata).metadata ↔
        IsDropMarked metadata ∨ (call.decrypt metadata).result ≠ .ok .valid) := by
  have narrow := metadataOf.narrow HeaderLayout.standardMetadata_proper.narrow
  have settled : Settled call.payload call.ipv4 metadata call.cipherKey (call.decrypt metadata) :=
    decrypt_settled call.payload call.ipv4 call.esp call.cipherKey call.authKey narrow
  have ends : Esp.decrypt call.payload call.ipv4 call.esp metadata call.cipherKey call.authKey =
      call.decrypt metadata := rfl
  obtain ⟨afterOf, malformed⟩ := decrypt_fieldSets call.ipv4Of call.espOf metadataOf ends
  refine ⟨afterOf, ?_⟩
  generalize call.decrypt metadata = ended at settled malformed
  obtain ⟨result, packet, ipv4, after, log⟩ := ended
  match result, settled, malformed with
  | .ok .valid, ⟨kept, _⟩, _ =>
      rw [show after = metadata from kept]
      simp
  | .ok .mismatch, ⟨marked, _⟩, _ =>
      exact iff_of_true marked (.inr (by simp))
  | .error (.error cause), ⟨_, marked⟩, malformed =>
      exact iff_of_true (marked (malformed _ rfl)).1 (.inr (by simp))

theorem decryptAll_mark (calls : List Call) {metadata : FieldSet}
    (metadataOf : FieldSet.Of .standardMetadata metadata) :
    IsDropMarked (decryptAll metadata calls).2 ↔
      IsDropMarked metadata ∨ ∃ result ∈ (decryptAll metadata calls).1, result ≠ .ok .valid := by
  induction calls generalizing metadata with
  | nil => simp [decryptAll]
  | cons call rest ih =>
      obtain ⟨afterOf, step⟩ := isDropMarked_decrypt call metadataOf
      show IsDropMarked (decryptAll (call.decrypt metadata).metadata rest).2 ↔
        IsDropMarked metadata ∨
          ∃ result ∈ (call.decrypt metadata).result ::
            (decryptAll (call.decrypt metadata).metadata rest).1, result ≠ .ok .valid
      rw [ih afterOf, step, List.exists_mem_cons_iff, or_assoc]

/-- The metadata a frame is decrypted with does not decide its result. -/
theorem result_decrypt (call : Call) {metadata metadata' : FieldSet}
    (metadataOf : FieldSet.Of .standardMetadata metadata)
    (metadataOf' : FieldSet.Of .standardMetadata metadata') :
    (call.decrypt metadata).result = (call.decrypt metadata').result := by
  obtain ⟨payload, ipv4, esp, cipherKey, authKey, ipv4Of, espOf⟩ := call
  show (Esp.decrypt payload ipv4 esp metadata cipherKey authKey).result =
    (Esp.decrypt payload ipv4 esp metadata' cipherKey authKey).result
  cases decoded : decode (.ofBlob cipherKey) payload with
  | error cause =>
      obtain ⟨_, _, -, -, ends⟩ := decrypt_undecodable ipv4 authKey espOf metadataOf decoded
      obtain ⟨_, _, -, -, ends'⟩ := decrypt_undecodable ipv4 authKey espOf metadataOf' decoded
      rw [ends, ends']
  | ok inner =>
      obtain ⟨header, packs⟩ := headerBytes_of espOf
      obtain ⟨_, _, _, _, -, -, judged, -, ends⟩ :=
        decrypt_delivered authKey ipv4Of metadataOf packs decoded
      obtain ⟨_, _, _, _, -, -, judged', -, ends'⟩ :=
        decrypt_delivered authKey ipv4Of metadataOf' packs decoded
      rw [ends, ends', judged.verdict_unique judged']

/-- A run gives every frame the result it has alone. -/
theorem decryptAll_results (calls : List Call) {metadata fresh : FieldSet}
    (metadataOf : FieldSet.Of .standardMetadata metadata)
    (freshOf : FieldSet.Of .standardMetadata fresh) :
    (decryptAll metadata calls).1 = calls.map fun call => (call.decrypt fresh).result := by
  induction calls generalizing metadata with
  | nil => rfl
  | cons call rest ih =>
      obtain ⟨afterOf, -⟩ := isDropMarked_decrypt call metadataOf
      show (call.decrypt metadata).result ::
          (decryptAll (call.decrypt metadata).metadata rest).1 = _
      rw [ih afterOf, result_decrypt call metadataOf freshOf, List.map_cons]

/-! ## Every bad frame is marked -/

/-- **No frame that is not valid leaves its metadata unmarked.**  For any hosts,
a decryption ends in one of four ways; for field sets of the pipeline's layouts
errors of the pipeline do not occur, and over any run the mark tells whether
some frame was bad. -/
theorem decrypt_marks_all_but_valid :
    (∀ {I E M : Type} [HeaderHost I] [HeaderHost E] [HeaderHost M] [LawfulHost I]
        [LawfulHost M] (payload : Bytes) (ipv4 : I) (esp : E) (metadata : M)
        (cipherKey authKey : Bytes), Narrow metadata →
      Settled payload ipv4 metadata cipherKey
        (decrypt payload ipv4 esp metadata cipherKey authKey)) ∧
    (∀ (payload : Bytes) (ipv4 esp metadata : FieldSet) (cipherKey authKey : Bytes),
      FieldSet.Of .ipv4 ipv4 → FieldSet.Of .esp esp →
      FieldSet.Of .standardMetadata metadata →
      ∀ fault, (decrypt payload ipv4 esp metadata cipherKey authKey).result = .error fault →
        fault.isMalformed = true) ∧
    (∀ (metadata : FieldSet) (calls : List Call), FieldSet.Of .standardMetadata metadata →
      (IsDropMarked (decryptAll metadata calls).2 ↔
        IsDropMarked metadata ∨
          ∃ result ∈ (decryptAll metadata calls).1, result ≠ .ok .valid)) := by
  refine ⟨?_, ?_, ?_⟩
  · intro I E M _ _ _ _ _ payload ipv4 esp metadata cipherKey authKey narrow
    exact decrypt_settled payload ipv4 esp cipherKey authKey narrow
  · intro payload ipv4 esp metadata cipherKey authKey ipv4Of espOf metadataOf
    exact (decrypt_fieldSets ipv4Of espOf metadataOf rfl).2
  · intro metadata calls metadataOf
    exact decryptAll_mark calls metadataOf

/-- Metadata in fields of other widths, and runs over a valid frame, the same frame
with one bit of its check value inverted, and an empty payload. -/
theorem decrypt_marks_mixed_run :
    ∃ (loose : LooseFields) (fresh : FieldSet) (made : Frame) (good wrong bad : Call),
      loose = ⟨[("egress_spec", [0, 0, 0]), ("mcast_grp", [1])]⟩ ∧
      fresh = .new .standardMetadata ∧
      made = .protect (.ofBlob [1]) (authKey [2]) (List.replicate 8 0) (.replicate 8 3)
        (List.replicate 20 0x45) ∧
      good = ⟨made.toBytes, .new .ipv4, .new .esp, [1], [2], .new _, .new _⟩ ∧
      wrong = { good with payload := Frame.toBytes { made with icv := made.icv.flipBit 0 } } ∧
      bad = ⟨[], .new .ipv4, .new .esp, [], [], .new _, .new _⟩ ∧
      Narrow loose ∧
      Settled [] loose loose [] (decrypt [] loose (FieldSet.new .esp) loose [] []) ∧
      Settled wrong.payload wrong.ipv4 loose [1]
        (decrypt wrong.payload wrong.ipv4 wrong.esp loose [1] [2]) ∧
      (good.decrypt fresh).result = .ok .valid ∧ (good.decrypt fresh).metadata = fresh ∧
      (wrong.decrypt fresh).result = .ok .mismatch ∧
      IsDropMarked (wrong.decrypt fresh).metadata ∧
      (bad.decrypt fresh).result = .error (.error (.truncated "ESP payload" 22 0)) ∧
      (TransformError.truncated "ESP payload" 22 0).isMalformed = true ∧
      ¬IsDropMarked (decryptAll fresh [good, good]).2 ∧
      IsDropMarked (decryptAll fresh [bad]).2 ∧
      (decryptAll fresh [good, wrong, bad, good]).1 =
        [.ok .valid, .ok .mismatch, .error (.error (.truncated "ESP payload" 22 0)),
          .ok .valid] ∧
      IsDropMarked (decryptAll fresh [good, wrong, bad, good]).2 := by
  obtain ⟨fresh, freshIs⟩ : ∃ fields : FieldSet, fields = .new .standardMetadata := ⟨_, rfl⟩
  obtain ⟨made, madeIs⟩ : ∃ frame : Frame, frame = .protect (.ofBlob [1]) (authKey [2])
    (List.replicate 8 0) (.replicate 8 3) (List.replicate 20 0x45) := ⟨_, rfl⟩
  obtain ⟨good, goodIs⟩ : ∃ call : Call,
    call = ⟨made.toBytes, .new .ipv4, .new .esp, [1], [2], .new _, .new _⟩ := ⟨_, rfl⟩
  obtain ⟨wrong, wrongIs⟩ : ∃ call : Call, call =
    { good with payload := Frame.toBytes { made with icv := made.icv.flipBit 0 } } := ⟨_, rfl⟩
  obtain ⟨bad, badIs⟩ : ∃ call : Call,
    call = ⟨[], .new .ipv4, .new .esp, [], [], .new _, .new _⟩ := ⟨_, rfl⟩
  have narrow : Narrow
      (⟨[("egress_spec", [0, 0, 0]), ("mcast_grp", [1])]⟩ : LooseFields) :=
    LooseFields.narrow_of_forall (by decide)
  have freshOf : FieldSet.Of .standardMetadata fresh := freshIs ▸ .new _
  have freshNarrow : Narrow fresh := freshOf.narrow HeaderLayout.standardMetadata_proper.narrow
  have unmarked : ¬IsDropMarked fresh := by
    rintro ⟨egress, -⟩
    rw [freshIs] at egress
    revert egress
    decide +kernel
  -- A made frame is judged without computing its check value.
  have judged (icv : Octets Icv.size) :
      (decrypt (Frame.toBytes { made with icv }) (FieldSet.new .ipv4) (FieldSet.new .esp) fresh
        [1] [2]).result = .ok (if icv = made.icv then .valid else .mismatch) := by
    rw [madeIs]
    exact result_decrypt_protect [1] [2] _ icv (.new _) freshOf (by decide +kernel) (by decide)
  have valid : (good.decrypt fresh).result = .ok .valid := by
    rw [goodIs]
    exact (judged made.icv).trans (by rw [if_pos rfl])
  have mismatch : (wrong.decrypt fresh).result = .ok .mismatch := by
    have other : made.icv.flipBit 0 ≠ made.icv := fun same =>
      Bytes.flipBit_ne (by rw [made.icv.length_toList]; decide) (congrArg Octets.toList same)
    rw [wrongIs, goodIs]
    exact (judged (made.icv.flipBit 0)).trans (by rw [if_neg other])
  have failed : (bad.decrypt fresh).result =
      .error (.error (.truncated "ESP payload" 22 0)) := by
    rw [badIs, freshIs]
    decide +kernel
  obtain ⟨settled, malformed, marked⟩ := decrypt_marks_all_but_valid
  have kept : Settled good.payload good.ipv4 fresh good.cipherKey (good.decrypt fresh) :=
    settled _ _ _ _ _ _ freshNarrow
  rw [Settled, valid] at kept
  have dropped : Settled wrong.payload wrong.ipv4 fresh wrong.cipherKey (wrong.decrypt fresh) :=
    settled _ _ _ _ _ _ freshNarrow
  rw [Settled, mismatch] at dropped
  have mixed : (decryptAll fresh [good, wrong, bad, good]).1 = [.ok .valid, .ok .mismatch,
      .error (.error (.truncated "ESP payload" 22 0)), .ok .valid] := by
    rw [decryptAll_results _ freshOf freshOf]
    simp only [List.map_cons, List.map_nil, valid, mismatch, failed]
  refine ⟨_, fresh, made, good, wrong, bad, rfl, freshIs, madeIs, goodIs, wrongIs, badIs, narrow,
    settled _ _ _ _ _ _ narrow, settled _ _ _ _ _ _ narrow, valid, kept.1, mismatch, dropped.1,
    failed, malformed _ _ _ _ _ _ bad.ipv4Of bad.espOf freshOf _ failed, ?_, ?_, mixed, ?_⟩
  · rw [marked _ _ freshOf, decryptAll_results _ freshOf freshOf]
    simp only [List.map_cons, List.map_nil, valid]
    rintro (before | ⟨result, member, invalid⟩)
    · exact unmarked before
    · simp only [List.mem_cons, List.not_mem_nil, or_false, or_self] at member
      exact invalid member
  · rw [marked _ _ freshOf, decryptAll_results _ freshOf freshOf]
    exact .inr ⟨_, .head _, fun valid => by cases valid.symm.trans failed⟩
  · rw [marked _ _ freshOf, mixed]
    exact .inr ⟨.ok .mismatch, .tail _ (.head _), by decide⟩

end PacketProtection.Esp

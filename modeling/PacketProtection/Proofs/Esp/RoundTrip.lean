import PacketProtection.Proofs.Esp.Ending

/-!
# A payload through the tunnel and back

Encryption succeeds exactly while the outer packet fits its 16-bit total length,
which is the case up to 65450 bytes of payload (`outerTotal_lt_iff`).  What it
produced then decrypts under the same keys and ESP header into any host with the
fields of an IPv4 header: the payload is restored byte for byte, and the host
holds the inner header as it was before encryption changed its total length
(`decrypt_encrypt`).

*Hosts.*  The hosts of the IPv4 header, on both sides, have to serve its layout, that is,
to take every value that fits it.  A host that can be packed need not do so: a field set
may keep the total length in fewer bits than the header has for it
(`decrypt_encrypt_nine_bits`).

*Endings.*  `Sending` lists the ways in which an encryption can end, with what it
leaves of the packet, the host and the random source.  Every encryption has one of
them (`encrypt_sending`), so the statements about encryption go through its five
cases.
-/

namespace PacketProtection.Esp

open HeaderHost

variable {I J E F M : Type} [HeaderHost I] [HeaderHost J] [HeaderHost E] [HeaderHost F]
  [HeaderHost M]

/-! ## The random source -/

theorem drawIv?_of_le {random : Bytes} (enough : 8 ≤ random.length) :
    ∃ iv, drawIv? random = some (iv, random.drop ivLength) :=
  ⟨_, dif_pos enough⟩

/-- A vector is drawn from its own bytes. -/
theorem drawIv?_toList (iv : Octets ivLength) : drawIv? iv.toList = some (iv, []) := by
  have enough : ivLength ≤ iv.toList.length := Nat.le_of_eq iv.length_toList.symm
  have first : Octets.first ivLength iv.toList enough = iv :=
    Octets.ext (List.take_of_length_le (Nat.le_of_eq iv.length_toList))
  rw [drawIv?, dif_pos enough, first, List.drop_of_length_le (Nat.le_of_eq iv.length_toList)]

/-- The random source gives the vector and keeps the rest. -/
theorem drawIv?_eq_some {random rest : Bytes} {iv : Octets ivLength}
    (drawn : drawIv? random = some (iv, rest)) : random = iv.toList ++ rest := by
  unfold drawIv? at drawn
  split at drawn
  · cases drawn
    exact (List.take_append_drop ivLength random).symm
  · cases drawn

theorem le_of_drawIv?_eq_some {random rest : Bytes} {iv : Octets ivLength}
    (drawn : drawIv? random = some (iv, rest)) : 8 ≤ random.length := by
  rw [drawIv?_eq_some drawn, List.length_append, iv.length_toList]
  exact Nat.le_add_right _ _

theorem drawIv?_eq_none {random : Bytes} : drawIv? random = none ↔ random.length < 8 := by
  unfold drawIv?
  split
  next enough => exact iff_of_false (by simp) (Nat.not_lt.mpr enough)
  next short => exact iff_of_true rfl (Nat.lt_of_not_le short)

/-! ## The total length of the outer packet -/

/-- The total length of the outer packet for a payload of `length` bytes. -/
def outerTotal (length : Nat) : Nat :=
  16 * ((length + 37) / 16) + 48

/-- The largest payload whose outer packet still has a total length. -/
theorem outerTotal_lt_iff (length : Nat) : outerTotal length < 65536 ↔ length ≤ 65450 := by
  rw [outerTotal]
  omega

theorem toNat_ofNatClamp_lt_iff (number : Nat) :
    (UInt64.ofNatClamp number).toNat < 65536 ↔ number < 65536 := by
  rw [UInt64.ofNatClamp]
  split
  next small => rw [UInt64.toNat_ofNatLT]
  next large =>
    rw [UInt64.toNat_ofNatLT]
    have size : UInt64.size = 18446744073709551616 := rfl
    omega

theorem toNat_ofNatClamp_le (number : Nat) : (UInt64.ofNatClamp number).toNat ≤ number := by
  rw [UInt64.ofNatClamp]
  split
  · exact Nat.le_of_eq UInt64.toNat_ofNatLT
  next large =>
    exact Nat.le_trans (Nat.le_of_eq UInt64.toNat_ofNatLT)
      (Nat.le_trans (Nat.sub_le _ _) (Nat.le_of_not_lt large))

/-- The field that holds the total length. -/
theorem totalLen_mem : (⟨"totalLen", 16, 16⟩ : BitField) ∈ HeaderLayout.ipv4.fields := by
  decide

/-! ## Encryption step by step -/

/-- The payload of the outer packet. -/
def wire (cipherKey authKey header inner payload : Bytes) (iv : Octets ivLength) : Bytes :=
  (Frame.protect (.ofBlob cipherKey) (Esp.authKey authKey) header iv (inner ++ payload)).toBytes

theorem length_wire {cipherKey authKey header inner payload : Bytes} {iv : Octets ivLength}
    (innerLength : inner.length = ipv4HeaderLength) :
    (wire cipherKey authKey header inner payload iv).length + outerLength =
      outerTotal payload.length := by
  rw [wire, Frame.length_protect, List.length_append, innerLength, outerLength, outerTotal,
    ipv4HeaderLength, show 20 + payload.length + 17 = payload.length + 37 by omega]

/-- The number stored as the total length of the outer packet. -/
def wireTotal (cipherKey authKey header inner payload : Bytes) (iv : Octets ivLength) : UInt64 :=
  .ofNatClamp ((wire cipherKey authKey header inner payload iv).length + outerLength)

theorem wireTotal_eq {cipherKey authKey header inner payload : Bytes} {iv : Octets ivLength}
    {ipv4 : I} (packs : pack .ipv4 ipv4 = .ok inner) :
    wireTotal cipherKey authKey header inner payload iv =
      .ofNatClamp (outerTotal payload.length) := by
  rw [wireTotal, length_wire ((length_pack packs).trans HeaderLayout.length_ipv4)]

/-- The ways in which an encryption ends. -/
inductive Sending (payload : Bytes) (ipv4 : I) (esp : E) (cipherKey authKey random : Bytes) :
    Encryption I → Prop
  /-- The host has no ESP header to send. -/
  | noHeader {cause : TransformError} {log : Log} : pack .esp esp = .error cause →
      Sending payload ipv4 esp cipherKey authKey random
        ⟨.error (.error cause), payload, ipv4, random, log⟩
  /-- The host has no inner header to protect. -/
  | noInner {header : Bytes} {cause : TransformError} {log : Log} :
      pack .esp esp = .ok header → pack .ipv4 ipv4 = .error cause →
      Sending payload ipv4 esp cipherKey authKey random
        ⟨.error (.error cause), payload, ipv4, random, log⟩
  /-- The random source has no vector left. -/
  | noVector {header inner : Bytes} {log : Log} :
      pack .esp esp = .ok header → pack .ipv4 ipv4 = .ok inner → drawIv? random = none →
      Sending payload ipv4 esp cipherKey authKey random
        ⟨.error (.error (.crypto "IV generation")), payload, ipv4, random, log⟩
  /-- The host does not take the total length of the outer packet. -/
  | refused {header inner rest : Bytes} {iv : Octets ivLength} {fault : Fault} {log : Log} :
      pack .esp esp = .ok header → pack .ipv4 ipv4 = .ok inner →
      drawIv? random = some (iv, rest) →
      setUint ipv4 "totalLen" (wireTotal cipherKey authKey header inner payload iv) =
        .error fault →
      Sending payload ipv4 esp cipherKey authKey random
        ⟨.error fault, payload, ipv4, rest, log⟩
  /-- The protected datagram takes the payload's place. -/
  | sent {header inner rest : Bytes} {iv : Octets ivLength} {outer : I} {log : Log} :
      pack .esp esp = .ok header → pack .ipv4 ipv4 = .ok inner →
      drawIv? random = some (iv, rest) →
      setUint ipv4 "totalLen" (wireTotal cipherKey authKey header inner payload iv) =
        .ok outer →
      Sending payload ipv4 esp cipherKey authKey random
        ⟨.ok (), wire cipherKey authKey header inner payload iv, outer, rest, log⟩

/-- A completed datagram passes the check of its length. -/
theorem requireBlocks_appendTrailer (datagram : Bytes) :
    requireBlocks (appendTrailer datagram).length = .ok () := by
  apply TransformError.requireLength_of_eq
  rw [length_appendTrailer]
  omega

/-- Every encryption has one of the endings: a host that could be packed gives its
index again, so nothing fails after the total length is stored. -/
theorem encrypt_sending (payload : Bytes) (ipv4 : I) (esp : E)
    (cipherKey authKey random : Bytes) :
    Sending payload ipv4 esp cipherKey authKey random
      (encrypt payload ipv4 esp cipherKey authKey random) := by
  unfold encrypt
  rw [headerBytes_eq, ipv4Bytes_eq]
  cases espPacks : pack .esp esp with
  | error cause => exact .noHeader espPacks
  | ok header =>
      cases ipv4Packs : pack .ipv4 ipv4 with
      | error cause => exact .noInner espPacks ipv4Packs
      | ok inner =>
          simp only [requireBlocks_appendTrailer]
          cases drawn : drawIv? random with
          | none => exact .noVector espPacks ipv4Packs drawn
          | some found =>
              obtain ⟨iv, rest⟩ := found
              obtain ⟨spi, spiRead⟩ := exists_spi espPacks
              simp only [spiRead]
              cases stored : setUint ipv4 "totalLen"
                  (wireTotal cipherKey authKey header inner payload iv) with
              | error fault =>
                  rw [wireTotal, wire] at stored
                  simp only [stored]
                  exact .refused espPacks ipv4Packs drawn stored
              | ok outer =>
                  rw [wireTotal, wire] at stored
                  simp only [stored]
                  exact .sent espPacks ipv4Packs drawn stored

section Steps

variable {payload cipherKey authKey random header inner rest : Bytes} {ipv4 : I} {esp : E}
  {iv : Octets ivLength}

/-- Once a vector is drawn, only the host of the IPv4 header decides. -/
theorem Sending.of_drawn {sent : Encryption I}
    (ending : Sending payload ipv4 esp cipherKey authKey random sent)
    (espPacks : pack .esp esp = .ok header) (ipv4Packs : pack .ipv4 ipv4 = .ok inner)
    (drawn : drawIv? random = some (iv, rest)) :
    sent.random = rest ∧
      match setUint ipv4 "totalLen" (wireTotal cipherKey authKey header inner payload iv) with
      | .error fault => sent.result = .error fault ∧ sent.packet = payload ∧ sent.ipv4 = ipv4
      | .ok outer =>
          sent.result = .ok () ∧
            sent.packet = wire cipherKey authKey header inner payload iv ∧ sent.ipv4 = outer := by
  cases ending with
  | noHeader missing => cases missing.symm.trans espPacks
  | noInner _ missing => cases missing.symm.trans ipv4Packs
  | noVector _ _ empty => cases empty.symm.trans drawn
  | refused espFound ipv4Found vector stuck =>
      cases espFound.symm.trans espPacks
      cases ipv4Found.symm.trans ipv4Packs
      cases vector.symm.trans drawn
      rw [stuck]
      exact ⟨rfl, rfl, rfl, rfl⟩
  | sent espFound ipv4Found vector done =>
      cases espFound.symm.trans espPacks
      cases ipv4Found.symm.trans ipv4Packs
      cases vector.symm.trans drawn
      rw [done]
      exact ⟨rfl, rfl, rfl, rfl⟩

theorem encrypt_of_stored {outer : I} (espPacks : pack .esp esp = .ok header)
    (ipv4Packs : pack .ipv4 ipv4 = .ok inner) (drawn : drawIv? random = some (iv, rest))
    (stored : setUint ipv4 "totalLen" (UInt64.ofNatClamp
      ((wire cipherKey authKey header inner payload iv).length + outerLength)) = .ok outer) :
    let sent := encrypt payload ipv4 esp cipherKey authKey random
    sent.result = .ok () ∧ sent.packet = wire cipherKey authKey header inner payload iv ∧
      sent.ipv4 = outer ∧ sent.random = rest := by
  obtain ⟨left, ends⟩ :=
    (encrypt_sending payload ipv4 esp cipherKey authKey random).of_drawn espPacks ipv4Packs drawn
  rw [wireTotal, stored] at ends
  exact ⟨ends.1, ends.2.1, ends.2.2, left⟩

theorem encrypt_of_refused {fault : Fault} (espPacks : pack .esp esp = .ok header)
    (ipv4Packs : pack .ipv4 ipv4 = .ok inner) (drawn : drawIv? random = some (iv, rest))
    (refused : setUint ipv4 "totalLen" (UInt64.ofNatClamp
      ((wire cipherKey authKey header inner payload iv).length + outerLength)) = .error fault) :
    let sent := encrypt payload ipv4 esp cipherKey authKey random
    sent.result = .error fault ∧ sent.packet = payload ∧ sent.ipv4 = ipv4 ∧
      sent.random = rest := by
  obtain ⟨left, ends⟩ :=
    (encrypt_sending payload ipv4 esp cipherKey authKey random).of_drawn espPacks ipv4Packs drawn
  rw [wireTotal, refused] at ends
  exact ⟨ends.1, ends.2.1, ends.2.2, left⟩

end Steps

/-! ## Decryption of what was encrypted -/

/-- An authentic payload whose datagram the host takes is decrypted. -/
theorem decrypt_of_authentic {payload cipherKey authKey header inner : Bytes} {target next : J}
    {esp : F} (metadata : M) (espPacks : pack .esp esp = .ok header)
    (authentic : Authentic (Esp.authKey authKey) header payload)
    (decoded : decode (.ofBlob cipherKey) payload = .ok inner)
    (stored : unpack .ipv4 inner target = (.ok (), next)) :
    ∃ log, decrypt payload target esp metadata cipherKey authKey =
      ⟨.ok .valid, inner.drop ipv4HeaderLength, next, metadata, log⟩ := by
  obtain ⟨verdict, after, log, judged, ends⟩ :=
    decrypt_of_decoded metadata espPacks decoded stored fun wrong => absurd authentic wrong
  cases judged with
  | valid _ => exact ⟨log, ends⟩
  | mismatch wrong _ => exact absurd authentic wrong

/-- An authentic payload whose datagram the host refuses is left alone. -/
theorem decrypt_of_refused [LawfulHost J] {payload cipherKey authKey header inner : Bytes}
    {target next : J} {esp : F} {cause : TransformError} (metadata : M)
    (espPacks : pack .esp esp = .ok header)
    (authentic : Authentic (Esp.authKey authKey) header payload)
    (decoded : decode (.ofBlob cipherKey) payload = .ok inner)
    (refused : unpack .ipv4 inner target = (.error cause, next)) :
    ∃ log, decrypt payload target esp metadata cipherKey authKey =
      ⟨.error (.error cause), payload, next, metadata, log⟩ := by
  obtain ⟨-, -, -, -, enough⟩ := decode_eq_ok.mp decoded
  have sound : cause.isMalformed = false :=
    unpack_error (le_of_eq_of_le HeaderLayout.length_ipv4 enough) refused
  have ending := attempt_ending payload target esp metadata cipherKey authKey
  generalize same : attempt payload target esp metadata cipherKey authKey = attempted at ending
  cases ending with
  | noHeader missing => cases missing.symm.trans espPacks
  | unmarked found wrong _ =>
      cases found.symm.trans espPacks
      exact absurd authentic wrong
  | undecodable _ fault _ => cases fault.symm.trans decoded
  | refused found read judged stuck =>
      cases found.symm.trans espPacks
      cases read.symm.trans decoded
      cases stuck.symm.trans refused
      cases judged with
      | mismatch wrong _ => exact absurd authentic wrong
      | valid _ =>
          refine ⟨_, (decrypt_of_not_malformed fun reason failed => ?_).trans same⟩
          rw [same] at failed
          cases failed
          exact sound
  | delivered _ read _ taken =>
      cases read.symm.trans decoded
      cases taken.symm.trans refused

theorem authentic_wire (cipherKey authKey header inner payload : Bytes) (iv : Octets ivLength) :
    Authentic (Esp.authKey authKey) header (wire cipherKey authKey header inner payload iv) :=
  (authentic_protect_iff (.ofBlob cipherKey) _ header iv _).mpr rfl

theorem decode_wire {cipherKey authKey header inner payload : Bytes} {iv : Octets ivLength}
    (innerLength : inner.length = ipv4HeaderLength) :
    decode (.ofBlob cipherKey) (wire cipherKey authKey header inner payload iv) =
      .ok (inner ++ payload) := by
  have room : ipv4HeaderLength ≤ (inner ++ payload).length := by
    rw [List.length_append]
    omega
  exact decode_protect _ (Esp.authKey authKey) header iv _ room

/-! ## Round trip -/

/-- **A payload goes through the tunnel exactly up to 65450 bytes, and comes back
as it was.**  The host that decryption stores the inner header in may have held
anything before.  Loose fields and the field sets of the layout serve it
(`LooseFields.serves`, `FieldSet.serves`). -/
theorem decrypt_encrypt [LawfulHost J] (cipherKey authKey payload random : Bytes) {esp : E}
    {esp' : F} {ipv4 : I} {target : J} (metadata : M) {header inner : Bytes}
    (espPacks : pack .esp esp = .ok header) (sameHeader : pack .esp esp' = .ok header)
    (serves : Serves .ipv4 ipv4) (ipv4Packs : pack .ipv4 ipv4 = .ok inner)
    (enough : 8 ≤ random.length)
    (targetServes : Serves .ipv4 target) (targetHas : Has .ipv4 target) :
    let sent := encrypt payload ipv4 esp cipherKey authKey random
    let received := decrypt sent.packet target esp' metadata cipherKey authKey
    (sent.result = .ok () ↔ payload.length ≤ 65450) ∧
    (65450 < payload.length →
      sent.result = .error (.error (.fieldOverflow "totalLen" 16))) ∧
    (sent.result = .ok () →
      received.result = .ok .valid ∧ received.packet = payload ∧
      received.metadata = metadata ∧
      ∀ f ∈ HeaderLayout.ipv4.fields, get received.ipv4 f.name = get ipv4 f.name) := by
  have innerLength : inner.length = ipv4HeaderLength :=
    (length_pack ipv4Packs).trans HeaderLayout.length_ipv4
  obtain ⟨iv, drawn⟩ := drawIv?_of_le enough
  have total : (wire cipherKey authKey header inner payload iv).length + outerLength =
      outerTotal payload.length := length_wire innerLength
  have fits : (UInt64.ofNatClamp
      ((wire cipherKey authKey header inner payload iv).length + outerLength)).toNat < 65536 ↔
        payload.length ≤ 65450 := by
    rw [toNat_ofNatClamp_lt_iff, total, outerTotal_lt_iff]
  intro sent received
  by_cases small : payload.length ≤ 65450
  · obtain ⟨outer, stored⟩ :=
      setUint_of_pack HeaderLayout.ipv4_proper serves ipv4Packs totalLen_mem (fits.mpr small)
    obtain ⟨succeeds, carried, -, -⟩ := encrypt_of_stored espPacks ipv4Packs drawn stored
    have room : HeaderLayout.ipv4.length ≤ (inner ++ payload).length := by
      rw [List.length_append, length_pack ipv4Packs]
      exact Nat.le_add_right _ _
    obtain ⟨next, unpacked⟩ := unpack_of_serves targetServes targetHas room
    obtain ⟨log, undone⟩ := decrypt_of_authentic metadata sameHeader
      (authentic_wire cipherKey authKey header inner payload iv) (decode_wire innerLength)
      unpacked
    have back : received = ⟨.ok .valid, (inner ++ payload).drop ipv4HeaderLength, next, metadata,
        log⟩ := by
      show decrypt sent.packet target esp' metadata cipherKey authKey = _
      rw [show sent.packet = wire cipherKey authKey header inner payload iv from carried]
      exact undone
    refine ⟨iff_of_true succeeds small, fun large => absurd small (Nat.not_le.mpr large),
      fun _ => ?_⟩
    rw [back]
    refine ⟨rfl, List.drop_left' innerLength, rfl, fun f member => ?_⟩
    exact get_unpack_pack HeaderLayout.ipv4_proper ipv4Packs unpacked member
  · have large : 256 ^ 2 ≤ (UInt64.ofNatClamp
        ((wire cipherKey authKey header inner payload iv).length + outerLength)).toNat :=
      Nat.le_of_not_lt fun below => small (fits.mp below)
    obtain ⟨fails, -, -, -⟩ := encrypt_of_refused espPacks ipv4Packs drawn
      (setUint_overflow_of_pack HeaderLayout.ipv4_proper ipv4Packs totalLen_mem large)
    have stuck : sent.result ≠ .ok () := fun succeeds => by cases fails.symm.trans succeeds
    exact ⟨iff_of_false stuck small, fun _ => fails, fun succeeds => absurd succeeds stuck⟩

/-- The largest payload, into fields of other widths than a header's. -/
theorem decrypt_encrypt_largest :
    ∃ (target : LooseFields) (sent : Encryption FieldSet)
      (received : Decryption LooseFields FieldSet),
      target = ⟨HeaderLayout.ipv4.fields.map fun f => (f.name, [0xff, 0xff, 0xff])⟩ ∧
      sent = encrypt (List.replicate 65450 0x2a) (FieldSet.new .ipv4) (FieldSet.new .esp) [1] [2]
        (List.replicate 8 9) ∧
      received = decrypt sent.packet target (FieldSet.new .esp)
        (FieldSet.new .standardMetadata) [1] [2] ∧
      pack .esp (FieldSet.new .esp) = .ok (List.replicate 8 0) ∧
      Serves .ipv4 (FieldSet.new .ipv4) ∧
      pack .ipv4 (FieldSet.new .ipv4) = .ok (List.replicate 20 0) ∧
      Serves .ipv4 target ∧ Has .ipv4 target ∧
      sent.result = .ok () ∧ received.result = .ok .valid ∧
      received.packet = List.replicate 65450 0x2a ∧
      get received.ipv4 "totalLen" = .ok [0, 0] := by
  -- The payload stays a name, so that nothing here is computed byte by byte.
  generalize plain : List.replicate 65450 (0x2a : UInt8) = payload
  have espPacks : pack .esp (FieldSet.new .esp) = .ok (List.replicate 8 0) := by
    decide +kernel
  have serves : Serves .ipv4 (FieldSet.new .ipv4) :=
    FieldSet.serves rfl HeaderLayout.ipv4_proper.names_nodup
  have ipv4Packs : pack .ipv4 (FieldSet.new .ipv4) = .ok (List.replicate 20 0) := by
    decide +kernel
  refine ⟨_, _, _, rfl, rfl, rfl, espPacks, serves, ipv4Packs, LooseFields.serves _ _, ?_⟩
  generalize loose : (⟨HeaderLayout.ipv4.fields.map fun f => (f.name, [0xff, 0xff, 0xff])⟩ :
    LooseFields) = target
  have targetHas : Has .ipv4 target := LooseFields.has_iff.mpr (by rw [← loose]; decide +kernel)
  obtain ⟨boundary, -, back⟩ := decrypt_encrypt [1] [2] payload (List.replicate 8 9)
    (FieldSet.new .standardMetadata) espPacks espPacks serves ipv4Packs (by decide)
    (LooseFields.serves _ target) targetHas
  have succeeds := boundary.mpr (Nat.le_of_eq (by rw [← plain, List.length_replicate]))
  obtain ⟨valid, restored, -, fields⟩ := back succeeds
  have total : get (FieldSet.new .ipv4) "totalLen" = .ok [0, 0] := by decide +kernel
  exact ⟨targetHas, succeeds, valid, restored, (fields _ totalLen_mem).trans total⟩

/-- Hosts have to serve the layout.  A field set with nine bits for the total length
packs and has all fields of an IPv4 header, but it takes neither 576, the total length
of 500 bytes of payload, nor an inner header whose total length is 512. -/
theorem decrypt_encrypt_nine_bits :
    ∃ (narrow : FieldSet) (loose : LooseFields) (refused : Encryption FieldSet)
      (sent : Encryption LooseFields) (received : Decryption FieldSet FieldSet),
      narrow = FieldSet.new ⟨"ipv4", HeaderLayout.ipv4.fields.map fun f =>
        if f.name = "totalLen" then { f with width := 9 } else f⟩ ∧
      loose = ⟨HeaderLayout.ipv4.fields.map fun f =>
        (f.name, if f.name = "totalLen" then [2, 0] else List.replicate f.byteWidth 0)⟩ ∧
      refused = encrypt (List.replicate 500 7) narrow (FieldSet.new .esp) [1] [2]
        (List.replicate 8 3) ∧
      sent = encrypt (List.replicate 500 7) loose (FieldSet.new .esp) [1] [2]
        (List.replicate 8 3) ∧
      received = decrypt sent.packet narrow (FieldSet.new .esp)
        (FieldSet.new .standardMetadata) [1] [2] ∧
      pack .esp (FieldSet.new .esp) = .ok (List.replicate 8 0) ∧
      pack .ipv4 narrow = .ok (List.replicate 20 0) ∧ Has .ipv4 narrow ∧
      pack .ipv4 loose = .ok ([0, 0, 2, 0] ++ List.replicate 16 0) ∧
      refused.result = .error (.error (.fieldOverflow "totalLen" 9)) ∧
      sent.result = .ok () ∧
      received.result = .error (.error (.fieldOverflow "totalLen" 9)) := by
  refine ⟨_, _, _, _, _, rfl, rfl, rfl, rfl, rfl, ?_⟩
  generalize plain : List.replicate 500 (7 : UInt8) = payload
  have length : payload.length = 500 := by rw [← plain, List.length_replicate]
  generalize nine : FieldSet.new ⟨"ipv4", HeaderLayout.ipv4.fields.map fun f =>
    if f.name = "totalLen" then { f with width := 9 } else f⟩ = narrow
  generalize values : (⟨HeaderLayout.ipv4.fields.map fun f =>
    (f.name, if f.name = "totalLen" then [2, 0] else List.replicate f.byteWidth 0)⟩ :
      LooseFields) = loose
  have espPacks : pack .esp (FieldSet.new .esp) = .ok (List.replicate 8 0) := by
    decide +kernel
  have narrowPacks : pack .ipv4 narrow = .ok (List.replicate 20 0) := by
    rw [← nine]
    decide +kernel
  have narrowHas : Has .ipv4 narrow := fun f member =>
    ⟨_, (get_of_pack HeaderLayout.ipv4_proper narrowPacks member).1⟩
  have loosePacks : pack .ipv4 loose = .ok ([0, 0, 2, 0] ++ List.replicate 16 0) := by
    rw [← values]
    decide +kernel
  obtain ⟨iv, drawn⟩ : ∃ iv, drawIv? (List.replicate 8 3) = some (iv, []) :=
    drawIv?_of_le (by decide)
  have tooLarge : setUint narrow "totalLen" (.ofNatClamp (outerTotal payload.length)) =
      .error (.error (.fieldOverflow "totalLen" 9)) := by
    rw [length, ← nine]
    decide +kernel
  rw [← wireTotal_eq narrowPacks] at tooLarge
  obtain ⟨refuses, -⟩ := encrypt_of_refused espPacks narrowPacks drawn tooLarge
  have fits : (UInt64.ofNatClamp (outerTotal payload.length)).toNat < 2 ^ 16 := by
    rw [length]
    decide
  obtain ⟨outer, stored⟩ := setUint_of_pack HeaderLayout.ipv4_proper
    (LooseFields.serves _ loose) loosePacks totalLen_mem fits
  rw [← wireTotal_eq loosePacks] at stored
  obtain ⟨succeeds, carried, -⟩ := encrypt_of_stored espPacks loosePacks drawn stored
  have stuck : (unpack .ipv4 ([0, 0, 2, 0] ++ List.replicate 16 0 ++ payload) narrow).1 =
      .error (.fieldOverflow "totalLen" 9) := by
    rw [← plain, ← nine]
    decide +kernel
  obtain ⟨log, undone⟩ := decrypt_of_refused (FieldSet.new .standardMetadata) espPacks
    (authentic_wire [1] [2] _ _ payload iv) (decode_wire rfl)
    (Prod.ext stuck rfl)
  rw [carried, undone]
  exact ⟨espPacks, narrowPacks, narrowHas, loosePacks, refuses, succeeds, rfl⟩

end PacketProtection.Esp

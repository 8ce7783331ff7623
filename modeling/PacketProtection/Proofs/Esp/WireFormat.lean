import Mathlib.Order.Bounds.Basic
import PacketProtection.Proofs.Esp.RoundTrip

/-!
# The payload of an ESP packet, byte by byte

Two implementations understand each other only if they agree on every byte.  The
format is stated here without the transform: a keystream that counts its blocks
from one (`blockStream`), the least padding that fills whole blocks, and a check
value over ESP header, vector and ciphertext (`WireFormat`).

*Padding.*  A datagram is completed to the least length that whole blocks and the trailer
ask for, and what it was completed with is removed again (`isLeast_length_appendTrailer`,
`stripTrailer_appendTrailer`).

*Frames.*  The frame that protects a datagram has this format
(`Frame.wireFormat_protect`).  Its counter blocks are the nonce, the vector and
the number of the block (`advance_counterBlock`).

*Encryption.*  A successful encryption took its vector from the random source,
puts a payload of this format in the packet's place and stores the total length
of the outer packet, and nothing else, in the host of the IPv4 header
(`encrypt_wireFormat`).
-/

namespace PacketProtection.Esp

open HeaderHost

/-! ## The format -/

/-- The keystream of a frame: the cipher of nonce, vector and block number, with
blocks numbered from one. -/
def blockStream (key : Octets 16) (nonce : Octets 4) (iv : Octets ivLength) (count : Nat) :
    Bytes :=
  (List.range' 1 count).flatMap fun i => (Aes.cipher key (nonce ++ iv ++ Octets.ofNat 4 i)).toList

/-- A datagram with padding and trailer. -/
def padded (datagram : Bytes) (pad : Nat) : Bytes :=
  datagram ++ List.replicate pad 0 ++ [UInt8.ofNat pad, 4]

/-- A payload that carries a datagram as the format prescribes it. -/
structure WireFormat (key : Octets 16) (nonce : Octets 4) (authKey : Octets authKeySize)
    (header : Bytes) (iv : Octets ivLength) (datagram : Bytes) (pad : Nat) (ciphertext payload : Bytes) : Prop where
  pad_least : IsLeast {p | 16 ∣ datagram.length + p + 2} pad
  ciphertext_eq : ciphertext =
    (padded datagram pad).xor (blockStream key nonce iv ((padded datagram pad).length / 16))
  payload_eq : payload = iv.toList ++ ciphertext ++
    (Hmac.md5 authKey.toList (header ++ iv.toList ++ ciphertext)).toList.take 12

/-! ## Frames -/

theorem isLeast_padLength (length : Nat) :
    IsLeast {p | 16 ∣ length + p + 2} (padLength length) := by
  obtain ⟨small, whole⟩ := padLength_spec length
  constructor
  · exact Nat.dvd_of_mod_eq_zero whole
  · intro other fills
    have multiple : 16 ∣ length + other + 2 := fills
    omega

/-- A completed datagram has the least length that fills whole blocks with a trailer in
them. -/
theorem isLeast_length_appendTrailer (datagram : Bytes) :
    IsLeast {total | 16 ∣ total ∧ datagram.length + 2 ≤ total}
      (appendTrailer datagram).length := by
  rw [length_appendTrailer]
  constructor
  · exact ⟨Nat.dvd_mul_right 16 _, by omega⟩
  · rintro total ⟨⟨blocks, rfl⟩, room⟩
    omega

/-- **Padding is least, aligned and reversible.**  A datagram is completed with at most
fifteen zeros, their number, and the protocol, to the least multiple of sixteen that has
room for a trailer.  The encryption's check for whole blocks never refuses the outcome, and
removing the trailer gives the datagram and the protocol back, whatever the datagram ends
in. -/
theorem appendTrailer_exact (datagram : Bytes) :
    ∃ zeros ≤ 15,
      appendTrailer datagram = datagram ++ List.replicate zeros 0 ++ [UInt8.ofNat zeros, 4] ∧
      IsLeast {total | 16 ∣ total ∧ datagram.length + 2 ≤ total}
        (appendTrailer datagram).length ∧
      requireBlocks (appendTrailer datagram).length = .ok () ∧
      stripTrailer (appendTrailer datagram) = .ok (datagram, 4) := by
  obtain ⟨small, -⟩ := padLength_spec datagram.length
  exact ⟨padLength datagram.length, Nat.le_of_lt_succ small, rfl,
    isLeast_length_appendTrailer datagram, requireBlocks_appendTrailer datagram,
    stripTrailer_appendTrailer datagram⟩

/-- A datagram that is itself completed keeps its own trailer. -/
example : stripTrailer (appendTrailer (appendTrailer [0, 0, 2, 4])) =
    .ok (appendTrailer [0, 0, 2, 4], 4) := by decide

/-- A counter block ends in the number of the block. -/
theorem advance_counterBlock (nonce : Octets 4) (iv : Octets ivLength) (steps : Nat) :
    Counter.advance (counterBlock nonce iv) steps = nonce ++ iv ++ Octets.ofNat 4 (1 + steps) := by
  have front : (nonce.toList ++ iv.toList).length = 12 := by
    rw [List.length_append, Octets.length_toList, Octets.length_toList]
    rfl
  apply Octets.ext
  show ((nonce.toList ++ iv.toList) ++ Bytes.ofNat 4 1).take 12 ++
      Bytes.ofNat 4
        (Bytes.toNat (((nonce.toList ++ iv.toList) ++ Bytes.ofNat 4 1).drop 12) + steps) =
    (nonce.toList ++ iv.toList) ++ Bytes.ofNat 4 (1 + steps)
  rw [List.take_left' front, List.drop_left' front, Bytes.toNat_ofNat_of_lt (by decide)]

theorem keystream_counterBlock (key : Octets 16) (nonce : Octets 4) (iv : Octets ivLength)
    (count : Nat) :
    Counter.keystream (Aes.cipher key) (counterBlock nonce iv) count =
      blockStream key nonce iv count := by
  rw [Counter.keystream, blockStream, List.range'_eq_map_range, List.flatMap_map]
  simp only [advance_counterBlock]

theorem blockCount_padded {datagram : Bytes} {pad : Nat}
    (fills : 16 ∣ datagram.length + pad + 2) :
    Counter.blockCount (padded datagram pad).length = (padded datagram pad).length / 16 := by
  have length : (padded datagram pad).length = datagram.length + pad + 2 := by
    rw [padded, List.length_append, List.length_append, List.length_replicate]
    rfl
  rw [Counter.blockCount, length]
  omega

/-- The frame that protects a datagram has the format. -/
theorem Frame.wireFormat_protect (cipherKey : CipherKey) (authKey : Octets authKeySize)
    (header : Bytes) (iv : Octets ivLength) (datagram : Bytes) :
    let frame := Frame.protect cipherKey authKey header iv datagram
    WireFormat cipherKey.key cipherKey.nonce authKey header iv datagram
      (padLength datagram.length) frame.ciphertext frame.toBytes where
  pad_least := isLeast_padLength datagram.length
  ciphertext_eq := by
    show Counter.apply _ (counterBlock cipherKey.nonce iv)
      (padded datagram (padLength datagram.length)) = _
    rw [Counter.apply, keystream_counterBlock,
      blockCount_padded (isLeast_padLength datagram.length).1]
  payload_eq := by
    have right := Frame.isAuthentic_iff.mp
      (Frame.isAuthentic_protect cipherKey authKey header iv datagram)
    rw [Frame.toBytes, right]
    rfl

/-! ## Encryption -/

variable {I E : Type} [HeaderHost I] [HeaderHost E]

/-- What a successful encryption did. -/
theorem encrypt_eq_ok {packet cipherKey authKey random : Bytes} {ipv4 : I} {esp : E}
    (succeeds : (encrypt packet ipv4 esp cipherKey authKey random).result = .ok ()) :
    ∃ header inner iv,
      let sent := encrypt packet ipv4 esp cipherKey authKey random
      pack .esp esp = .ok header ∧ pack .ipv4 ipv4 = .ok inner ∧
      drawIv? random = some (iv, sent.random) ∧
      sent.packet = wire cipherKey authKey header inner packet iv ∧
      setUint ipv4 "totalLen" (UInt64.ofNatClamp (sent.packet.length + outerLength)) =
        .ok sent.ipv4 := by
  have ending := encrypt_sending packet ipv4 esp cipherKey authKey random
  generalize encrypt packet ipv4 esp cipherKey authKey random = sent at ending succeeds ⊢
  cases ending with
  | noHeader _ => cases succeeds
  | noInner _ _ => cases succeeds
  | noVector _ _ _ => cases succeeds
  | refused _ _ _ _ => cases succeeds
  | sent espPacks ipv4Packs drawn stored =>
      exact ⟨_, _, _, espPacks, ipv4Packs, drawn, rfl, stored⟩

/-- The total length is stored as it is, in two bytes. -/
theorem set_of_setUint_totalLen {ipv4 outer : I} {inner : Bytes} {total : Nat}
    (packs : pack .ipv4 ipv4 = .ok inner)
    (stored : setUint ipv4 "totalLen" (UInt64.ofNatClamp total) = .ok outer) :
    total < 65536 ∧ set ipv4 "totalLen" (Bytes.ofNat 2 total) = .ok outer := by
  obtain ⟨current, present, fits, done⟩ := setUint_eq_ok stored
  obtain ⟨read, -⟩ := get_of_pack HeaderLayout.ipv4_proper packs totalLen_mem
  have width : current.length = 2 := by
    cases present.symm.trans read
    exact BitField.length_read _ _
  rw [width] at fits done
  have small : total < 65536 := (toNat_ofNatClamp_lt_iff total).mp fits
  have exact_total : (UInt64.ofNatClamp total).toNat = total :=
    UInt64.toNat_ofNatClamp_of_lt (Nat.lt_trans small (by decide))
  rw [exact_total] at done
  exact ⟨small, done⟩

theorem wireFormat_wire (cipherKey authKey header inner payload : Bytes) (iv : Octets ivLength) :
    ∃ pad ciphertext,
      WireFormat (CipherKey.ofBlob cipherKey).key (CipherKey.ofBlob cipherKey).nonce
        (Esp.authKey authKey) header iv (inner ++ payload) pad ciphertext
        (wire cipherKey authKey header inner payload iv) :=
  ⟨_, _, Frame.wireFormat_protect _ _ _ _ _⟩

/-- The vector and the check value take twenty bytes, and between them are as many
blocks as it takes to cover the inner header, the payload and the trailer. -/
theorem length_wire_eq {cipherKey authKey header inner payload : Bytes} {iv : Octets ivLength}
    (innerLength : inner.length = ipv4HeaderLength) :
    (wire cipherKey authKey header inner payload iv).length =
      20 + 16 * ((payload.length + 22 + 15) / 16) := by
  have total := @length_wire cipherKey authKey header inner payload iv innerLength
  rw [outerTotal, outerLength] at total
  omega

/-- **A successful encryption puts the prescribed payload in the packet's place**,
whatever the hosts are, and stores the total length of the outer packet.  On a
lawful host that field is the only one that changes. -/
theorem encrypt_wireFormat {packet cipherKey authKey random : Bytes} {ipv4 : I} {esp : E}
    {sent : Encryption I} (encrypts : encrypt packet ipv4 esp cipherKey authKey random = sent)
    (succeeds : sent.result = .ok ()) :
    ∃ (header inner : Bytes) (iv : Octets ivLength) (key : Octets 16) (nonce : Octets 4) (pad : Nat)
        (ciphertext : Bytes),
      pack .esp esp = .ok header ∧ pack .ipv4 ipv4 = .ok inner ∧
      random = iv.toList ++ sent.random ∧
      (normalize 20 cipherKey).toList = key.toList ++ nonce.toList ∧
      WireFormat key nonce (normalize 16 authKey) header iv (inner ++ packet) pad ciphertext
        sent.packet ∧
      sent.packet.length = 20 + 16 * ((packet.length + 22 + 15) / 16) ∧
      sent.packet.length + 28 < 65536 ∧
      set ipv4 "totalLen" (Bytes.ofNat 2 (sent.packet.length + 28)) = .ok sent.ipv4 ∧
      ∀ [LawfulHost I],
        (∃ total, getUint sent.ipv4 "totalLen" = .ok total ∧
          total.toNat = sent.packet.length + 28) ∧
        ∀ name ≠ "totalLen", get sent.ipv4 name = get ipv4 name := by
  subst encrypts
  obtain ⟨header, inner, iv, espPacks, ipv4Packs, drawn, packet_eq, stored⟩ :=
    encrypt_eq_ok succeeds
  obtain ⟨small, done⟩ := set_of_setUint_totalLen ipv4Packs stored
  have innerLength : inner.length = ipv4HeaderLength :=
    (length_pack ipv4Packs).trans HeaderLayout.length_ipv4
  obtain ⟨pad, ciphertext, format⟩ := wireFormat_wire cipherKey authKey header inner packet iv
  rw [← packet_eq] at format
  refine ⟨header, inner, iv, _, _, pad, ciphertext, espPacks, ipv4Packs, drawIv?_eq_some drawn,
    (List.take_append_drop 16 _).symm, format, ?_, small, done, ?_⟩
  · rw [packet_eq]
    exact length_wire_eq innerLength
  · intro lawful
    refine ⟨⟨_, getUint_setUint stored, ?_⟩, fun name other => get_setUint_of_ne stored other⟩
    exact UInt64.toNat_ofNatClamp_of_lt (Nat.lt_trans small (by decide))

/-- Three bytes of payload take seven bytes of padding and two blocks. -/
theorem encrypt_wireFormat_three_bytes :
    ∃ (sent : Encryption FieldSet) (header inner : Bytes) (iv : Octets ivLength) (key : Octets 16)
        (nonce : Octets 4) (pad : Nat) (ciphertext : Bytes),
      encrypt [1, 2, 3] (FieldSet.new .ipv4) (FieldSet.new .esp) [1] [2] (List.replicate 8 9) =
        sent ∧
      sent.result = .ok () ∧ pack .esp (FieldSet.new .esp) = .ok header ∧
      pack .ipv4 (FieldSet.new .ipv4) = .ok inner ∧
      WireFormat key nonce (normalize 16 [2]) header iv (inner ++ [1, 2, 3]) pad ciphertext
        sent.packet ∧
      iv = .replicate 8 9 ∧ pad = 7 ∧ sent.packet.length = 52 ∧
      getUint sent.ipv4 "totalLen" = .ok 80 ∧
      get sent.ipv4 "ttl" = get (FieldSet.new .ipv4) "ttl" := by
  generalize encrypts : encrypt [1, 2, 3] (FieldSet.new .ipv4) (FieldSet.new .esp) [1] [2]
    (List.replicate 8 9) = sent
  have succeeds : sent.result = .ok () := by
    subst encrypts
    decide +kernel
  obtain ⟨header, inner, iv, key, nonce, pad, ciphertext, espPacks, ipv4Packs, source, -, format,
    length, -, -, host⟩ := encrypt_wireFormat encrypts succeeds
  obtain ⟨⟨total, stored, total_eq⟩, others⟩ := host
  have innerLength : inner.length = 20 := (length_pack ipv4Packs).trans HeaderLayout.length_ipv4
  have drawn : iv = .replicate 8 9 := by
    apply Octets.ext
    have front := congrArg (List.take ivLength) source
    rw [List.take_left' iv.length_toList] at front
    exact front.symm
  have least : pad = 7 := by
    rw [format.pad_least.unique (isLeast_padLength _), List.length_append, innerLength]
    rfl
  have whole : sent.packet.length = 52 := length.trans (by decide)
  have value : total = 80 := by
    rw [whole] at total_eq
    exact UInt64.toNat_inj.mp total_eq
  exact ⟨sent, header, inner, iv, key, nonce, pad, ciphertext, rfl, succeeds, espPacks, ipv4Packs,
    format, drawn, least, whole, value ▸ stored, others "ttl" (by decide)⟩

end PacketProtection.Esp

import PacketProtection.Proofs.Esp.WireFormat

/-!
# Vectors and counter blocks over a run

Counter mode gives no secrecy once a counter block is used a second time under a
key.  A pipeline may mix encryptions, decryptions, changes of keys, of packets and
of header fields in any order, and encryptions may fail before or after their
vector is drawn.

*Draws.*  A *draw* is an encryption that gets as far as its vector
(`Pipeline.draw?`).  One act takes the vector of its draw from the random source, or
nothing (`Pipeline.step_random`), so the draws of a run are the first bytes of the
source, eight each and in their order (`Pipeline.run_random`).

*Counter blocks.*  The blocks of a draw are nonce, vector and a number that starts
from one and has four bytes of its own (`advance_counterBlock`).  Two vectors
share no block (`Draw.disjoint_blocks`), and the blocks of one vector are different
as long as the number does not come round (`Draw.nodup_blocks`), which takes far
more blocks than a packet has (`Draw.Sent`).  Decryption uses the blocks of the
packet once more, as it must, and draws nothing.
-/

namespace PacketProtection.Esp

open HeaderHost

/-! ## Counter blocks -/

/-- The counter blocks under which a number of bytes is enciphered. -/
def CipherKey.counterBlocks (cipherKey : CipherKey) (iv : Octets ivLength) (length : Nat) :
    List (Octets 16) :=
  (List.range (Counter.blockCount length)).map (Counter.advance (counterBlock cipherKey.nonce iv))

theorem CipherKey.crypt_eq (cipherKey : CipherKey) (iv : Octets ivLength) (data : Bytes) :
    cipherKey.crypt iv data =
      data.xor ((cipherKey.counterBlocks iv data.length).flatMap fun block =>
        (Aes.cipher cipherKey.key block).toList) := by
  rw [CipherKey.counterBlocks, List.flatMap_map]
  rfl

/-- A counter block tells its vector, and its number up to four bytes. -/
theorem advance_counterBlock_inj {nonce : Octets 4} {iv other : Octets ivLength} {i j : Nat}
    (same : Counter.advance (counterBlock nonce iv) i =
      Counter.advance (counterBlock nonce other) j) :
    iv = other ∧ (1 + i) % 2 ^ 32 = (1 + j) % 2 ^ 32 := by
  rw [advance_counterBlock, advance_counterBlock] at same
  have bytes : (nonce.toList ++ iv.toList) ++ Bytes.ofNat 4 (1 + i) =
      (nonce.toList ++ other.toList) ++ Bytes.ofNat 4 (1 + j) := congrArg Octets.toList same
  obtain ⟨front, back⟩ := List.append_inj bytes (by simp)
  obtain ⟨-, vectors⟩ := List.append_inj front rfl
  have numbers := congrArg Bytes.toNat back
  rw [Bytes.toNat_ofNat, Bytes.toNat_ofNat] at numbers
  exact ⟨Octets.ext vectors, numbers⟩

/-! ## Draws -/

/-- What an encryption enciphers once its vector is drawn. -/
structure Draw where
  /-- The cipher blob in force, at its width. -/
  blob : Octets cipherBlobSize
  iv : Octets ivLength
  /-- The datagram with its trailer. -/
  plain : Bytes
  /-- The payload that was sent, unless the encryption failed after all. -/
  payload? : Option Bytes

namespace Draw

def cipherKey (draw : Draw) : CipherKey :=
  .split draw.blob

/-- The counter blocks used. -/
def blocks (draw : Draw) : List (Octets 16) :=
  draw.cipherKey.counterBlocks draw.iv draw.plain.length

/-- The payload carries the vector and the data enciphered under the counter blocks,
of which it has at most 4092. -/
structure Sent (draw : Draw) (payload : Bytes) : Prop where
  payload_eq : ∃ icv : Octets Icv.size, payload = draw.iv.toList ++
    draw.plain.xor (draw.blocks.flatMap fun block =>
      (Aes.cipher draw.cipherKey.key block).toList) ++ icv.toList
  length_blocks_le : draw.blocks.length ≤ 4092

/-- Different vectors share no counter block. -/
theorem disjoint_blocks {draw other : Draw} (sameBlob : draw.blob = other.blob)
    (different : draw.iv ≠ other.iv) : draw.blocks.Disjoint other.blocks := by
  intro block inDraw inOther
  obtain ⟨i, -, rfl⟩ := List.mem_map.mp inDraw
  obtain ⟨j, -, same⟩ := List.mem_map.mp inOther
  rw [cipherKey, cipherKey, sameBlob] at same
  exact different (advance_counterBlock_inj same).1.symm

/-- The blocks of one vector are different while their number has four bytes. -/
theorem nodup_blocks {draw : Draw} (few : draw.blocks.length ≤ 2 ^ 32) : draw.blocks.Nodup := by
  rw [blocks, CipherKey.counterBlocks, List.length_map, List.length_range] at few
  refine List.Nodup.map_on (fun i inI j inJ same => ?_) List.nodup_range
  have numbers := (advance_counterBlock_inj same).2
  have below := List.mem_range.mp inI
  have otherBelow := List.mem_range.mp inJ
  omega

/-- Draws of different vectors under one blob share no counter block. -/
theorem pairwise_disjoint {draws : List Draw} {blob : Octets cipherBlobSize}
    (sameBlob : ∀ draw ∈ draws, draw.blob = blob) (different : (draws.map (·.iv)).Nodup) :
    draws.Pairwise fun draw other => draw.blocks.Disjoint other.blocks :=
  List.Pairwise.imp_of_mem
    (fun inDraws otherInDraws apart =>
      disjoint_blocks ((sameBlob _ inDraws).trans (sameBlob _ otherInDraws).symm) apart)
    (List.pairwise_map.mp different)

theorem length_flatMap_iv (draws : List Draw) :
    (draws.flatMap (·.iv.toList)).length = 8 * draws.length := by
  induction draws with
  | nil => rfl
  | cons draw rest ih =>
      rw [List.flatMap_cons, List.length_append, ih, draw.iv.length_toList, List.length_cons,
        ivLength]
      omega

/-- The place of a vector among the bytes that were drawn. -/
theorem segment {draws : List Draw} {i : Nat} {draw : Draw} (present : draws[i]? = some draw)
    {left : Bytes} :
    let source := draws.flatMap (·.iv.toList) ++ left
    8 * i + 8 ≤ source.length ∧ draw.iv.toList = (source.drop (8 * i)).take 8 := by
  induction draws generalizing i with
  | nil => cases present
  | cons first rest ih =>
      intro source
      have split : source = first.iv.toList ++ (rest.flatMap (·.iv.toList) ++ left) :=
        List.append_assoc _ _ _
      cases i with
      | zero =>
          obtain rfl : first = draw := Option.some.inj present
          rw [split]
          refine ⟨?_, (List.take_left' first.iv.length_toList).symm⟩
          rw [List.length_append, first.iv.length_toList]
          exact Nat.le_add_right _ _
      | succ i =>
          obtain ⟨inside, same⟩ := ih present
          rw [split, List.length_append, first.iv.length_toList,
            show 8 * (i + 1) = ivLength + 8 * i from Nat.add_comm _ _, ← List.drop_drop,
            List.drop_left' first.iv.length_toList]
          exact ⟨by omega, same⟩

end Draw

/-! ## Encryptions -/

theorem exists_icv_wire (cipherKey authKey header inner payload : Bytes) (iv : Octets ivLength) :
    ∃ icv : Octets Icv.size, wire cipherKey authKey header inner payload iv =
      iv.toList ++ (CipherKey.ofBlob cipherKey).crypt iv (appendTrailer (inner ++ payload)) ++
        icv.toList :=
  ⟨_, rfl⟩

/-- What is in a pipeline: the packet, the hosts of its headers, the keys in force
and the random source. -/
structure Pipeline (I E M : Type) where
  packet : Bytes
  ipv4 : I
  esp : E
  metadata : M
  cipherKey : Bytes
  authKey : Bytes
  random : Bytes

namespace Pipeline

variable {I E M : Type} [HeaderHost I] [HeaderHost E]

/-- How an encryption ends here. -/
def encrypted (state : Pipeline I E M) : Encryption I :=
  encrypt state.packet state.ipv4 state.esp state.cipherKey state.authKey state.random

/-- The draw of an encryption whose headers can be packed and whose random source
has a vector. -/
def draw? (state : Pipeline I E M) : Option Draw :=
  match pack .esp state.esp, pack .ipv4 state.ipv4, drawIv? state.random with
  | .ok _, .ok inner, some (iv, _) =>
      some
        { blob := normalize cipherBlobSize state.cipherKey
          iv
          plain := appendTrailer (inner ++ state.packet)
          payload? :=
            match state.encrypted.result with
            | .ok () => some state.encrypted.packet
            | .error _ => none }
  | _, _, _ => none

/-- An encryption fails and takes nothing from the random source, or draws. -/
theorem encrypted_cases (state : Pipeline I E M) :
    (state.draw? = none ∧ state.encrypted.random = state.random ∧
      ∃ fault, state.encrypted.result = .error fault) ∨
    ∃ draw, state.draw? = some draw ∧
      draw.blob = normalize cipherBlobSize state.cipherKey ∧
      state.random = draw.iv.toList ++ state.encrypted.random ∧
      (∀ payload, draw.payload? = some payload → draw.Sent payload) ∧
      (state.encrypted.result = .ok () → draw.payload? = some state.encrypted.packet) := by
  have ending : Sending state.packet state.ipv4 state.esp state.cipherKey state.authKey state.random
      state.encrypted := encrypt_sending _ _ _ _ _ _
  unfold draw?
  generalize state.encrypted = sent at ending ⊢
  cases ending with
  | noHeader missing =>
      rw [missing]
      exact .inl ⟨rfl, rfl, _, rfl⟩
  | noInner espPacks missing =>
      rw [espPacks, missing]
      exact .inl ⟨rfl, rfl, _, rfl⟩
  | noVector espPacks ipv4Packs empty =>
      rw [espPacks, ipv4Packs, empty]
      exact .inl ⟨rfl, rfl, _, rfl⟩
  | refused espPacks ipv4Packs drawn _ =>
      rw [espPacks, ipv4Packs, drawn]
      refine .inr ⟨_, rfl, rfl, drawIv?_eq_some drawn, ?_, ?_⟩
      · intro payload sent
        cases sent
      · intro succeeds
        cases succeeds
  | sent espPacks ipv4Packs drawn stored =>
      rw [espPacks, ipv4Packs, drawn]
      refine .inr ⟨_, rfl, rfl, drawIv?_eq_some drawn, ?_, fun _ => rfl⟩
      intro payload sent
      cases sent
      have innerLength := (length_pack ipv4Packs).trans HeaderLayout.length_ipv4
      constructor
      · rw [Draw.blocks, ← CipherKey.crypt_eq]
        exact exists_icv_wire _ _ _ _ _ _
      · -- The total length was stored, so the outer packet has less than 65536 bytes.
        obtain ⟨small, -⟩ := set_of_setUint_totalLen ipv4Packs stored
        rw [length_wire innerLength, outerTotal] at small
        rw [Draw.blocks, CipherKey.counterBlocks, List.length_map, List.length_range,
          Counter.blockCount, length_appendTrailer, List.length_append, innerLength]
        omega

end Pipeline

/-! ## Acts -/

/-- What happens to a pipeline. -/
inductive Act (I E M : Type) where
  | encrypt
  | decrypt
  | rekey (cipherKey authKey : Bytes)
  | edit (packet : Bytes)
  /-- Whatever is written to the hosts. -/
  | write (ipv4 : I) (esp : E) (metadata : M)

namespace Pipeline

variable {I E M : Type} [HeaderHost I] [HeaderHost E]

/-- The draws of a single act. -/
def drawsOf (state : Pipeline I E M) : Act I E M → List Draw
  | .encrypt => state.draw?.toList
  | _ => []

theorem sent_of_mem_drawsOf {state : Pipeline I E M} {act : Act I E M} {draw : Draw}
    (member : draw ∈ state.drawsOf act) {payload : Bytes} (sent : draw.payload? = some payload) :
    draw.Sent payload := by
  cases act with
  | encrypt =>
      have drawn : state.draw? = some draw := Option.mem_toList.mp member
      rcases state.encrypted_cases with ⟨none, -⟩ | ⟨found, some, -, -, carries, -⟩
      · cases none.symm.trans drawn
      · cases some.symm.trans drawn
        exact carries payload sent
  | decrypt => cases member
  | rekey cipherKey authKey => cases member
  | edit packet => cases member
  | write ipv4 esp metadata => cases member

variable [HeaderHost M]

/-- How a decryption ends here. -/
def decrypted (state : Pipeline I E M) : Decryption I M :=
  decrypt state.packet state.ipv4 state.esp state.metadata state.cipherKey state.authKey

def step (state : Pipeline I E M) : Act I E M → Pipeline I E M
  | .encrypt =>
      { state with
        packet := state.encrypted.packet
        ipv4 := state.encrypted.ipv4
        random := state.encrypted.random }
  | .decrypt =>
      { state with
        packet := state.decrypted.packet
        ipv4 := state.decrypted.ipv4
        metadata := state.decrypted.metadata }
  | .rekey cipherKey authKey => { state with cipherKey, authKey }
  | .edit packet => { state with packet }
  | .write ipv4 esp metadata => { state with ipv4, esp, metadata }

/-- The pipeline after act upon act, whether they succeed or fail. -/
def run (state : Pipeline I E M) : List (Act I E M) → Pipeline I E M
  | [] => state
  | act :: rest => (state.step act).run rest

/-- The draws of a run, in their order. -/
def draws (state : Pipeline I E M) : List (Act I E M) → List Draw
  | [] => []
  | act :: rest => state.drawsOf act ++ (state.step act).draws rest

/-- One act takes the vector of its draw from the random source, or nothing. -/
theorem step_random (state : Pipeline I E M) (act : Act I E M) :
    state.random = (state.drawsOf act).flatMap (·.iv.toList) ++ (state.step act).random := by
  cases act with
  | encrypt =>
      show state.random = state.draw?.toList.flatMap (·.iv.toList) ++ state.encrypted.random
      rcases state.encrypted_cases with ⟨none, kept, -⟩ | ⟨draw, some, -, taken, -⟩
      · rw [none, kept]
        rfl
      · rw [some]
        simpa using taken
  | decrypt => rfl
  | rekey cipherKey authKey => rfl
  | edit packet => rfl
  | write ipv4 esp metadata => rfl

/-! ## Any run -/

theorem draws_append (state : Pipeline I E M) (acts rest : List (Act I E M)) :
    state.draws (acts ++ rest) = state.draws acts ++ (state.run acts).draws rest := by
  induction acts generalizing state with
  | nil => rfl
  | cons act acts ih =>
      show state.drawsOf act ++ (state.step act).draws (acts ++ rest) =
        (state.drawsOf act ++ (state.step act).draws acts) ++ _
      rw [ih, List.append_assoc]
      rfl

/-- The draws of a run are the first bytes of the random source, in their order. -/
theorem run_random (state : Pipeline I E M) (acts : List (Act I E M)) :
    state.random = (state.draws acts).flatMap (·.iv.toList) ++ (state.run acts).random := by
  induction acts generalizing state with
  | nil => rfl
  | cons act rest ih =>
      show state.random = (state.drawsOf act ++ (state.step act).draws rest).flatMap _ ++
        ((state.step act).run rest).random
      rw [List.flatMap_append, List.append_assoc, ← ih]
      exact state.step_random act

theorem sent_of_mem_draws {state : Pipeline I E M} {acts : List (Act I E M)} {draw : Draw}
    (member : draw ∈ state.draws acts) {payload : Bytes} (sent : draw.payload? = some payload) :
    draw.Sent payload := by
  induction acts generalizing state with
  | nil => cases member
  | cons act rest ih =>
      rcases List.mem_append.mp member with here | later
      · exact sent_of_mem_drawsOf here sent
      · exact ih later

/-- Where the vectors of a run come from, and that of an encryption after it. -/
structure Drawn (start : Pipeline I E M) (acts : List (Act I E M)) : Prop where
  /-- Each draw takes the next eight bytes of the random source. -/
  segment : ∀ i draw, (start.draws acts)[i]? = some draw →
    8 * i + 8 ≤ start.random.length ∧ draw.iv.toList = (start.random.drop (8 * i)).take 8
  /-- Nothing but a draw takes any. -/
  random_eq : (start.run acts).random = start.random.drop (8 * (start.draws acts).length)
  /-- Every success is a draw, the next after those of the run. -/
  next_draw : (start.run acts).encrypted.result = .ok () →
    ∃ draw, draw.payload? = some (start.run acts).encrypted.packet ∧
      draw.blob = normalize 20 (start.run acts).cipherKey ∧
      ∀ rest, ∃ more,
        start.draws (acts ++ .encrypt :: rest) = start.draws acts ++ draw :: more
  /-- What was sent carries its vector. -/
  sent : ∀ draw ∈ start.draws acts, ∀ payload, draw.payload? = some payload → draw.Sent payload

theorem drawn (start : Pipeline I E M) (acts : List (Act I E M)) : Drawn start acts where
  segment i draw present := by
    rw [start.run_random acts]
    exact Draw.segment present
  random_eq := by
    conv_rhs => rw [start.run_random acts]
    rw [List.drop_left' (Draw.length_flatMap_iv _)]
  next_draw succeeds := by
    rcases (start.run acts).encrypted_cases with
      ⟨-, -, fault, fails⟩ | ⟨draw, drawn, blob, -, -, carried⟩
    · cases fails.symm.trans succeeds
    · refine ⟨draw, carried succeeds, blob, fun rest =>
        ⟨((start.run acts).step .encrypt).draws rest, ?_⟩⟩
      rw [draws_append, draws, drawsOf, drawn]
      rfl
  sent draw member payload := sent_of_mem_draws member

/-- **Vectors are never taken twice from the random source, and without equal
vectors no counter block is used twice.**  Under one cipher blob the blocks of all
packets sent are different; those of an encryption that drew its vector and failed
then are no others' either, and different among themselves unless the data has more
blocks than their number can count. -/
theorem run_vectors (start : Pipeline I E M) (acts : List (Act I E M)) :
    Drawn start acts ∧
    ∀ blob,
      let under := (start.draws acts).filter (·.blob = blob)
      (under.map (·.iv)).Nodup →
        ((under.filter (·.payload?.isSome)).flatMap Draw.blocks).Nodup ∧
        under.Pairwise (fun draw other => draw.blocks.Disjoint other.blocks) ∧
        ∀ draw ∈ under, draw.blocks.length ≤ 2 ^ 32 → draw.blocks.Nodup := by
  refine ⟨start.drawn acts, ?_⟩
  intro blob under different
  have sameBlob : ∀ draw ∈ under, draw.blob = blob := fun draw member => by
    simpa using (List.mem_filter.mp member).2
  refine ⟨?_, Draw.pairwise_disjoint sameBlob different, fun draw _ => Draw.nodup_blocks⟩
  refine List.nodup_flatMap.mpr ⟨fun draw member => ?_,
    (Draw.pairwise_disjoint sameBlob different).filter _⟩
  obtain ⟨inUnder, isSent⟩ := List.mem_filter.mp member
  obtain ⟨payload, sent⟩ := Option.isSome_iff_exists.mp isSent
  have bound := (start.drawn acts).sent draw (List.mem_filter.mp inUnder).1 payload sent
  exact Draw.nodup_blocks (Nat.le_trans bound.length_blocks_le (by decide))

/-- Two packets under one blob, spelled in two ways. -/
theorem run_vectors_two_packets :
    ∃ (start : Pipeline FieldSet FieldSet FieldSet) (acts : List (Act FieldSet FieldSet FieldSet))
        (under : List Draw),
      start = ⟨[1, 2, 3], .new .ipv4, .new .esp, .new .standardMetadata, [1], [2],
        [0, 1, 2, 3, 4, 5, 6, 7, 8, 9, 10, 11, 12, 13, 14, 15, 16]⟩ ∧
      acts = [.encrypt, .rekey [0, 1] [3], .edit [4], .encrypt, .decrypt] ∧
      under = (start.draws acts).filter (·.blob = normalize 20 [1]) ∧
      under.map (·.iv.toList) = [[0, 1, 2, 3, 4, 5, 6, 7], [8, 9, 10, 11, 12, 13, 14, 15]] ∧
      (under.map (·.iv)).Nodup ∧
      ((under.filter (·.payload?.isSome)).flatMap Draw.blocks).Nodup ∧
      (start.run acts).random = [16] := by
  refine ⟨_, _, _, rfl, rfl, rfl, by decide +kernel, ?different,
    ((run_vectors _ _).2 _ ?different).1, (run_vectors _ _).1.random_eq.trans ?left⟩
  case different => decide +kernel
  case left => decide +kernel

end Pipeline

end PacketProtection.Esp

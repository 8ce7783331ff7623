import PacketProtection.Cipher.Gcm
import PacketProtection.Proofs.BitFlip
import PacketProtection.Proofs.Cipher.Keystream
import PacketProtection.Proofs.Cipher.Residue

/-!
# Tags and single bits

The block hash reads a message as the coefficients of a polynomial and evaluates
it at the key.  Two messages that differ in one bit of one block therefore have
hashes that differ by that bit times a power of the key, and under a nonzero key
they are never equal (`OneBitApart.hash_ne`).

*Bytes.*  A bit of a byte string lies in exactly one of its blocks, wherever the
string ends and however its last block is completed (`blocks_flipBit`).  The tag
hides the hash behind a mask that the message does not enter, so the tag changes
with every bit of the associated data (`tag_flipBit_associated_ne`) and with
every bit of the ciphertext (`tag_flipBit_ciphertext_ne`).
-/

namespace PacketProtection

/-! ## The block hash -/

namespace Galois

/-- A sum that the hash starts with is multiplied by the key once a block. -/
theorem residue_foldl (key start : Element) (blocks : List Element) :
    residue (blocks.foldl (fun sum block => mul (sum ^^^ block) key) start) =
      residue start * residue key ^ blocks.length + residue (hash key blocks) := by
  induction blocks generalizing start with
  | nil =>
      show residue start = residue start * 1 + residue 0
      rw [residue_zero, mul_one, add_zero]
  | cons block rest ih =>
      rw [hash, List.foldl_cons, List.foldl_cons, ih, ih (mul (0 ^^^ block) key), residue_mul,
        residue_mul, residue_xor, residue_xor, residue_zero, List.length_cons, pow_succ]
      ring

/-- Two messages that differ in one bit of one block. -/
inductive OneBitApart : List Element → List Element → Prop
  | here {i : Nat} (inside : i < 128) (block : Element) (rest : List Element) :
      OneBitApart (block :: rest) ((block ^^^ monomial i) :: rest)
  | there (block : Element) {left right : List Element} :
      OneBitApart left right → OneBitApart (block :: left) (block :: right)

theorem OneBitApart.append_left {left right : List Element} (apart : OneBitApart left right)
    (front : List Element) : OneBitApart (front ++ left) (front ++ right) := by
  induction front with
  | nil => exact apart
  | cons block rest ih => exact .there block ih

theorem OneBitApart.append_right {left right : List Element} (apart : OneBitApart left right)
    (back : List Element) : OneBitApart (left ++ back) (right ++ back) := by
  induction apart with
  | here inside block rest => exact .here inside block (rest ++ back)
  | there block _ ih => exact .there block ih

theorem OneBitApart.foldl_ne {key : Element} (nonzero : key ≠ 0) {left right : List Element}
    (apart : OneBitApart left right) (start : Element) :
    left.foldl (fun sum block => mul (sum ^^^ block) key) start ≠
      right.foldl (fun sum block => mul (sum ^^^ block) key) start := by
  induction apart generalizing start with
  | @here i inside block rest =>
      intro same
      apply root_pow_mul_residue_pow_ne_zero nonzero i (rest.length + 1)
      have residues := congrArg residue same
      rw [List.foldl_cons, List.foldl_cons, residue_foldl, residue_foldl, residue_mul,
        residue_mul, residue_xor, residue_xor, residue_xor, residue_monomial inside] at residues
      linear_combination -residues
  | there block _ ih => exact ih (mul (start ^^^ block) key)

theorem OneBitApart.hash_ne {key : Element} (nonzero : key ≠ 0) {left right : List Element}
    (apart : OneBitApart left right) : hash key left ≠ hash key right :=
  apart.foldl_ne nonzero 0

/-! ## Blocks of bytes -/

theorem ofBytes_flipBit {bytes : Bytes} {position : Nat} (short : bytes.length ≤ 16)
    (inside : position < 8 * bytes.length) :
    ofBytes (bytes.flipBit position) = ofBytes bytes ^^^ monomial position := by
  have padded : (bytes ++ List.replicate (16 - bytes.length) 0).length = 16 := by
    rw [List.length_append, List.length_replicate]
    omega
  have number := @Bytes.toNat_flipBit (bytes ++ List.replicate (16 - bytes.length) 0) position
    (by omega)
  rw [padded, Bytes.flipBit_append_left inside] at number
  rw [ofBytes, Bytes.length_flipBit, number, BitVec.ofNat_xor, ofBytes, monomial,
    show 8 * 16 - 1 - position = 127 - position by omega]
  congr 1
  apply BitVec.eq_of_toNat_eq
  rw [BitVec.toNat_ofNat, BitVec.toNat_twoPow]

/-- Sixteen bytes are the zero block only if all of them are zero. -/
theorem ofBytes_ne_zero {octets : Octets 16} (nonzero : octets ≠ .replicate 16 0) :
    ofBytes octets.toList ≠ 0 := by
  intro vanishes
  apply nonzero
  have number := congrArg BitVec.toNat vanishes
  have bound : octets.toList.toNat < 2 ^ 128 := by
    have bytes := octets.toList.toNat_lt
    rw [octets.length_toList] at bytes
    exact bytes
  rw [ofBytes, octets.length_toList, Nat.sub_self, List.replicate_zero, List.append_nil,
    BitVec.toNat_ofNat, Nat.mod_eq_of_lt bound] at number
  apply Octets.ext
  rw [← Bytes.ofNat_toNat octets.toList, octets.length_toList, number]
  rfl

end Galois

/-! ## Tags -/

namespace Gcm

open Galois (OneBitApart)

theorem blocks_of_pos {data : Bytes} (nonempty : 0 < data.length) :
    blocks data = Galois.ofBytes (data.take 16) :: blocks (data.drop 16) := by
  have count : Counter.blockCount data.length =
      Counter.blockCount (data.drop 16).length + 1 := by
    rw [Counter.blockCount, Counter.blockCount, List.length_drop]
    omega
  rw [blocks, count]
  rfl

theorem blocks_flipBit {data : Bytes} {position : Nat} (inside : position < 8 * data.length) :
    OneBitApart (blocks data) (blocks (data.flipBit position)) := by
  induction position using Nat.strongRecOn generalizing data with
  | ind position ih =>
      have nonempty : 0 < data.length := by omega
      have flippedNonempty : 0 < (data.flipBit position).length := by
        rwa [Bytes.length_flipBit]
      rw [blocks_of_pos nonempty, blocks_of_pos flippedNonempty, Bytes.take_flipBit]
      have length : (data.take 16).length = min 16 data.length := List.length_take
      by_cases inFirst : position < 8 * 16
      · have inTaken : position < 8 * (data.take 16).length := by omega
        rw [Bytes.drop_flipBit_of_lt inFirst, Galois.ofBytes_flipBit (by omega) inTaken]
        exact .here inFirst _ _
      · obtain ⟨later, rfl⟩ := Nat.exists_eq_add_of_le (Nat.le_of_not_lt inFirst)
        rw [Bytes.drop_flipBit_add, Bytes.flipBit_of_le (by omega)]
        exact .there _ (ih later (by omega) (by rw [List.length_drop]; omega))

variable {cipher : BlockCipher} {nonce : Octets 12} {associated ciphertext : Bytes}

theorem hashKey_ne_zero (nonzero : cipher (.replicate 16 0) ≠ .replicate 16 0) :
    hashKey cipher ≠ 0 :=
  Galois.ofBytes_ne_zero nonzero

/-- Equal tags under one nonce come from equal hashes. -/
theorem hash_eq_of_tag_eq {associated' ciphertext' : Bytes}
    (same : tag cipher nonce associated ciphertext = tag cipher nonce associated' ciphertext') :
    Galois.hash (hashKey cipher) (hashInput associated ciphertext) =
      Galois.hash (hashKey cipher) (hashInput associated' ciphertext') := by
  have hashes := Octets.xor_left_cancel same
  have numbers := congrArg Octets.toNat hashes
  apply BitVec.eq_of_toNat_eq
  rw [Octets.toNat, Octets.toNat, Octets.ofNat, Octets.ofNat,
    Bytes.toNat_ofNat_of_lt (BitVec.isLt _), Bytes.toNat_ofNat_of_lt (BitVec.isLt _)] at numbers
  exact numbers

theorem tag_ne_of_apart (nonzero : hashKey cipher ≠ 0) {associated' ciphertext' : Bytes}
    (sameAssociated : associated'.length = associated.length)
    (sameCiphertext : ciphertext'.length = ciphertext.length)
    (apart : OneBitApart (blocks associated ++ blocks ciphertext)
      (blocks associated' ++ blocks ciphertext')) :
    tag cipher nonce associated ciphertext ≠ tag cipher nonce associated' ciphertext' := by
  intro same
  have hashes := hash_eq_of_tag_eq same
  rw [hashInput, hashInput, sameAssociated, sameCiphertext] at hashes
  exact (apart.append_right _).hash_ne nonzero hashes

theorem tag_flipBit_associated_ne (nonzero : hashKey cipher ≠ 0) {position : Nat}
    (inside : position < 8 * associated.length) :
    tag cipher nonce associated ciphertext ≠
      tag cipher nonce (associated.flipBit position) ciphertext :=
  tag_ne_of_apart nonzero (Bytes.length_flipBit _ _) rfl
    ((blocks_flipBit inside).append_right (blocks ciphertext))

theorem tag_flipBit_ciphertext_ne (nonzero : hashKey cipher ≠ 0) {position : Nat}
    (inside : position < 8 * ciphertext.length) :
    tag cipher nonce associated ciphertext ≠
      tag cipher nonce associated (ciphertext.flipBit position) :=
  tag_ne_of_apart nonzero rfl (Bytes.length_flipBit _ _)
    ((blocks_flipBit inside).append_left (blocks associated))

end Gcm

end PacketProtection

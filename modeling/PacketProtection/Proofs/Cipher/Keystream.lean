import PacketProtection.Cipher.Gcm

/-!
# Keystreams

Counter mode adds a keystream that is as long as the data or longer, so the
data keeps its length and the same operation undoes itself (`Counter.apply_apply`).
Both hold for any block cipher, and carry over to the data part of Galois/counter
mode: what was sealed within the limits is opened again
(`Gcm.open?_seal?`).
-/

namespace PacketProtection

theorem Bytes.xor_xor_cancel {data stream : Bytes} (enough : data.length ≤ stream.length) :
    (data.xor stream).xor stream = data := by
  induction data generalizing stream with
  | nil => rfl
  | cons byte rest ih =>
      cases stream with
      | nil => exact absurd enough (by simp)
      | cons key stream =>
          show (byte ^^^ key ^^^ key) :: (Bytes.xor rest stream).xor stream = byte :: rest
          rw [ih (Nat.le_of_succ_le_succ enough), UInt8.xor_assoc, UInt8.xor_self,
            UInt8.xor_zero]

theorem Bytes.xor_comm (left right : Bytes) : left.xor right = right.xor left :=
  List.zipWith_comm_of_comm UInt8.xor_comm

theorem Octets.xor_left_cancel {n : Nat} {mask left right : Octets n}
    (same : mask.xor left = mask.xor right) : left = right := by
  have unmask (octets : Octets n) : (mask.xor octets).toList.xor mask.toList = octets.toList := by
    show (mask.toList.xor octets.toList).xor mask.toList = octets.toList
    rw [Bytes.xor_comm mask.toList, Bytes.xor_xor_cancel (by simp)]
  apply Octets.ext
  rw [← unmask left, same, unmask right]

namespace Counter

variable (cipher : BlockCipher) (block : Octets 16)

theorem length_keystream (count : Nat) : (keystream cipher block count).length = 16 * count := by
  rw [keystream]
  induction count with
  | zero => rfl
  | succ count ih =>
      rw [List.range_succ, List.flatMap_append, List.length_append, ih, List.flatMap_singleton,
        Octets.length_toList]
      omega

theorem le_length_keystream (data : Bytes) :
    data.length ≤ (keystream cipher block (blockCount data.length)).length := by
  rw [length_keystream, blockCount]
  omega

@[simp] theorem length_apply (data : Bytes) : (apply cipher block data).length = data.length := by
  rw [apply, Bytes.length_xor]
  exact Nat.min_eq_left (le_length_keystream cipher block data)

@[simp] theorem apply_apply (data : Bytes) :
    apply cipher block (apply cipher block data) = data := by
  rw [apply, length_apply, apply, Bytes.xor_xor_cancel (le_length_keystream cipher block data)]

end Counter

namespace Gcm

variable {associated plaintext : Bytes}

@[simp] theorem length_crypt (cipher : BlockCipher) (nonce : Octets 12) (data : Bytes) :
    (crypt cipher nonce data).length = data.length :=
  Counter.length_apply _ _ _

@[simp] theorem crypt_crypt (cipher : BlockCipher) (nonce : Octets 12) (data : Bytes) :
    crypt cipher nonce (crypt cipher nonce data) = data :=
  Counter.apply_apply _ _ _

/-- Within the limits sealing succeeds and keeps the length. -/
theorem seal?_of_le (key : Octets 16) (nonce : Octets 12)
    (dataLimit : plaintext.length ≤ maxPlaintext)
    (associatedLimit : associated.length ≤ maxAssociated) :
    ∃ ciphertext received, seal? key nonce associated plaintext = some (ciphertext, received) ∧
      ciphertext.length = plaintext.length := by
  rw [seal?, if_pos ⟨dataLimit, associatedLimit⟩]
  exact ⟨_, _, rfl, length_crypt _ _ _⟩

/-- What was sealed is opened under the same key, nonce and associated data. -/
theorem open?_seal? {key received : Octets 16} {nonce : Octets 12} {ciphertext : Bytes}
    (sealed : seal? key nonce associated plaintext = some (ciphertext, received)) :
    open? key nonce associated ciphertext received = some plaintext := by
  rw [seal?] at sealed
  split at sealed
  next limits =>
    obtain ⟨rfl, rfl⟩ := Prod.mk.inj (Option.some.inj sealed)
    have room : plaintext.length ≤ maxCiphertext := Nat.le_trans limits.1 (by decide)
    rw [open?, if_pos ⟨by rw [length_crypt]; exact room, limits.2, rfl⟩]
    exact congrArg some (crypt_crypt _ _ plaintext)
  next => cases sealed

end Gcm

end PacketProtection

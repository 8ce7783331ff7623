import PacketProtection.Cipher.Aes
import PacketProtection.Proofs.Cipher.Keystream
import PacketProtection.Proofs.Numeral

/-!
# Counter mode block by block

Data can be encrypted in pieces.  A piece of whole blocks uses up as many counter blocks,
and what follows starts from the counter block after them (`Counter.apply_append`).  In it
the number is larger and the other twelve bytes are the same, also where the number comes
round to zero (`Counter.take_advance`, `Counter.toNat_drop_advance`).

*Keystreams.*  Counting on from a later block is counting on from the first
(`Counter.advance_advance`), so a keystream is one of its beginning and one of its rest
(`Counter.keystream_add`).

*Beginnings.*  More keystream than there is data makes no difference
(`Counter.apply_of_le`), so the beginning of the data is encrypted as it would be alone
(`Counter.take_apply`).
-/

namespace PacketProtection

namespace Bytes

/-- Combining strings piece by piece. -/
theorem xor_append {front stream : Bytes} (same : front.length = stream.length)
    (back rest : Bytes) :
    (front ++ back).xor (stream ++ rest) = front.xor stream ++ back.xor rest :=
  List.zipWith_append same

/-- What a stream has beyond the data is not used. -/
theorem xor_take {data : Bytes} {count : Nat} (enough : data.length ≤ count) (stream : Bytes) :
    data.xor (stream.take count) = data.xor stream := by
  have short : (data.xor stream).length ≤ count := by
    rw [length_xor]
    exact Nat.le_trans (Nat.min_le_left _ _) enough
  calc data.xor (stream.take count)
      = Bytes.xor (data.take count) (stream.take count) := by rw [List.take_of_length_le enough]
    _ = (data.xor stream).take count := List.take_zipWith.symm
    _ = data.xor stream := List.take_of_length_le short

/-- A stream that is long enough may be longer. -/
theorem xor_append_right {data stream : Bytes} (enough : data.length ≤ stream.length)
    (rest : Bytes) : data.xor (stream ++ rest) = data.xor stream := by
  rw [← xor_take enough, List.take_left]

end Bytes

namespace Counter

/-! ## Counter blocks -/

section Blocks

variable (block : Octets 16)

theorem length_front : (block.toList.take 12).length = 12 := by
  rw [List.length_take, block.length_toList]
  rfl

/-- Counting leaves the first twelve bytes alone. -/
@[simp] theorem take_advance (steps : Nat) :
    (advance block steps).toList.take 12 = block.toList.take 12 :=
  List.take_left' (length_front block)

theorem drop_advance (steps : Nat) :
    (advance block steps).toList.drop 12 =
      Bytes.ofNat 4 (Bytes.toNat (block.toList.drop 12) + steps) :=
  List.drop_left' (length_front block)

/-- The last four bytes count, and come round to zero. -/
theorem toNat_drop_advance (steps : Nat) :
    Bytes.toNat ((advance block steps).toList.drop 12) =
      (Bytes.toNat (block.toList.drop 12) + steps) % 2 ^ 32 := by
  rw [drop_advance, Bytes.toNat_ofNat]
  rfl

@[simp] theorem advance_zero : advance block 0 = block := by
  have number : (block.toList.drop 12).length = 4 := by
    rw [List.length_drop, block.length_toList]
  apply Octets.ext
  show block.toList.take 12 ++ Bytes.ofNat 4 _ = block.toList
  rw [Nat.add_zero, ← number, Bytes.ofNat_toNat, List.take_append_drop]

theorem advance_advance (steps more : Nat) :
    advance (advance block steps) more = advance block (steps + more) := by
  apply Octets.ext
  show (advance block steps).toList.take 12 ++ Bytes.ofNat 4 _ =
    block.toList.take 12 ++ Bytes.ofNat 4 _
  rw [take_advance, drop_advance, Bytes.toNat_ofNat]
  congr 1
  apply Bytes.ofNat_congr
  rw [Nat.mod_add_mod, Nat.add_assoc]

end Blocks

/-! ## Keystreams -/

variable (cipher : BlockCipher) (block : Octets 16)

theorem keystream_add (count more : Nat) :
    keystream cipher block (count + more) =
      keystream cipher block count ++ keystream cipher (advance block count) more := by
  rw [keystream, List.range_add, List.flatMap_append, List.flatMap_map, keystream, keystream]
  simp only [advance_advance]

theorem keystream_one : keystream cipher block 1 = (cipher block).toList := by
  simp [keystream, List.range_one]

/-- Any keystream that covers the data will do. -/
theorem apply_of_le {data : Bytes} {count : Nat} (enough : data.length ≤ 16 * count) :
    data.xor (keystream cipher block count) = apply cipher block data := by
  obtain ⟨more, rfl⟩ : ∃ more, count = blockCount data.length + more := by
    refine Nat.exists_eq_add_of_le ?_
    rw [blockCount]
    omega
  rw [keystream_add, Bytes.xor_append_right (le_length_keystream cipher block data), apply]

/-! ## Data in pieces -/

theorem blockCount_append {front : Bytes} (whole : 16 ∣ front.length) (back : Bytes) :
    blockCount (front ++ back).length = front.length / 16 + blockCount back.length := by
  rw [blockCount, blockCount, List.length_append]
  omega

/-- Whole blocks are encrypted by themselves, and the rest after them. -/
theorem apply_append {front : Bytes} (whole : 16 ∣ front.length) (back : Bytes) :
    apply cipher block (front ++ back) =
      apply cipher block front ++ apply cipher (advance block (front.length / 16)) back := by
  have filled : front.length = 16 * (front.length / 16) := (Nat.mul_div_cancel' whole).symm
  have covered : front.length = (keystream cipher block (front.length / 16)).length := by
    rw [length_keystream]
    exact filled
  rw [apply, blockCount_append whole, keystream_add, Bytes.xor_append covered,
    apply_of_le cipher block (Nat.le_of_eq filled)]
  rfl

/-- The beginning of the data is encrypted without looking at the rest. -/
theorem take_apply (data : Bytes) (count : Nat) :
    (apply cipher block data).take count = apply cipher block (data.take count) := by
  have short : (data.take count).length ≤ count := List.length_take_le _ _
  have covered : (data.take count).length ≤ 16 * blockCount data.length := by
    rw [List.length_take, blockCount]
    omega
  let stream := keystream cipher block (blockCount data.length)
  calc (apply cipher block data).take count
      = Bytes.xor (data.take count) (stream.take count) := List.take_zipWith
    _ = Bytes.xor (data.take count) stream := Bytes.xor_take short _
    _ = apply cipher block (data.take count) := apply_of_le cipher block covered

/-- Up to one block is combined with the cipher of the counter block. -/
theorem apply_of_short {data : Bytes} (short : data.length ≤ 16) :
    apply cipher block data = data.xor (cipher block).toList := by
  rw [← keystream_one, apply_of_le cipher block (Nat.le_trans short (by decide))]

/-! ## AES in counter mode -/

/-- **Encryption goes block by block.**  Whole blocks and what follows them are encrypted
apart, the second part from a counter block with the same first twelve bytes and a number
that is larger by the blocks before, in four bytes.  Encrypting again undoes it, the length
is kept, and a beginning of the data makes the same beginning of the result.  A single block
is combined with the cipher of the counter block. -/
theorem apply_aes_blockwise (key block : Octets 16) :
    (∀ front back : Bytes, 16 ∣ front.length →
      let later := advance block (front.length / 16)
      later.toList.take 12 = block.toList.take 12 ∧
      Bytes.toNat (later.toList.drop 12) =
        (Bytes.toNat (block.toList.drop 12) + front.length / 16) % 2 ^ 32 ∧
      apply (Aes.cipher key) block (front ++ back) =
        apply (Aes.cipher key) block front ++ apply (Aes.cipher key) later back) ∧
    (∀ data : Bytes,
      apply (Aes.cipher key) block (apply (Aes.cipher key) block data) = data ∧
      (apply (Aes.cipher key) block data).length = data.length ∧
      ∀ count, (apply (Aes.cipher key) block data).take count =
        apply (Aes.cipher key) block (data.take count)) ∧
    ∀ data : Bytes, data.length ≤ 16 →
      apply (Aes.cipher key) block data = data.xor (Aes.cipher key block).toList := by
  refine ⟨fun front back whole => ?_, fun data => ?_, fun data => apply_of_short _ _⟩
  · exact ⟨take_advance _ _, toNat_drop_advance _ _, apply_append _ _ whole back⟩
  · exact ⟨apply_apply _ _ data, length_apply _ _ data, take_apply _ _ data⟩

/-- After the block with the largest number comes the one with number zero, and the bytes in
front of the number stay. -/
theorem apply_aes_blockwise_comes_round :
    ∃ (block later : Octets 16) (front : Bytes),
      block.toList = [1, 2, 3, 4, 5, 6, 7, 8, 9, 10, 11, 12, 0xff, 0xff, 0xff, 0xff] ∧
      later.toList = [1, 2, 3, 4, 5, 6, 7, 8, 9, 10, 11, 12, 0, 0, 0, 0] ∧
      front = List.replicate 16 7 ∧ 16 ∣ front.length ∧ ([5, 6, 7] : Bytes).length ≤ 16 ∧
      ∀ key : Octets 16,
        apply (Aes.cipher key) block (front ++ [5, 6, 7]) =
          front.xor (Aes.cipher key block).toList ++
            Bytes.xor [5, 6, 7] (Aes.cipher key later).toList := by
  let block : Octets 16 :=
    ⟨[1, 2, 3, 4, 5, 6, 7, 8, 9, 10, 11, 12, 0xff, 0xff, 0xff, 0xff], rfl⟩
  refine ⟨block, advance block 1, List.replicate 16 7, rfl, by decide, rfl, by decide, by decide,
    fun key => ?_⟩
  obtain ⟨pieces, -, short⟩ := apply_aes_blockwise key block
  obtain ⟨-, -, single⟩ := apply_aes_blockwise key (advance block 1)
  obtain ⟨-, -, joined⟩ := pieces (List.replicate 16 7) [5, 6, 7] (by decide)
  rw [joined, short _ (by decide)]
  exact congrArg _ (single _ (by decide))

end Counter

end PacketProtection

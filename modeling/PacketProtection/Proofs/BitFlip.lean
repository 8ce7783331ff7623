import PacketProtection.Proofs.Numeral

/-!
# Single bits of a byte string

Inverting one bit touches one byte, so it commutes with joining byte strings
(`Bytes.flipBit_append_left`, `Bytes.flipBit_append_right`).  The number that the
byte string stands for changes by exclusive or with a power of two
(`Bytes.toNat_flipBit`), and so the byte string always changes
(`Bytes.flipBit_ne`).
-/

namespace PacketProtection

/-- Exclusive or works on the upper and the lower digits of a number apart. -/
theorem two_pow_mul_add_xor {lower lower' width : Nat} (upper upper' : Nat)
    (fits : lower < 2 ^ width) (fits' : lower' < 2 ^ width) :
    (2 ^ width * upper + lower) ^^^ (2 ^ width * upper' + lower') =
      2 ^ width * (upper ^^^ upper') + (lower ^^^ lower') := by
  apply Nat.eq_of_testBit_eq
  intro i
  rw [Nat.testBit_xor, Nat.testBit_two_pow_mul_add _ fits, Nat.testBit_two_pow_mul_add _ fits',
    Nat.testBit_two_pow_mul_add _ (Nat.xor_lt_two_pow fits fits')]
  split
  · rw [Nat.testBit_xor]
  · rw [Nat.testBit_xor]

namespace Bytes

/-- The byte string with one bit inverted.  Bit 0 is the most significant bit of
the first byte. -/
def flipBit (bytes : Bytes) (position : Nat) : Bytes :=
  bytes.modify (position / 8) fun byte => byte ^^^ UInt8.ofNat (2 ^ (7 - position % 8))

@[simp] theorem length_flipBit (bytes : Bytes) (position : Nat) :
    (flipBit bytes position).length = bytes.length :=
  List.length_modify _ _ _

theorem flipBit_cons_of_lt {position : Nat} (inFirst : position < 8) (byte : UInt8)
    (rest : Bytes) :
    flipBit (byte :: rest) position = (byte ^^^ UInt8.ofNat (2 ^ (7 - position))) :: rest := by
  rw [flipBit, Nat.div_eq_of_lt inFirst, Nat.mod_eq_of_lt inFirst]
  rfl

theorem flipBit_cons_add (byte : UInt8) (rest : Bytes) (position : Nat) :
    flipBit (byte :: rest) (8 + position) = byte :: flipBit rest position := by
  rw [flipBit, Nat.add_div_left _ (by decide), Nat.add_mod_left]
  rfl

theorem take_flipBit (count : Nat) (bytes : Bytes) (position : Nat) :
    (flipBit bytes position).take count = flipBit (bytes.take count) position :=
  List.take_modify _ _ _ _

theorem drop_flipBit_of_lt {count position : Nat} (before : position < 8 * count)
    (bytes : Bytes) : (flipBit bytes position).drop count = bytes.drop count :=
  List.drop_modify_of_lt _ _ _ _ (Nat.div_lt_of_lt_mul before)

theorem drop_flipBit_add (count : Nat) (bytes : Bytes) (position : Nat) :
    (flipBit bytes (8 * count + position)).drop count = flipBit (bytes.drop count) position := by
  rw [flipBit, Nat.mul_add_div (by decide), Nat.mul_add_mod,
    List.drop_modify_of_ge _ _ _ _ (Nat.le_add_right _ _), Nat.add_sub_cancel_left]
  rfl

theorem flipBit_of_le {bytes : Bytes} {position : Nat} (outside : 8 * bytes.length ≤ position) :
    flipBit bytes position = bytes :=
  List.modify_eq_self ((Nat.le_div_iff_mul_le (by decide)).mpr (by omega))

theorem flipBit_append_left {left : Bytes} {position : Nat} (inside : position < 8 * left.length)
    (right : Bytes) : flipBit (left ++ right) position = flipBit left position ++ right := by
  rw [← List.take_append_drop left.length (flipBit (left ++ right) position), take_flipBit,
    drop_flipBit_of_lt inside, List.take_left, List.drop_left]

theorem flipBit_append_right (left right : Bytes) (position : Nat) :
    flipBit (left ++ right) (8 * left.length + position) = left ++ flipBit right position := by
  rw [← List.take_append_drop left.length (flipBit (left ++ right) _), take_flipBit,
    drop_flipBit_add, List.take_left, List.drop_left, flipBit_of_le (Nat.le_add_right _ _)]

theorem toNat_cons (byte : UInt8) (rest : Bytes) :
    toNat (byte :: rest) = 2 ^ (8 * rest.length) * byte.toNat + toNat rest := by
  have whole := toNat_append [byte] rest
  rw [toNat_singleton, show (256 : Nat) = 2 ^ 8 from rfl, ← Nat.pow_mul, Nat.mul_comm] at whole
  exact whole

theorem toNat_lt_two_pow (bytes : Bytes) : toNat bytes < 2 ^ (8 * bytes.length) := by
  rw [Nat.pow_mul]
  exact toNat_lt bytes

theorem toNat_flipBit {bytes : Bytes} {position : Nat} (inside : position < 8 * bytes.length) :
    toNat (flipBit bytes position) = toNat bytes ^^^ 2 ^ (8 * bytes.length - 1 - position) := by
  induction bytes generalizing position with
  | nil => simp at inside
  | cons byte rest ih =>
      rw [List.length_cons] at inside ⊢
      by_cases inFirst : position < 8
      · have bit : (UInt8.ofNat (2 ^ (7 - position))).toNat = 2 ^ (7 - position) := by
          rw [UInt8.toNat_ofNat']
          apply Nat.mod_eq_of_lt
          apply Nat.pow_lt_pow_right (by decide)
          omega
        have weight : 2 ^ (8 * (rest.length + 1) - 1 - position) =
            2 ^ (8 * rest.length) * 2 ^ (7 - position) + 0 := by
          rw [Nat.add_zero, ← Nat.pow_add]
          congr 1
          omega
        rw [flipBit_cons_of_lt inFirst, toNat_cons, toNat_cons, UInt8.toNat_xor, bit, weight,
          two_pow_mul_add_xor _ _ (toNat_lt_two_pow rest) (Nat.two_pow_pos _), Nat.xor_zero]
      · obtain ⟨later, rfl⟩ := Nat.exists_eq_add_of_le (Nat.le_of_not_lt inFirst)
        have inRest : later < 8 * rest.length := by omega
        have weight : 2 ^ (8 * (rest.length + 1) - 1 - (8 + later)) =
            2 ^ (8 * rest.length) * 0 + 2 ^ (8 * rest.length - 1 - later) := by
          rw [Nat.mul_zero, Nat.zero_add]
          congr 1
          omega
        have small : 2 ^ (8 * rest.length - 1 - later) < 2 ^ (8 * rest.length) :=
          Nat.pow_lt_pow_right (by decide) (by omega)
        rw [flipBit_cons_add, toNat_cons, toNat_cons, length_flipBit, ih inRest, weight,
          two_pow_mul_add_xor _ _ (toNat_lt_two_pow rest) small, Nat.xor_zero]

theorem flipBit_ne {bytes : Bytes} {position : Nat} (inside : position < 8 * bytes.length) :
    flipBit bytes position ≠ bytes := by
  intro same
  have value := toNat_flipBit inside
  rw [same] at value
  have cancelled := congrArg (toNat bytes ^^^ ·) value
  simp only [Nat.xor_self, ← Nat.xor_assoc, Nat.zero_xor] at cancelled
  exact absurd cancelled.symm (Nat.ne_of_gt (Nat.two_pow_pos _))

end Bytes

/-- A byte string of a fixed length with one bit inverted. -/
def Octets.flipBit {n : Nat} (octets : Octets n) (position : Nat) : Octets n :=
  ⟨octets.toList.flipBit position, by simp⟩

end PacketProtection

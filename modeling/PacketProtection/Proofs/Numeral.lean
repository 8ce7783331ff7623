import Mathlib.Algebra.Group.Nat.Defs
import Mathlib.Data.List.Induction
import PacketProtection.Header.Bits

/-!
# Numbers in byte strings and bit strings

A byte string and a bit string are both read as a number first digit first, by
multiplying what was read so far with the base and adding the next digit.  What
the two share is proved once, for digits of any kind (`horner_append`,
`horner_lt`).

*Widths.*  Writing a number in a width keeps its remainder, and reading it back
gives that remainder (`toNat_ofNat`).  A string is the numeral of its own number
in its own length (`ofNat_toNat`), so two strings of one length with the same
number are equal.

*Bytes as bits.*  The bits of a byte string spell the same number, so whole
bytes go to bits and back without loss (`Bits.toBytes_ofBytes`,
`Bits.ofBytes_toBytes`).
-/

namespace PacketProtection

/-! ## Digits of any kind -/

section Horner

variable {α : Type} (base : Nat) (digit : α → Nat)

/-- Reading on from a number already read shifts it past the digits to come. -/
theorem horner_from (start : Nat) (digits : List α) :
    digits.foldl (fun value d => base * value + digit d) start =
      start * base ^ digits.length
        + digits.foldl (fun value d => base * value + digit d) 0 := by
  induction digits generalizing start with
  | nil => simp
  | cons d rest ih =>
      rw [List.foldl_cons, List.foldl_cons, ih (base * start + digit d),
        ih (base * 0 + digit d), List.length_cons, Nat.pow_succ]
      rw [Nat.mul_zero, Nat.zero_add, Nat.add_mul, Nat.mul_comm base start, Nat.mul_assoc,
        Nat.mul_comm base, Nat.add_assoc]

theorem horner_append (left right : List α) :
    (left ++ right).foldl (fun value d => base * value + digit d) 0 =
      left.foldl (fun value d => base * value + digit d) 0 * base ^ right.length
        + right.foldl (fun value d => base * value + digit d) 0 := by
  rw [List.foldl_append, horner_from]

theorem horner_lt (bounded : ∀ d, digit d < base) (digits : List α) :
    digits.foldl (fun value d => base * value + digit d) 0 < base ^ digits.length := by
  induction digits with
  | nil => simp
  | cons d rest ih =>
      rw [List.foldl_cons, horner_from, Nat.mul_zero, Nat.zero_add, List.length_cons,
        Nat.pow_succ]
      have digitBound : digit d + 1 ≤ base := bounded d
      calc digit d * base ^ rest.length + _
          < digit d * base ^ rest.length + base ^ rest.length := Nat.add_lt_add_left ih _
        _ = (digit d + 1) * base ^ rest.length := by rw [Nat.add_mul, Nat.one_mul]
        _ ≤ base * base ^ rest.length := Nat.mul_le_mul_right _ digitBound
        _ = base ^ rest.length * base := Nat.mul_comm _ _

end Horner

/-! ## Byte strings -/

namespace Bytes

@[simp] theorem toNat_nil : toNat [] = 0 := rfl

theorem toNat_append (left right : Bytes) :
    toNat (left ++ right) = toNat left * 256 ^ right.length + toNat right :=
  horner_append 256 UInt8.toNat left right

theorem toNat_lt (bytes : Bytes) : toNat bytes < 256 ^ bytes.length :=
  horner_lt 256 UInt8.toNat UInt8.toNat_lt bytes

theorem toNat_singleton (byte : UInt8) : toNat [byte] = byte.toNat := by
  simp [toNat]

@[simp] theorem toNat_ofNat (width value : Nat) :
    toNat (ofNat width value) = value % 256 ^ width := by
  induction width generalizing value with
  | zero => rw [ofNat, toNat_nil, Nat.pow_zero, Nat.mod_one]
  | succ width ih =>
      rw [ofNat, toNat_append, ih, toNat_singleton, UInt8.toNat_ofNat', List.length_singleton,
        Nat.pow_one, Nat.pow_succ', Nat.mod_mul]
      omega

/-- A number that fits in a width is read back from it. -/
theorem toNat_ofNat_of_lt {width value : Nat} (fits : value < 256 ^ width) :
    toNat (ofNat width value) = value := by
  rw [toNat_ofNat, Nat.mod_eq_of_lt fits]

@[simp] theorem ofNat_toNat (bytes : Bytes) : ofNat bytes.length bytes.toNat = bytes := by
  induction bytes using List.reverseRecOn with
  | nil => rfl
  | append_singleton front last ih =>
      have lastBound : last.toNat < 256 := last.toNat_lt
      have value : toNat (front ++ [last]) = 256 * toNat front + last.toNat := by
        rw [toNat_append, toNat_singleton, List.length_singleton]
        omega
      rw [List.length_append, List.length_singleton, ofNat, value,
        show (256 * toNat front + last.toNat) / 256 = toNat front by omega, ih]
      congr 2
      apply UInt8.toNat_inj.mp
      rw [UInt8.toNat_ofNat']
      omega

/-- Four bytes are those of a word. -/
theorem ofNat_toNat_uint32 {bytes : Bytes} (length : bytes.length = 4) :
    ofNat 4 (UInt32.ofNat bytes.toNat).toNat = bytes := by
  have bound : bytes.toNat < 2 ^ 32 := by
    have below := bytes.toNat_lt
    rwa [length] at below
  rw [UInt32.toNat_ofNat', Nat.mod_eq_of_lt bound, ← length, ofNat_toNat]

/-- Numbers with the same remainder have the same last bytes. -/
theorem ofNat_congr {width value other : Nat}
    (same : value % 256 ^ width = other % 256 ^ width) : ofNat width value = ofNat width other := by
  have bytes (number : Nat) : ofNat width (number % 256 ^ width) = ofNat width number := by
    have told := ofNat_toNat (ofNat width number)
    rwa [length_ofNat, toNat_ofNat] at told
  rw [← bytes value, same, bytes other]

end Bytes

/-- Octets are told by their number. -/
theorem Octets.toNat_eq_iff {n : Nat} (left right : Octets n) :
    left.toNat = right.toNat ↔ left = right := by
  constructor
  · intro same
    have leftBytes := Bytes.ofNat_toNat left.toList
    have rightBytes := Bytes.ofNat_toNat right.toList
    rw [left.length_toList] at leftBytes
    rw [right.length_toList] at rightBytes
    exact Octets.ext (leftBytes.symm.trans ((congrArg (Bytes.ofNat n) same).trans rightBytes))
  · rintro rfl
    rfl

/-! ## Bit strings -/

namespace Bits

@[simp] theorem toNat_nil : toNat [] = 0 := rfl

theorem toNat_append (left right : Bits) :
    toNat (left ++ right) = toNat left * 2 ^ right.length + toNat right :=
  horner_append 2 Bool.toNat left right

theorem toNat_lt (bits : Bits) : toNat bits < 2 ^ bits.length :=
  horner_lt 2 Bool.toNat Bool.toNat_lt bits

theorem toNat_singleton (bit : Bool) : toNat [bit] = bit.toNat := by
  simp [toNat]

@[simp] theorem toNat_ofNat (width value : Nat) :
    toNat (ofNat width value) = value % 2 ^ width := by
  induction width generalizing value with
  | zero => rw [ofNat, toNat_nil, Nat.pow_zero, Nat.mod_one]
  | succ width ih =>
      have lastBit : (decide (value % 2 = 1)).toNat = value % 2 := by
        rcases Nat.mod_two_eq_zero_or_one value with even | odd
        · simp [even]
        · simp [odd]
      rw [ofNat, toNat_append, ih, toNat_singleton, lastBit, List.length_singleton,
        Nat.pow_one, Nat.pow_succ', Nat.mod_mul]
      omega

@[simp] theorem ofNat_toNat (bits : Bits) : ofNat bits.length bits.toNat = bits := by
  induction bits using List.reverseRecOn with
  | nil => rfl
  | append_singleton front last ih =>
      have value : toNat (front ++ [last]) = 2 * toNat front + last.toNat := by
        rw [toNat_append, toNat_singleton, List.length_singleton]
        omega
      rw [List.length_append, List.length_singleton, ofNat, value]
      cases last with
      | false =>
          rw [Bool.toNat_false, Nat.add_zero, Nat.mul_div_cancel_left _ (by decide), ih]
          simp
      | true =>
          rw [Bool.toNat_true, show (2 * toNat front + 1) / 2 = toNat front by omega, ih]
          simp [Nat.add_mod]

/-- The upper and the lower digits of a number. -/
theorem ofNat_add (upper lower value : Nat) :
    ofNat (upper + lower) value = ofNat upper (value / 2 ^ lower) ++ ofNat lower value := by
  induction lower generalizing value with
  | zero => rw [Nat.add_zero, Nat.pow_zero, Nat.div_one, ofNat, List.append_nil]
  | succ lower ih =>
      rw [← Nat.add_assoc, ofNat, ih, ofNat, List.append_assoc, Nat.div_div_eq_div_mul,
        Nat.pow_succ']

theorem eq_of_toNat_eq {left right : Bits} (sameLength : left.length = right.length)
    (sameNumber : left.toNat = right.toNat) : left = right := by
  rw [← ofNat_toNat left, ← ofNat_toNat right, sameLength, sameNumber]

/-- Two numbers packed into one are one behind the other. -/
theorem ofNat_pair {lowerWidth lower : Nat} (below : lower < 2 ^ lowerWidth)
    (upperWidth upper : Nat) :
    ofNat (upperWidth + lowerWidth) (2 ^ lowerWidth * upper + lower) =
      ofNat upperWidth upper ++ ofNat lowerWidth lower := by
  have upperPart : (2 ^ lowerWidth * upper + lower) / 2 ^ lowerWidth = upper := by
    rw [Nat.mul_add_div (Nat.two_pow_pos _), Nat.div_eq_of_lt below, Nat.add_zero]
  have lowerPart : ofNat lowerWidth (2 ^ lowerWidth * upper + lower) = ofNat lowerWidth lower := by
    apply eq_of_toNat_eq
    · rw [length_ofNat, length_ofNat]
    · rw [toNat_ofNat, toNat_ofNat, Nat.mul_add_mod]
  rw [ofNat_add, upperPart, lowerPart]

/-! ## Bytes as bits -/

theorem ofBytes_cons (byte : UInt8) (rest : Bytes) :
    ofBytes (byte :: rest) = ofNat 8 byte.toNat ++ ofBytes rest := rfl

@[simp] theorem length_ofBytes (bytes : Bytes) : (ofBytes bytes).length = 8 * bytes.length := by
  induction bytes with
  | nil => rfl
  | cons byte rest ih =>
      rw [ofBytes_cons, List.length_append, length_ofNat, ih, List.length_cons]
      omega

theorem ofBytes_append (left right : Bytes) :
    ofBytes (left ++ right) = ofBytes left ++ ofBytes right :=
  List.flatMap_append

theorem drop_ofBytes (count : Nat) (bytes : Bytes) :
    (ofBytes bytes).drop (8 * count) = ofBytes (bytes.drop count) := by
  induction count generalizing bytes with
  | zero => rfl
  | succ count ih =>
      cases bytes with
      | nil => rfl
      | cons byte rest =>
          rw [Nat.mul_succ, Nat.add_comm, ← List.drop_drop, ofBytes_cons,
            List.drop_left' (length_ofNat 8 _), ih, List.drop_succ_cons]

theorem take_ofBytes (count : Nat) (bytes : Bytes) :
    (ofBytes bytes).take (8 * count) = ofBytes (bytes.take count) := by
  induction count generalizing bytes with
  | zero => rfl
  | succ count ih =>
      cases bytes with
      | nil => rfl
      | cons byte rest =>
          have whole : (ofNat 8 byte.toNat).length = 8 := length_ofNat 8 _
          rw [Nat.mul_succ, Nat.add_comm, ofBytes_cons, List.take_succ_cons, ofBytes_cons, ← ih]
          conv_lhs => rw [← whole]
          exact List.take_length_add_append _

theorem toNat_ofBytes (bytes : Bytes) : toNat (ofBytes bytes) = bytes.toNat := by
  induction bytes using List.reverseRecOn with
  | nil => rfl
  | append_singleton front last ih =>
      have lastBits : ofBytes [last] = ofNat 8 last.toNat := List.append_nil _
      have low : last.toNat % 2 ^ 8 = last.toNat := Nat.mod_eq_of_lt last.toNat_lt
      calc toNat (ofBytes (front ++ [last]))
          = Bytes.toNat front * 2 ^ 8 + last.toNat := by
            rw [ofBytes_append, lastBits, toNat_append, ih, toNat_ofNat, low, length_ofNat]
        _ = Bytes.toNat front * 256 ^ [last].length + Bytes.toNat [last] := by
            simp [Bytes.toNat_singleton]
        _ = Bytes.toNat (front ++ [last]) := (Bytes.toNat_append front [last]).symm

/-- Bytes of a number are bits of the number. -/
theorem ofBytes_ofNat (count number : Nat) :
    ofBytes (Bytes.ofNat count number) = ofNat (8 * count) number := by
  apply eq_of_toNat_eq
  · rw [length_ofBytes, Bytes.length_ofNat, length_ofNat]
  · rw [toNat_ofBytes, Bytes.toNat_ofNat, toNat_ofNat, show (256 : Nat) = 2 ^ 8 from rfl,
      ← Nat.pow_mul]

@[simp] theorem length_toBytes (bits : Bits) : (toBytes bits).length = bits.length / 8 :=
  Bytes.length_ofNat _ _

@[simp] theorem toBytes_ofBytes (bytes : Bytes) : toBytes (ofBytes bytes) = bytes := by
  rw [toBytes, length_ofBytes, toNat_ofBytes, Nat.mul_div_cancel_left _ (by decide),
    Bytes.ofNat_toNat]

/-- Bits that fill whole bytes survive being turned into bytes. -/
theorem ofBytes_toBytes {bits : Bits} {count : Nat} (whole : bits.length = 8 * count) :
    ofBytes (toBytes bits) = bits := by
  have sameLength : (ofBytes (toBytes bits)).length = bits.length := by
    rw [length_ofBytes, length_toBytes, whole, Nat.mul_div_cancel_left _ (by decide)]
  have bound : bits.toNat < 256 ^ (bits.length / 8) := by
    rw [whole, Nat.mul_div_cancel_left _ (by decide), show (256 : Nat) = 2 ^ 8 from rfl,
      ← Nat.pow_mul, ← whole]
    exact toNat_lt bits
  apply eq_of_toNat_eq sameLength
  rw [toNat_ofBytes, toBytes, Bytes.toNat_ofNat_of_lt bound]

end Bits

end PacketProtection

import PacketProtection.Hex

/-!
# Digits of hexadecimal text

Each byte is written as two of the sixteen lowercase digits.  A digit is one byte
of UTF-8 text, from which its value is read back, so what was written is read as
the same byte string (`decode_encode`).
-/

namespace PacketProtection.Hex

/-- The sixteen digits that are written. -/
def lowerDigits : List Char := "0123456789abcdef".toList

theorem digit_mem : ∀ value < 16, digit value ∈ lowerDigits := by decide

theorem mem_pair {byte : UInt8} {c : Char} (member : c ∈ pair byte) : c ∈ lowerDigits := by
  have bound : byte.toNat < 256 := byte.toNat_lt
  rcases List.mem_cons.mp member with rfl | low
  · exact digit_mem _ (by omega)
  · obtain rfl := List.mem_singleton.mp low
    exact digit_mem _ (by omega)

theorem toList_encode (bytes : Bytes) : (encode bytes).toList = bytes.flatMap pair := by
  rw [encode, String.toList_ofList]

theorem length_encode (bytes : Bytes) : (encode bytes).length = 2 * bytes.length := by
  rw [← String.length_toList, toList_encode]
  induction bytes with
  | nil => rfl
  | cons byte rest ih =>
      rw [List.flatMap_cons, List.length_append, ih, List.length_cons]
      show 2 + _ = _
      omega

theorem mem_encode {bytes : Bytes} {c : Char} (member : c ∈ (encode bytes).toList) :
    c ∈ lowerDigits := by
  rw [toList_encode] at member
  obtain ⟨byte, -, inPair⟩ := List.mem_flatMap.mp member
  exact mem_pair inPair

/-! ## Reading what was written -/

/-- The byte of a written digit. -/
def digitByte (value : Nat) : UInt8 :=
  UInt8.ofNat (digit value).toNat

theorem utf8EncodeChar_digit :
    ∀ value < 16, String.utf8EncodeChar (digit value) = [digitByte value] := by
  decide

theorem digitValue?_digitByte : ∀ value < 16, digitValue? (digitByte value) = some value := by
  decide

/-- The digits of a byte string, as bytes of text. -/
def digits (bytes : Bytes) : Bytes :=
  bytes.flatMap fun byte => [digitByte (byte.toNat / 16), digitByte (byte.toNat % 16)]

theorem digits_cons (byte : UInt8) (rest : Bytes) :
    digits (byte :: rest) =
      digitByte (byte.toNat / 16) :: digitByte (byte.toNat % 16) :: digits rest :=
  rfl

theorem length_digits (bytes : Bytes) : (digits bytes).length = 2 * bytes.length := by
  induction bytes with
  | nil => rfl
  | cons byte rest ih =>
      rw [digits_cons, List.length_cons, List.length_cons, ih, List.length_cons]
      omega

/-- The UTF-8 form of a text, character by character. -/
theorem ofString_eq (text : String) :
    Bytes.ofString text = text.toList.flatMap String.utf8EncodeChar := by
  rw [Bytes.ofString, String.toUTF8, ← String.ofList_toList (s := text), String.toByteArray_ofList,
    List.utf8Encode, List.toList_data_toByteArray, String.toList_ofList]

theorem ofString_encode (bytes : Bytes) : Bytes.ofString (encode bytes) = digits bytes := by
  rw [ofString_eq, toList_encode, List.flatMap_assoc, digits]
  congr 1
  funext byte
  have bound : byte.toNat < 256 := byte.toNat_lt
  simp only [pair, List.flatMap_cons, List.flatMap_nil]
  rw [utf8EncodeChar_digit _ (by omega), utf8EncodeChar_digit _ (by omega)]
  rfl

theorem decodePairs_pair (position : Nat) (byte : UInt8) (rest : Bytes) :
    decodePairs position (digitByte (byte.toNat / 16) :: digitByte (byte.toNat % 16) :: rest) =
      (decodePairs (position + 2) rest).map (byte :: ·) := by
  have bound : byte.toNat < 256 := byte.toNat_lt
  have whole : 16 * (byte.toNat / 16) + byte.toNat % 16 = byte.toNat := Nat.div_add_mod _ _
  rw [decodePairs, digitAt, digitAt, digitValue?_digitByte _ (by omega),
    digitValue?_digitByte _ (by omega)]
  simp only [bind, Except.bind, whole, UInt8.ofNat_toNat]
  cases decodePairs (position + 2) rest <;> rfl

theorem decodePairs_digits (position : Nat) (bytes : Bytes) :
    decodePairs position (digits bytes) = .ok bytes := by
  induction bytes generalizing position with
  | nil => rfl
  | cons byte rest ih =>
      rw [digits_cons, decodePairs_pair, ih]
      rfl

/-- What was written is read back. -/
theorem decode_encode (bytes : Bytes) : decode (Bytes.ofString (encode bytes)) = .ok bytes := by
  rw [ofString_encode, decode, length_digits, if_neg (by omega), decodePairs_digits]

end PacketProtection.Hex

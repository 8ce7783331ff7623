import PacketProtection.Association.Value
import PacketProtection.Log
import PacketProtection.Proofs.HexText

/-!
# Which values are hexadecimal

A value of an association file *has digits* if it is these digits, with or without one
`0x` in front of them.  It is read as a byte string if they are an even number of
hexadecimal digits, and then as the one that is written with them in lower case
(`decodeHex_eq_ok_iff`, `exists_decodeHex_iff`).  No digit is an `x`, so there is only
one way to tell the mark from the digits.
-/

namespace PacketProtection.Association

/-- A text is some digits, with or without `0x` in front. -/
def HasDigits (text : String) (digits : List Char) : Prop :=
  text.toList = digits ∨ text.toList = '0' :: 'x' :: digits

/-- A text is an even number of hexadecimal digits, with or without `0x` in front. -/
def IsHexValue (text : String) : Prop :=
  ∃ digits, HasDigits text digits ∧ digits.length % 2 = 0 ∧ ∀ c ∈ digits, c ∈ Hex.readable

theorem hasDigits_self (text : String) : HasDigits text text.toList :=
  .inl rfl

theorem hasDigits_marked (text : String) : HasDigits ("0x" ++ text) text.toList :=
  .inr (String.toList_append.trans rfl)

/-! ## Reading -/

variable {text : String} {bytes : Bytes} {digits : List Char}

theorem decodeHex_marked (marked : text.toList = '0' :: 'x' :: digits) :
    decodeHex text = (Hex.decode (Bytes.ofString (String.ofList digits))).mapError
      (.hex (String.ofList digits)) := by
  simp only [decodeHex, marked]

theorem decodeHex_bare (bare : ∀ digits, text.toList ≠ '0' :: 'x' :: digits) :
    decodeHex text = (Hex.decode (Bytes.ofString text)).mapError (.hex text) := by
  rw [decodeHex]
  split
  · exact absurd ‹_› (bare _)
  · rfl

/-- Some of the digits that a text has are what is read. -/
theorem exists_hasDigits (text : String) : ∃ digits, HasDigits text digits ∧
    decodeHex text = (Hex.decode (Bytes.ofString (String.ofList digits))).mapError
      (.hex (String.ofList digits)) := by
  by_cases marked : ∃ digits, text.toList = '0' :: 'x' :: digits
  · obtain ⟨digits, marked⟩ := marked
    exact ⟨digits, .inr marked, decodeHex_marked marked⟩
  · refine ⟨text.toList, hasDigits_self text, ?_⟩
    rw [String.ofList_toList]
    exact decodeHex_bare (not_exists.mp marked)

theorem not_readable_x : 'x' ∉ Hex.readable := by decide

/-- Hexadecimal digits have no mark of their own. -/
theorem decodeHex_of_hasDigits (has : HasDigits text digits)
    (all : ∀ c ∈ digits, c ∈ Hex.readable) :
    decodeHex text = (Hex.decode (Bytes.ofString (String.ofList digits))).mapError
      (.hex (String.ofList digits)) := by
  rcases has with rfl | marked
  · rw [String.ofList_toList]
    refine decodeHex_bare fun rest marked => not_readable_x (all 'x' ?_)
    rw [marked]
    exact List.mem_cons_of_mem _ List.mem_cons_self
  · exact decodeHex_marked marked

/-- A byte string is read from its own text, in either case and with or without a mark. -/
theorem decodeHex_eq_ok_iff :
    decodeHex text = .ok bytes ↔
      ∃ digits, HasDigits text digits ∧ digits.map Char.toLower = (Hex.encode bytes).toList := by
  constructor
  · intro read
    obtain ⟨digits, has, reading⟩ := exists_hasDigits text
    rw [reading, mapError_eq_ok, Hex.decode_ofString_eq_ok_iff, String.toList_ofList] at read
    exact ⟨digits, has, read⟩
  · rintro ⟨digits, has, written⟩
    have read : Hex.decode (Bytes.ofString (String.ofList digits)) = .ok bytes := by
      rwa [Hex.decode_ofString_eq_ok_iff, String.toList_ofList]
    have all := (Hex.exists_decode_ofString_iff.mp ⟨bytes, read⟩).2
    rw [String.toList_ofList] at all
    rw [decodeHex_of_hasDigits has all, read]
    rfl

/-- An even number of digits is hexadecimal, and nothing else is. -/
theorem exists_decodeHex_iff (text : String) :
    (∃ bytes, decodeHex text = .ok bytes) ↔ IsHexValue text := by
  constructor
  · rintro ⟨bytes, read⟩
    obtain ⟨digits, has, reading⟩ := exists_hasDigits text
    rw [reading, mapError_eq_ok] at read
    have accepted := Hex.exists_decode_ofString_iff.mp ⟨bytes, read⟩
    rw [String.toList_ofList] at accepted
    exact ⟨digits, has, accepted⟩
  · rintro ⟨digits, has, accepted⟩
    have shown := accepted
    rw [← String.toList_ofList (l := digits)] at shown
    obtain ⟨bytes, read⟩ := Hex.exists_decode_ofString_iff.mpr shown
    refine ⟨bytes, ?_⟩
    rw [decodeHex_of_hasDigits has accepted.2, read]
    rfl

/-- What is written is read back, with or without a mark. -/
theorem decodeHex_of_encode (has : HasDigits text (Hex.encode bytes).toList) :
    decodeHex text = .ok bytes := by
  have written : ∀ c ∈ Hex.lowerDigits, c ∈ Hex.readable := Hex.forall_mem_of_all (by decide)
  rw [decodeHex_of_hasDigits has fun c member => written c (Hex.mem_encode member),
    String.ofList_toList, Hex.decode_encode]
  rfl

/-! ## What is refused -/

/-- The digits of a text are all of it but the mark. -/
theorem HasDigits.length_mod_two (has : HasDigits text digits) :
    text.length % 2 = digits.length % 2 := by
  rw [← String.length_toList]
  rcases has with whole | marked
  · rw [whole]
  · rw [marked, List.length_cons, List.length_cons]
    omega

theorem IsHexValue.even (hex : IsHexValue text) : text.length % 2 = 0 := by
  obtain ⟨digits, has, even, -⟩ := hex
  exact has.length_mod_two.trans even

/-- A mark in upper case is none, and behind a mark there is no other. -/
theorem IsHexValue.mark (hex : IsHexValue text) :
    ¬['0', 'X'] <+: text.toList ∧ ¬['0', 'x', '0', 'x'] <+: text.toList := by
  obtain ⟨digits, has, -, all⟩ := hex
  constructor
  · rintro ⟨rest, spelled⟩
    rcases has with whole | marked
    · exact absurd (all 'X' (by simp [← whole, ← spelled])) (by decide)
    · simp [marked] at spelled
  · rintro ⟨rest, spelled⟩
    refine not_readable_x (all 'x' ?_)
    rcases has with whole | marked
    · simp [← whole, ← spelled]
    · obtain rfl : '0' :: 'x' :: rest = digits := by simpa [marked] using spelled
      simp

/-- There is nothing but digits and the mark, so no white space of any kind. -/
theorem IsHexValue.mem (hex : IsHexValue text) {c : Char} (member : c ∈ text.toList) :
    c ∈ 'x' :: Hex.readable := by
  obtain ⟨digits, has, -, all⟩ := hex
  rcases has with rfl | marked
  · exact List.mem_cons_of_mem _ (all c member)
  · rw [marked] at member
    rcases List.mem_cons.mp member with rfl | member
    · decide
    · rcases List.mem_cons.mp member with rfl | member
      · exact List.mem_cons_self
      · exact List.mem_cons_of_mem _ (all c member)

end PacketProtection.Association

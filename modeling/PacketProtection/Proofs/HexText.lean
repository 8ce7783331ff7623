import PacketProtection.Proofs.HexDigits

/-!
# Which texts are hexadecimal

A text is read as a byte string if it is made of an even number of digits, and then
the byte string is the one whose own digits are those of the text in lower case
(`decode_eq_ok_iff`).  There are two ways to fail, and the count of the digits comes
before the digits themselves: a text of odd length is refused as such
(`decode_eq_oddLength_iff`), and any other text is refused for its *first invalid*
byte, which is named with its position (`decode_eq_invalidDigit_iff`).

*Characters.*  The digits are ASCII, so a text of characters is hexadecimal if its
characters are (`isDigit_ofString_iff`), whatever else can stand in a text.
-/

namespace PacketProtection.Hex

/-! ## Digits of either case -/

/-- The digits that are read. -/
def readable : List Char := "0123456789abcdefABCDEF".toList

/-- Is a byte of text a digit? -/
def IsDigit (byte : UInt8) : Prop :=
  Char.ofNat byte.toNat ∈ readable

instance : DecidablePred IsDigit := fun _ => inferInstanceAs (Decidable (_ ∈ _))

/-- A byte of text in lower case; only the letters of ASCII have one. -/
def lower (byte : UInt8) : UInt8 :=
  if 65 ≤ byte ∧ byte ≤ 90 then byte + 32 else byte

/-- What holds of the members of a list is checked by going through the list. -/
theorem forall_mem_of_all {α : Type} {P : α → Prop} [DecidablePred P] {members : List α}
    (all : members.all (P ·) = true) : ∀ a ∈ members, P a := fun a member =>
  of_decide_eq_true (List.all_eq_true.mp all a member)

theorem forall_byte {P : UInt8 → Prop} (all : ∀ code < 256, P (UInt8.ofNat code)) (byte : UInt8) :
    P byte := by
  have found := all byte.toNat byte.toNat_lt
  rwa [UInt8.ofNat_toNat] at found

/-- The case of a digit makes no difference for its value. -/
theorem digitValue?_lower (byte : UInt8) : digitValue? (lower byte) = digitValue? byte := by
  revert byte
  exact forall_byte (by decide +kernel)

theorem lower_of_digitValue? {byte : UInt8} {value : Nat} (found : digitValue? byte = some value) :
    lower byte = digitByte value := by
  have all : ∀ code < 256,
      (digitValue? (UInt8.ofNat code)).all (lower (UInt8.ofNat code) = digitByte ·) = true := by
    decide +kernel
  have written := forall_byte
    (P := fun byte => (digitValue? byte).all (lower byte = digitByte ·) = true) all byte
  rw [found] at written
  exact of_decide_eq_true written

/-- A digit has the value for which its lower case is written. -/
theorem digitValue?_eq_some_iff {byte : UInt8} {value : Nat} (small : value < 16) :
    digitValue? byte = some value ↔ lower byte = digitByte value := by
  refine ⟨lower_of_digitValue?, fun written => ?_⟩
  rw [← digitValue?_lower, written, digitValue?_digitByte value small]

theorem digitValue?_lt {byte : UInt8} {value : Nat} (found : digitValue? byte = some value) :
    value < 16 := by
  grind [digitValue?]

theorem isDigit_iff_exists (byte : UInt8) :
    IsDigit byte ↔ ∃ value, digitValue? byte = some value := by
  rw [← Option.isSome_iff_exists]
  revert byte
  exact forall_byte (by decide +kernel)

theorem isDigit_lower (byte : UInt8) : IsDigit (lower byte) ↔ IsDigit byte := by
  rw [isDigit_iff_exists, isDigit_iff_exists, digitValue?_lower]

theorem isDigit_digitByte : ∀ value < 16, IsDigit (digitByte value) := by decide

theorem isDigit_of_mem_digits {byte : UInt8} {bytes : Bytes} (member : byte ∈ digits bytes) :
    IsDigit byte := by
  obtain ⟨written, -, inPair⟩ := List.mem_flatMap.mp member
  have bound : written.toNat < 256 := written.toNat_lt
  rcases List.mem_cons.mp inPair with rfl | low
  · exact isDigit_digitByte _ (by omega)
  · obtain rfl := List.mem_singleton.mp low
    exact isDigit_digitByte _ (by omega)

/-- The two halves of a byte are the values of its digits. -/
theorem halves_ofNat {high low : Nat} (highSmall : high < 16) (lowSmall : low < 16) :
    (UInt8.ofNat (16 * high + low)).toNat / 16 = high ∧
      (UInt8.ofNat (16 * high + low)).toNat % 16 = low := by
  rw [UInt8.toNat_ofNat', Nat.mod_eq_of_lt (by omega)]
  omega

/-! ## The first invalid byte -/

/-- A byte of a text is no digit, `position` bytes stand before it, and those are
digits. -/
structure FirstInvalid (text : Bytes) (byte : UInt8) (position : Nat) : Prop where
  digits_before : ∀ earlier ∈ text.take position, IsDigit earlier
  stands : text[position]? = some byte
  invalid : ¬IsDigit byte

theorem digits_or_firstInvalid (text : Bytes) :
    (∀ byte ∈ text, IsDigit byte) ∨ ∃ byte position, FirstInvalid text byte position := by
  induction text with
  | nil => exact .inl (by simp)
  | cons head rest ih =>
      by_cases digit : IsDigit head
      · rcases ih with all | ⟨byte, position, first⟩
        · exact .inl (by simpa using ⟨digit, all⟩)
        · refine .inr ⟨byte, position + 1, ?_, first.stands, first.invalid⟩
          simpa using ⟨digit, first.digits_before⟩
      · exact .inr ⟨head, 0, by simp, rfl, digit⟩

/-! ## Reading pairs -/

theorem digitAt_of_isDigit {byte : UInt8} (digit : IsDigit byte) (position : Nat) :
    ∃ value < 16, digitAt position byte = .ok value ∧ lower byte = digitByte value := by
  obtain ⟨value, found⟩ := (isDigit_iff_exists byte).mp digit
  have small := digitValue?_lt found
  refine ⟨value, small, ?_, (digitValue?_eq_some_iff small).mp found⟩
  rw [digitAt, found]

theorem digitAt_of_not_isDigit {byte : UInt8} (invalid : ¬IsDigit byte) (position : Nat) :
    digitAt position byte = .error (.invalidDigit byte position) := by
  have missing : digitValue? byte = none := by
    rw [isDigit_iff_exists, ← Option.isSome_iff_exists, Option.not_isSome_iff_eq_none] at invalid
    exact invalid
  rw [digitAt, missing]

/-- Digits are read as the byte string that is written with them. -/
theorem decodePairs_of_digits (position : Nat) (text : Bytes) (even : text.length % 2 = 0)
    (all : ∀ byte ∈ text, IsDigit byte) :
    ∃ bytes, decodePairs position text = .ok bytes ∧ text.map lower = digits bytes := by
  fun_induction decodePairs position text with
  | case1 position high low rest ih =>
      simp only [List.length_cons] at even
      simp only [List.forall_mem_cons] at all
      obtain ⟨highDigit, lowDigit, restDigits⟩ := all
      obtain ⟨upper, upperSmall, highRead, highLower⟩ := digitAt_of_isDigit highDigit position
      obtain ⟨under, underSmall, lowRead, lowLower⟩ := digitAt_of_isDigit lowDigit (position + 1)
      obtain ⟨bytes, read, written⟩ := ih (by omega) restDigits
      refine ⟨UInt8.ofNat (16 * upper + under) :: bytes, ?_, ?_⟩
      · rw [highRead, lowRead, read]
        rfl
      · obtain ⟨upperHalf, lowerHalf⟩ := halves_ofNat upperSmall underSmall
        rw [List.map_cons, List.map_cons, highLower, lowLower, written, digits_cons, upperHalf,
          lowerHalf]
  | case2 text position notPair =>
      match text, notPair with
      | [], _ => exact ⟨[], rfl, rfl⟩
      | [_], _ => simp at even
      | high :: low :: rest, notPair => exact absurd rfl (notPair high low rest)

/-- An invalid byte is found by the pair it stands in. -/
theorem decodePairs_of_firstInvalid (start : Nat) (text : Bytes) (even : text.length % 2 = 0)
    {byte : UInt8} {position : Nat} (first : FirstInvalid text byte position) :
    decodePairs start text = .error (.invalidDigit byte (start + position)) := by
  fun_induction decodePairs start text generalizing position with
  | case1 start high low rest ih =>
      simp only [List.length_cons] at even
      obtain ⟨before, stands, invalid⟩ := first
      match position with
      | 0 =>
          obtain rfl := Option.some.inj stands
          rw [digitAt_of_not_isDigit invalid]
          rfl
      | 1 =>
          obtain rfl := Option.some.inj stands
          obtain ⟨_, -, highRead, -⟩ := digitAt_of_isDigit (before high (by simp)) start
          rw [highRead, digitAt_of_not_isDigit invalid]
          rfl
      | position + 2 =>
          simp only [List.take_succ_cons, List.forall_mem_cons] at before
          obtain ⟨highDigit, lowDigit, restDigits⟩ := before
          obtain ⟨_, -, highRead, -⟩ := digitAt_of_isDigit highDigit start
          obtain ⟨_, -, lowRead, -⟩ := digitAt_of_isDigit lowDigit (start + 1)
          rw [highRead, lowRead, ih (by omega) ⟨restDigits, stands, invalid⟩, Nat.add_assoc,
            Nat.add_comm 2 position]
          rfl
  | case2 text start notPair =>
      match text, notPair with
      | [], _ => cases first.stands
      | [_], _ => simp at even
      | high :: low :: rest, notPair => exact absurd rfl (notPair high low rest)

/-! ## Reading a text -/

variable {text bytes : Bytes}

theorem decode_of_odd (odd : text.length % 2 = 1) : decode text = .error .oddLength :=
  if_pos odd

theorem decode_of_even (even : text.length % 2 = 0) : decode text = decodePairs 0 text :=
  if_neg (by omega)

theorem decode_of_firstInvalid (even : text.length % 2 = 0) {byte : UInt8} {position : Nat}
    (first : FirstInvalid text byte position) :
    decode text = .error (.invalidDigit byte position) := by
  rw [decode_of_even even, decodePairs_of_firstInvalid 0 text even first, Nat.zero_add]

theorem decode_of_digits (even : text.length % 2 = 0) (all : ∀ byte ∈ text, IsDigit byte) :
    ∃ bytes, decode text = .ok bytes ∧ text.map lower = digits bytes := by
  rw [decode_of_even even]
  exact decodePairs_of_digits 0 text even all

/-- What becomes of a text is decided by its length and its first invalid byte. -/
theorem decode_cases (text : Bytes) :
    (text.length % 2 = 1 ∧ decode text = .error .oddLength) ∨
    (text.length % 2 = 0 ∧ ∃ byte position, FirstInvalid text byte position ∧
      decode text = .error (.invalidDigit byte position)) ∨
    (text.length % 2 = 0 ∧ (∀ byte ∈ text, IsDigit byte) ∧
      ∃ bytes, decode text = .ok bytes ∧ text.map lower = digits bytes) := by
  rcases Nat.mod_two_eq_zero_or_one text.length with even | odd
  · rcases digits_or_firstInvalid text with all | ⟨byte, position, first⟩
    · exact .inr (.inr ⟨even, all, decode_of_digits even all⟩)
    · exact .inr (.inl ⟨even, byte, position, first, decode_of_firstInvalid even first⟩)
  · exact .inl ⟨odd, decode_of_odd odd⟩

/-- An even number of digits is hexadecimal, and nothing else is. -/
theorem exists_decode_iff :
    (∃ bytes, decode text = .ok bytes) ↔
      text.length % 2 = 0 ∧ ∀ byte ∈ text, IsDigit byte := by
  constructor
  · rintro ⟨bytes, read⟩
    rcases decode_cases text with ⟨-, failed⟩ | ⟨-, _, _, -, failed⟩ | ⟨even, all, -⟩
    · cases failed.symm.trans read
    · cases failed.symm.trans read
    · exact ⟨even, all⟩
  · rintro ⟨even, all⟩
    obtain ⟨bytes, read, -⟩ := decode_of_digits even all
    exact ⟨bytes, read⟩

theorem digits_injective : Function.Injective digits := fun bytes other same => by
  have read := decode_encode bytes
  rw [ofString_encode, same, ← ofString_encode, decode_encode] at read
  exact (Except.ok.inj read).symm

/-- A byte string is read from its own digits, in either case. -/
theorem decode_eq_ok_iff :
    decode text = .ok bytes ↔ text.map lower = Bytes.ofString (encode bytes) := by
  rw [ofString_encode]
  constructor
  · intro read
    obtain ⟨even, all⟩ := exists_decode_iff.mp ⟨bytes, read⟩
    obtain ⟨other, otherRead, written⟩ := decode_of_digits even all
    obtain rfl := Except.ok.inj (otherRead.symm.trans read)
    exact written
  · intro written
    have even : text.length % 2 = 0 := by
      have length := congrArg List.length written
      rw [List.length_map, length_digits] at length
      omega
    have all : ∀ byte ∈ text, IsDigit byte := fun byte member =>
      (isDigit_lower byte).mp (isDigit_of_mem_digits (written ▸ List.mem_map_of_mem member))
    obtain ⟨other, read, otherWritten⟩ := decode_of_digits even all
    rw [read, digits_injective (otherWritten.symm.trans written)]

/-- The length is looked at before the digits. -/
theorem decode_eq_oddLength_iff : decode text = .error .oddLength ↔ text.length % 2 = 1 := by
  refine ⟨fun failed => ?_, decode_of_odd⟩
  rcases decode_cases text with ⟨odd, -⟩ | ⟨-, _, _, -, other⟩ | ⟨-, -, _, read, -⟩
  · exact odd
  · cases other.symm.trans failed
  · cases read.symm.trans failed

/-- The first invalid byte is reported with its position. -/
theorem decode_eq_invalidDigit_iff {byte : UInt8} {position : Nat} :
    decode text = .error (.invalidDigit byte position) ↔
      text.length % 2 = 0 ∧ FirstInvalid text byte position := by
  refine ⟨fun failed => ?_, fun ⟨even, first⟩ => decode_of_firstInvalid even first⟩
  rcases decode_cases text with ⟨-, other⟩ | ⟨even, _, _, first, other⟩ | ⟨-, -, _, read, -⟩
  · cases other.symm.trans failed
  · cases other.symm.trans failed
    exact ⟨even, first⟩
  · cases read.symm.trans failed

/-! ## Characters -/

theorem forall_ascii {P : Char → Prop} (all : ∀ code < 128, P (Char.ofNat code)) {c : Char}
    (ascii : c.toNat < 128) : P c := by
  have found := all c.toNat ascii
  rwa [Char.ofNat_toNat] at found

theorem ascii_of_readable : ∀ c ∈ readable, c.toNat < 128 :=
  forall_mem_of_all (by decide)

/-- Where a character is no ASCII, neither is its first byte. -/
theorem utf8EncodeChar_of_not_ascii {c : Char} (wide : 128 ≤ c.toNat) :
    ∃ first rest, String.utf8EncodeChar c = first :: rest ∧ 128 ≤ first.toNat := by
  have large : ¬c.val.toNat ≤ 127 := by
    show ¬c.toNat ≤ 127
    omega
  simp only [String.utf8EncodeChar, if_neg large]
  split
  · refine ⟨_, _, rfl, ?_⟩
    rw [UInt8.toNat_ofNat']
    omega
  · split
    · refine ⟨_, _, rfl, ?_⟩
      rw [UInt8.toNat_ofNat']
      omega
    · refine ⟨_, _, rfl, ?_⟩
      rw [UInt8.toNat_ofNat']
      omega

theorem utf8EncodeChar_of_ascii {c : Char} (ascii : c.toNat < 128) :
    String.utf8EncodeChar c = [UInt8.ofNat c.toNat] :=
  if_pos (Nat.lt_succ_iff.mp ascii)

theorem isDigit_ofNat_iff {c : Char} (ascii : c.toNat < 128) :
    IsDigit (UInt8.ofNat c.toNat) ↔ c ∈ readable := by
  rw [IsDigit, UInt8.toNat_ofNat', Nat.mod_eq_of_lt (by omega), Char.ofNat_toNat]

theorem lt_of_isDigit {byte : UInt8} (digit : IsDigit byte) : byte.toNat < 128 := by
  obtain ⟨value, found⟩ := (isDigit_iff_exists byte).mp digit
  grind [digitValue?]

/-- A character is a digit if its bytes are. -/
theorem isDigit_utf8EncodeChar_iff (c : Char) :
    (∀ byte ∈ String.utf8EncodeChar c, IsDigit byte) ↔ c ∈ readable := by
  rcases Nat.lt_or_ge c.toNat 128 with ascii | wide
  · rw [utf8EncodeChar_of_ascii ascii, List.forall_mem_singleton, isDigit_ofNat_iff ascii]
  · obtain ⟨first, rest, bytes, large⟩ := utf8EncodeChar_of_not_ascii wide
    constructor
    · intro all
      have small := lt_of_isDigit (all first (bytes ▸ List.mem_cons_self))
      omega
    · intro member
      have small := ascii_of_readable c member
      omega

theorem isDigit_ofString_iff (text : String) :
    (∀ byte ∈ Bytes.ofString text, IsDigit byte) ↔ ∀ c ∈ text.toList, c ∈ readable := by
  simp only [ofString_eq, List.mem_flatMap, forall_exists_index, and_imp,
    ← isDigit_utf8EncodeChar_iff]
  exact ⟨fun all c member byte inside => all byte c member inside,
    fun all byte c member inside => all c member byte inside⟩

/-- A text of digits has one byte a character. -/
theorem ofString_of_readable {text : String} (all : ∀ c ∈ text.toList, c ∈ readable) :
    Bytes.ofString text = text.toList.map fun c => UInt8.ofNat c.toNat := by
  rw [ofString_eq, List.map_eq_flatMap, List.flatMap_def, List.flatMap_def]
  exact congrArg List.flatten (List.map_congr_left fun c member =>
    utf8EncodeChar_of_ascii (ascii_of_readable c (all c member)))

theorem length_ofString_of_readable {text : String} (all : ∀ c ∈ text.toList, c ∈ readable) :
    (Bytes.ofString text).length = text.toList.length := by
  rw [ofString_of_readable all, List.length_map]

/-- It makes no difference whether the characters or the bytes of a text are looked at. -/
theorem exists_decode_ofString_iff {text : String} :
    (∃ bytes, decode (Bytes.ofString text) = .ok bytes) ↔
      text.toList.length % 2 = 0 ∧ ∀ c ∈ text.toList, c ∈ readable := by
  rw [exists_decode_iff, isDigit_ofString_iff]
  refine and_congr_left fun all => ?_
  rw [length_ofString_of_readable all]

/-! ### Digits given as characters -/

theorem toLower_eq_of_not_ascii {c : Char} (wide : 128 ≤ c.toNat) : c.toLower = c := by
  refine dif_neg ?_
  rintro ⟨-, upper⟩
  have small : c.toNat ≤ 90 := upper
  omega

theorem digit_lt_ascii : ∀ value < 16, (digit value).toNat < 128 := by decide

theorem toLower_lt_ascii {c : Char} (ascii : c.toNat < 128) : c.toLower.toNat < 128 :=
  forall_ascii (P := fun c => c.toLower.toNat < 128) (by decide +kernel) ascii

/-- It makes no difference whether a character or its byte is put in lower case. -/
theorem lower_ofNat {c : Char} (ascii : c.toNat < 128) :
    lower (UInt8.ofNat c.toNat) = UInt8.ofNat c.toLower.toNat :=
  forall_ascii (P := fun c => lower (UInt8.ofNat c.toNat) = UInt8.ofNat c.toLower.toNat)
    (by decide +kernel) ascii

theorem ofNat_inj {c other : Char} (ascii : c.toNat < 128) (otherAscii : other.toNat < 128) :
    UInt8.ofNat c.toNat = UInt8.ofNat other.toNat ↔ c = other := by
  rw [← UInt8.toNat_inj, UInt8.toNat_ofNat', UInt8.toNat_ofNat', Nat.mod_eq_of_lt (by omega),
    Nat.mod_eq_of_lt (by omega), Char.toNat_inj]

/-- A digit has the value for which its lower case is written. -/
theorem charValue?_eq_some_iff {c : Char} {value : Nat} (small : value < 16) :
    charValue? c = some value ↔ c.toLower = digit value := by
  rcases Nat.lt_or_ge c.toNat 128 with ascii | wide
  · rw [charValue?, if_pos ascii, digitValue?_eq_some_iff small, lower_ofNat ascii, digitByte,
      ofNat_inj (toLower_lt_ascii ascii) (digit_lt_ascii value small)]
  · rw [charValue?, if_neg (Nat.not_lt.mpr wide), toLower_eq_of_not_ascii wide]
    constructor
    · intro found
      cases found
    · rintro rfl
      exact absurd (digit_lt_ascii value small) (Nat.not_lt.mpr wide)

theorem charValue?_lt {c : Char} {value : Nat} (found : charValue? c = some value) : value < 16 :=
  digitValue?_lt (Option.ite_none_right_eq_some.mp found).2

theorem mem_readable_iff {c : Char} : c ∈ readable ↔ ∃ value, charValue? c = some value := by
  constructor
  · intro member
    have ascii := ascii_of_readable c member
    obtain ⟨value, found⟩ := (isDigit_iff_exists _).mp ((isDigit_ofNat_iff ascii).mpr member)
    refine ⟨value, ?_⟩
    rw [charValue?, if_pos ascii, found]
  · rintro ⟨value, found⟩
    obtain ⟨ascii, found⟩ := Option.ite_none_right_eq_some.mp found
    exact (isDigit_ofNat_iff ascii).mp ((isDigit_iff_exists _).mpr ⟨value, found⟩)

/-- What is written in lower case is read. -/
theorem mem_readable_of_toLower_mem {c : Char} (written : c.toLower ∈ lowerDigits) :
    c ∈ readable := by
  have digits : ∀ c ∈ lowerDigits, ∃ value < 16, c = digit value := forall_mem_of_all (by decide)
  obtain ⟨value, small, lowered⟩ := digits c.toLower written
  exact mem_readable_iff.mpr ⟨value, (charValue?_eq_some_iff small).mpr lowered⟩

theorem toLower_mem_readable : ∀ c ∈ readable, c.toLower ∈ readable :=
  forall_mem_of_all (by decide)

/-- The bytes of digits are in lower case if the digits are. -/
theorem map_lower_ofString {text : String} (all : ∀ c ∈ text.toList, c ∈ readable) :
    (Bytes.ofString text).map lower =
      Bytes.ofString (String.ofList (text.toList.map Char.toLower)) := by
  have lowered : ∀ c ∈ (String.ofList (text.toList.map Char.toLower)).toList, c ∈ readable := by
    rw [String.toList_ofList, List.forall_mem_map]
    exact fun c member => toLower_mem_readable c (all c member)
  rw [ofString_of_readable all, ofString_of_readable lowered, String.toList_ofList, List.map_map,
    List.map_map]
  exact List.map_congr_left fun c member => lower_ofNat (ascii_of_readable c (all c member))

theorem ofString_injective : Function.Injective Bytes.ofString := fun _ _ same =>
  String.toByteArray_inj.mp (ByteArray.ext (Array.toList_inj.mp same))

/-- A byte string is read from its own text, in either case. -/
theorem decode_ofString_eq_ok_iff {text : String} {bytes : Bytes} :
    decode (Bytes.ofString text) = .ok bytes ↔
      text.toList.map Char.toLower = (encode bytes).toList := by
  have reads (all : ∀ c ∈ text.toList, c ∈ readable) :
      decode (Bytes.ofString text) = .ok bytes ↔
        text.toList.map Char.toLower = (encode bytes).toList := by
    rw [decode_eq_ok_iff, map_lower_ofString all, ofString_injective.eq_iff, ← String.toList_inj,
      String.toList_ofList]
  constructor
  · intro read
    exact (reads (exists_decode_ofString_iff.mp ⟨bytes, read⟩).2).mp read
  · intro written
    refine (reads fun c member => mem_readable_of_toLower_mem ?_).mpr written
    have lowered : c.toLower ∈ (encode bytes).toList := written ▸ List.mem_map_of_mem member
    exact mem_encode lowered

end PacketProtection.Hex

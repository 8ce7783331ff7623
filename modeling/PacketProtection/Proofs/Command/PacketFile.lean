import PacketProtection.Command.PacketFile
import PacketProtection.Proofs.HexText

/-!
# Packets in hexadecimal files

Only the *visible* bytes of a hexadecimal file count, those that are no blanks
(`decode_hex`).  What a file holds, and for which fault it is refused, is therefore
what the text of its visible bytes stands for, and positions are counted in that text.

*Blanks.*  Two files are *respaced* forms of one another if blanks that were put in or
taken out, at any places, are all that tells them apart.  They have the same visible
bytes (`Respaced.visible_eq`), so the same becomes of both.
-/

namespace PacketProtection.PacketFile

/-- Space, tab, line feed, form feed and carriage return. -/
def blanks : Bytes := [0x20, 0x09, 0x0a, 0x0c, 0x0d]

theorem isBlank_iff (byte : UInt8) : isBlank byte = true ↔ byte ∈ blanks := by
  simp only [isBlank, blanks, Bool.or_eq_true, beq_iff_eq, List.mem_cons, List.not_mem_nil,
    or_false, or_assoc]

/-- The bytes of a file that are no blanks. -/
def visible (contents : Bytes) : Bytes :=
  contents.filter (· ∉ blanks)

theorem decode_hex (contents : Bytes) : decode .hex contents = Hex.decode (visible contents) := by
  have same : (fun byte => !isBlank byte) = fun byte => decide (byte ∉ blanks) := by
    funext byte
    rw [Bool.eq_iff_iff, Bool.not_eq_true', ← Bool.not_eq_true, isBlank_iff, decide_eq_true_iff]
  rw [decode, same, visible]

/-! ## Blanks -/

/-- Blanks put in or taken out are all that tells two files apart. -/
inductive Respaced : Bytes → Bytes → Prop
  | nil : Respaced [] []
  | insert {contents other : Bytes} {byte : UInt8} (blank : byte ∈ blanks)
      (rest : Respaced contents other) : Respaced contents (byte :: other)
  | remove {contents other : Bytes} {byte : UInt8} (blank : byte ∈ blanks)
      (rest : Respaced contents other) : Respaced (byte :: contents) other
  | keep {contents other : Bytes} (byte : UInt8)
      (rest : Respaced contents other) : Respaced (byte :: contents) (byte :: other)

theorem visible_cons_of_blank {byte : UInt8} (blank : byte ∈ blanks) (contents : Bytes) :
    visible (byte :: contents) = visible contents :=
  List.filter_cons_of_neg (by simpa using blank)

theorem Respaced.visible_eq {contents other : Bytes} (respaced : Respaced contents other) :
    visible contents = visible other := by
  induction respaced with
  | nil => rfl
  | insert blank _ ih => rw [visible_cons_of_blank blank, ih]
  | remove blank _ ih => rw [visible_cons_of_blank blank, ih]
  | keep byte _ ih =>
      by_cases blank : byte ∈ blanks
      · rw [visible_cons_of_blank blank, visible_cons_of_blank blank, ih]
      · rw [visible, visible, List.filter_cons_of_pos (by simpa using blank),
          List.filter_cons_of_pos (by simpa using blank)]
        exact congrArg (byte :: ·) ih

theorem Respaced.refl (contents : Bytes) : Respaced contents contents := by
  induction contents with
  | nil => exact .nil
  | cons byte _ ih => exact .keep byte ih

/-! ## Written files -/

/-- A written digit is no blank. -/
theorem visible_digits (packet : Bytes) : visible (Hex.digits packet) = Hex.digits packet := by
  rw [visible, List.filter_eq_self]
  intro byte member
  have digit := Hex.isDigit_of_mem_digits member
  have noBlank : ∀ blank ∈ blanks, ¬Hex.IsDigit blank :=
    Hex.forall_mem_of_all (by decide)
  simpa using fun blank => noBlank byte blank digit

theorem visible_append (contents more : Bytes) :
    visible (contents ++ more) = visible contents ++ visible more :=
  List.filter_append ..

theorem visible_encode_hex (packet : Bytes) : visible (encode .hex packet) = Hex.digits packet := by
  have written : encode .hex packet = Hex.digits packet ++ [0x0a] := by
    rw [encode, Hex.ofString_eq, String.toList_append, List.flatMap_append, ← Hex.ofString_eq,
      Hex.ofString_encode]
    rfl
  have newLine : visible [0x0a] = [] := by decide
  rw [written, visible_append, visible_digits, newLine, List.append_nil]

/-- **A hexadecimal file is read exactly.**  What was written is read back.  A file holds
a packet if its visible text is an even number of digits, and then it is the packet whose
digits these are in lower case.  Else the text is refused, for its odd length before all
else, or for its first invalid byte, which is named with its position in the visible text.
Blanks change nothing, wherever they are put in or taken out. -/
theorem decode_hex_exact :
    (∀ packet, decode .hex (encode .hex packet) = .ok packet) ∧
    (∀ contents,
      ((∃ packet, decode .hex contents = .ok packet) ↔
        (visible contents).length % 2 = 0 ∧ ∀ byte ∈ visible contents, Hex.IsDigit byte) ∧
      (∀ packet, decode .hex contents = .ok packet ↔
        (visible contents).map Hex.lower = Bytes.ofString (Hex.encode packet)) ∧
      (decode .hex contents = .error .oddLength ↔ (visible contents).length % 2 = 1) ∧
      (∀ byte position, decode .hex contents = .error (.invalidDigit byte position) ↔
        (visible contents).length % 2 = 0 ∧
          Hex.FirstInvalid (visible contents) byte position)) ∧
    (∀ contents other, Respaced contents other → decode .hex contents = decode .hex other) := by
  refine ⟨fun packet => ?_, fun contents => ?_, fun contents other respaced => ?_⟩
  · rw [decode_hex, visible_encode_hex, ← Hex.ofString_encode, Hex.decode_encode]
  · rw [decode_hex]
    exact ⟨Hex.exists_decode_iff, fun _ => Hex.decode_eq_ok_iff, Hex.decode_eq_oddLength_iff,
      fun _ _ => Hex.decode_eq_invalidDigit_iff⟩
  · rw [decode_hex, decode_hex, respaced.visible_eq]

/-- A line feed inside a byte instead of the space between two, and a vertical tab, which
is no blank, behind a form feed. -/
theorem decode_hex_exact_inside_a_byte :
    ∃ contents other : Bytes,
      contents = Bytes.ofString "4A 5b" ∧ other = Bytes.ofString "4\nA5b" ∧
      Respaced contents other ∧ decode .hex contents = decode .hex other ∧
      decode .hex other = .ok [0x4a, 0x5b] ∧
      decode .hex [0x34, 0x0c, 0x0b] = .error (.invalidDigit 0x0b 1) := by
  have respaced : Respaced (Bytes.ofString "4A 5b") (Bytes.ofString "4\nA5b") :=
    .keep 0x34 (.insert (show (0x0a : UInt8) ∈ blanks by decide) (.keep 0x41
      (.remove (show (0x20 : UInt8) ∈ blanks by decide) (.refl _))))
  obtain ⟨-, read, unchanged⟩ := decode_hex_exact
  have same := unchanged _ _ respaced
  obtain ⟨-, isPacket, -, -⟩ := read (Bytes.ofString "4\nA5b")
  obtain ⟨-, -, -, isInvalid⟩ := read [0x34, 0x0c, 0x0b]
  refine ⟨_, _, rfl, rfl, respaced, same, (isPacket _).mpr (by decide +kernel),
    (isInvalid _ _).mpr ⟨by decide, by decide +kernel, by decide, by decide +kernel⟩⟩

end PacketProtection.PacketFile

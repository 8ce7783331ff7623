import PacketProtection.Proofs.HexText
import PacketProtection.Yaml.Lexer

/-!
# Plain words

A *plain word* is made of letters, digits, underscores and dots.  Nothing in it is a mark,
a blank or a break, so wherever a plain scalar may stand it is read as itself: up to the
colon behind a key (`plainScalar_key`), or up to the end of its line and the blanks in front
of the next word (`plainScalar_value`).
-/

namespace PacketProtection.Yaml

open Hex (forall_mem_of_all)

/-! ## Characters -/

/-- The characters of plain words. -/
def plainChars : List Char :=
  "0123456789abcdefghijklmnopqrstuvwxyzABCDEFGHIJKLMNOPQRSTUVWXYZ_.".toList

/-- A text of such characters, and some of them. -/
structure IsPlain (word : List Char) : Prop where
  ne_nil : word ≠ []
  all : ∀ c ∈ word, c ∈ plainChars

instance (word : List Char) : Decidable (IsPlain word) :=
  decidable_of_iff (word ≠ [] ∧ word.all (· ∈ plainChars) = true)
    ⟨fun ⟨nonempty, all⟩ => ⟨nonempty, forall_mem_of_all all⟩, fun ⟨nonempty, all⟩ =>
      ⟨nonempty, List.all_eq_true.mpr fun c member => decide_eq_true (all c member)⟩⟩

theorem isBlank_plain : ∀ c ∈ plainChars, isBlank c = false :=
  forall_mem_of_all (by decide)

theorem isBreak_plain : ∀ c ∈ plainChars, isBreak c = false :=
  forall_mem_of_all (by decide)

theorem isIndicator_plain : ∀ c ∈ plainChars, Lexer.isIndicator c = false :=
  forall_mem_of_all (by decide)

theorem isPrintable_plain : ∀ c ∈ plainChars, isPrintable c = true :=
  forall_mem_of_all (by decide)

theorem utf8Size_plain : ∀ c ∈ plainChars, c.utf8Size = 1 :=
  forall_mem_of_all (by decide)

/-- No mark is a character of a plain word. -/
theorem ne_of_isIndicator {c mark : Char} (plain : c ∈ plainChars)
    (indicator : Lexer.isIndicator mark = true) : c ≠ mark := by
  rintro rfl
  rw [isIndicator_plain c plain] at indicator
  cases indicator

/-! ## Words -/

/-- A word ends where another word would be empty. -/
theorem plainWord_append {word rest : List Char} (plain : ∀ c ∈ word, c ∈ plainChars)
    (ends : plainWord false rest = some []) : plainWord false (word ++ rest) = some word := by
  induction word with
  | nil => exact ends
  | cons c word ih =>
      obtain ⟨head, tail⟩ := List.forall_mem_cons.mp plain
      have colon : c ≠ ':' := ne_of_isIndicator head (by decide)
      simp [plainWord, isBlank_plain c head, isBreak_plain c head, colon, ih tail]

theorem plainWord_colon {rest : List Char} (blank : startsBlank rest = true) :
    plainWord false (':' :: rest) = some [] := by
  simp [plainWord, blank]

theorem plainWord_lineFeed (rest : List Char) : plainWord false ('\n' :: rest) = some [] := rfl

/-! ## Starts -/

/-- A text starts with a word or with the colon behind one, or it is empty. -/
def StartsWord (rest : List Char) : Prop :=
  ∀ c ∈ rest.head?, c ∈ ':' :: plainChars

/-- Nothing that a word starts with is passed over. -/
theorem stays_of_word : ∀ c ∈ ':' :: plainChars,
    isBlank c = false ∧ isBreak c = false ∧ c ≠ '#' ∧ c ≠ orderMark :=
  forall_mem_of_all (by decide)

theorem IsPlain.exists_head {word : List Char} (plain : IsPlain word) (rest : List Char) :
    ∃ c tail, word ++ rest = c :: tail ∧ c ∈ plainChars := by
  obtain ⟨c, tail, rfl⟩ := List.exists_cons_of_ne_nil plain.ne_nil
  exact ⟨c, tail ++ rest, rfl, plain.all c List.mem_cons_self⟩

theorem IsPlain.startsWord {word : List Char} (plain : IsPlain word) (rest : List Char) :
    StartsWord (word ++ rest) := by
  obtain ⟨first, tail, start, wordChar⟩ := plain.exists_head rest
  rw [start]
  rintro c ⟨⟩
  exact List.mem_cons_of_mem _ wordChar

/-- Plain words take one byte for each character. -/
theorem foldl_utf8Size {word : List Char} (plain : ∀ c ∈ word, c ∈ plainChars) (bytes : Nat) :
    word.foldl (fun bytes c => bytes + c.utf8Size) bytes = bytes + word.length := by
  induction word generalizing bytes with
  | nil => rfl
  | cons c word ih =>
      obtain ⟨head, tail⟩ := List.forall_mem_cons.mp plain
      have one : c.utf8Size = 1 := utf8Size_plain c head
      rw [List.foldl_cons, ih tail, one, List.length_cons, Nat.add_assoc, Nat.add_comm 1]

/-! ## Cursors -/

namespace Cursor

/-- Where a cursor stands on its line, and what is left of the text. -/
structure At (cursor : Cursor) (column : Nat) (rest : List Char) : Prop where
  column_eq : cursor.column = column
  rest_eq : cursor.rest = rest

variable {cursor : Cursor} {front rest : List Char} {column : Nat}

@[simp] theorem rest_pass : (cursor.pass front rest).rest = rest := rfl

@[simp] theorem bound_pass : (cursor.pass front rest).bound = cursor.bound := rfl

@[simp] theorem line_pass : (cursor.pass front rest).line = cursor.line := rfl

@[simp] theorem column_pass :
    (cursor.pass front rest).column = cursor.column + front.length := rfl

theorem skip_of_append (ahead : cursor.rest = front ++ rest) :
    cursor.skip front.length = cursor.pass front rest := by
  rw [skip, ahead, List.take_left, List.drop_left]

theorem skip_one {c : Char} (ahead : cursor.rest = c :: rest) :
    cursor.skip 1 = cursor.pass [c] rest := by
  have one : cursor.rest = [c] ++ rest := ahead
  exact skip_of_append one

theorem skipWhile_of_append {kind : Char → Bool} (ahead : cursor.rest = front ++ rest)
    (all : ∀ c ∈ front, kind c = true) (ends : ∀ c ∈ rest.head?, kind c = false) :
    cursor.skipWhile kind = cursor.pass front rest := by
  have stops : rest.takeWhile kind = [] ∧ rest.dropWhile kind = rest := by
    cases rest with
    | nil => exact ⟨rfl, rfl⟩
    | cons c rest => simp [ends c rfl]
  rw [skipWhile, ahead, List.takeWhile_append_of_pos all, List.dropWhile_append_of_pos all,
    stops.1, stops.2, List.append_nil]

theorem takeBreak_lineFeed (ahead : cursor.rest = '\n' :: rest) :
    cursor.takeBreak =
      (['\n'], { cursor with
        rest, line := cursor.line + 1, column := 0, offset := cursor.offset + 1 }) := by
  simp only [takeBreak, ahead]
  rfl

end Cursor

/-! ## Gaps -/

theorem Gap.scan_of_starts {gap : Gap} {cursor : Cursor} (starts : StartsWord cursor.rest)
    (indent fuel : Nat) : gap.scan indent (fuel + 1) cursor = some (gap, cursor) := by
  rw [scan]
  cases ahead : cursor.rest with
  | nil => rfl
  | cons c rest =>
      obtain ⟨notBlank, notBreak, -⟩ := stays_of_word c (starts c (by rw [ahead]; rfl))
      simp only [notBlank, notBreak, Bool.false_eq_true, if_false]

/-- The spaces in front of the next line add nothing to a gap. -/
theorem Gap.scan_spaces (gap : Gap) {cursor : Cursor} {count fuel : Nat} {rest : List Char}
    (crossed : gap.crossed = true) (starts : StartsWord rest)
    (ahead : cursor.rest = List.replicate count ' ' ++ rest) (enough : count < fuel)
    (indent : Nat) :
    ∃ next, gap.scan indent fuel cursor = some (gap, next) ∧
      next.At (cursor.column + count) rest ∧ next.bound = cursor.bound := by
  obtain ⟨fuel, rfl⟩ := Nat.exists_eq_succ_of_ne_zero (Nat.ne_of_gt (Nat.zero_lt_of_lt enough))
  induction count generalizing cursor fuel with
  | zero =>
      rw [List.replicate_zero, List.nil_append] at ahead
      exact ⟨cursor, scan_of_starts (ahead ▸ starts) indent fuel, ⟨rfl, ahead⟩, rfl⟩
  | succ count ih =>
      rw [List.replicate_succ, List.cons_append] at ahead
      have inside : count < fuel := Nat.lt_of_succ_lt_succ enough
      obtain ⟨fuel, rfl⟩ := Nat.exists_eq_succ_of_ne_zero (Nat.ne_of_gt (Nat.zero_lt_of_lt inside))
      have moved : (cursor.skip 1).rest = List.replicate count ' ' ++ rest := by
        rw [Cursor.skip_one ahead]
        rfl
      obtain ⟨next, scanned, ⟨column, left⟩, bound⟩ := ih moved fuel inside
      have step : gap.scan indent (fuel + 1 + 1) cursor =
          gap.scan indent (fuel + 1) (cursor.skip 1) := by
        rw [scan, ahead]
        simp [crossed, isBlank]
      refine ⟨next, step.trans scanned, ⟨?_, left⟩, bound.trans ?_⟩
      · rw [column, Cursor.skip_one ahead]
        exact Nat.add_right_comm ..
      · rw [Cursor.skip_one ahead]
        rfl

/-- The gap at the end of a line reaches to the first word of the next one. -/
theorem Gap.scan_lineFeed {cursor : Cursor} {count : Nat} {rest : List Char}
    (starts : StartsWord rest) (ahead : cursor.rest = '\n' :: (List.replicate count ' ' ++ rest))
    (enough : cursor.rest.length < cursor.bound) (indent : Nat) :
    ∃ gap next, Gap.scan indent cursor.bound {} cursor = some (gap, next) ∧
      gap.crossed = true ∧ next.At count rest ∧ next.bound = cursor.bound := by
  obtain ⟨fuel, bound⟩ := Nat.exists_eq_succ_of_ne_zero (Nat.ne_of_gt (Nat.zero_lt_of_lt enough))
  have inside : count < fuel := by
    rw [ahead, bound] at enough
    simp only [List.length_cons, List.length_append, List.length_replicate] at enough
    omega
  have moved : cursor.takeBreak.2.rest = List.replicate count ' ' ++ rest := by
    rw [Cursor.takeBreak_lineFeed ahead]
  obtain ⟨next, scanned, ⟨column, left⟩, kept⟩ :=
    scan_spaces { crossed := true, first := ['\n'] } rfl starts moved inside indent
  refine ⟨{ crossed := true, first := ['\n'] }, next, ?_, rfl, ⟨?_, left⟩, kept.trans ?_⟩
  · have step : Gap.scan indent (fuel + 1) {} cursor =
        Gap.scan indent fuel { crossed := true, first := ['\n'] } cursor.takeBreak.2 := by
      rw [scan, ahead, Cursor.takeBreak_lineFeed ahead]
      rfl
    rw [bound]
    exact step.trans scanned
  · rw [column, Cursor.takeBreak_lineFeed ahead]
    exact Nat.zero_add count
  · rw [Cursor.takeBreak_lineFeed ahead]

/-! ## Plain scalars -/

section Scalar

variable {cursor : Cursor} {word rest : List Char}

/-- A plain word is the first word of a plain scalar. -/
theorem plainScalar_word (plain : IsPlain word) (ahead : cursor.rest = word ++ rest)
    (ends : plainWord false rest = some []) (noMark : cursor.atDocumentMark = false)
    (room : 0 < cursor.bound) (indent : Nat) :
    plainScalar false indent cursor =
      if rest.isEmpty || !startsBlank rest then some (word, false, cursor.pass word rest)
      else
        (Gap.scan indent cursor.bound {} (cursor.pass word rest)).bind fun (gap, next) =>
          if next.column < indent then some (word, gap.crossed, next)
          else plainWords false indent (cursor.bound - 1) word.reverse gap next := by
  obtain ⟨nonempty, all⟩ := plain
  obtain ⟨fuel, bound⟩ := Nat.exists_eq_succ_of_ne_zero (Nat.ne_of_gt room)
  obtain ⟨c, tail, rfl⟩ := List.exists_cons_of_ne_nil nonempty
  have first : ¬cursor.rest.head? = some '#' := by
    rw [ahead]
    intro same
    exact ne_of_isIndicator (all c List.mem_cons_self) (by decide) (Option.some.inj same)
  have read : plainWord false cursor.rest = some (c :: tail) := by
    rw [ahead]
    exact plainWord_append all ends
  have step : cursor.skip (c :: tail).length = cursor.pass (c :: tail) rest :=
    Cursor.skip_of_append ahead
  rw [plainScalar, bound, plainWords, noMark]
  simp only [first, read, Bool.false_or, decide_false, Bool.false_eq_true, if_false, Gap.joined,
    Option.bind_eq_bind, Option.bind_some]
  rw [step]
  simp [bound]

theorem startsBlank_word (all : ∀ c ∈ word, c ∈ plainChars) :
    startsBlank (word ++ ':' :: rest) = false := by
  cases word with
  | nil => rfl
  | cons c word =>
      have plain := all c List.mem_cons_self
      simp [startsBlank, isBlank_plain c plain, isBreak_plain c plain]

/-- A key does not end the document. -/
theorem noMark_key (plain : IsPlain word) (ahead : cursor.rest = word ++ ':' :: rest) :
    cursor.atDocumentMark = false := by
  obtain ⟨nonempty, all⟩ := plain
  rw [Cursor.atDocumentMark, Bool.and_eq_false_iff, ahead]
  refine .inr ?_
  split
  · next behind same =>
      obtain ⟨c, word, rfl⟩ := List.exists_cons_of_ne_nil nonempty
      obtain ⟨rfl, -⟩ := List.cons.inj same
      exact absurd rfl (ne_of_isIndicator (all '-' List.mem_cons_self) (by decide))
  · next behind same =>
      rcases word with _ | ⟨a, _ | ⟨b, _ | ⟨c, word⟩⟩⟩ <;> simp at same
      obtain ⟨-, -, -, rfl⟩ := same
      exact startsBlank_word fun c member => all c (by simp [member])
  · rfl

/-- A key is read up to the colon behind it. -/
theorem plainScalar_key (plain : IsPlain word) (ahead : cursor.rest = word ++ ':' :: rest)
    (blank : startsBlank rest = true) (noMark : cursor.atDocumentMark = false)
    (room : 0 < cursor.bound) (indent : Nat) :
    plainScalar false indent cursor = some (word, false, cursor.pass word (':' :: rest)) := by
  rw [plainScalar_word plain ahead (plainWord_colon blank) noMark room]
  exact if_pos rfl

/-- A value is read up to the end of its line, if the next line is no part of it. -/
theorem plainScalar_value {count indent : Nat} (plain : IsPlain word)
    (ahead : cursor.rest = word ++ '\n' :: (List.replicate count ' ' ++ rest))
    (starts : StartsWord rest) (noMark : cursor.atDocumentMark = false)
    (enough : cursor.rest.length < cursor.bound) (outside : count < indent) :
    ∃ next, plainScalar false indent cursor = some (word, true, next) ∧
      next.At count rest ∧ next.bound = cursor.bound := by
  have room : 0 < cursor.bound := Nat.zero_lt_of_lt enough
  have left : (cursor.pass word ('\n' :: (List.replicate count ' ' ++ rest))).rest.length <
      cursor.bound := by
    rw [ahead, List.length_append] at enough
    rw [Cursor.rest_pass]
    omega
  obtain ⟨gap, next, scanned, crossed, stands, bound⟩ := Gap.scan_lineFeed starts rfl left indent
  refine ⟨next, ?_, stands, bound⟩
  have outsideNext : next.column < indent := stands.column_eq ▸ outside
  rw [Cursor.bound_pass] at scanned
  rw [plainScalar_word plain ahead (plainWord_lineFeed _) noMark room,
    if_neg (by simp [startsBlank, isBreak]), scanned]
  simp only [Option.bind_some, outsideNext, if_true, crossed]

end Scalar

end PacketProtection.Yaml

import PacketProtection.Address
import PacketProtection.Proofs.HexText

/-!
# Which texts are Ethernet addresses

The *groups* of a text are what stands between its colons, so that a text is its groups
with a colon between each two of them (`intercalate_groups`).  An address has six
groups of two digits.  It is the address whose text is the given one in lower case
(`parse_eq_ok_iff`), as colons and digits are told apart in either case.

*Faults.*  All other texts are refused.  Groups are looked at from the left, so the
first faulty one among six is named, and only where there is none do too few or too many
groups count (`Fault`, `parse_eq_error_iff`).
-/

namespace PacketProtection

/-! ## Pieces -/

theorem splitAtChar_eq_splitOn (separator : Char) (chars : List Char) :
    splitAtChar separator chars = chars.splitOn separator := by
  induction chars with
  | nil => rfl
  | cons c rest ih =>
      rw [splitAtChar, List.splitOn_cons_eq_if_modifyHead, ih]
      by_cases same : c = separator
      · rw [if_pos same, if_pos (beq_iff_eq.mpr same)]
      · rw [if_neg same, if_neg (mt beq_iff_eq.mp same)]
        cases pieces : rest.splitOn separator with
        | nil => exact absurd pieces (List.splitOn_ne_nil _ _)
        | cons piece pieces => rfl

/-- Pieces may be cut first and changed after, if the separator alone becomes one. -/
theorem splitOn_map {separator : Char} {f : Char → Char}
    (kept : ∀ c, f c = separator ↔ c = separator) (chars : List Char) :
    (chars.map f).splitOn separator = (chars.splitOn separator).map (·.map f) := by
  induction chars with
  | nil => rfl
  | cons c rest ih =>
      rw [List.map_cons, List.splitOn_cons_eq_if_modifyHead, List.splitOn_cons_eq_if_modifyHead, ih]
      simp only [beq_iff_eq, kept]
      by_cases same : c = separator
      · rw [if_pos same, if_pos same]
        rfl
      · rw [if_neg same, if_neg same]
        cases rest.splitOn separator with
        | nil => rfl
        | cons piece pieces => rfl

namespace MacAddress

/-- What stands between the colons of a text. -/
def groups (text : String) : List (List Char) :=
  text.toList.splitOn ':'

theorem parse_eq (text : String) : parse text = parseGroups text 6 (groups text) := by
  rw [parse, splitAtChar_eq_splitOn, groups]

/-- A text is its groups with colons between them. -/
theorem intercalate_groups (text : String) : [':'].intercalate (groups text) = text.toList :=
  List.intercalate_splitOn ':'

theorem groups_eq_iff {text : String} {pieces : List (List Char)} (some : pieces ≠ [])
    (whole : ∀ piece ∈ pieces, ':' ∉ piece) :
    groups text = pieces ↔ text.toList = [':'].intercalate pieces := by
  constructor
  · rintro rfl
    exact (intercalate_groups text).symm
  · intro spelled
    rw [groups, spelled, List.splitOn_intercalate ':' whole some]

/-! ## Groups -/

/-- Two hexadecimal digits of either case. -/
def IsGroup (group : List Char) : Prop :=
  group.length = 2 ∧ ∀ c ∈ group, c ∈ Hex.readable

instance : DecidablePred IsGroup := fun _ => inferInstanceAs (Decidable (_ ∧ _))

theorem groupValue?_pair {high low : Char} {byte : UInt8} :
    groupValue? [high, low] = some byte ↔ [high.toLower, low.toLower] = Hex.pair byte := by
  have bound := byte.toNat_lt
  constructor
  · intro found
    obtain ⟨upper, highRead, found⟩ := Option.bind_eq_some_iff.mp found
    obtain ⟨under, lowRead, found⟩ := Option.bind_eq_some_iff.mp found
    have upperSmall := Hex.charValue?_lt highRead
    have underSmall := Hex.charValue?_lt lowRead
    obtain ⟨upperHalf, lowerHalf⟩ := Hex.halves_ofNat upperSmall underSmall
    obtain rfl := Option.some.inj found
    rw [Hex.pair, upperHalf, lowerHalf, (Hex.charValue?_eq_some_iff upperSmall).mp highRead,
      (Hex.charValue?_eq_some_iff underSmall).mp lowRead]
  · intro written
    obtain ⟨highWritten, lowWritten⟩ := List.cons.inj written
    have highRead := (Hex.charValue?_eq_some_iff (by omega)).mpr highWritten
    have lowRead := (Hex.charValue?_eq_some_iff (by omega)).mpr (List.cons.inj lowWritten).1
    have whole : 16 * (byte.toNat / 16) + byte.toNat % 16 = byte.toNat := Nat.div_add_mod _ _
    rw [groupValue?, highRead, lowRead]
    simp only [Option.bind_eq_bind, Option.bind_some, whole, UInt8.ofNat_toNat]
    rfl

/-- A group stands for the byte whose digits it is in lower case. -/
theorem groupValue?_eq_some_iff {group : List Char} {byte : UInt8} :
    groupValue? group = some byte ↔ group.map Char.toLower = Hex.pair byte := by
  match group with
  | [] => simp [groupValue?, Hex.pair]
  | [_] => simp [groupValue?, Hex.pair]
  | [high, low] => exact groupValue?_pair
  | _ :: _ :: _ :: _ => simp [groupValue?, Hex.pair]

theorem isGroup_iff_exists (group : List Char) :
    IsGroup group ↔ ∃ byte, groupValue? group = some byte := by
  match group with
  | [] => simp [IsGroup, groupValue?]
  | [_] => simp [IsGroup, groupValue?]
  | [high, low] =>
      simp only [IsGroup, List.length_cons, List.length_nil, List.mem_cons, List.not_mem_nil,
        or_false, forall_eq_or_imp, forall_eq, Hex.mem_readable_iff, true_and, groupValue?,
        Option.bind_eq_bind, Option.bind_eq_some_iff]
      constructor
      · rintro ⟨⟨upper, highRead⟩, ⟨under, lowRead⟩⟩
        exact ⟨_, upper, highRead, under, lowRead, rfl⟩
      · rintro ⟨_, upper, highRead, under, lowRead, -⟩
        exact ⟨⟨upper, highRead⟩, ⟨under, lowRead⟩⟩
  | _ :: _ :: _ :: _ => simp [IsGroup, groupValue?]

theorem not_isGroup_iff (group : List Char) : ¬IsGroup group ↔ groupValue? group = none := by
  rw [isGroup_iff_exists, ← Option.isSome_iff_exists, Option.not_isSome_iff_eq_none]

/-! ## Reading groups -/

section Groups

variable {text : String} {count : Nat} {pieces : List (List Char)}

theorem parseGroups_eq_ok_iff {octets : Octets count} :
    parseGroups text count pieces = .ok octets ↔
      pieces.map (·.map Char.toLower) = octets.toList.map Hex.pair := by
  induction count generalizing pieces with
  | zero =>
      have none : octets.toList = [] := List.eq_nil_of_length_eq_zero octets.length_toList
      rw [none]
      cases pieces with
      | nil => simpa [parseGroups] using (Octets.ext none).symm
      | cons group pieces => simp [parseGroups]
  | succ count ih =>
      obtain ⟨bytes, length⟩ := octets
      match bytes, length with
      | byte :: bytes, length =>
          have restLength : bytes.length = count := Nat.succ.inj length
          cases pieces with
          | nil => simp [parseGroups]
          | cons group pieces =>
              rw [List.map_cons, List.map_cons, List.cons.injEq, ← groupValue?_eq_some_iff,
                ← @ih pieces ⟨bytes, restLength⟩, parseGroups]
              cases groupValue? group with
              | none => simp
              | some found =>
                  cases parseGroups text count pieces with
                  | error error => simp [Except.map]
                  | ok rest => simp [Except.map, Octets.ext_iff]

theorem parseGroups_cons_of_isGroup {group : List Char} (wellFormed : IsGroup group)
    (text : String) (count : Nat) (pieces : List (List Char)) :
    ∃ byte, parseGroups text (count + 1) (group :: pieces) =
      (parseGroups text count pieces).map fun rest => ⟨byte :: rest.toList, by simp⟩ := by
  obtain ⟨byte, found⟩ := (isGroup_iff_exists group).mp wellFormed
  refine ⟨byte, ?_⟩
  rw [parseGroups, found]

theorem parseGroups_of_whole (whole : pieces.length = count)
    (wellFormed : ∀ group ∈ pieces, IsGroup group) :
    ∃ octets, parseGroups text count pieces = .ok octets := by
  induction pieces generalizing count with
  | nil =>
      obtain rfl := whole
      exact ⟨_, rfl⟩
  | cons group pieces ih =>
      obtain rfl := whole
      obtain ⟨head, tail⟩ := List.forall_mem_cons.mp wellFormed
      obtain ⟨byte, read⟩ := parseGroups_cons_of_isGroup head text pieces.length pieces
      obtain ⟨octets, rest⟩ := ih rfl tail
      refine ⟨⟨byte :: octets.toList, by simp⟩, read.trans ?_⟩
      rw [rest]
      rfl

theorem parseGroups_of_short (few : pieces.length < count)
    (wellFormed : ∀ group ∈ pieces, IsGroup group) :
    parseGroups text count pieces = .error (.tooShort text) := by
  induction pieces generalizing count with
  | nil =>
      obtain ⟨count, rfl⟩ := Nat.exists_eq_succ_of_ne_zero (Nat.ne_of_gt few)
      rfl
  | cons group pieces ih =>
      obtain ⟨count, rfl⟩ := Nat.exists_eq_succ_of_ne_zero (Nat.ne_of_gt (Nat.zero_lt_of_lt few))
      obtain ⟨head, tail⟩ := List.forall_mem_cons.mp wellFormed
      obtain ⟨byte, read⟩ := parseGroups_cons_of_isGroup head text count pieces
      rw [read, ih (Nat.lt_of_succ_lt_succ few) tail]
      rfl

theorem parseGroups_of_long (many : count < pieces.length)
    (wellFormed : ∀ group ∈ pieces.take count, IsGroup group) :
    parseGroups text count pieces = .error (.tooLong text) := by
  induction count generalizing pieces with
  | zero =>
      obtain ⟨group, pieces, rfl⟩ := List.exists_cons_of_length_pos many
      rfl
  | succ count ih =>
      obtain ⟨group, pieces, rfl⟩ := List.exists_cons_of_length_pos (Nat.zero_lt_of_lt many)
      rw [List.take_succ_cons] at wellFormed
      obtain ⟨head, tail⟩ := List.forall_mem_cons.mp wellFormed
      obtain ⟨byte, read⟩ := parseGroups_cons_of_isGroup head text count pieces
      rw [read, ih (Nat.lt_of_succ_lt_succ many) tail]
      rfl

theorem parseGroups_of_faulty {front back : List (List Char)} {group : List Char}
    (early : front.length < count) (before : ∀ group ∈ front, IsGroup group)
    (faulty : ¬IsGroup group) :
    parseGroups text count (front ++ group :: back) =
      .error (.badGroup (String.ofList group) text) := by
  obtain ⟨count, rfl⟩ := Nat.exists_eq_succ_of_ne_zero (Nat.ne_of_gt (Nat.zero_lt_of_lt early))
  induction front generalizing count with
  | nil => rw [List.nil_append, parseGroups, (not_isGroup_iff group).mp faulty]
  | cons head front ih =>
      obtain ⟨headGroup, rest⟩ := List.forall_mem_cons.mp before
      have inside : front.length < count := Nat.lt_of_succ_lt_succ early
      obtain ⟨count, rfl⟩ := Nat.exists_eq_succ_of_ne_zero (Nat.ne_of_gt (Nat.zero_lt_of_lt inside))
      obtain ⟨byte, read⟩ := parseGroups_cons_of_isGroup headGroup text (count + 1)
        (front ++ group :: back)
      rw [List.cons_append, read, ih rest count inside]
      rfl

end Groups

/-! ## Reading texts -/

/-- Six groups of two digits, with colons between them. -/
def IsAddress (text : String) : Prop :=
  ∃ pieces : List (List Char), pieces.length = 6 ∧ (∀ group ∈ pieces, IsGroup group) ∧
    text.toList = [':'].intercalate pieces

/-- What is wrong with a text: the first faulty group among six, or the number of groups
if none of these is faulty. -/
inductive Fault (text : String) : Error → Prop
  | badGroup {front back : List (List Char)} {group : List Char}
      (split : groups text = front ++ group :: back) (early : front.length < 6)
      (before : ∀ group ∈ front, IsGroup group) (faulty : ¬IsGroup group) :
      Fault text (.badGroup (String.ofList group) text)
  | tooShort (few : (groups text).length < 6) (wellFormed : ∀ group ∈ groups text, IsGroup group) :
      Fault text (.tooShort text)
  | tooLong (many : 6 < (groups text).length)
      (wellFormed : ∀ group ∈ (groups text).take 6, IsGroup group) : Fault text (.tooLong text)

variable {text : String}

theorem not_colon_of_isGroup {group : List Char} (wellFormed : IsGroup group) : ':' ∉ group :=
  fun member => absurd (wellFormed.2 ':' member) (by decide)

theorem isAddress_iff :
    IsAddress text ↔ (groups text).length = 6 ∧ ∀ group ∈ groups text, IsGroup group := by
  constructor
  · rintro ⟨pieces, six, wellFormed, spelled⟩
    have some : pieces ≠ [] := by
      rintro rfl
      cases six
    have split : groups text = pieces := (groups_eq_iff some fun group member =>
      not_colon_of_isGroup (wellFormed group member)).mpr spelled
    rw [split]
    exact ⟨six, wellFormed⟩
  · rintro ⟨six, wellFormed⟩
    exact ⟨groups text, six, wellFormed, (intercalate_groups text).symm⟩

theorem parse_of_fault {error : Error} (fault : Fault text error) : parse text = .error error := by
  rw [parse_eq]
  cases fault with
  | badGroup split early before faulty =>
      rw [split]
      exact parseGroups_of_faulty early before faulty
  | tooShort few wellFormed => exact parseGroups_of_short few wellFormed
  | tooLong many wellFormed => exact parseGroups_of_long many wellFormed

/-- Each text is an address or has a fault. -/
theorem isAddress_or_fault (text : String) : IsAddress text ∨ ∃ error, Fault text error := by
  cases found : ((groups text).take 6).find? (¬IsGroup ·) with
  | none =>
      have all : ∀ group ∈ (groups text).take 6, IsGroup group := by
        simpa using List.find?_eq_none.mp found
      rcases Nat.lt_trichotomy (groups text).length 6 with few | six | many
      · rw [List.take_of_length_le (Nat.le_of_lt few)] at all
        exact .inr ⟨_, .tooShort few all⟩
      · rw [List.take_of_length_le (Nat.le_of_eq six)] at all
        exact .inl (isAddress_iff.mpr ⟨six, all⟩)
      · exact .inr ⟨_, .tooLong many all⟩
  | some group =>
      obtain ⟨faulty, front, back, split, before⟩ := List.find?_eq_some_iff_append.mp found
      have early : front.length < 6 := by
        have length := congrArg List.length split
        simp only [List.length_take, List.length_append, List.length_cons] at length
        omega
      have whole : groups text = front ++ group :: (back ++ (groups text).drop 6) := by
        rw [← List.cons_append, ← List.append_assoc, ← split, List.take_append_drop]
      exact .inr ⟨_, .badGroup whole early (by simpa using before) (by simpa using faulty)⟩

theorem exists_parse_iff : (∃ mac, parse text = .ok mac) ↔ IsAddress text := by
  constructor
  · rintro ⟨mac, read⟩
    rcases isAddress_or_fault text with address | ⟨error, fault⟩
    · exact address
    · cases (parse_of_fault fault).symm.trans read
  · intro address
    obtain ⟨six, wellFormed⟩ := isAddress_iff.mp address
    rw [parse_eq]
    exact parseGroups_of_whole six wellFormed

/-- What is wrong with a text is what is reported. -/
theorem parse_eq_error_iff {error : Error} : parse text = .error error ↔ Fault text error := by
  refine ⟨fun failed => ?_, parse_of_fault⟩
  rcases isAddress_or_fault text with address | ⟨other, fault⟩
  · obtain ⟨mac, read⟩ := exists_parse_iff.mpr address
    cases read.symm.trans failed
  · cases (parse_of_fault fault).symm.trans failed
    exact fault

theorem toLower_eq_colon_iff (c : Char) : c.toLower = ':' ↔ c = ':' := by
  rcases Nat.lt_or_ge c.toNat 128 with ascii | wide
  · exact Hex.forall_ascii (P := fun c => c.toLower = ':' ↔ c = ':') (by decide) ascii
  · rw [Hex.toLower_eq_of_not_ascii wide]

/-- The text of an address has the digits of its bytes for groups. -/
theorem groups_eq_pairs_iff {mac : MacAddress} :
    groups text = mac.toList.map Hex.pair ↔ text = format mac := by
  have some : mac.toList.map Hex.pair ≠ [] := by
    intro none
    have length := congrArg List.length none
    rw [List.length_map, mac.length_toList] at length
    cases length
  have whole : ∀ piece ∈ mac.toList.map Hex.pair, ':' ∉ piece := by
    intro piece member
    obtain ⟨byte, -, rfl⟩ := List.mem_map.mp member
    exact fun colon => absurd (Hex.mem_pair colon) (by decide)
  rw [groups_eq_iff some whole, ← String.toList_inj, format, String.toList_ofList,
    List.intercalate]

/-- A text stands for the address that is written as the text in lower case. -/
theorem parse_eq_ok_iff {mac : MacAddress} : parse text = .ok mac ↔ format mac = text.toLower := by
  have lowered : (groups text).map (·.map Char.toLower) = groups text.toLower := by
    rw [groups, ← splitOn_map toLower_eq_colon_iff, groups]
    exact congrArg (List.splitOn ':') String.toList_map.symm
  rw [parse_eq, parseGroups_eq_ok_iff, lowered, groups_eq_pairs_iff, eq_comm]

theorem parse_format (mac : MacAddress) : parse (format mac) = .ok mac := by
  have lower : ∀ byte, (Hex.pair byte).map Char.toLower = Hex.pair byte := by
    intro byte
    have digits : ∀ value < 16, (Hex.digit value).toLower = Hex.digit value := by decide
    have bound := byte.toNat_lt
    rw [Hex.pair, List.map_cons, List.map_singleton, digits _ (by omega), digits _ (by omega)]
  rw [parse_eq, groups_eq_pairs_iff.mpr rfl, parseGroups_eq_ok_iff, List.map_map]
  exact List.map_congr_left fun byte _ => lower byte

/-- **An Ethernet address is read exactly.**  What was written is read back.  A text is
accepted if it is six groups of two digits of either case with colons between them, and
its address is then written as the text in lower case.  All other texts are refused for
what is wrong with them. -/
theorem parse_exact :
    (∀ mac, parse (format mac) = .ok mac) ∧
    ∀ text,
      ((∃ mac, parse text = .ok mac) ↔ IsAddress text) ∧
      (∀ mac, parse text = .ok mac ↔ format mac = text.toLower) ∧
      (∀ error, parse text = .error error ↔ Fault text error) :=
  ⟨parse_format, fun _ => ⟨exists_parse_iff, fun _ => parse_eq_ok_iff, fun _ => parse_eq_error_iff⟩⟩

-- A character of two bytes is no group, and a sign is no digit.
example : parse "0a:é:+a" = .error (.badGroup "é" "0a:é:+a") := by rfl

end MacAddress

end PacketProtection

import PacketProtection.Proofs.Yaml.LexerStep

/-!
# Lines of block mappings

The text of a block mapping is a list of lines, each with a key and, behind it, its value or
nothing (`textFrom`).  The words are plain, and no line with a value is followed by one that
is further right, or else the value would go on there (`IsOutline`).

*Tokens.*  A line ends the mappings that are further right, and starts one where its key is
further right than all that are left (`Line.tokens`).  So the tokens of the lines depend on
their columns alone (`lineTokens`), and they are what the lexer hands out
(`Lexer.lexes_line`, `Lexer.lexes_lines`, `contents_tokens`).
-/

namespace PacketProtection.Yaml

/-! ## Texts -/

/-- A line of a block mapping: a key, and its value unless that is in the lines below. -/
structure Line where
  indent : Nat
  key : String
  value : Option String

/-- What stands behind the colon of a line. -/
def Line.tail (line : Line) : List Char :=
  line.value.elim [] fun value => ' ' :: value.toList

/-- The column of the first key of some lines. -/
def startColumn : List Line → Nat
  | [] => 0
  | line :: _ => line.indent

/-- The text of some lines from the first key on. -/
def textFrom : List Line → List Char
  | [] => []
  | line :: lines =>
      line.key.toList ++ ':' :: (line.tail ++
        '\n' :: (List.replicate (startColumn lines) ' ' ++ textFrom lines))

/-- A plain word that is short enough for a key. -/
structure IsKey (word : String) : Prop where
  plain : IsPlain word.toList
  short : word.toList.length ≤ 1024

instance (word : String) : Decidable (IsKey word) :=
  decidable_of_iff (IsPlain word.toList ∧ word.toList.length ≤ 1024)
    ⟨fun ⟨plain, short⟩ => ⟨plain, short⟩, fun ⟨plain, short⟩ => ⟨plain, short⟩⟩

/-- The words of a line are plain. -/
structure Line.IsPlain (line : Line) : Prop where
  key : IsKey line.key
  value : ∀ value ∈ line.value, Yaml.IsPlain value.toList

/-- Lines of plain words, where no value goes on in the next line. -/
def IsOutline : List Line → Prop
  | [] => True
  | line :: lines =>
      line.IsPlain ∧ (line.value.isSome → startColumn lines ≤ line.indent) ∧ IsOutline lines

section Texts

variable {lines : List Line}

theorem startsWord_textFrom (outline : IsOutline lines) : StartsWord (textFrom lines) := by
  cases lines with
  | nil => exact fun c first => by cases first
  | cons line lines => exact outline.1.key.plain.startsWord _

theorem isPrintable_textFrom (outline : IsOutline lines) :
    ∀ c ∈ textFrom lines, isPrintable c = true := by
  induction lines with
  | nil => exact fun c member => by cases member
  | cons line lines ih =>
      obtain ⟨plain, ends, others⟩ := outline
      have tail : ∀ c ∈ line.tail, isPrintable c = true := by
        cases value : line.value with
        | none => exact fun c member => by simp [Line.tail, value] at member
        | some word =>
            intro c member
            simp only [Line.tail, value, Option.elim_some, List.mem_cons] at member
            obtain rfl | inside := member
            · rfl
            · exact isPrintable_plain c ((plain.value word value).all c inside)
      intro c member
      simp only [textFrom, List.mem_append, List.mem_cons, List.mem_replicate] at member
      obtain key | rfl | behind | rfl | ⟨-, rfl⟩ | below := member
      · exact isPrintable_plain c (plain.key.plain.all c key)
      · rfl
      · exact tail c behind
      · rfl
      · rfl
      · exact ih others c below

/-- A line takes three characters at least. -/
theorem length_textFrom_ge (outline : IsOutline lines) :
    3 * lines.length ≤ (textFrom lines).length := by
  induction lines with
  | nil => exact Nat.le_refl _
  | cons line lines ih =>
      have below := ih outline.2.2
      have key := List.length_pos_iff.mpr outline.1.key.plain.ne_nil
      simp only [textFrom, List.length_append, List.length_cons]
      omega

end Texts

/-! ## Tokens -/

/-- How many of some mappings end at a line. -/
def Line.ended (columns : List Nat) (line : Line) : Nat :=
  (columns.takeWhile (Lexer.isRightOf (some line.indent))).length

/-- The mappings that do not end at a line. -/
def Line.kept (columns : List Nat) (line : Line) : List Nat :=
  columns.dropWhile (Lexer.isRightOf (some line.indent))

/-- Does a line start a mapping? -/
def Line.opens (columns : List Nat) (line : Line) : Bool :=
  Lexer.isDeeper (line.kept columns).head? line.indent

/-- The mappings around the words of a line. -/
def Line.columns (columns : List Nat) (line : Line) : List Nat :=
  if line.opens columns then line.indent :: line.kept columns else line.kept columns

/-- The key of a line as a key, and the start of its mapping. -/
def Line.keyTokens (columns : List Nat) (line : Line) : List Token :=
  (if line.opens columns then [.blockMappingStart] else []) ++
    [.key, .scalar line.key .plain, .value]

/-- The tokens of a line. -/
def Line.tokens (columns : List Nat) (line : Line) : List Token :=
  List.replicate (line.ended columns) .blockEnd ++
    (line.keyTokens columns ++ line.value.toList.map (.scalar · .plain))

/-- The tokens of some lines inside mappings, up to the end of the text. -/
def lineTokens : (columns : List Nat) → List Line → List Token
  | columns, [] => List.replicate columns.length .blockEnd ++ [.streamEnd]
  | columns, line :: lines => line.tokens columns ++ lineTokens (line.columns columns) lines

section Tokens

variable {columns : List Nat} {line : Line}

theorem Line.ended_add_kept (columns : List Nat) (line : Line) :
    line.ended columns + (line.kept columns).length = columns.length := by
  rw [ended, kept, ← List.length_append, List.takeWhile_append_dropWhile]

theorem Line.head?_kept : ∀ column ∈ (line.kept columns).head?, column ≤ line.indent := by
  intro column first
  have notRight := List.head?_dropWhile_not (Lexer.isRightOf (some line.indent)) columns
  rw [kept] at first
  rw [first] at notRight
  simpa [Lexer.isRightOf] using notRight

/-- The words of a line are in the mapping of its own column. -/
theorem Line.head?_columns : (line.columns columns).head? = some line.indent := by
  rw [Line.columns]
  split
  · rfl
  · next shallow =>
      cases first : (line.kept _).head? with
      | none => simp [opens, Lexer.isDeeper, first] at shallow
      | some column =>
          have ge : line.indent ≤ column := by
            simpa [opens, Lexer.isDeeper, first] using shallow
          rw [Nat.le_antisymm (head?_kept column first) ge]

theorem Line.length_tokens_le (columns : List Nat) (line : Line) :
    (line.tokens columns).length + (line.columns columns).length ≤ columns.length + 6 := by
  have split := line.ended_add_kept columns
  cases opens : line.opens columns <;> cases value : line.value <;>
    simp [tokens, keyTokens, Line.columns, opens, value] <;> omega

/-- A line has six tokens at most, with the end of its mapping. -/
theorem length_lineTokens_le (columns : List Nat) (lines : List Line) :
    (lineTokens columns lines).length ≤ columns.length + 6 * lines.length + 1 := by
  induction lines generalizing columns with
  | nil => simp [lineTokens]
  | cons line lines ih =>
      have first := line.length_tokens_le columns
      have others := ih (line.columns columns)
      rw [lineTokens, List.length_append, List.length_cons]
      omega

end Tokens

namespace Lexer

/-! ## Keys -/

section Keys

variable {lexer : Lexer} {columns : List Nat} {cursor : Cursor} {count : Nat} {line : Line}
  {rest : List Char}

theorem fetchFrom_word {c : Char} (plain : c ∈ plainChars)
    (noMark : lexer.cursor.atDocumentMark = false) (rest : List Char) :
    lexer.fetchFrom c rest = lexer.fetchPlain := by
  have free : ∀ c ∈ plainChars,
      c ∉ ['%', '[', '\x7b', ']', '\x7d', ',', '-', '?', ':', '*', '&', '!', '|', '>', '\'', '"'] :=
    Hex.forall_mem_of_all (by decide)
  have noMarks := free c plain
  simp only [List.mem_cons, not_or] at noMarks
  simp [fetchFrom, noMark, isBlank_plain c plain, isIndicator_plain c plain, noMarks]

theorem fetchFrom_colon (ahead : lexer.cursor.rest = ':' :: rest)
    (blank : startsBlank rest = true) : lexer.fetchFrom ':' rest = lexer.fetchValue := by
  have noMark : lexer.cursor.atDocumentMark = false := by
    simp [Cursor.atDocumentMark, ahead]
  simp [fetchFrom, noMark, blank]

/-- A lexer in front of the key of a line, behind the ends of mappings that it is not in. -/
def atKey (line : Line) (columns : List Nat) (cursor : Cursor) (count : Nat) : Lexer :=
  { inside (line.kept columns) cursor true count with
    queue := List.replicate (line.ended columns) ⟨.blockEnd, cursor.toPlace⟩ }

/-- A lexer that has read the key of a line and waits for the colon. -/
def afterKey (line : Line) (columns : List Nat) (cursor : Cursor) (count : Nat)
    (rest : List Char) : Lexer :=
  { atKey line columns cursor count with
    cursor := cursor.pass line.key.toList (':' :: rest)
    keyAllowed := false
    keys := [some (atKey line columns cursor count).keyHere]
    queue := (atKey line columns cursor count).queue ++
      [⟨.scalar line.key .plain, cursor.toPlace⟩] }

/-- The same lexer when it has handed out all that is in front of the key. -/
def atColon (line : Line) (columns : List Nat) (cursor : Cursor) (count : Nat)
    (rest : List Char) : Lexer :=
  { afterKey line columns cursor count rest with
    queue := [⟨.scalar line.key .plain, cursor.toPlace⟩]
    handedOut := count + (atKey line columns cursor count).queue.length }

/-- A lexer that has read the key of a line and the colon behind it. -/
def afterColon (line : Line) (columns : List Nat) (cursor : Cursor) (count : Nat)
    (rest : List Char) : Lexer :=
  let colon := cursor.pass line.key.toList (':' :: rest)
  { inside (line.columns columns) (colon.pass [':'] rest) false count with
    queue :=
      (if line.opens columns then [⟨.blockMappingStart, cursor.toPlace⟩] else []) ++
        [⟨.key, cursor.toPlace⟩, ⟨.scalar line.key .plain, cursor.toPlace⟩,
          ⟨.value, colon.toPlace⟩] }

/-- A key is read behind the ends of the mappings that its line is not in. -/
theorem fetch_key (ready : skipBlanks lexer.cursor.bound lexer = inside columns cursor true count)
    (plain : Yaml.IsPlain line.key.toList)
    (stands : cursor.At line.indent (line.key.toList ++ ':' :: rest))
    (blank : startsBlank rest = true) (room : 0 < cursor.bound) :
    lexer.fetch = some (afterKey line columns cursor count rest) := by
  obtain ⟨column, ahead⟩ := stands
  obtain ⟨c, tail, first, wordChar⟩ := plain.exists_head (':' :: rest)
  have noMark := noMark_key plain ahead
  have closed : (inside columns cursor true count).closeTo (some cursor.column) =
      atKey line columns cursor count := by
    rw [column]
    exact closeFrom_around columns (some line.indent) rfl rfl
  have read : ∀ indent, plainScalar false indent cursor =
      some (line.key.toList, false, cursor.pass line.key.toList (':' :: rest)) :=
    plainScalar_key plain ahead blank noMark room
  calc lexer.fetch
      = (atKey line columns cursor count).fetchFrom c tail :=
        closed ▸ fetch_of_ready ready (fresh_of_none rfl) (ahead.trans first)
    _ = (atKey line columns cursor count).fetchPlain := fetchFrom_word wordChar noMark _
    _ = some (afterKey line columns cursor count rest) := by
        have fetched :=
          @fetchPlain_of_keyAllowed (atKey line columns cursor count) _ _ _ rfl rfl read
        rw [String.ofList_toList] at fetched
        exact fetched

/-- The key of a line is not too long for the colon behind it. -/
theorem fresh_afterKey (short : IsKey line.key) (cursor : Cursor) (rest : List Char) :
    (afterKey line columns cursor count rest).Fresh := by
  intro key member
  obtain rfl := Option.some.inj (List.mem_singleton.mp member)
  have offset : (cursor.pass line.key.toList (':' :: rest)).offset =
      cursor.offset + line.key.toList.length := by
    rw [Cursor.pass, foldl_utf8Size short.plain.all, Nat.zero_add]
  have bound := short.short
  simp only [isStale, afterKey, atKey, keyHere, inside, offset, Bool.or_eq_false_iff,
    decide_eq_false_iff_not, Cursor.line_pass, Nat.lt_irrefl, not_false_eq_true, true_and]
  omega

/-- The colon makes the key a key, and starts a mapping if the key is to the right of the
mapping around it. -/
theorem fetch_colon (short : IsKey line.key) (column : cursor.column = line.indent)
    (blank : startsBlank rest = true) (room : 0 < cursor.bound) :
    (atColon line columns cursor count rest).fetch = some
      (afterColon line columns cursor
        (count + (atKey line columns cursor count).queue.length) rest) := by
  obtain ⟨fuel, bound⟩ := Nat.exists_eq_succ_of_ne_zero (Nat.ne_of_gt room)
  have starts : StartsWord (':' :: rest) := by
    rintro c ⟨⟩
    exact List.mem_cons_self
  have ready : skipBlanks cursor.bound (atColon line columns cursor count rest) =
      atColon line columns cursor count rest := by
    rw [bound]
    exact skipBlanks_word starts fuel
  have fresh : (atColon line columns cursor count rest).Fresh := fresh_afterKey short cursor rest
  have stays : (atColon line columns cursor count rest).closeTo
        (some (cursor.pass line.key.toList (':' :: rest)).column) =
      atColon line columns cursor count rest := by
    refine closeTo_of_le (line.kept columns) rfl rfl fun innermost first => ?_
    rw [Cursor.column_pass, column]
    exact Nat.le_add_right_of_le (Line.head?_kept innermost first)
  have fetched : (atColon line columns cursor count rest).fetch =
      ((atColon line columns cursor count rest).closeTo
        (some (cursor.pass line.key.toList (':' :: rest)).column)).fetchFrom ':' rest :=
    fetch_of_ready ready fresh rfl
  have opens : isDeeper (atColon line columns cursor count rest).indent
        (atKey line columns cursor count).keyHere.place.column = line.opens columns :=
    congrArg (isDeeper (line.kept columns).head?) column
  have moved : (atColon line columns cursor count rest).cursor.skip 1 =
      (cursor.pass line.key.toList (':' :: rest)).pass [':'] rest :=
    Cursor.skip_one rfl
  rw [fetched, stays, fetchFrom_colon rfl blank,
    fetchValue_of_key (atKey line columns cursor count).keyHere rfl rfl rfl, opens, moved,
    afterColon, Line.columns]
  cases line.opens columns
  · rfl
  · rw [← column]
    rfl

/-- In front of a key the ends of the mappings are handed out that its line is not in. -/
theorem lexes_ends (empty : lexer.queue = []) (unended : lexer.ended = false)
    (ready : skipBlanks lexer.cursor.bound lexer = inside columns cursor true count)
    (short : IsKey line.key)
    (stands : cursor.At line.indent (line.key.toList ++ ':' :: rest))
    (blank : startsBlank rest = true) (room : 0 < cursor.bound) :
    Lexes lexer (List.replicate (line.ended columns) .blockEnd) (1 + line.ended columns)
      (atColon line columns cursor count rest) := by
  have behind : ∀ key, some key ∈ (afterKey line columns cursor count rest).keys →
      count + (atKey line columns cursor count).queue.length ≤ key.number := by
    intro key member
    obtain rfl := Option.some.inj (List.mem_singleton.mp member)
    exact Nat.le_refl _
  have read := lexes_fetch empty unended (fetch_key ready short.plain stands blank room)
  have ends := lexes_queue (atKey line columns cursor count).queue
    [⟨.scalar line.key .plain, cursor.toPlace⟩] (fresh_afterKey short cursor rest) rfl behind
  have tokens : (atKey line columns cursor count).queue.map (·.content) =
      List.replicate (line.ended columns) .blockEnd :=
    List.map_replicate ..
  have length : (atKey line columns cursor count).queue.length = line.ended columns :=
    List.length_replicate ..
  rw [tokens] at ends
  exact (read.trans ends).mono (by rw [length])

/-- The colon hands out the key, and the start of its mapping in front of it. -/
theorem lexes_colon (count : Nat) (short : IsKey line.key) (column : cursor.column = line.indent)
    (blank : startsBlank rest = true) (room : 0 < cursor.bound) :
    ∃ after, Lexes (atColon line columns cursor count rest) (line.keyTokens columns)
      (1 + (line.keyTokens columns).length)
      (inside (line.columns columns)
        ((cursor.pass line.key.toList (':' :: rest)).pass [':'] rest) false after) := by
  let colon := afterColon line columns cursor
    (count + (atKey line columns cursor count).queue.length) rest
  have held : (atColon line columns cursor count rest).isHeldBack = true := by
    simp only [isHeldBack, atColon, afterKey, keyHere, List.any_cons, Option.any_some]
    exact Bool.or_eq_true_iff.mpr (.inl (decide_eq_true rfl))
  have fresh : (atColon line columns cursor count rest).Fresh := fresh_afterKey short cursor rest
  have read : Lexes (atColon line columns cursor count rest) [] 1 colon :=
    lexes_held fresh (List.cons_ne_nil _ _) held (fetch_colon short column blank room)
  have handed := @lexes_all colon rfl
  have tokens : colon.queue.map (·.content) = line.keyTokens columns := by
    cases opens : line.opens columns <;> simp [colon, afterColon, Line.keyTokens, opens]
  have length : colon.queue.length = (line.keyTokens columns).length := by
    rw [← tokens, List.length_map]
  rw [tokens] at handed
  exact ⟨_, (read.trans handed).mono (by rw [length])⟩

end Keys

/-! ## Values -/

/-- A value is read up to the end of its line, and the blanks in front of the next one. -/
theorem lexes_value (columns : List Nat) {cursor : Cursor} {value : String} (count : Nat)
    {indent spaces : Nat} {rest : List Char} (plain : Yaml.IsPlain value.toList)
    (innermost : columns.head? = some indent) (right : indent ≤ cursor.column)
    (ahead : cursor.rest =
      ' ' :: (value.toList ++ '\n' :: (List.replicate spaces ' ' ++ rest)))
    (starts : StartsWord rest) (left : spaces ≤ indent)
    (room : cursor.rest.length < cursor.bound) :
    ∃ next after, Lexes (inside columns cursor false count) [.scalar value .plain] 2
        (inside columns next true after) ∧
      next.At spaces rest ∧ next.bound = cursor.bound := by
  obtain ⟨fuel, bound⟩ := Nat.exists_eq_succ_of_ne_zero (Nat.ne_of_gt (Nat.zero_lt_of_lt room))
  let behind := '\n' :: (List.replicate spaces ' ' ++ rest)
  let start := cursor.pass [' '] (value.toList ++ behind)
  obtain ⟨c, tail, first, wordChar⟩ := plain.exists_head behind
  have ready : skipBlanks cursor.bound (inside columns cursor false count) =
      inside columns start false count := by
    have blank : (inside columns cursor false count).cursor.rest =
        List.replicate 1 ' ' ++ (value.toList ++ behind) := ahead
    rw [bound]
    exact skipBlanks_spaces blank (plain.startsWord behind) fuel
  have stays : (inside columns start false count).closeTo (some start.column) =
      inside columns start false count := by
    refine closeTo_of_le columns rfl rfl fun column head => ?_
    obtain rfl := Option.some.inj (innermost.symm.trans head)
    exact Nat.le_add_right_of_le right
  have noMark : start.atDocumentMark = false := by
    simp [Cursor.atDocumentMark, start]
  have inner : start.rest.length < start.bound := by
    rw [ahead, List.length_cons] at room
    exact Nat.lt_of_succ_lt room
  have word : start.rest = value.toList ++ behind := rfl
  obtain ⟨next, read, stands, kept⟩ :=
    plainScalar_value plain word starts noMark inner (Nat.lt_succ_of_le left)
  have indentation : ((inside columns start false count).indent.map (· + 1)).getD 0 =
      indent + 1 :=
    congrArg (fun column => (column.map (· + 1)).getD 0) innermost
  have fetched : (inside columns cursor false count).fetch = some
      { inside columns next true count with
        queue := [⟨.scalar value .plain, start.toPlace⟩] } := by
    have here : (inside columns cursor false count).fetch =
        ((inside columns start false count).closeTo (some start.column)).fetchFrom c tail :=
      fetch_of_ready ready (fresh_of_none rfl) (word.trans first)
    rw [here, stays, fetchFrom_word wordChar noMark,
      fetchPlain_of_not_keyAllowed rfl (by rw [indentation]; exact read), String.ofList_toList]
    rfl
  exact ⟨next, count + 1, lexes_fetched rfl rfl fetched rfl, stands, kept⟩

/-! ## Whole lines -/

/-- A lexer stands in front of some lines, inside mappings. -/
structure Before (lexer : Lexer) (columns : List Nat) (lines : List Line) : Prop where
  empty : lexer.queue = []
  unended : lexer.ended = false
  ready : ∃ cursor count,
    skipBlanks lexer.cursor.bound lexer = inside columns cursor true count ∧
      cursor.At (startColumn lines) (textFrom lines) ∧ cursor.rest.length < cursor.bound

section WholeLines

variable {lexer : Lexer} {columns : List Nat} {cursor : Cursor} {count : Nat} {line : Line}
  {lines : List Line}

/-- Behind a colon at the end of its line, a lexer stands in front of the next line. -/
theorem before_of_lineFeed (starts : StartsWord (textFrom lines))
    (ahead : cursor.rest = '\n' :: (List.replicate (startColumn lines) ' ' ++ textFrom lines))
    (room : cursor.rest.length < cursor.bound) :
    Before (inside columns cursor false count) columns lines := by
  have least : 1 < cursor.bound := by
    rw [ahead, List.length_cons] at room
    omega
  have here : (inside columns cursor false count).cursor.rest =
      '\n' :: (List.replicate (startColumn lines) ' ' ++ textFrom lines) := ahead
  obtain ⟨fuel, bound⟩ := Nat.exists_eq_add_of_le' least
  obtain ⟨next, passed, stands, kept⟩ := skipBlanks_lineFeed here rfl starts fuel
  refine ⟨rfl, rfl, next, count, (congrArg (skipBlanks · _) bound).trans passed, stands, ?_⟩
  rw [stands.rest_eq, kept]
  rw [ahead, List.length_cons, List.length_append] at room
  exact Nat.lt_of_le_of_lt (Nat.le_succ_of_le (Nat.le_add_left ..)) room

/-- In front of a word there is nothing to be passed over. -/
theorem before_of_word (starts : StartsWord (textFrom lines))
    (stands : cursor.At (startColumn lines) (textFrom lines))
    (room : cursor.rest.length < cursor.bound) :
    Before (inside columns cursor true count) columns lines := by
  obtain ⟨fuel, bound⟩ := Nat.exists_eq_succ_of_ne_zero (Nat.ne_of_gt (Nat.zero_lt_of_lt room))
  have passed : skipBlanks (fuel + 1) (inside columns cursor true count) =
      inside columns cursor true count :=
    skipBlanks_word (stands.rest_eq ▸ starts) fuel
  exact ⟨rfl, rfl, cursor, count, (congrArg (skipBlanks · _) bound).trans passed, stands, room⟩

/-- A lexer that has read a line stands in front of the next. -/
theorem lexes_line (before : Before lexer columns (line :: lines))
    (outline : IsOutline (line :: lines)) :
    ∃ next, Lexes lexer (line.tokens columns) ((line.tokens columns).length + 3) next ∧
      Before next (line.columns columns) lines := by
  obtain ⟨empty, unended, cursor, count, ready, stands, room⟩ := before
  obtain ⟨plain, ends, others⟩ := outline
  have starts : StartsWord (textFrom lines) := startsWord_textFrom others
  let behind := line.tail ++ '\n' :: (List.replicate (startColumn lines) ' ' ++ textFrom lines)
  have blank : startsBlank behind = true := by
    cases value : line.value <;> simp [behind, Line.tail, value, startsBlank, isBlank, isBreak]
  have some : 0 < cursor.bound := Nat.zero_lt_of_lt room
  have inner : behind.length < cursor.bound := by
    rw [stands.rest_eq, textFrom, List.length_append, List.length_cons] at room
    exact Nat.lt_of_le_of_lt (Nat.le_trans (Nat.le_succ _) (Nat.le_add_left ..)) room
  have closings := lexes_ends empty unended ready plain.key stands blank some
  obtain ⟨after, words⟩ := lexes_colon count plain.key stands.column_eq blank some
  have key := closings.trans words
  -- Behind a value the blanks in front of the next line are passed over already, because the
  -- value might have gone on there; behind a colon they are still ahead.
  cases value : line.value with
  | none =>
      have tokens : line.tokens columns =
          List.replicate (line.ended columns) .blockEnd ++ line.keyTokens columns := by
        simp [Line.tokens, value]
      have ahead : behind =
          '\n' :: (List.replicate (startColumn lines) ' ' ++ textFrom lines) := by
        simp [behind, Line.tail, value]
      refine ⟨_, (tokens ▸ key).mono ?_, before_of_lineFeed starts ahead inner⟩
      simp only [tokens, List.length_append, List.length_replicate]
      omega
  | some word =>
      have tokens : line.tokens columns =
          List.replicate (line.ended columns) .blockEnd ++ line.keyTokens columns ++
            [.scalar word .plain] := by
        simp [Line.tokens, value]
      have ahead : behind =
          ' ' :: (word.toList ++
            '\n' :: (List.replicate (startColumn lines) ' ' ++ textFrom lines)) := by
        simp [behind, Line.tail, value]
      have right : line.indent ≤
          ((cursor.pass line.key.toList (':' :: behind)).pass [':'] behind).column := by
        rw [Cursor.column_pass, Cursor.column_pass, stands.column_eq]
        exact Nat.le_add_right_of_le (Nat.le_add_right ..)
      have left : startColumn lines ≤ line.indent := ends (by rw [value]; rfl)
      obtain ⟨next, later, read, reached, kept⟩ := lexes_value (line.columns columns) after
        (plain.value word value) Line.head?_columns right ahead starts left inner
      have nearer : next.rest.length < next.bound := by
        rw [reached.rest_eq, kept]
        refine Nat.lt_of_le_of_lt ?_ inner
        simp only [ahead, List.length_cons, List.length_append]
        omega
      refine ⟨_, (tokens ▸ key.trans read).mono ?_, before_of_word starts reached nearer⟩
      simp only [tokens, List.length_append, List.length_replicate, List.length_singleton]
      omega

/-- A lexer that has read the end of the text inside mappings. -/
def atEnd (columns : List Nat) (cursor : Cursor) (count : Nat) : Lexer :=
  { inside [] cursor false count with
    queue := List.replicate columns.length ⟨.blockEnd, cursor.toPlace⟩ ++
      [⟨.streamEnd, cursor.toPlace⟩]
    ended := true }

/-- At the end of the text all mappings end. -/
theorem fetch_end (ready : skipBlanks lexer.cursor.bound lexer = inside columns cursor true count)
    (stands : cursor.At 0 []) : lexer.fetch = some (atEnd columns cursor count) := by
  obtain ⟨column, ahead⟩ := stands
  let right := columns.takeWhile (isRightOf (some cursor.column))
  let others := columns.dropWhile (isRightOf (some cursor.column))
  have ends : right.length + others.length = columns.length := by
    rw [← List.length_append, List.takeWhile_append_dropWhile]
  have closed : (inside columns cursor true count).closeTo (some cursor.column) =
      { inside others cursor true count with
        queue := List.replicate right.length ⟨.blockEnd, cursor.toPlace⟩ } :=
    closeFrom_around columns (some cursor.column) rfl rfl
  have fresh : (inside columns cursor true count).Fresh := fresh_of_none rfl
  have nothing : (inside columns cursor true count).cursor.rest = [] := ahead
  simp only [fetch, ready, fresh.dropStaleKeys, Option.bind_eq_bind, Option.bind_some, nothing]
  show fetchEnd (closeTo _ (some cursor.column)) = _
  rw [closed, fetchEnd_around others rfl rfl rfl rfl column, atEnd, ← ends,
    ← List.replicate_append_replicate]
  rfl

theorem lexes_end (before : Before lexer columns []) :
    ∃ next, Lexes lexer (lineTokens columns []) (columns.length + 2) next ∧
      ∀ fuel, run fuel next = [] := by
  obtain ⟨empty, unended, cursor, count, ready, stands, room⟩ := before
  have tokens : (atEnd columns cursor count).queue.map (·.content) = lineTokens columns [] := by
    simp [atEnd, lineTokens]
  have length : 1 + (atEnd columns cursor count).queue.length = columns.length + 2 := by
    simp only [atEnd, List.length_append, List.length_replicate, List.length_singleton]
    omega
  have lexes := lexes_fetched empty unended (fetch_end ready stands) rfl
  rw [tokens, length] at lexes
  exact ⟨_, lexes, fun fuel => by cases fuel <;> rfl⟩

/-- All lines become their tokens, and nothing comes behind the end of the text. -/
theorem lexes_lines (before : Before lexer columns lines) (outline : IsOutline lines) :
    ∃ next, Lexes lexer (lineTokens columns lines)
        ((lineTokens columns lines).length + 3 * lines.length + 1) next ∧
      ∀ fuel, run fuel next = [] := by
  induction lines generalizing lexer columns with
  | nil =>
      obtain ⟨next, lexes, ended⟩ := lexes_end before
      refine ⟨next, lexes.mono ?_, ended⟩
      simp [lineTokens]
  | cons line lines ih =>
      obtain ⟨middle, first, others⟩ := lexes_line before outline
      obtain ⟨next, second, ended⟩ := ih others outline.2.2
      refine ⟨next, (first.trans second).mono ?_, ended⟩
      simp only [lineTokens, List.length_append, List.length_cons]
      omega

end WholeLines

end Lexer

/-- A text of lines is cut into the tokens of its lines. -/
theorem contents_tokens {lines : List Line} (outline : IsOutline lines)
    (start : startColumn lines = 0) :
    (tokens (String.ofList (textFrom lines))).map (·.content) =
      .streamStart :: lineTokens [] lines := by
  have printable : (textFrom lines).all isPrintable = true :=
    List.all_eq_true.mpr (isPrintable_textFrom outline)
  have before : Lexer.Before (Lexer.inside [] (.start (textFrom lines)) true 1) [] lines :=
    Lexer.before_of_word (startsWord_textFrom outline) ⟨start.symm, rfl⟩ (Nat.lt_succ_self _)
  have first := @Lexer.lexes_all
    { cursor := .start (textFrom lines), queue := [⟨.streamStart, {}⟩] } rfl
  obtain ⟨next, others, ended⟩ := Lexer.lexes_lines before outline
  obtain ⟨steps, within, placed, contents, runs⟩ := first.trans others
  -- A line takes nine steps at most, and three characters at least.
  have enough : steps ≤ 8 * (textFrom lines).length + 16 := by
    have tokens := length_lineTokens_le [] lines
    have text := length_textFrom_ge outline
    simp only [List.length_singleton, List.length_nil] at tokens within
    omega
  obtain ⟨fuel, total⟩ := Nat.exists_eq_add_of_le' enough
  have all : tokens (String.ofList (textFrom lines)) = placed := by
    rw [tokens, String.toList_ofList, if_pos printable, total]
    exact (runs fuel).trans (by rw [ended, List.append_nil])
  rw [all, contents]
  rfl

end PacketProtection.Yaml

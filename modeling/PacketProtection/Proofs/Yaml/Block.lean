import PacketProtection.Proofs.Yaml.BlockLine
import PacketProtection.Yaml.Document

/-!
# Block mappings

A block mapping as a tree of plain words (`Block`) can be written with one line for each
key, what is inside further right (`Block.text`).  Each of the three stages of reading gives
back the tree: the tokens are its tokens (`Block.contents_tokens_text`), the parser makes one
step for each of them (`Block.nodeEvents_tokens`), and the document has its events and
nothing behind them (`Block.ofText_text`).
-/

namespace PacketProtection.Yaml

/-! ## Lines inside mappings -/

section Lines

variable (columns : List Nat) (line : Line) (lines : List Line)

/-- A line in the column of the innermost mapping is an entry of it. -/
theorem lineTokens_same :
    lineTokens (line.indent :: columns) (line :: lines) =
      [.key, .scalar line.key .plain, .value] ++ line.value.toList.map (.scalar · .plain) ++
        lineTokens (line.indent :: columns) lines := by
  have stays : line.kept (line.indent :: columns) = line.indent :: columns := by
    simp [Line.kept, Lexer.isRightOf]
  have shut : line.opens (line.indent :: columns) = false := by
    simp [Line.opens, stays, Lexer.isDeeper]
  simp [lineTokens, Line.tokens, Line.keyTokens, Line.columns, Line.ended, stays, shut,
    Lexer.isRightOf]

variable {columns line lines}

/-- A line further right than the innermost mapping starts another one. -/
theorem lineTokens_open (right : ∀ column ∈ columns.head?, column < line.indent) :
    lineTokens columns (line :: lines) =
      .blockMappingStart :: lineTokens (line.indent :: columns) (line :: lines) := by
  have none : line.ended columns = 0 ∧ line.kept columns = columns := by
    cases columns with
    | nil => exact ⟨rfl, rfl⟩
    | cons column columns =>
        have le : ¬line.indent < column := Nat.lt_asymm (right column rfl)
        simp [Line.ended, Line.kept, Lexer.isRightOf, le]
  have opens : line.opens columns = true := by
    rw [Line.opens, none.2]
    cases columns with
    | nil => rfl
    | cons column columns => simpa [Lexer.isDeeper] using right column rfl
  rw [lineTokens_same]
  simp [lineTokens, Line.tokens, Line.keyTokens, Line.columns, none, opens]

/-- A mapping ends in front of lines further left, and at the end of the text. -/
theorem lineTokens_close {column : Nat} (left : startColumn lines < column) :
    lineTokens (column :: columns) lines = .blockEnd :: lineTokens columns lines := by
  cases lines with
  | nil => simp [lineTokens, List.replicate_succ]
  | cons line lines =>
      have right : Lexer.isRightOf (some line.indent) column = true := decide_eq_true left
      have ended : line.ended (column :: columns) = line.ended columns + 1 := by
        simp [Line.ended, right]
      have kept : line.kept (column :: columns) = line.kept columns :=
        List.dropWhile_cons_of_pos right
      have opens : line.opens (column :: columns) = line.opens columns := by
        rw [Line.opens, Line.opens, kept]
      simp [lineTokens, Line.tokens, Line.keyTokens, Line.columns, ended, kept, opens,
        List.replicate_succ]

end Lines

/-! ## Trees -/

/-- The entries of a block mapping: plain words, and block mappings that are indented by two
more columns. -/
inductive Block where
  | nil
  | word (key value : String) (others : Block)
  | mapping (key : String) (inner others : Block)

/-- An event without an anchor. -/
def Event.bare : Event → RawEvent
  | .scalar content => .scalar none content
  | .sequenceStart => .sequenceStart none
  | .sequenceEnd => .sequenceEnd
  | .mappingStart => .mappingStart none
  | .mappingEnd => .mappingEnd
  | .alias _ => .alias ""

namespace Block

/-- A plain word as a scalar. -/
def scalar (text : String) : Scalar :=
  { text, style := .plain }

/-- The lines of a block mapping in a column. -/
def lines (column : Nat) : Block → List Line
  | nil => []
  | word key value others => ⟨column, key, some value⟩ :: others.lines column
  | mapping key inner others =>
      ⟨column, key, none⟩ :: (inner.lines (column + 2) ++ others.lines column)

/-- The text of a block mapping. -/
def text (block : Block) : String :=
  String.ofList (textFrom (block.lines 0))

/-- The tokens of the entries, without the end of the mapping. -/
def tokens : Block → List Token
  | nil => []
  | word key value others =>
      [.key, .scalar key .plain, .value, .scalar value .plain] ++ others.tokens
  | mapping key inner others =>
      [.key, .scalar key .plain, .value, .blockMappingStart] ++ inner.tokens ++
        .blockEnd :: others.tokens

/-- The events of the entries, with the end of the mapping. -/
def events : Block → List Event
  | nil => [.mappingEnd]
  | word key value others => .scalar (scalar key) :: .scalar (scalar value) :: others.events
  | mapping key inner others =>
      .scalar (scalar key) :: .mappingStart :: (inner.events ++ others.events)

/-- All words are plain, the keys are short enough for keys, and no mapping inside is empty. -/
def IsPlain : Block → Prop
  | nil => True
  | word key value others => IsKey key ∧ Yaml.IsPlain value.toList ∧ others.IsPlain
  | mapping key inner others => IsKey key ∧ inner ≠ nil ∧ inner.IsPlain ∧ others.IsPlain

/-! ## Tokens -/

section Tokens

variable {block : Block} {column : Nat} {outer : List Nat} {after : List Line}

theorem exists_lines (nonempty : block ≠ nil) (column : Nat) :
    ∃ line others, block.lines column = line :: others ∧ line.indent = column := by
  cases block with
  | nil => exact absurd rfl nonempty
  | word | mapping => exact ⟨_, _, rfl, rfl⟩

theorem startColumn_lines_le (below : startColumn after ≤ column) :
    startColumn (block.lines column ++ after) ≤ column := by
  cases block with
  | nil => exact below
  | word | mapping => exact Nat.le_refl _

theorem isOutline_lines (plain : block.IsPlain) (outline : IsOutline after)
    (below : startColumn after ≤ column) : IsOutline (block.lines column ++ after) := by
  induction block generalizing column after with
  | nil => exact outline
  | word key value others ih =>
      obtain ⟨short, word, others⟩ := plain
      have line : Line.IsPlain ⟨column, key, some value⟩ :=
        ⟨short, fun text same => Option.some.inj same ▸ word⟩
      exact ⟨line, fun _ => startColumn_lines_le below, ih others outline below⟩
  | mapping key inner others ihInner ihOthers =>
      obtain ⟨short, nonempty, innerPlain, othersPlain⟩ := plain
      have line : Line.IsPlain ⟨column, key, none⟩ := ⟨short, fun text same => by cases same⟩
      have others : IsOutline (inner.lines (column + 2) ++ (others.lines column ++ after)) :=
        ihInner innerPlain (ihOthers othersPlain outline below)
          (Nat.le_add_right_of_le (startColumn_lines_le below))
      rw [lines, List.cons_append, List.append_assoc]
      exact ⟨line, fun set => absurd set Bool.false_ne_true, others⟩

/-- The lines of a mapping become the tokens of its entries. -/
theorem lineTokens_lines (plain : block.IsPlain) (below : startColumn after ≤ column) :
    lineTokens (column :: outer) (block.lines column ++ after) =
      block.tokens ++ lineTokens (column :: outer) after := by
  induction block generalizing column outer after with
  | nil => rfl
  | word key value others ih =>
      have entry := lineTokens_same outer ⟨column, key, some value⟩ (others.lines column ++ after)
      rw [lines, List.cons_append, entry, ih plain.2.2 below]
      rfl
  | mapping key inner others ihInner ihOthers =>
      obtain ⟨short, nonempty, innerPlain, othersPlain⟩ := plain
      have left : startColumn (others.lines column ++ after) < column + 2 :=
        Nat.lt_succ_of_le (Nat.le_succ_of_le (startColumn_lines_le below))
      have inside : lineTokens (column :: outer)
            (inner.lines (column + 2) ++ (others.lines column ++ after)) =
          .blockMappingStart :: (inner.tokens ++ .blockEnd ::
            (others.tokens ++ lineTokens (column :: outer) after)) := by
        obtain ⟨line, behind, started, indent⟩ := exists_lines nonempty (column + 2)
        have right : ∀ place ∈ (column :: outer).head?, place < line.indent := by
          rintro place ⟨⟩
          omega
        rw [started, List.cons_append, lineTokens_open right, ← List.cons_append, ← started,
          indent, ihInner innerPlain (Nat.le_of_lt left), lineTokens_close left,
          ihOthers othersPlain below]
      have entry := lineTokens_same outer ⟨column, key, none⟩
        (inner.lines (column + 2) ++ (others.lines column ++ after))
      rw [lines, List.cons_append, List.append_assoc, entry, inside]
      simp [tokens]

/-- The text of a block mapping is cut into the tokens of the mapping. -/
theorem contents_tokens_text (nonempty : block ≠ nil) (plain : block.IsPlain) :
    (Yaml.tokens block.text).map (·.content) =
      .streamStart :: .blockMappingStart :: (block.tokens ++ [.blockEnd, .streamEnd]) := by
  obtain ⟨line, others, started, indent⟩ := exists_lines nonempty 0
  have outline : IsOutline (block.lines 0) :=
    List.append_nil (block.lines 0) ▸ isOutline_lines plain trivial (Nat.le_refl 0)
  have inside : lineTokens [0] (block.lines 0 ++ []) = block.tokens ++ [.blockEnd, .streamEnd] :=
    lineTokens_lines plain (Nat.le_refl 0)
  have opened : lineTokens [] (block.lines 0) =
      .blockMappingStart :: lineTokens [0] (block.lines 0) := by
    rw [started, lineTokens_open (fun column first => by cases first), indent]
  rw [List.append_nil] at inside
  rw [text, contents_tokens outline (by rw [started]; exact indent), opened, inside]

end Tokens

/-! ## Events -/

theorem exists_entry {read : Tokens} {first second third fourth : Token} {after : List Token}
    (contents : read.map (·.content) = first :: second :: third :: fourth :: after) :
    ∃ start name colon value rest,
      read = ⟨first, start⟩ :: ⟨second, name⟩ :: ⟨third, colon⟩ :: ⟨fourth, value⟩ :: rest ∧
        rest.map (·.content) = after := by
  obtain ⟨⟨_, start⟩, _, rfl, rfl, fromName⟩ := List.map_eq_cons_iff.mp contents
  obtain ⟨⟨_, name⟩, _, rfl, rfl, fromColon⟩ := List.map_eq_cons_iff.mp fromName
  obtain ⟨⟨_, colon⟩, _, rfl, rfl, fromValue⟩ := List.map_eq_cons_iff.mp fromColon
  obtain ⟨⟨_, value⟩, rest, rfl, rfl, behind⟩ := List.map_eq_cons_iff.mp fromValue
  exact ⟨start, name, colon, value, rest, rfl, behind⟩

/-- The parser reads the entries of a block mapping, one step a token. -/
theorem nodeEvents_tokens (handles : TagHandles) (block : Block) (goals : List Goal)
    {read : Tokens} {after : List Token}
    (contents : read.map (·.content) = block.tokens ++ .blockEnd :: after) :
    ∃ (events : List (Placed RawEvent)) (rest : Tokens),
      events.map (·.content) = block.events.map Event.bare ∧ rest.map (·.content) = after ∧
      ∀ fuel, nodeEvents handles (fuel + (block.tokens.length + 1)) (.blockKey :: goals) read =
        (events ++ (nodeEvents handles fuel goals rest).1,
          (nodeEvents handles fuel goals rest).2) := by
  induction block generalizing goals read after with
  | nil =>
      obtain ⟨⟨_, place⟩, rest, rfl, rfl, behind⟩ := List.map_eq_cons_iff.mp contents
      refine ⟨[⟨.mappingEnd, place⟩], rest, ?_, behind, fun fuel => rfl⟩
      simp [Block.events, Event.bare]
  | word key value others ih =>
      obtain ⟨start, name, colon, text, entries, rfl, inside⟩ := exists_entry contents
      obtain ⟨events, rest, same, behind, runs⟩ := ih goals inside
      refine ⟨⟨.scalar none (scalar key), name⟩ :: ⟨.scalar none (scalar value), text⟩ :: events,
        rest, ?_, behind, fun fuel => ?_⟩
      · simp [Block.events, Event.bare, same]
      · have entry (fuel : Nat) : nodeEvents handles (fuel + 4) (.blockKey :: goals)
              (⟨.key, start⟩ :: ⟨.scalar key .plain, name⟩ :: ⟨.value, colon⟩ ::
                ⟨.scalar value .plain, text⟩ :: entries) =
            (⟨.scalar none (scalar key), name⟩ :: ⟨.scalar none (scalar value), text⟩ ::
                (nodeEvents handles fuel (.blockKey :: goals) entries).1,
              (nodeEvents handles fuel (.blockKey :: goals) entries).2) := rfl
        have steps : fuel + ((word key value others).tokens.length + 1) =
            fuel + (others.tokens.length + 1) + 4 := by
          simp only [Block.tokens, List.length_append, List.length_cons, List.length_nil]
          omega
        rw [steps, entry, runs]
        rfl
  | mapping key inner others ihInner ihOthers =>
      have split : (mapping key inner others).tokens ++ .blockEnd :: after =
          .key :: .scalar key .plain :: .value :: .blockMappingStart :: (inner.tokens ++
            .blockEnd :: (others.tokens ++ .blockEnd :: after)) := by
        simp [Block.tokens]
      obtain ⟨start, name, colon, deeper, entries, rfl, inside⟩ :=
        exists_entry (contents.trans split)
      -- The inner mapping has a goal of its own, with that of the outer one behind it.
      obtain ⟨innerEvents, next, innerSame, behindInner, innerRuns⟩ :=
        ihInner (.blockKey :: goals) inside
      obtain ⟨events, rest, same, behind, runs⟩ := ihOthers goals behindInner
      refine ⟨⟨.scalar none (scalar key), name⟩ :: ⟨.mappingStart none, deeper⟩ ::
        (innerEvents ++ events), rest, ?_, behind, fun fuel => ?_⟩
      · simp [Block.events, Event.bare, innerSame, same]
      · have entry (fuel : Nat) : nodeEvents handles (fuel + 4) (.blockKey :: goals)
              (⟨.key, start⟩ :: ⟨.scalar key .plain, name⟩ :: ⟨.value, colon⟩ ::
                ⟨.blockMappingStart, deeper⟩ :: entries) =
            (⟨.scalar none (scalar key), name⟩ :: ⟨.mappingStart none, deeper⟩ ::
                (nodeEvents handles fuel (.blockKey :: .blockKey :: goals) entries).1,
              (nodeEvents handles fuel (.blockKey :: .blockKey :: goals) entries).2) := rfl
        have steps : fuel + ((mapping key inner others).tokens.length + 1) =
            fuel + (others.tokens.length + 1) + (inner.tokens.length + 1) + 4 := by
          simp only [Block.tokens, List.length_append, List.length_cons, List.length_nil]
          omega
        rw [steps, entry, innerRuns, runs]
        simp

/-- A document that is a block mapping. -/
theorem readDocument_tokens {block : Block} {read : Tokens}
    (contents : read.map (·.content) =
      .streamStart :: .blockMappingStart :: (block.tokens ++ [.blockEnd, .streamEnd])) :
    ∃ events : List (Placed RawEvent), readDocument read = (events, .closed) ∧
      events.map (·.content) = (.mappingStart :: block.events).map Event.bare := by
  obtain ⟨first, _, rfl, -, fromMapping⟩ := List.map_eq_cons_iff.mp contents
  obtain ⟨⟨_, place⟩, entries, rfl, rfl, inside⟩ := List.map_eq_cons_iff.mp fromMapping
  obtain ⟨events, rest, same, behind, runs⟩ := nodeEvents_tokens standardHandles block [] inside
  obtain ⟨⟨_, ending⟩, _, rfl, rfl, nothing⟩ := List.map_eq_cons_iff.mp behind
  obtain rfl := List.map_eq_nil_iff.mp nothing
  have steps : 8 * (entries.length + 1) + 8 =
      7 * (block.tokens.length + 2) + 16 + (block.tokens.length + 1) + 1 := by
    have count := congrArg List.length inside
    simp only [List.length_map, List.length_append, List.length_cons, List.length_nil] at count
    omega
  have started (fuel : Nat) : nodeEvents standardHandles (fuel + 1) [.node .inBlock]
        (⟨.blockMappingStart, place⟩ :: entries) =
      (⟨.mappingStart none, place⟩ :: (nodeEvents standardHandles fuel [.blockKey] entries).1,
        (nodeEvents standardHandles fuel [.blockKey] entries).2) := rfl
  have read : nodeEvents standardHandles (8 * (entries.length + 1) + 8) [.node .inBlock]
        (⟨.blockMappingStart, place⟩ :: entries) =
      (⟨.mappingStart none, place⟩ :: events, some [⟨.streamEnd, ending⟩]) := by
    rw [steps, started, runs]
    simp [nodeEvents]
  have document : readDocument (first :: ⟨.blockMappingStart, place⟩ :: entries) =
      ((nodeEvents standardHandles (8 * (entries.length + 1) + 8) [.node .inBlock]
          (⟨.blockMappingStart, place⟩ :: entries)).1,
        endingOf (nodeEvents standardHandles (8 * (entries.length + 1) + 8) [.node .inBlock]
          (⟨.blockMappingStart, place⟩ :: entries)).2) := rfl
  refine ⟨⟨.mappingStart none, place⟩ :: events, ?_, ?_⟩
  · rw [document, read]
    rfl
  · rw [List.map_cons, same]
    rfl

/-! ## Documents -/

theorem ne_alias (block : Block) : ∀ event ∈ block.events, ∀ number, event ≠ .alias number := by
  induction block with
  | nil => simp [events]
  | word key value others ih => simpa [events] using ih
  | mapping key inner others ihInner ihOthers =>
      intro event member
      simp only [events, List.mem_cons, List.mem_append] at member
      obtain rfl | rfl | member | member := member
      · exact fun number same => by cases same
      · exact fun number same => by cases same
      · exact ihInner event member
      · exact ihOthers event member

theorem numbered_bare {event : Event} (noAlias : ∀ number, event ≠ .alias number)
    (anchors : Anchors) :
    event.bare.numbered? anchors = some event ∧ event.bare.anchor? = none := by
  match event, noAlias with
  | .alias number, noAlias => exact absurd rfl (noAlias number)
  | .scalar _, _ | .sequenceStart, _ | .sequenceEnd, _ | .mappingStart, _ | .mappingEnd, _ =>
      exact ⟨rfl, rfl⟩

/-- Without anchors and aliases, the events stay what they are. -/
theorem ofEvents_bare (ending : Ending) (anchors : Anchors) {raw : List (Placed RawEvent)}
    {contents : List Event} (noAlias : ∀ event ∈ contents, ∀ number, event ≠ .alias number)
    (same : raw.map (·.content) = contents.map Event.bare) :
    ∃ events, Document.ofEvents ending anchors raw = { events, ending } ∧
      events.map (·.content) = contents := by
  induction contents generalizing raw with
  | nil =>
      obtain rfl := List.map_eq_nil_iff.mp same
      exact ⟨[], rfl, rfl⟩
  | cons event contents ih =>
      obtain ⟨⟨_, place⟩, rest, rfl, rfl, behind⟩ := List.map_eq_cons_iff.mp same
      obtain ⟨first, others⟩ := List.forall_mem_cons.mp noAlias
      obtain ⟨events, read, contents⟩ := ih others behind
      obtain ⟨numbered, unanchored⟩ := numbered_bare first anchors
      have added : anchors.add event.bare = anchors := by rw [Anchors.add, unanchored]
      refine ⟨⟨event, place⟩ :: events, ?_, by rw [List.map_cons, contents]⟩
      simp only [Document.ofEvents, numbered, unanchored, added, read]
      rfl

/-- The text of a block mapping is a document with the events of the mapping. -/
theorem ofText_text {block : Block} (nonempty : block ≠ nil) (plain : block.IsPlain) :
    ∃ events, Document.ofText block.text = { events, ending := .closed } ∧
      events.map (·.content) = .mappingStart :: block.events := by
  obtain ⟨raw, read, contents⟩ := readDocument_tokens (contents_tokens_text nonempty plain)
  have noAlias : ∀ event ∈ .mappingStart :: block.events, ∀ number, event ≠ .alias number :=
    List.forall_mem_cons.mpr ⟨fun _ => Event.noConfusion, ne_alias block⟩
  obtain ⟨events, numbered, same⟩ := ofEvents_bare .closed [] noAlias contents
  exact ⟨events, by rw [Document.ofText, read]; exact numbered, same⟩

end Block

end PacketProtection.Yaml

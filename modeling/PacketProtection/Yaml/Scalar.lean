import PacketProtection.Yaml.Cursor

/-!
# Scalars

The four ways to write a scalar: *plain*, without any mark; *quoted*, with
single or double quotes; and as a *block* of lines below a `|` or a `>`, which
keeps the lines or folds them.

Every reader starts at the first character of the scalar and gives its text and
the cursor behind it, or nothing if the text is not well formed.
-/

namespace PacketProtection.Yaml

/-- How a scalar was written, as far as its meaning depends on it. -/
inductive ScalarStyle where
  | plain
  | quoted
  /-- A block that keeps its lines. -/
  | literal
  /-- A block that folds its lines. -/
  | folded
deriving DecidableEq, Repr

/-! ## Plain scalars -/

/-- A character that ends a plain word inside braces or brackets. -/
def isFlowMark (c : Char) : Bool :=
  c = ',' || c = '[' || c = ']' || c = '\x7b' || c = '\x7d'

/-- The first word of a plain scalar.  A colon ends it before a blank; inside
braces a colon must not touch one of their marks. -/
def plainWord (inFlow : Bool) : List Char → Option (List Char)
  | [] => some []
  | c :: rest =>
      let next := rest.head?.getD ' '
      if isBlank c || isBreak c then some []
      else if inFlow && c = ':' && (isFlowMark next || next = '?') then none
      else if (c = ':' && startsBlank rest) || (inFlow && isFlowMark c) then some []
      else (plainWord inFlow rest).map (c :: ·)

/-- The words of a plain scalar after a text, its last character first, and a gap.
The scalar ends at a comment, at a mark that ends the document, and outside
braces at a line that is indented by less than `indent`.  The result tells
whether a line was left behind after the last word. -/
def plainWords (inFlow : Bool) (indent : Nat) :
    (fuel : Nat) → (before : List Char) → Gap → Cursor → Option (List Char × Bool × Cursor)
  | 0, _, _, _ => none
  | fuel + 1, before, gap, cursor =>
      if cursor.atDocumentMark || cursor.rest.head? = some '#' then
        some (before.reverse, gap.crossed, cursor)
      else do
        let word ← plainWord inFlow cursor.rest
        let before := if word.isEmpty then before else (gap.joined ++ word).reverse ++ before
        let gap := if word.isEmpty then gap else {}
        let cursor := cursor.skip word.length
        if cursor.rest.isEmpty || !startsBlank cursor.rest then
          return (before.reverse, gap.crossed, cursor)
        let (gap, cursor) ← gap.scan indent cursor.bound cursor
        if !inFlow && cursor.column < indent then
          return (before.reverse, gap.crossed, cursor)
        plainWords inFlow indent fuel before gap cursor

/-- A plain scalar, and whether a line was left behind after it. -/
def plainScalar (inFlow : Bool) (indent : Nat) (cursor : Cursor) :
    Option (List Char × Bool × Cursor) :=
  plainWords inFlow indent cursor.bound [] {} cursor

/-! ## Escapes -/

/-- The number written in the first `count` hexadecimal digits, and the rest. -/
def hexNumber? : (count : Nat) → (value : Nat) → List Char → Option (Nat × List Char)
  | 0, value, rest => some (value, rest)
  | _ + 1, _, [] => none
  | count + 1, value, c :: rest => do
      let digit ← Hex.charValue? c
      hexNumber? count (16 * value + digit) rest

/-- The character of a number, unless it is a surrogate or too large. -/
def scalarValue? (code : Nat) : Option Char :=
  if (0xd800 ≤ code ∧ code ≤ 0xdfff) ∨ 0x10ffff < code then none else some (Char.ofNat code)

/-- The code of an escape of one letter. -/
def letterEscape? (letter : Char) : Option Nat :=
  match letter with
  | '0' => some 0
  | 'a' => some 7
  | 'b' => some 8
  | 't' => some 9
  | '\t' => some 9
  | 'n' => some 10
  | 'v' => some 11
  | 'f' => some 12
  | 'r' => some 13
  | 'e' => some 27
  | ' ' => some 32
  | '"' => some 34
  | '/' => some 47
  | '\\' => some 92
  | 'N' => some 0x85
  | '_' => some 0xa0
  | 'L' => some 0x2028
  | 'P' => some 0x2029
  | _ => none

/-- Number of digits of an escape by code. -/
def codeEscape? (letter : Char) : Option Nat :=
  match letter with
  | 'x' => some 2
  | 'u' => some 4
  | 'U' => some 8
  | _ => none

/-- The character of an escape that starts with a letter, and how many characters
the escape takes behind the letter. -/
def escape? (letter : Char) (rest : List Char) : Option (Char × Nat) :=
  match codeEscape? letter with
  | some count => do
      let (code, _) ← hexNumber? count 0 rest
      return (← scalarValue? code, count)
  | none => (letterEscape? letter).map fun code => (Char.ofNat code, 0)

/-! ## Quoted scalars -/

/-- A word inside quotes. -/
structure QuotedWord where
  text : List Char
  /-- Number of characters it is written with. -/
  count : Nat
  /-- Does it end in a backslash that takes the break behind it away? -/
  continued : Bool := false

/-- A character in front of a word, written with `count` characters. -/
def QuotedWord.push (word : QuotedWord) (c : Char) (count : Nat) : QuotedWord :=
  { word with text := c :: word.text, count := count + word.count }

/-- The word at the front of a text inside single quotes, where a quote is
written twice. -/
def singleQuotedWord : List Char → QuotedWord
  | [] => { text := [], count := 0 }
  | '\'' :: '\'' :: rest => (singleQuotedWord rest).push '\'' 2
  | c :: rest =>
      if isBlank c || isBreak c || c = '\'' then { text := [], count := 0 }
      else (singleQuotedWord rest).push c 1

/-- The word at the front of a text inside double quotes. -/
def doubleQuotedWord : (fuel : Nat) → List Char → Option QuotedWord
  | 0, _ => none
  | _ + 1, [] => some { text := [], count := 0 }
  | fuel + 1, c :: rest =>
      if isBlank c || isBreak c || c = '"' then some { text := [], count := 0 }
      else if c = '\\' then
        match rest with
        | [] => none
        | letter :: after =>
            if isBreak letter then some { text := [], count := 1, continued := true }
            else do
              let (c, count) ← escape? letter after
              return (← doubleQuotedWord fuel (after.drop count)).push c (2 + count)
      else do
        return (← doubleQuotedWord fuel rest).push c 1

/-- The word at a cursor inside quotes, the gap that starts behind it, and the
cursor there. -/
def quotedWord (double : Bool) (cursor : Cursor) : Option (List Char × Gap × Cursor) := do
  let word ←
    if double then doubleQuotedWord cursor.bound cursor.rest
    else some (singleQuotedWord cursor.rest)
  let cursor := cursor.skip word.count
  if word.continued then return (word.text, { crossed := true }, cursor.takeBreak.2)
  else return (word.text, {}, cursor)

/-- The words inside quotes after a text, its last character first, up to the
closing quote. -/
def quotedWords (double : Bool) :
    (fuel : Nat) → (before : List Char) → Cursor → Option (List Char × Cursor)
  | 0, _, _ => none
  | fuel + 1, before, cursor =>
      if cursor.atDocumentMark || cursor.rest.isEmpty then none
      else do
        let (word, gap, cursor) ← quotedWord double cursor
        let before := word.reverse ++ before
        if cursor.rest.head? = some (if double then '"' else '\'') then
          return (before.reverse, cursor.skip 1)
        let (gap, cursor) ← gap.scan 0 cursor.bound cursor
        quotedWords double fuel (gap.joined.reverse ++ before) cursor

/-- A quoted scalar. -/
def quotedScalar (double : Bool) (cursor : Cursor) : Option (List Char × Cursor) :=
  quotedWords double cursor.bound [] (cursor.skip 1)

/-! ## Block scalars -/

/-- What becomes of the breaks at the end of a block. -/
inductive Chomping where
  | strip
  | clip
  | keep
deriving DecidableEq

/-- The marks behind `|` or `>`: chomping and indentation, in either order. -/
def blockMarks? (rest : List Char) : Option (Chomping × Option Nat × List Char) :=
  let chomping? : List Char → Option (Chomping × List Char)
    | '+' :: rest => some (.keep, rest)
    | '-' :: rest => some (.strip, rest)
    | _ => none
  let digit? : List Char → Option (Nat × List Char)
    | c :: rest => if c.isDigit then some (c.toNat - 48, rest) else none
    | [] => none
  let checked (chomping : Chomping) : Option (Nat × List Char) → List Char →
      Option (Chomping × Option Nat × List Char)
    | none, rest => some (chomping, none, rest)
    | some (digit, rest), _ => if digit = 0 then none else some (chomping, some digit, rest)
  match chomping? rest with
  | some (chomping, rest) => checked chomping (digit? rest) rest
  | none =>
      match digit? rest with
      | none => some (.clip, none, rest)
      | some (digit, rest) =>
          match chomping? rest with
          | some (chomping, rest) => checked chomping (some (digit, rest)) rest
          | none => checked .clip (some (digit, rest)) rest

/-- The breaks of empty lines behind others, the last of which come first, the
widest indentation met, and the cursor at the first other line.  Spaces are indentation up to column `indent`, or without
limit while it is not known.  A tab must not stand in the indentation. -/
def blockBreaks (indent : Option Nat) :
    (fuel : Nat) → (widest : Nat) → (before : List Char) → Cursor →
    Option (Nat × List Char × Cursor)
  | 0, _, _, _ => none
  | fuel + 1, widest, before, cursor =>
      let spaces := (cursor.rest.takeWhile (· = ' ')).length
      let room := (indent.map (· - cursor.column)).getD spaces
      let cursor := cursor.skip (min spaces room)
      let widest := max widest cursor.column
      let inside := (indent.map fun column => decide (cursor.column < column)).getD true
      match cursor.rest with
      | [] => some (widest, before.reverse, cursor)
      | c :: _ =>
          if inside && c = '\t' then none
          else if isBreak c then
            let (text, cursor) := cursor.takeBreak
            blockBreaks indent fuel widest (text ++ before) cursor
          else some (widest, before.reverse, cursor)

/-- What stands between two lines of a block: the break of the first, unless it
is folded, and the empty lines.  A fold leaves a space if there are none. -/
def betweenLines (fold : Bool) (leading trailing : List Char) : List Char :=
  if fold && leading.head? = some '\n' then if trailing.isEmpty then [' '] else trailing
  else leading ++ trailing

/-- The lines of a block after a text, its last character first, the break
`leading` of its last line and the empty lines `trailing` behind it.  Lines that
start with a blank are not folded. -/
def blockLines (folded : Bool) (indent : Nat) :
    (fuel : Nat) → (before leading trailing : List Char) → (leadingBlank : Bool) → Cursor →
    Option (List Char × List Char × List Char × Cursor)
  | 0, _, _, _, _, _ => none
  | fuel + 1, before, leading, trailing, leadingBlank, cursor =>
      match cursor.rest with
      | [] => some (before.reverse, leading, trailing, cursor)
      | c :: _ =>
          if cursor.column ≠ indent then some (before.reverse, leading, trailing, cursor)
          else do
            let blank := isBlank c
            let between := betweenLines (folded && !leadingBlank && !blank) leading trailing
            let line := cursor.rest.takeWhile fun c => !isBreak c
            let (leading, cursor) := (cursor.skip line.length).takeBreak
            let (_, trailing, cursor) ← blockBreaks (some indent) cursor.bound 0 [] cursor
            blockLines folded indent fuel ((between ++ line).reverse ++ before) leading trailing
              blank cursor

/-- A block scalar below a line whose indentation is `outer`, if there is one. -/
def blockScalar (folded : Bool) (outer : Option Nat) (cursor : Cursor) :
    Option (List Char × Cursor) := do
  let (chomping, increment, rest) ← blockMarks? (cursor.rest.drop 1)
  let cursor := ((cursor.moveTo rest).skipWhile isBlank).skipComment
  if !cursor.rest.isEmpty && !startsBlank cursor.rest then
    none
  let cursor := cursor.takeBreak.2
  let given := increment.map (outer.getD 0 + ·)
  let (widest, trailing, cursor) ← blockBreaks given cursor.bound 0 [] cursor
  let least := max 1 ((outer.map (· + 1)).getD 0)
  let indent := given.getD (max widest least)
  let (text, leading, trailing, cursor) ←
    blockLines folded indent cursor.bound [] [] trailing false cursor
  match chomping with
  | .strip => return (text, cursor)
  | .clip => return (text ++ leading, cursor)
  | .keep => return (text ++ leading ++ trailing, cursor)

end PacketProtection.Yaml

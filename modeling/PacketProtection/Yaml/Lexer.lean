import PacketProtection.Yaml.Token

/-!
# Cutting a text into tokens

Outside braces and brackets, indentation opens and closes mappings and
sequences.  Inside them it has no meaning.

*Pending keys.*  A scalar may be a key, which only the colon behind it tells.
It is kept as *pending* until the colon comes, or until it can no longer come:
a key ends on its line and is at most 1024 bytes long.  When the colon
comes, a key token is put in front of the scalar, and a mapping is opened if
the scalar stands further right than the mapping around it.

*Order.*  Tokens are handed out in order, and a token that is pending holds
back all behind it.  If the text turns out not to be well formed, the tokens
handed out before stay valid and the rest is missing.
-/

namespace PacketProtection.Yaml

/-- A token that may turn out to start a key. -/
structure PendingKey where
  /-- Must it be a key, because nothing else may stand in its place? -/
  required : Bool
  /-- Number of the token, counted from the start of the text. -/
  number : Nat
  place : Place
  offset : Nat

/-- The state between two tokens. -/
structure Lexer where
  cursor : Cursor
  /-- Number of braces and brackets that are open. -/
  depth : Nat := 0
  /-- Column of the innermost collection, if there is one. -/
  indent : Option Nat := none
  /-- Columns of the collections around it. -/
  outer : List (Option Nat) := []
  /-- May a key start here? -/
  keyAllowed : Bool := true
  /-- The pending key of each level of braces and brackets, innermost first. -/
  keys : List (Option PendingKey) := [none]
  /-- Tokens that were not handed out yet. -/
  queue : List (Placed Token) := []
  /-- Number of tokens that were handed out. -/
  handedOut : Nat := 0
  /-- Has the end of the text become a token? -/
  ended : Bool := false

namespace Lexer

/-! ## The queue -/

/-- Adds a token at the cursor. -/
def push (lexer : Lexer) (token : Token) : Lexer :=
  { lexer with queue := lexer.queue ++ [⟨token, lexer.cursor.toPlace⟩] }

/-- Adds a token in front of the one of a pending key. -/
def insert (lexer : Lexer) (key : PendingKey) (token : Token) : Lexer :=
  let ahead := key.number - lexer.handedOut
  { lexer with
      queue := lexer.queue.take ahead ++ ⟨token, key.place⟩ :: lexer.queue.drop ahead }

/-- Adds a token that is some characters long and moves behind it. -/
def pushSkip (lexer : Lexer) (count : Nat) (token : Token) : Lexer :=
  { lexer.push token with cursor := lexer.cursor.skip count }

/-! ## Pending keys -/

/-- Gives up the pending key of the innermost level; not if it is required. -/
def dropKey (lexer : Lexer) : Option Lexer :=
  match lexer.keys with
  | some key :: keys => if key.required then none else some { lexer with keys := none :: keys }
  | _ => some lexer

/-- Makes the next token a pending key, where a key is allowed. -/
def saveKey (lexer : Lexer) : Option Lexer :=
  if lexer.keyAllowed then do
    let lexer ← lexer.dropKey
    let key : PendingKey :=
      { required := lexer.depth = 0 && lexer.indent = some lexer.cursor.column
        number := lexer.handedOut + lexer.queue.length
        place := lexer.cursor.toPlace
        offset := lexer.cursor.offset }
    return { lexer with keys := some key :: lexer.keys.drop 1 }
  else some lexer

/-- Can the colon of a pending key no longer come? -/
def isStale (cursor : Cursor) (key : PendingKey) : Bool :=
  key.place.line < cursor.line || key.offset + 1024 < cursor.offset

/-- Gives up the pending keys whose colon can no longer come. -/
def dropStaleKeys (lexer : Lexer) : Option Lexer :=
  let stale := isStale lexer.cursor
  if !(lexer.keys.any fun key => key.any stale) then some lexer
  else if lexer.keys.any fun key => key.any fun key => stale key && key.required then none
  else some { lexer with keys := lexer.keys.map (·.filter fun key => !stale key) }

/-! ## Indentation -/

/-- Is a column to the right of the innermost collection? -/
def isDeeper (indent : Option Nat) (column : Nat) : Bool :=
  match indent with
  | none => true
  | some outer => outer < column

/-- Opens a collection, if its place is to the right of the innermost one.  Its
token goes in front of a pending key, or to the end of the queue. -/
def openAt (lexer : Lexer) (key : Option PendingKey) (token : Token) : Lexer :=
  let column := (key.map (·.place.column)).getD lexer.cursor.column
  if lexer.depth = 0 && isDeeper lexer.indent column then
    let lexer :=
      { lexer with indent := some column, outer := lexer.indent :: lexer.outer }
    match key with
    | some key => lexer.insert key token
    | none => lexer.push token
  else lexer

/-- Closes the collections, innermost first, that are to the right of a column,
or all of them. -/
def closeFrom (column : Option Nat) : (outer : List (Option Nat)) → Lexer → Lexer
  | [], lexer => lexer
  | next :: outer, lexer =>
      let isRight := match lexer.indent, column with
        | none, _ => false
        | some _, none => true
        | some indent, some column => decide (column < indent)
      if isRight then
        closeFrom column outer { lexer.push .blockEnd with indent := next, outer }
      else lexer

/-- Closes the collections that are to the right of a column, or all of them;
inside braces nothing happens. -/
def closeTo (lexer : Lexer) (column : Option Nat) : Lexer :=
  if lexer.depth = 0 then closeFrom column lexer.outer lexer else lexer

/-! ## Blanks and comments -/

/-- Moves over blanks, breaks, comments and order marks.  A tab is no blank where
a key may start, except inside braces.  After a break a key may start. -/
def skipBlanks : (fuel : Nat) → Lexer → Lexer
  | 0, lexer => lexer
  | fuel + 1, lexer =>
      let tabs := lexer.depth ≠ 0 || !lexer.keyAllowed
      let cursor := lexer.cursor.skipOrderMark.skipWhile fun c => c = ' ' || (tabs && c = '\t')
      let cursor := cursor.skipComment
      match cursor.rest with
      | [] => { lexer with cursor }
      | c :: _ =>
          if isBreak c then
            let keyAllowed := lexer.keyAllowed || lexer.depth = 0
            skipBlanks fuel { lexer with cursor := cursor.takeBreak.2, keyAllowed }
          else { lexer with cursor }

/-! ## Tokens -/

/-- Closes all collections in front of a directive, a document mark or the end
of the text. -/
def closeDocument (lexer : Lexer) : Option Lexer := do
  let lexer ← (lexer.closeTo none).dropKey
  return { lexer with keyAllowed := false }

/-- The end of the text, which also ends its last line. -/
def fetchEnd (lexer : Lexer) : Option Lexer := do
  let lexer ← lexer.closeDocument
  let cursor :=
    if lexer.cursor.column = 0 then lexer.cursor
    else { lexer.cursor with line := lexer.cursor.line + 1, column := 0 }
  return { lexer.push .streamEnd with cursor, ended := true }

/-- A directive. -/
def fetchDirective (lexer : Lexer) : Option Lexer := do
  let lexer ← lexer.closeDocument
  let (token, cursor) ← directiveToken? lexer.cursor
  return { lexer.push token with cursor }

/-- A mark that starts or ends a document. -/
def fetchDocumentMark (lexer : Lexer) (token : Token) : Option Lexer := do
  let lexer ← lexer.closeDocument
  return lexer.pushSkip 3 token

/-- An opening brace or bracket. -/
def fetchOpening (lexer : Lexer) (token : Token) : Option Lexer := do
  let lexer ← lexer.saveKey
  let lexer :=
    { lexer with keys := none :: lexer.keys, depth := lexer.depth + 1, keyAllowed := true }
  return lexer.pushSkip 1 token

/-- A closing brace or bracket. -/
def fetchClosing (lexer : Lexer) (token : Token) : Option Lexer := do
  let lexer ← lexer.dropKey
  let keys := if lexer.depth = 0 then lexer.keys else lexer.keys.drop 1
  let lexer := { lexer with keys, depth := lexer.depth - 1, keyAllowed := false }
  return lexer.pushSkip 1 token

/-- A comma inside braces or brackets. -/
def fetchFlowEntry (lexer : Lexer) : Option Lexer := do
  let lexer ← lexer.dropKey
  return { lexer.pushSkip 1 .flowEntry with keyAllowed := true }

/-- The dash of an element of a sequence. -/
def fetchBlockEntry (lexer : Lexer) : Option Lexer := do
  if lexer.depth = 0 && !lexer.keyAllowed then
    none
  let lexer := lexer.openAt none .blockSequenceStart
  let lexer ← lexer.dropKey
  return { lexer.pushSkip 1 .blockEntry with keyAllowed := true }

/-- The question mark in front of a key. -/
def fetchKey (lexer : Lexer) : Option Lexer := do
  if lexer.depth = 0 && !lexer.keyAllowed then
    none
  let lexer := lexer.openAt none .blockMappingStart
  let lexer ← lexer.dropKey
  return { lexer.pushSkip 1 .key with keyAllowed := lexer.depth = 0 }

/-- The colon in front of a value: the pending key becomes a key. -/
def fetchValue (lexer : Lexer) : Option Lexer :=
  match lexer.keys with
  | some key :: keys =>
      let lexer := { lexer with keys := none :: keys, keyAllowed := false }
      let lexer := lexer.insert key .key
      let lexer := lexer.openAt (some key) .blockMappingStart
      some (lexer.pushSkip 1 .value)
  | _ =>
      if lexer.depth = 0 && !lexer.keyAllowed then none
      else
        let lexer := lexer.openAt none .blockMappingStart
        some { lexer.pushSkip 1 .value with keyAllowed := lexer.depth = 0 }

/-- A token that may be a key, read by a function. -/
def fetchKeyable (lexer : Lexer) (read : Cursor → Option (Token × Cursor)) : Option Lexer := do
  let lexer ← lexer.saveKey
  let (token, cursor) ← read lexer.cursor
  return { lexer.push token with cursor, keyAllowed := false }

/-- An anchor. -/
def anchorToken? (cursor : Cursor) : Option (Token × Cursor) :=
  (anchorName? cursor).map fun (name, cursor) => (.anchor name, cursor)

/-- An alias. -/
def aliasToken? (cursor : Cursor) : Option (Token × Cursor) :=
  (anchorName? cursor).map fun (name, cursor) => (.alias name, cursor)

/-- A quoted scalar. -/
def quotedToken? (double : Bool) (cursor : Cursor) : Option (Token × Cursor) :=
  (quotedScalar double cursor).map fun (text, cursor) =>
    (.scalar (String.ofList text) .quoted, cursor)

/-- A block scalar. -/
def fetchBlockScalar (lexer : Lexer) (folded : Bool) : Option Lexer := do
  let lexer ← lexer.dropKey
  let (text, cursor) ← blockScalar folded lexer.indent lexer.cursor
  let style := if folded then ScalarStyle.folded else .literal
  return { lexer.push (.scalar (String.ofList text) style) with cursor, keyAllowed := true }

/-- A plain scalar; a key may follow it if its line was left behind. -/
def fetchPlain (lexer : Lexer) : Option Lexer := do
  let lexer ← lexer.saveKey
  let indent := (lexer.indent.map (· + 1)).getD 0
  let (text, crossed, cursor) ← plainScalar (lexer.depth ≠ 0) indent lexer.cursor
  return { lexer.push (.scalar (String.ofList text) .plain) with cursor, keyAllowed := crossed }

/-- Can a character not start a plain scalar on its own? -/
def isIndicator (c : Char) : Bool :=
  "-?:,[]\x7b\x7d#&*!|>'\"%@`".toList.contains c

/-- The next token or tokens, from their first character. -/
def fetchFrom (lexer : Lexer) (c : Char) (rest : List Char) : Option Lexer :=
  let inFlow := lexer.depth ≠ 0
  let blankNext := startsBlank rest
  if lexer.cursor.column = 0 && c = '%' then lexer.fetchDirective
  else if lexer.cursor.atDocumentMark then
    lexer.fetchDocumentMark (if c = '-' then .documentStart else .documentEnd)
  else if c = '[' then lexer.fetchOpening .flowSequenceStart
  else if c = '\x7b' then lexer.fetchOpening .flowMappingStart
  else if c = ']' then lexer.fetchClosing .flowSequenceEnd
  else if c = '\x7d' then lexer.fetchClosing .flowMappingEnd
  else if c = ',' then lexer.fetchFlowEntry
  else if c = '-' && blankNext then lexer.fetchBlockEntry
  else if c = '?' && (inFlow || blankNext) then lexer.fetchKey
  else if c = ':' && (inFlow || blankNext) then lexer.fetchValue
  else if c = '*' then lexer.fetchKeyable aliasToken?
  else if c = '&' then lexer.fetchKeyable anchorToken?
  else if c = '!' then lexer.fetchKeyable (tagToken? inFlow)
  else if c = '|' && !inFlow then lexer.fetchBlockScalar false
  else if c = '>' && !inFlow then lexer.fetchBlockScalar true
  else if c = '\'' then lexer.fetchKeyable (quotedToken? false)
  else if c = '"' then lexer.fetchKeyable (quotedToken? true)
  else if (!isBlank c && !isIndicator c) || c = '-' || (!inFlow && (c = '?' || c = ':')) then
    lexer.fetchPlain
  else none

/-- Reads the next token or tokens into the queue. -/
def fetch (lexer : Lexer) : Option Lexer := do
  let lexer := skipBlanks lexer.cursor.bound lexer
  let lexer ← lexer.dropStaleKeys
  match lexer.cursor.rest with
  | [] => fetchEnd (lexer.closeTo (some lexer.cursor.column))
  | c :: rest => (lexer.closeTo (some lexer.cursor.column)).fetchFrom c rest

/-- Does a pending key hold back the first token of the queue? -/
def isHeldBack (lexer : Lexer) : Bool :=
  lexer.keys.any fun key => key.any fun key => key.number = lexer.handedOut

/-- Hands out tokens until the end of the text or until the text is not well
formed. -/
def run : (fuel : Nat) → Lexer → List (Placed Token)
  | 0, _ => []
  | fuel + 1, lexer =>
      match lexer.queue with
      | [] =>
          if lexer.ended then []
          else
            match lexer.fetch with
            | none => []
            | some lexer => run fuel lexer
      | token :: queue =>
          match lexer.dropStaleKeys with
          | none => []
          | some lexer =>
              if lexer.isHeldBack then
                match lexer.fetch with
                | none => []
                | some lexer => run fuel lexer
              else token :: run fuel { lexer with queue, handedOut := lexer.handedOut + 1 }

end Lexer

/-- The tokens of a text.  The last one is the end of the text, unless the text
is not well formed. -/
def tokens (text : String) : List (Placed Token) :=
  let chars := text.toList
  if chars.all isPrintable then
    Lexer.run (8 * chars.length + 16) { cursor := .start chars, queue := [⟨.streamStart, {}⟩] }
  else []

end PacketProtection.Yaml

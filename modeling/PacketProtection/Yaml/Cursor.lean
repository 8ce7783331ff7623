import PacketProtection.Hex

/-!
# Reading YAML text

Association files are written in YAML 1.1.  The text is read through a *cursor*
that knows line and column, because indentation decides about structure and a
key has to end on the line on which it starts.  It also knows its distance from
the start in bytes of UTF-8, because a key must not be too long.

*Breaks and blanks.*  A line ends at a line feed, at a carriage return with or
without a line feed, at a next-line character, or at a Unicode line or
paragraph separator.  The first four count as one line feed wherever a break
becomes part of a value.  Blanks are the space and the tab.

*Order marks.*  A byte order mark may stand at the start of any line between
tokens, and is skipped there; it takes a column.  Elsewhere it is a character
like others.

*Folding.*  The blanks and breaks between two words of a scalar form a `Gap`.
Without a break it stands for its blanks; with one break for a single space;
with more for the breaks after the first.
-/

namespace PacketProtection.Yaml

/-! ## Characters -/

/-- Is a character a space or a tab? -/
def isBlank (c : Char) : Bool :=
  c = ' ' || c = '\t'

/-- Is a character one of the Unicode separators that stay what they are? -/
def isSeparator (c : Char) : Bool :=
  c.toNat = 0x2028 || c.toNat = 0x2029

/-- Does a character end a line? -/
def isBreak (c : Char) : Bool :=
  c = '\n' || c = '\r' || c.toNat = 0x85 || isSeparator c

/-- The byte order mark. -/
def orderMark : Char :=
  Char.ofNat 0xfeff

/-- Is the first character of a text a blank or a break, or is there none? -/
def startsBlank : List Char → Bool
  | [] => true
  | c :: _ => isBlank c || isBreak c

/-- Can a character stand in a name of an anchor, a tag or a directive? -/
def isWordChar (c : Char) : Bool :=
  c.isAlphanum || c = '_' || c = '-'

/-- May a character stand in a text at all? -/
def isPrintable (c : Char) : Bool :=
  let code := c.toNat
  code = 9 || code = 10 || code = 13 || (0x20 ≤ code && code ≤ 0x7e) || code = 0x85
    || (0xa0 ≤ code && code ≤ 0xd7ff) || (0xe000 ≤ code && code ≤ 0xfffd) || 0x10000 ≤ code

/-! ## Cursors -/

/-- A place in a text, by the number of lines above it and of characters before it
on its line. -/
structure Place where
  line : Nat := 0
  column : Nat := 0
deriving DecidableEq, Repr

/-- The place of the next character. -/
def Place.next (place : Place) : Place :=
  { place with column := place.column + 1 }

/-- A place as it is named in messages, counting from one. -/
def Place.name (place : Place) : String :=
  let line := place.line + 1
  let column := place.column + 1
  s!"line {line} column {column}"

/-- What stands at a place. -/
structure Placed (α : Type) where
  content : α
  place : Place
deriving DecidableEq, Repr

/-- A place in a text, and what is left of the text there. -/
structure Cursor extends Place where
  /-- What is left of the text. -/
  rest : List Char
  /-- More than the number of characters that are left; bounds what is done with
  them. -/
  bound : Nat
  /-- Number of bytes before the place. -/
  offset : Nat := 0

namespace Cursor

/-- The start of a text. -/
def start (text : List Char) : Cursor :=
  { rest := text, bound := text.length + 1 }

/-- Moves over the characters of the same line that `rest` comes behind. -/
def pass (cursor : Cursor) (chars rest : List Char) : Cursor :=
  { cursor with
      rest
      column := cursor.column + chars.length
      offset := cursor.offset + chars.foldl (fun bytes c => bytes + c.utf8Size) 0 }

/-- Moves over a number of characters of the same line. -/
def skip (cursor : Cursor) (count : Nat) : Cursor :=
  cursor.pass (cursor.rest.take count) (cursor.rest.drop count)

/-- Moves over characters of the same line, up to what is left after them. -/
def moveTo (cursor : Cursor) (rest : List Char) : Cursor :=
  cursor.skip (cursor.rest.length - rest.length)

/-- Moves over all characters of a kind on the same line. -/
def skipWhile (cursor : Cursor) (kind : Char → Bool) : Cursor :=
  cursor.pass (cursor.rest.takeWhile kind) (cursor.rest.dropWhile kind)

/-- Moves over a break, if there is one; gives what the break stands for. -/
def takeBreak (cursor : Cursor) : List Char × Cursor :=
  let moved (bytes : Nat) (rest : List Char) : Cursor :=
    { cursor with rest, line := cursor.line + 1, column := 0, offset := cursor.offset + bytes }
  match cursor.rest with
  | '\r' :: '\n' :: rest => (['\n'], moved 2 rest)
  | c :: rest =>
      if isSeparator c then ([c], moved c.utf8Size rest)
      else if isBreak c then (['\n'], moved c.utf8Size rest)
      else ([], cursor)
  | [] => ([], cursor)

/-- Moves over a comment, if one starts here. -/
def skipComment (cursor : Cursor) : Cursor :=
  match cursor.rest with
  | '#' :: _ => cursor.skipWhile fun c => !isBreak c
  | _ => cursor

/-- Moves over an order mark, if one starts the line. -/
def skipOrderMark (cursor : Cursor) : Cursor :=
  if cursor.column = 0 && cursor.rest.head? = some orderMark then cursor.skip 1 else cursor

/-- Does a line start here with a mark that ends a document? -/
def atDocumentMark (cursor : Cursor) : Bool :=
  cursor.column = 0 &&
    match cursor.rest with
    | '-' :: '-' :: '-' :: rest => startsBlank rest
    | '.' :: '.' :: '.' :: rest => startsBlank rest
    | _ => false

end Cursor

/-! ## Gaps between words -/

/-- Blanks and breaks between two words. -/
structure Gap where
  /-- Blanks, as long as there was no break, the last first. -/
  blanks : List Char := []
  /-- Was there a break? -/
  crossed : Bool := false
  /-- The first break. -/
  first : List Char := []
  /-- The breaks after the first, the last first. -/
  more : List Char := []

namespace Gap

/-- What a gap stands for. -/
def joined (gap : Gap) : List Char :=
  if gap.crossed then
    if gap.first = ['\n'] then if gap.more.isEmpty then [' '] else gap.more.reverse
    else gap.first ++ gap.more.reverse
  else gap.blanks.reverse

/-- Adds the blanks and breaks at a cursor to a gap.  A tab after a break is
refused if it stands in front of column `indent`.  `fuel` bounds the number of
characters. -/
def scan (indent : Nat) : (fuel : Nat) → Gap → Cursor → Option (Gap × Cursor)
  | 0, _, _ => none
  | fuel + 1, gap, cursor =>
      match cursor.rest with
      | [] => some (gap, cursor)
      | c :: _ =>
          if isBlank c then
            if gap.crossed && cursor.column < indent && c = '\t' then none
            else
              let gap := if gap.crossed then gap else { gap with blanks := c :: gap.blanks }
              scan indent fuel gap (cursor.skip 1)
          else if isBreak c then
            let (text, cursor) := cursor.takeBreak
            let gap :=
              if gap.crossed then { gap with more := text ++ gap.more }
              else { crossed := true, first := text }
            scan indent fuel gap cursor
          else some (gap, cursor)

end Gap

end PacketProtection.Yaml

import PacketProtection.Yaml.Scalar

/-!
# Tokens

A YAML text is first cut into tokens.  Some of them stand for marks in the
text, others for a change of indentation.  A tag token carries a handle, which
is an abbreviation declared elsewhere, and the bytes behind it.

*Tags are bytes.*  An escape in a tag stands for bytes that have the form of
UTF-8, but need not be the encoding of a character.  A tag ends at its first
zero byte.
-/

namespace PacketProtection.Yaml

/-- A token of a YAML text. -/
inductive Token where
  | streamStart
  | streamEnd
  | versionDirective (major minor : Nat)
  | tagDirective (handle : String) (meaning : Bytes)
  | documentStart
  | documentEnd
  | blockSequenceStart
  | blockMappingStart
  | blockEnd
  | flowSequenceStart
  | flowSequenceEnd
  | flowMappingStart
  | flowMappingEnd
  | blockEntry
  | flowEntry
  | key
  | value
  | alias (name : String)
  | anchor (name : String)
  | tag (handle : String) (suffix : Bytes)
  | scalar (text : String) (style : ScalarStyle)
deriving DecidableEq, Repr

/-! ## Names -/

/-- The name of an anchor or an alias behind its mark, and the cursor behind
it.  Something has to end the name. -/
def anchorName? (cursor : Cursor) : Option (String × Cursor) :=
  let start := cursor.skip 1
  let name := start.rest.takeWhile isWordChar
  let stop := start.skip name.length
  let ended := match stop.rest with
    | [] => true
    | c :: _ => isBlank c || isBreak c || "?:,]\x7d%@`".toList.contains c
  if name.isEmpty || !ended then none else some (String.ofList name, stop)

/-! ## Tags -/

/-- May a character stand in the text of a tag? -/
def isUriChar (verbatim : Bool) (c : Char) : Bool :=
  isWordChar c || ";/?:@&=+$.!~*'()".toList.contains c || (verbatim && ",[]".toList.contains c)

/-- The byte of an escape in the text of a tag, and the rest. -/
def uriByte? : List Char → Option (UInt8 × List Char)
  | '%' :: rest => (hexNumber? 2 0 rest).map fun (code, rest) => (UInt8.ofNat code, rest)
  | _ => none

/-- A number of escaped bytes, and the rest. -/
def uriBytes? : (count : Nat) → List Char → Option (Bytes × List Char)
  | 0, rest => some ([], rest)
  | count + 1, rest => do
      let (byte, rest) ← uriByte? rest
      let (bytes, rest) ← uriBytes? count rest
      return (byte :: bytes, rest)

/-- Number of bytes of a character in UTF-8, from the first of them. -/
def utf8Width? (byte : UInt8) : Option Nat :=
  if byte < 0x80 then some 1
  else if byte &&& 0xe0 = 0xc0 then some 2
  else if byte &&& 0xf0 = 0xe0 then some 3
  else if byte &&& 0xf8 = 0xf0 then some 4
  else none

/-- The bytes of the escaped character at the front of a text, and the rest.
The first byte tells how many follow. -/
def uriEscape? (text : List Char) : Option (Bytes × List Char) := do
  let (first, rest) ← uriByte? text
  let width ← utf8Width? first
  let (others, rest) ← uriBytes? (width - 1) rest
  if others.all fun byte => byte &&& 0xc0 = 0x80 then some (first :: others, rest) else none

/-- The bytes of a tag, and the rest. -/
def uriText? (verbatim : Bool) : (fuel : Nat) → List Char → Option (Bytes × List Char)
  | 0, _ => none
  | _ + 1, [] => some ([], [])
  | fuel + 1, c :: rest =>
      if c = '%' then do
        let (escaped, rest) ← uriEscape? (c :: rest)
        let (bytes, rest) ← uriText? verbatim fuel rest
        return (escaped ++ bytes, rest)
      else if isUriChar verbatim c then do
        let (bytes, rest) ← uriText? verbatim fuel rest
        return (UInt8.ofNat c.toNat :: bytes, rest)
      else some ([], c :: rest)

/-- The bytes in front of the first zero. -/
def untilZero (bytes : Bytes) : Bytes :=
  bytes.takeWhile (· ≠ 0)

/-- A tag handle: a word between exclamation marks, or one mark with a word
that may turn out to be no handle. -/
def tagHandle? : List Char → Option (List Char × Bool × List Char)
  | '!' :: rest =>
      let word := rest.takeWhile isWordChar
      match rest.drop word.length with
      | '!' :: rest => some ('!' :: word ++ ['!'], true, rest)
      | rest => some ('!' :: word, false, rest)
  | _ => none

/-- The tag of a lone exclamation mark. -/
def nonSpecificTag : Bytes :=
  Bytes.ofString "!"

/-- Handle and suffix of the tag at the front of a text, and the rest.  A tag
between angle brackets has an empty handle, and so has a lone exclamation mark.
Something has to stand behind a handle or between the brackets. -/
def tagParts? (text : List Char) : Option (String × Bytes × List Char) :=
  match text with
  | '!' :: '<' :: rest => do
      let (uri, rest) ← uriText? true (rest.length + 1) rest
      match rest with
      | '>' :: rest => if uri.isEmpty then none else some ("", untilZero uri, rest)
      | _ => none
  | _ => do
      let (handle, closed, rest) ← tagHandle? text
      let (uri, rest) ← uriText? false (rest.length + 1) rest
      if closed then
        if uri.isEmpty then none else some (String.ofList handle, untilZero uri, rest)
      else
        let suffix := untilZero (Bytes.ofString (String.ofList (handle.drop 1)) ++ uri)
        if suffix.isEmpty then some ("", nonSpecificTag, rest) else some ("!", suffix, rest)

/-- The tag at a cursor and the cursor behind it.  A blank has to follow, or a
comma inside braces. -/
def tagToken? (inFlow : Bool) (cursor : Cursor) : Option (Token × Cursor) := do
  let (handle, suffix, rest) ← tagParts? cursor.rest
  if startsBlank rest || (inFlow && rest.head? = some ',') then
    return (.tag handle suffix, cursor.moveTo rest)
  else none

/-! ## Directives -/

/-- A number of at most nine digits, and the rest. -/
def versionNumber? (text : List Char) : Option (Nat × List Char) :=
  let digits := text.takeWhile Char.isDigit
  if digits.isEmpty || 9 < digits.length then none
  else
    some (digits.foldl (fun number c => 10 * number + (c.toNat - 48)) 0,
      text.drop digits.length)

/-- The version that a directive declares, and the rest. -/
def versionDirective? (text : List Char) : Option (Token × List Char) := do
  let (major, rest) ← versionNumber? (text.dropWhile isBlank)
  match rest with
  | '.' :: rest => do
      let (minor, rest) ← versionNumber? rest
      return (.versionDirective major minor, rest)
  | _ => none

/-- The tag handle that a directive declares, and the rest. -/
def tagDirective? (text : List Char) : Option (Token × List Char) := do
  let (handle, closed, rest) ← tagHandle? (text.dropWhile isBlank)
  if !closed && handle ≠ ['!'] then
    none
  match rest with
  | c :: _ =>
      if !isBlank c then none
      else
        let (meaning, rest) ← uriText? true (rest.length + 1) (rest.dropWhile isBlank)
        if meaning.isEmpty || !startsBlank rest then none
        else some (.tagDirective (String.ofList handle) (untilZero meaning), rest)
  | [] => none

/-- The directive at a cursor and the cursor at the line after it.  Only
versions and tag handles can be declared. -/
def directiveToken? (cursor : Cursor) : Option (Token × Cursor) := do
  let start := cursor.skip 1
  let name := start.rest.takeWhile isWordChar
  let rest := start.rest.drop name.length
  if !startsBlank rest then
    none
  let (token, rest) ←
    if name = "YAML".toList then versionDirective? rest
    else if name = "TAG".toList then tagDirective? rest
    else none
  let cursor := ((cursor.moveTo rest).skipWhile isBlank).skipComment
  if !cursor.rest.isEmpty && !startsBlank cursor.rest then
    none
  return (token, cursor.takeBreak.2)

end PacketProtection.Yaml

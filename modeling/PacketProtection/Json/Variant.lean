import PacketProtection.Hex

/-!
# Reading a name from JSON

A value that is one of several names is written in JSON as a string, or as an
object whose only member has the name as key and null as value.  Blanks may
stand around every part.

Strings are read with all escapes of JSON; control characters must be escaped,
and the two halves of a surrogate pair have to come together.
-/

namespace PacketProtection.Json

/-- Drops blanks at the front. -/
def skipBlanks : List Char → List Char :=
  List.dropWhile fun c => c = ' ' ∨ c = '\n' ∨ c = '\t' ∨ c = '\r'

/-- The number written in the first four digits, and the rest. -/
def fourDigits? : List Char → Option (Nat × List Char)
  | a :: b :: c :: d :: rest => do
      let a ← Hex.charValue? a
      let b ← Hex.charValue? b
      let c ← Hex.charValue? c
      let d ← Hex.charValue? d
      return (((a * 16 + b) * 16 + c) * 16 + d, rest)
  | _ => none

/-- The character of a `\u` escape whose digits come first, and the rest. -/
def unicodeEscape? (text : List Char) : Option (Char × List Char) := do
  let (code, rest) ← fourDigits? text
  if 0xd800 ≤ code ∧ code < 0xdc00 then
    match rest with
    | '\\' :: 'u' :: rest =>
        let (low, rest) ← fourDigits? rest
        if 0xdc00 ≤ low ∧ low < 0xe000 then
          return (Char.ofNat (0x10000 + (code - 0xd800) * 0x400 + (low - 0xdc00)), rest)
        else none
    | _ => none
  else if 0xdc00 ≤ code ∧ code < 0xe000 then none
  else return (Char.ofNat code, rest)

/-- The character of an escape of one letter. -/
def namedEscape? (letter : Char) : Option Char :=
  if letter = '"' ∨ letter = '\\' ∨ letter = '/' then some letter
  else if letter = 'b' then some (Char.ofNat 8)
  else if letter = 'f' then some (Char.ofNat 12)
  else if letter = 'n' then some '\n'
  else if letter = 'r' then some '\r'
  else if letter = 't' then some '\t'
  else none

/-- The characters of a string up to its closing quote, and the rest; `fuel`
bounds the number of characters. -/
def stringTail? : (fuel : Nat) → List Char → Option (List Char × List Char)
  | 0, _ => none
  | _ + 1, [] => none
  | fuel + 1, c :: rest =>
      if c = '"' then some ([], rest)
      else if c = '\\' then
        match rest with
        | [] => none
        | letter :: rest =>
            let escape : Option (Char × List Char) :=
              if letter = 'u' then unicodeEscape? rest
              else (namedEscape? letter).map fun c => (c, rest)
            escape.bind fun (c, rest) =>
              (stringTail? fuel rest).map fun (text, rest) => (c :: text, rest)
      else if c.toNat < 32 then none
      else (stringTail? fuel rest).map fun (text, rest) => (c :: text, rest)

/-- A string literal, and the rest. -/
def string? : List Char → Option (String × List Char)
  | '"' :: rest =>
      (stringTail? (rest.length + 1) rest).map fun (text, rest) => (String.ofList text, rest)
  | _ => none

/-- What follows a given character, blanks before it skipped. -/
def after? (c : Char) (text : List Char) : Option (List Char) :=
  match skipBlanks text with
  | first :: rest => if first = c then some rest else none
  | [] => none

/-- What follows the literal `null`, blanks before it skipped. -/
def afterNull? (text : List Char) : Option (List Char) :=
  match skipBlanks text with
  | 'n' :: 'u' :: 'l' :: 'l' :: rest => some rest
  | _ => none

/-- The name that a JSON text stands for. -/
def variantName? (text : String) : Option String := do
  let (name, rest) ←
    match skipBlanks text.toList with
    | '\x7b' :: rest => do
        let (name, rest) ← string? (skipBlanks rest)
        let rest ← after? ':' rest
        let rest ← afterNull? rest
        let rest ← after? '\x7d' rest
        pure (name, rest)
    | other => string? other
  if (skipBlanks rest).isEmpty then some name else none

end PacketProtection.Json

import PacketProtection.Text.Hidden

/-!
# Quoted text

Messages show a character or a text between quotes.  What could not be told
apart on a screen is escaped: the quote itself, the backslash, and the hidden
characters.  Some controls have a letter; all others are escaped by their number.
-/

namespace PacketProtection.Quoted

/-- Is a character shown by its number? -/
def isHidden (c : Char) : Bool :=
  hidden.any fun (first, last) => first ≤ c.toNat && c.toNat ≤ last

/-- A character between quotes of a kind. -/
def escape (quote c : Char) : String :=
  if c = '\x00' then "\\0"
  else if c = '\t' then "\\t"
  else if c = '\n' then "\\n"
  else if c = '\r' then "\\r"
  else if c = quote then "\\" ++ quote.toString
  else if c = '\\' then "\\\\"
  else if isHidden c then "\\u\x7b" ++ String.ofList (Nat.toDigits 16 c.toNat) ++ "\x7d"
  else c.toString

/-- A character in single quotes. -/
def char (c : Char) : String :=
  "'" ++ escape '\'' c ++ "'"

/-- A text in double quotes. -/
def text (content : String) : String :=
  "\"" ++ String.join (content.toList.map (escape '"')) ++ "\""

example : char '\x0b' = "'\\u\x7bb\x7d'" := by decide +kernel

end PacketProtection.Quoted

import PacketProtection.Hex

/-!
# JSON values and their text

Results are printed as JSON.  An object keeps its members in the order in which
they were put in.  The text has one member or element a line, indented by two
blanks for each level; an empty array or object stays on its line.
-/

namespace PacketProtection

/-- A JSON value; numbers are natural. -/
inductive Json where
  | null
  | bool (value : Bool)
  | num (value : Nat)
  | str (value : String)
  | arr (elements : List Json)
  | obj (members : List (String × Json))

namespace Json

/-- Bytes in hexadecimal; null without any. -/
def ofBytes? : Option Bytes → Json
  | some bytes => .str (Hex.encode bytes)
  | none => .null

/-- A character inside a string: quote, backslash and control characters are
escaped, by name where they have one. -/
def escaped (c : Char) : List Char :=
  if c = '"' then ['\\', '"']
  else if c = '\\' then ['\\', '\\']
  else if c = '\n' then ['\\', 'n']
  else if c = '\r' then ['\\', 'r']
  else if c = '\t' then ['\\', 't']
  else if c.toNat = 8 then ['\\', 'b']
  else if c.toNat = 12 then ['\\', 'f']
  else if c.toNat < 32 then ['\\', 'u', '0', '0'] ++ Hex.pair (UInt8.ofNat c.toNat)
  else [c]

/-- A string literal. -/
def quoted (text : String) : String :=
  "\"" ++ String.ofList (text.toList.flatMap escaped) ++ "\""

/-- The start of a line at a depth. -/
def newLine (depth : Nat) : String :=
  "\n" ++ String.ofList (List.replicate (2 * depth) ' ')

mutual

/-- The text of a value whose line starts at a depth. -/
def render (depth : Nat) : Json → String
  | .null => "null"
  | .bool value => if value then "true" else "false"
  | .num value => String.ofList (Nat.toDigits 10 value)
  | .str value => quoted value
  | .arr [] => "[]"
  | .arr (first :: rest) =>
      "[" ++ newLine (depth + 1) ++ render (depth + 1) first
        ++ renderElements (depth + 1) rest ++ newLine depth ++ "]"
  | .obj [] => "\x7b\x7d"
  | .obj ((name, value) :: rest) =>
      "\x7b" ++ newLine (depth + 1) ++ quoted name ++ ": " ++ render (depth + 1) value
        ++ renderMembers (depth + 1) rest ++ newLine depth ++ "\x7d"

/-- The elements after the first. -/
def renderElements (depth : Nat) : List Json → String
  | [] => ""
  | element :: rest =>
      "," ++ newLine depth ++ render depth element ++ renderElements depth rest

/-- The members after the first. -/
def renderMembers (depth : Nat) : List (String × Json) → String
  | [] => ""
  | (name, value) :: rest =>
      "," ++ newLine depth ++ quoted name ++ ": " ++ render depth value
        ++ renderMembers depth rest

end

/-- The text of a value. -/
def pretty (value : Json) : String :=
  render 0 value

end Json

end PacketProtection

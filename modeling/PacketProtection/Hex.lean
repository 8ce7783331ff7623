import PacketProtection.Bytes
import PacketProtection.Text.Quoted

/-!
# Hexadecimal text

A byte is written as two lowercase digits, high half first.  Reading takes
digits of either case and works on bytes, so that text in any encoding can be
read: a byte outside the sixteen digits is reported with its position.

*Order of errors.*  An odd number of characters is reported first, whatever
the characters are; after that the first wrong character is.
-/

namespace PacketProtection.Hex

/-! ## Writing -/

/-- The digit for a value below sixteen. -/
def digit (value : Nat) : Char :=
  if value < 10 then Char.ofNat ('0'.toNat + value) else Char.ofNat ('a'.toNat + (value - 10))

/-- The two digits of a byte. -/
def pair (byte : UInt8) : List Char :=
  [digit (byte.toNat / 16), digit (byte.toNat % 16)]

/-- The lowercase text of a byte string. -/
def encode (bytes : Bytes) : String :=
  String.ofList (bytes.flatMap pair)

/-- The digits of a number without leading zeros, as in `0x2a`. -/
def ofNat (value : Nat) : String :=
  "0x" ++ String.ofList (Nat.toDigits 16 value)

/-! ## Reading -/

/-- Why a text is not hexadecimal. -/
inductive Error where
  | oddLength
  | invalidDigit (byte : UInt8) (position : Nat)
deriving DecidableEq, Repr

/-- The value of a digit of either case. -/
def digitValue? (byte : UInt8) : Option Nat :=
  let code := byte.toNat
  if 48 ≤ code ∧ code ≤ 57 then some (code - 48)
  else if 97 ≤ code ∧ code ≤ 102 then some (code - 87)
  else if 65 ≤ code ∧ code ≤ 70 then some (code - 55)
  else none

/-- The value of a digit given as a character. -/
def charValue? (c : Char) : Option Nat :=
  if c.toNat < 128 then digitValue? (UInt8.ofNat c.toNat) else none

/-- The value of the digit found at a position, or the error that names both. -/
def digitAt (position : Nat) (byte : UInt8) : Except Error Nat :=
  match digitValue? byte with
  | some value => .ok value
  | none => .error (.invalidDigit byte position)

/-- Reads digits two by two, counting positions from `position`. -/
def decodePairs (position : Nat) : Bytes → Except Error Bytes
  | high :: low :: rest => do
      let high ← digitAt position high
      let low ← digitAt (position + 1) low
      let bytes ← decodePairs (position + 2) rest
      return UInt8.ofNat (16 * high + low) :: bytes
  | _ => .ok []

/-- The byte string a text stands for. -/
def decode (text : Bytes) : Except Error Bytes :=
  if text.length % 2 = 1 then .error .oddLength else decodePairs 0 text

/-! ## Messages -/

/-- The character with the code of a byte, in quotes. -/
def quoted (byte : UInt8) : String :=
  Quoted.char (Char.ofNat byte.toNat)

/-- The text of an error. -/
def Error.message : Error → String
  | .oddLength => "Odd number of digits"
  | .invalidDigit byte position => s!"Invalid character {quoted byte} at position {position}"

example : encode [0xde, 0xad, 0x07] = "dead07" := by decide +kernel

end PacketProtection.Hex

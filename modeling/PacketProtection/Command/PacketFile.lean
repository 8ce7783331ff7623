import PacketProtection.Hex

/-!
# Packet files

A file holds one packet, either as it is or as hexadecimal text.  Blanks in the
text are ignored wherever they stand; the text that is written ends with a new
line.
-/

namespace PacketProtection.PacketFile

/-- The form of a packet file. -/
inductive Format where
  | raw
  | hex
deriving DecidableEq, Repr

/-- The name of a form. -/
def Format.name : Format → String
  | .raw => "raw"
  | .hex => "hex"

/-- All forms. -/
def Format.all : List Format :=
  [.raw, .hex]

/-- The form of a name. -/
def Format.ofName? (name : String) : Option Format :=
  all.find? (·.name = name)

/-- Is a byte a blank: space, tab, line feed, form feed or carriage return? -/
def isBlank (byte : UInt8) : Bool :=
  byte == 32 || byte == 9 || byte == 10 || byte == 12 || byte == 13

/-- The packet of a file. -/
def decode (format : Format) (contents : Bytes) : Except Hex.Error Bytes :=
  match format with
  | .raw => .ok contents
  | .hex => Hex.decode (contents.filter fun byte => !isBlank byte)

/-- The file of a packet. -/
def encode (format : Format) (packet : Bytes) : Bytes :=
  match format with
  | .raw => packet
  | .hex => Bytes.ofString (Hex.encode packet ++ "\n")

end PacketProtection.PacketFile

import PacketProtection.Hex

/-!
# Addresses as text

An Ethernet address is written as six groups of two lowercase hexadecimal
digits with colons between them.  It is read from exactly that form, in either
case; groups are looked at from the left, so the first faulty one is reported,
and a missing or an additional group only if all before it are well formed.

An IPv4 address is written as four decimal numbers with points between them.
-/

namespace PacketProtection

/-! ## Pieces of a text -/

/-- The pieces of a text between the separators, at least one. -/
def splitAtChar (separator : Char) : List Char → List (List Char)
  | [] => [[]]
  | c :: rest =>
      if c = separator then [] :: splitAtChar separator rest
      else
        match splitAtChar separator rest with
        | [] => [[c]]
        | piece :: pieces => (c :: piece) :: pieces

/-! ## Ethernet -/

/-- An Ethernet address. -/
abbrev MacAddress := Octets 6

namespace MacAddress

/-- The text of an address. -/
def format (mac : MacAddress) : String :=
  String.ofList ((mac.toList.map Hex.pair).intersperse [':']).flatten

/-- Why a text is no address. -/
inductive Error where
  | tooShort (text : String)
  | badGroup (group text : String)
  | tooLong (text : String)
deriving DecidableEq, Repr

/-- The text of an error. -/
def Error.message : Error → String
  | .tooShort text => s!"Ethernet address {text} is too short"
  | .badGroup group text => s!"Invalid Ethernet address group '{group}' in {text}"
  | .tooLong text => s!"Ethernet address {text} is too long"

/-- The byte of a group. -/
def groupValue? : List Char → Option UInt8
  | [high, low] => do
      let high ← Hex.charValue? high
      let low ← Hex.charValue? low
      return UInt8.ofNat (16 * high + low)
  | _ => none

/-- Reads `count` groups, and nothing may follow them. -/
def parseGroups (text : String) : (count : Nat) → List (List Char) → Except Error (Octets count)
  | 0, [] => .ok ⟨[], rfl⟩
  | 0, _ :: _ => .error (.tooLong text)
  | _ + 1, [] => .error (.tooShort text)
  | count + 1, group :: groups =>
      match groupValue? group with
      | none => .error (.badGroup (String.ofList group) text)
      | some byte =>
          (parseGroups text count groups).map fun rest =>
            ⟨byte :: rest.toList, by simp⟩

/-- The address of a text. -/
def parse (text : String) : Except Error MacAddress :=
  parseGroups text 6 (splitAtChar ':' text.toList)

end MacAddress

/-! ## IPv4 -/

/-- The text of an IPv4 address. -/
def formatIpv4 (address : UInt32) : String :=
  let number := address.toNat
  let octets := [number >>> 24, (number >>> 16) % 256, (number >>> 8) % 256, number % 256]
  String.intercalate "." (octets.map fun octet => String.ofList (Nat.toDigits 10 octet))

end PacketProtection

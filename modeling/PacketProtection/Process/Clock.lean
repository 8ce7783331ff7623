/-!
# Times of day

A time is shown as hours, minutes, seconds and six places of a second.
-/

namespace PacketProtection.Clock

/-- The last `width` decimal digits of a number. -/
def digits : (width number : Nat) → List Char
  | 0, _ => []
  | width + 1, number => digits width (number / 10) ++ [Nat.digitChar (number % 10)]

/-- The time of day, from the microseconds since some midnight. -/
def timeOfDay (micros : Nat) : String :=
  let seconds := micros / 1000000
  String.ofList <|
    digits 2 (seconds / 3600 % 24) ++ [':'] ++ digits 2 (seconds / 60 % 60) ++ [':']
      ++ digits 2 (seconds % 60) ++ ['.'] ++ digits 6 (micros % 1000000)

end PacketProtection.Clock

import PacketProtection.Json.Basic
import PacketProtection.Keygen

/-!
# Output of generated keys

Keys are printed in hexadecimal, in the form in which association files hold
them: one line a key behind its algorithm, or all keys as JSON.
-/

namespace PacketProtection.Command

/-- The width of the column of algorithms. -/
def algorithmWidth : Nat := 12

/-- The line of a key. -/
def keyLine (key : GeneratedKey) : String :=
  key.algorithm.leftAligned algorithmWidth algorithmWidth ++ " " ++ Hex.encode key.key ++ "\n"

/-- The lines of keys. -/
def keyLines (keys : List GeneratedKey) : String :=
  String.join (keys.map keyLine)

/-- A key as JSON. -/
def keyJson (key : GeneratedKey) : Json :=
  .obj [("algorithm", .str key.algorithm.name), ("key", .str (Hex.encode key.key))]

/-- The JSON text of keys. -/
def keysJson (keys : List GeneratedKey) : String :=
  (Json.arr (keys.map keyJson)).pretty ++ "\n"

end PacketProtection.Command

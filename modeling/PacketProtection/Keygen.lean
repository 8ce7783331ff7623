import PacketProtection.Bytes

/-!
# Key generation

Random keys for the security associations, in the sizes that the transforms
expect.  Keys are taken from a stream of random bytes, one after the other:
no byte is skipped and none is used twice.
-/

namespace PacketProtection

/-- An algorithm that keys can be generated for. -/
inductive Algorithm where
  /-- ESP cipher: AES-128 key and nonce. -/
  | aesCtr
  /-- ESP authentication. -/
  | hmacMd5
  /-- MACsec. -/
  | gcmAes128
deriving DecidableEq, Repr

namespace Algorithm

/-- Length of a key in bytes. -/
def keyLength : Algorithm → Nat
  | .aesCtr => 20
  | .hmacMd5 => 16
  | .gcmAes128 => 16

/-- The name of an algorithm. -/
def name : Algorithm → String
  | .aesCtr => "aes-ctr"
  | .hmacMd5 => "hmac-md5"
  | .gcmAes128 => "gcm-aes-128"

/-- All algorithms. -/
def all : List Algorithm :=
  [.aesCtr, .hmacMd5, .gcmAes128]

/-- The algorithm of a name. -/
def ofName? (name : String) : Option Algorithm :=
  all.find? (·.name = name)

/-- What is said about a name that belongs to no algorithm. -/
def unknownMessage (name : String) : String :=
  s!"Unknown algorithm: {name}"

/-- The name cut to `precision` characters and completed with blanks on the
right to `width` characters. -/
def leftAligned (algorithm : Algorithm) (width precision : Nat) : String :=
  let shown := algorithm.name.toList.take precision
  String.ofList (shown ++ List.replicate (width - shown.length) ' ')

/-- The name cut to `precision` characters and completed with blanks on the
left to `width` characters. -/
def rightAligned (algorithm : Algorithm) (width precision : Nat) : String :=
  let shown := algorithm.name.toList.take precision
  String.ofList (List.replicate (width - shown.length) ' ' ++ shown)

end Algorithm

/-- A generated key. -/
structure GeneratedKey where
  algorithm : Algorithm
  key : Bytes
deriving DecidableEq

/-- Keys for a list of algorithms, in its order, from a stream of random
bytes. -/
def generateKeys (stream : Nat → UInt8) : (start : Nat) → List Algorithm → List GeneratedKey
  | _, [] => []
  | start, algorithm :: rest =>
      let key := (List.range algorithm.keyLength).map fun i => stream (start + i)
      ⟨algorithm, key⟩ :: generateKeys stream (start + algorithm.keyLength) rest

/-- The algorithm of each key that is asked for: each algorithm of a list
`count` times in a row. -/
def keyAlgorithms (algorithms : List Algorithm) (count : Nat) : List Algorithm :=
  algorithms.flatMap (List.replicate count)

/-- How many random bytes the keys of a list of algorithms are made of. -/
def keyBytes : List Algorithm → Nat
  | [] => 0
  | algorithm :: rest => algorithm.keyLength + keyBytes rest

/-- Keys for each algorithm of a list, `count` of each; none of none. -/
def keygen? (stream : Nat → UInt8) (algorithms : List Algorithm) (count : Nat) :
    Option (List GeneratedKey) :=
  if count = 0 then none
  else some (generateKeys stream 0 (keyAlgorithms algorithms count))

end PacketProtection

import PacketProtection.Cipher.Aes

/-!
# Counter mode

A block cipher turned into a stream cipher: the keystream is the cipher applied
to a counter block, to the block after it, and so on.  Only the last four bytes
of a counter block count, as a big-endian number that wraps; the other twelve
never change.

Data is combined with the keystream by exclusive or, so the same operation
encrypts and decrypts, and lengths are kept.
-/

namespace PacketProtection.Counter

/-- The counter block a number of steps after `block`. -/
def advance (block : Octets 16) (steps : Nat) : Octets 16 :=
  ⟨block.toList.take 12 ++ Bytes.ofNat 4 (Bytes.toNat (block.toList.drop 12) + steps), by simp⟩

/-- The first `count` blocks of the keystream, as one byte string. -/
def keystream (cipher : BlockCipher) (block : Octets 16) (count : Nat) : Bytes :=
  (List.range count).flatMap fun i => (cipher (advance block i)).toList

/-- Number of blocks it takes to cover a number of bytes. -/
def blockCount (length : Nat) : Nat :=
  (length + 15) / 16

/-- Encrypts or decrypts data. -/
def apply (cipher : BlockCipher) (block : Octets 16) (data : Bytes) : Bytes :=
  data.xor (keystream cipher block (blockCount data.length))

end PacketProtection.Counter

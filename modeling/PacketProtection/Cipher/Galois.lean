import PacketProtection.Cipher.Aes

/-!
# Products in the field of 2^128 elements

Blocks of 128 bits taken as polynomials over two elements, modulo
`x^128 + x^7 + x^2 + x + 1`.  The *most* significant bit of a block is the
coefficient of `x^0`, so a product by `x` shifts to the right.

A message is hashed by evaluating it as a polynomial at a hash key, block by
block (NIST SP 800-38D calls this GHASH).
-/

namespace PacketProtection.Galois

/-- An element of the field. -/
abbrev Element := BitVec 128

/-- The remainder of `x^128`. -/
def reduction : Element := 0xe1000000000000000000000000000000#128

/-- Product by `x`. -/
def timesX (v : Element) : Element :=
  if v.getLsbD 0 then (v >>> 1) ^^^ reduction else v >>> 1

/-- Product of `v` by the last `count` coefficients of `u`, the first of which
is taken as constant term. -/
def mulTail (u : Element) : (count : Nat) → (v : Element) → Element
  | 0, _ => 0
  | count + 1, v =>
      (if u.getMsbD (127 - count) then v else 0) ^^^ mulTail u count (timesX v)

/-- Product in the field. -/
def mul (u v : Element) : Element :=
  mulTail u 128 v

/-- The element for at most sixteen bytes, completed with zeros. -/
def ofBytes (bytes : Bytes) : Element :=
  BitVec.ofNat 128 (Bytes.toNat (bytes ++ List.replicate (16 - bytes.length) 0))

/-- The hash of a list of blocks under a hash key. -/
def hash (key : Element) (blocks : List Element) : Element :=
  blocks.foldl (fun sum block => mul (sum ^^^ block) key) 0

end PacketProtection.Galois

import Mathlib.Algebra.Field.ZMod
import Mathlib.Algebra.Ring.GeomSum
import Mathlib.FieldTheory.Separable
import Mathlib.RingTheory.AdjoinRoot
import Mathlib.Tactic.LinearCombination
import PacketProtection.Cipher.Galois

/-!
# Elements as residues of polynomials

A block of 128 bits is the residue of a polynomial over two elements modulo
`x^128 + x^7 + x^2 + x + 1`.  Sums of blocks are sums of residues
(`residue_xor`), and the product of the block hash is the product of residues
(`residue_mul`).

*Powers.*  The block hash multiplies by powers of its key, so a difference can
only disappear if a power of the key, or a power times the difference, is zero.
That the modulus is irreducible is not needed to rule this out for the
difference of a single bit.  The modulus has no repeated factor, because it has
no factor in common with its derivative (`separable_modulus`); so no power of a
nonzero residue is zero.  A single bit is a power of `x`, which has no factor in
common with the modulus either (`isCoprime_modulus_X`).  Both together are
`root_pow_mul_residue_pow_ne_zero`.
-/

namespace PacketProtection.Galois

open Polynomial

/-! ## The modulus -/

/-- The polynomial that products are reduced by. -/
@[irreducible] noncomputable def modulus : (ZMod 2)[X] := X ^ 128 + (X ^ 7 + X ^ 2 + X + 1)

theorem two_eq_zero : (2 : (ZMod 2)[X]) = 0 := by
  rw [← map_ofNat C, show (2 : ZMod 2) = 0 from rfl, map_zero]

theorem degree_modulus : modulus.degree = 128 := by
  unfold modulus
  compute_degree!

theorem derivative_modulus : derivative modulus = X ^ 6 + 1 := by
  unfold modulus
  have even : ((128 : ℕ) : ZMod 2) = 0 ∧ ((2 : ℕ) : ZMod 2) = 0 := by decide
  have odd : ((7 : ℕ) : ZMod 2) = 1 := by decide
  simp only [derivative_add, derivative_X_pow, derivative_X, derivative_one, even, odd]
  simp

/-- The modulus leaves the remainder one when it is divided by its derivative. -/
theorem separable_modulus : modulus.Separable := by
  have series := geom_sum_mul ((X : (ZMod 2)[X]) ^ 6) 21
  refine ⟨1, X ^ 2 * (∑ i ∈ Finset.range 21, (X ^ 6) ^ i) + X, ?_⟩
  rw [derivative_modulus]
  unfold modulus
  generalize ∑ i ∈ Finset.range 21, ((X : (ZMod 2)[X]) ^ 6) ^ i = sum at series ⊢
  linear_combination X ^ 2 * series + (X ^ 128 + X ^ 7 + X ^ 2 * sum + X) * two_eq_zero

theorem isCoprime_modulus_X : IsCoprime modulus X := by
  refine ⟨1, X ^ 127 + X ^ 6 + X + 1, ?_⟩
  unfold modulus
  linear_combination (X ^ 128 + X ^ 7 + X ^ 2 + X) * two_eq_zero

/-! ## Polynomials of blocks -/

/-- The polynomial of a block: its first bit is the constant term. -/
noncomputable def polynomial (v : Element) : (ZMod 2)[X] :=
  ∑ i ∈ Finset.range 128, if v.getMsbD i then X ^ i else 0

theorem coeff_polynomial (v : Element) (n : Nat) :
    (polynomial v).coeff n = if v.getMsbD n then 1 else 0 := by
  have term (i : Nat) : (if v.getMsbD i then X ^ i else (0 : (ZMod 2)[X])).coeff n =
      if n = i then (if v.getMsbD i then 1 else 0) else 0 := by
    split
    · simp [coeff_X_pow]
    · simp
  rw [polynomial, finsetSum_coeff]
  simp only [term]
  rw [Finset.sum_ite_eq]
  by_cases inside : n < 128
  · simp [inside]
  · simp [inside, BitVec.getMsbD_of_ge _ _ (Nat.le_of_not_lt inside)]

theorem degree_polynomial_lt (v : Element) : (polynomial v).degree < modulus.degree := by
  rw [degree_modulus]
  apply (degree_lt_iff_coeff_zero _ 128).mpr
  intro n large
  rw [coeff_polynomial, BitVec.getMsbD_of_ge _ _ large]
  rfl

@[simp] theorem polynomial_zero : polynomial 0 = 0 := by
  ext n
  simp [coeff_polynomial]

theorem polynomial_ne_zero {v : Element} (nonzero : v ≠ 0) : polynomial v ≠ 0 := by
  intro vanishes
  apply nonzero
  apply BitVec.eq_of_getMsbD_eq
  intro i _
  have coefficient := coeff_polynomial v i
  rw [vanishes, coeff_zero] at coefficient
  cases bit : v.getMsbD i with
  | false => simp
  | true =>
      rw [bit] at coefficient
      exact absurd coefficient (by decide)

theorem polynomial_xor (u v : Element) : polynomial (u ^^^ v) = polynomial u + polynomial v := by
  ext n
  rw [coeff_add, coeff_polynomial, coeff_polynomial, coeff_polynomial, BitVec.getMsbD_xor]
  cases u.getMsbD n <;> cases v.getMsbD n <;> decide

/-- The block whose only bit is the one at a position. -/
def monomial (i : Nat) : Element :=
  BitVec.twoPow 128 (127 - i)

theorem getMsbD_monomial {i : Nat} (inside : i < 128) (n : Nat) :
    (monomial i).getMsbD n = decide (n = i) := by
  rw [monomial, BitVec.getMsbD_eq_getLsbD, BitVec.getLsbD_twoPow, Bool.eq_iff_iff]
  simp only [Bool.and_eq_true, decide_eq_true_eq]
  omega

theorem polynomial_monomial {i : Nat} (inside : i < 128) : polynomial (monomial i) = X ^ i := by
  simp only [polynomial, getMsbD_monomial inside, decide_eq_true_eq]
  rw [Finset.sum_ite_eq', if_pos (Finset.mem_range.mpr inside)]

theorem reduction_eq : reduction = monomial 7 ^^^ monomial 2 ^^^ monomial 1 ^^^ monomial 0 := by
  decide

theorem polynomial_reduction : polynomial reduction + X ^ 128 = modulus := by
  rw [reduction_eq, polynomial_xor, polynomial_xor, polynomial_xor,
    polynomial_monomial (by decide), polynomial_monomial (by decide),
    polynomial_monomial (by decide), polynomial_monomial (by decide)]
  unfold modulus
  ring

/-- A product by `x` moves every bit to the right, and the last one out. -/
theorem X_mul_polynomial (v : Element) :
    X * polynomial v = polynomial (v >>> 1) + if v.getLsbD 0 then X ^ 128 else 0 := by
  have last : v.getLsbD 0 = v.getMsbD 127 := by
    rw [BitVec.getMsbD_eq_getLsbD]
    rfl
  have shifted : polynomial (v >>> 1) =
      ∑ i ∈ Finset.range 127, if v.getMsbD i then X ^ (i + 1) else 0 := by
    rw [polynomial, Finset.sum_range_succ']
    simp only [BitVec.getMsbD_ushiftRight]
    rw [if_neg (by simp), add_zero]
    apply Finset.sum_congr rfl
    intro i member
    have inside : i + 1 < 128 := Nat.succ_lt_succ (Finset.mem_range.mp member)
    simp [inside]
  calc X * polynomial v
      = ∑ i ∈ Finset.range 128, if v.getMsbD i then X ^ (i + 1) else 0 := by
        simp only [polynomial, Finset.mul_sum, mul_ite, mul_zero, pow_succ']
    _ = polynomial (v >>> 1) + if v.getLsbD 0 then X ^ 128 else 0 := by
        rw [Finset.sum_range_succ, shifted, last]

/-! ## Residues -/

/-- The residue of a block. -/
noncomputable def residue (v : Element) : AdjoinRoot modulus :=
  AdjoinRoot.mk modulus (polynomial v)

@[simp] theorem residue_zero : residue 0 = 0 := by
  rw [residue, polynomial_zero, map_zero]

theorem residue_xor (u v : Element) : residue (u ^^^ v) = residue u + residue v := by
  rw [residue, polynomial_xor, map_add]
  rfl

theorem residue_monomial {i : Nat} (inside : i < 128) :
    residue (monomial i) = AdjoinRoot.root modulus ^ i := by
  rw [residue, polynomial_monomial inside, map_pow, AdjoinRoot.mk_X]

theorem residue_timesX (v : Element) :
    residue (timesX v) = AdjoinRoot.root modulus * residue v := by
  rw [residue, residue, ← AdjoinRoot.mk_X, ← map_mul, X_mul_polynomial, AdjoinRoot.mk_eq_mk,
    timesX]
  split
  · -- The two sides differ by the modulus, as two is zero.
    refine ⟨1, ?_⟩
    rw [polynomial_xor]
    linear_combination polynomial_reduction - X ^ 128 * two_eq_zero
  · simp

/-- The part of a product that the last coefficients of `u` contribute. -/
theorem residue_mulTail (u : Element) {count : Nat} (within : count ≤ 128) (v : Element) :
    residue (mulTail u count v) =
      (∑ i ∈ Finset.range count,
        if u.getMsbD (128 - count + i) then AdjoinRoot.root modulus ^ i else 0) * residue v := by
  induction count generalizing v with
  | zero =>
      rw [Finset.range_zero, Finset.sum_empty, zero_mul]
      exact residue_zero
  | succ count ih =>
      have first : residue (if u.getMsbD (127 - count) then v else 0) =
          (if u.getMsbD (127 - count) then 1 else 0) * residue v := by
        split
        · rw [one_mul]
        · rw [residue_zero, zero_mul]
      have next (i : Nat) : 128 - (count + 1) + (i + 1) = 128 - count + i := by omega
      have shift (i : Nat) : AdjoinRoot.root modulus *
          (if u.getMsbD (128 - count + i) then AdjoinRoot.root modulus ^ i else 0) =
            if u.getMsbD (128 - count + i) then AdjoinRoot.root modulus ^ (i + 1) else 0 := by
        rw [mul_ite, mul_zero, pow_succ']
      rw [mulTail, residue_xor, ih (Nat.le_of_succ_le within), residue_timesX,
        Finset.sum_range_succ', first]
      simp only [next, ← shift]
      rw [← Finset.mul_sum, pow_zero, Nat.add_zero, show 128 - (count + 1) = 127 - count by omega]
      ring

/-- The product of the block hash is the product of residues. -/
theorem residue_mul (u v : Element) : residue (mul u v) = residue u * residue v := by
  have left : residue u = ∑ i ∈ Finset.range 128,
      if u.getMsbD (128 - 128 + i) then AdjoinRoot.root modulus ^ i else 0 := by
    rw [residue, polynomial, map_sum]
    apply Finset.sum_congr rfl
    intro i _
    rw [apply_ite (AdjoinRoot.mk modulus), map_zero, map_pow, AdjoinRoot.mk_X, Nat.sub_self,
      Nat.zero_add]
  rw [mul, residue_mulTail u (Nat.le_refl 128), left]

/-! ## Powers -/

theorem not_dvd_polynomial_pow {key : Element} (nonzero : key ≠ 0) (n : Nat) :
    ¬modulus ∣ polynomial key ^ n := by
  intro divides
  have squarefree : Squarefree modulus := separable_modulus.squarefree
  have single : modulus ∣ polynomial key := squarefree.isRadical n _ divides
  exact polynomial_ne_zero nonzero
    (eq_zero_of_dvd_of_degree_lt single (degree_polynomial_lt key))

/-- A single bit times a power of a nonzero key is not zero. -/
theorem root_pow_mul_residue_pow_ne_zero {key : Element} (nonzero : key ≠ 0) (i n : Nat) :
    AdjoinRoot.root modulus ^ i * residue key ^ n ≠ 0 := by
  intro vanishes
  rw [← AdjoinRoot.mk_X, residue, ← map_pow, ← map_pow, ← map_mul,
    AdjoinRoot.mk_eq_zero] at vanishes
  have coprime : IsCoprime modulus (X ^ i) := isCoprime_modulus_X.pow_right
  exact not_dvd_polynomial_pow nonzero n (coprime.dvd_of_dvd_mul_left vanishes)

end PacketProtection.Galois

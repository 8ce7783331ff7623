import Mathlib.Algebra.GroupWithZero.Nat
import PacketProtection.Command.Esp
import PacketProtection.Proofs.Header.Aligned

/-!
# The Internet checksum

RFC 1071 adds the words of a header as they are and folds the carries back into sixteen
bits, as often as there are any (`foldCarries`).  The program never lets a carry stand: it
adds word by word, end around.

*One sum.*  Either way the sum is the only number up to 65535 that is the plain sum but for
multiples of 65535, and zero only for no sum at all (`EndAround`).  So the two agree
(`checksum_eq`).

*The check.*  A header whose checksum was computed with zero in its place adds up to 65535,
the zero of ones' complement (`onesSum_overwrite_checksum`).
-/

namespace PacketProtection.Command

/-! ## Ones'-complement sums -/

/-- The words of a byte string, the first byte of each most significant. -/
def words : Bytes → List Nat
  | first :: second :: rest => Bytes.toNat [first, second] :: words rest
  | _ => []

/-- Adds the carries of a sum of words back, until there are none. -/
def foldCarries (sum : Nat) : Nat :=
  if sum < 65536 then sum else foldCarries (sum % 65536 + sum / 65536)
termination_by sum
decreasing_by omega

/-- The ones'-complement sum of the words of a byte string. -/
def onesSum (bytes : Bytes) : Nat :=
  foldCarries (words bytes).sum

/-- A sum of words in sixteen bits. -/
structure EndAround (sum folded : Nat) : Prop where
  le : folded ≤ 65535
  mod_eq : folded % 65535 = sum % 65535
  eq_zero_iff : folded = 0 ↔ sum = 0

namespace EndAround

variable {sum folded other : Nat}

theorem unique (left : EndAround sum folded) (right : EndAround sum other) : folded = other := by
  obtain ⟨leftLe, leftMod, leftZero⟩ := left
  obtain ⟨rightLe, rightMod, rightZero⟩ := right
  omega

/-- Zero and 65535 are both multiples of 65535, but only no sum at all is zero. -/
theorem eq_of_dvd (folds : EndAround sum folded) (multiple : sum % 65535 = 0)
    (positive : sum ≠ 0) : folded = 65535 := by
  obtain ⟨le, mod, zero⟩ := folds
  omega

theorem foldCarries (sum : Nat) : EndAround sum (foldCarries sum) := by
  induction sum using foldCarries.induct with
  | case1 sum small =>
      rw [Command.foldCarries, if_pos small]
      exact ⟨Nat.le_of_lt_succ small, rfl, Iff.rfl⟩
  | case2 sum large ih =>
      obtain ⟨le, mod, zero⟩ := ih
      rw [Command.foldCarries, if_neg large]
      exact ⟨le, by omega, by omega⟩

theorem endAroundSum (folds : EndAround sum folded) {word : Nat} (small : word ≤ 65535) :
    EndAround (sum + word) (endAroundSum folded word) := by
  obtain ⟨le, mod, zero⟩ := folds
  unfold Command.endAroundSum
  split
  · exact ⟨by omega, by omega, by omega⟩
  · exact ⟨by omega, by omega, by omega⟩

theorem foldl (folds : EndAround sum folded) {added : List Nat}
    (small : ∀ word ∈ added, word ≤ 65535) :
    EndAround (sum + added.sum) (added.foldl Command.endAroundSum folded) := by
  induction added generalizing sum folded with
  | nil => exact folds
  | cons word rest ih =>
      have next := ih (folds.endAroundSum (small word (.head _)))
        fun other member => small other (.tail _ member)
      rw [List.sum_cons, List.foldl_cons, ← Nat.add_assoc]
      exact next

end EndAround

/-! ## Words -/

theorem words_le (bytes : Bytes) : ∀ word ∈ words bytes, word ≤ 65535 := by
  induction bytes using words.induct with
  | case1 first second rest ih =>
      intro word member
      rw [words] at member
      rcases List.mem_cons.mp member with rfl | later
      · have below : Bytes.toNat [first, second] < 256 ^ 2 := Bytes.toNat_lt _
        omega
      · exact ih word later
  | case2 bytes short =>
      intro word member
      rw [words] at member
      · cases member
      · exact short

theorem words_append {left : Bytes} {count : Nat} (whole : left.length = 2 * count)
    (right : Bytes) : words (left ++ right) = words left ++ words right := by
  induction count generalizing left with
  | zero =>
      rw [List.length_eq_zero_iff.mp whole]
      rfl
  | succ count ih =>
      match left, whole with
      | first :: second :: rest, whole =>
          have restWhole : rest.length = 2 * count := by
            simp only [List.length_cons] at whole
            omega
          rw [List.cons_append, List.cons_append, words, words, ih restWhole, List.cons_append]

theorem words_eq_chunks {bytes : Bytes} {count : Nat} (whole : bytes.length = 2 * count) :
    (bytes.chunks 2 count).map Bytes.toNat = words bytes := by
  induction count generalizing bytes with
  | zero =>
      rw [List.length_eq_zero_iff.mp whole]
      rfl
  | succ count ih =>
      match bytes, whole with
      | first :: second :: rest, whole =>
          have restWhole : rest.length = 2 * count := by
            simp only [List.length_cons] at whole
            omega
          rw [words, ← ih restWhole]
          rfl

theorem words_ofNat {value : Nat} (small : value ≤ 65535) :
    words (Bytes.ofNat 2 value) = [value] := by
  have same := Bytes.toNat_ofNat_of_lt (show value < 256 ^ 2 by omega)
  show [Bytes.toNat (Bytes.ofNat 2 value)] = [value]
  rw [same]

/-! ## Checksums -/

/-- The checksum is the complement of the sum. -/
theorem checksum_eq {header : Bytes} {count : Nat} (whole : header.length = 2 * count) :
    checksum header = 65535 - onesSum header := by
  have none : EndAround 0 0 := ⟨Nat.zero_le _, rfl, Iff.rfl⟩
  have added := none.foldl (words_le header)
  rw [Nat.zero_add] at added
  rw [checksum, whole, show (2 * count + 1) / 2 = count by omega, words_eq_chunks whole,
    added.unique (.foldCarries _), onesSum]

/-- The sum of a header in which a word has a value. -/
theorem sum_overwrite {header : Bytes} {count place : Nat} (whole : header.length = 2 * count)
    (inside : place < count) {value : Nat} (small : value ≤ 65535) :
    (words (header.overwrite (2 * place) (Bytes.ofNat 2 value))).sum =
      (words (header.take (2 * place))).sum + (words (header.drop (2 * place + 2))).sum +
        value := by
  have front : (header.take (2 * place)).length = 2 * place := by
    rw [List.length_take]
    omega
  have piece : (header.take (2 * place) ++ Bytes.ofNat 2 value).length = 2 * (place + 1) := by
    rw [List.length_append, front, Bytes.length_ofNat]
    omega
  rw [Bytes.overwrite, words_append piece, words_append front, words_ofNat small,
    Bytes.length_ofNat, List.sum_append, List.sum_append, List.sum_singleton]
  omega

/-- A header with its checksum in place adds up to the zero of ones' complement. -/
theorem onesSum_overwrite_checksum {header : Bytes} {count place : Nat}
    (whole : header.length = 2 * count) (inside : place < count) :
    onesSum (header.overwrite (2 * place)
      (Bytes.ofNat 2 (checksum (header.overwrite (2 * place) (Bytes.ofNat 2 0))))) = 65535 := by
  have fits (value : Nat) : 2 * place + (Bytes.ofNat 2 value).length ≤ header.length := by
    rw [Bytes.length_ofNat]
    omega
  have blankWhole : (header.overwrite (2 * place) (Bytes.ofNat 2 0)).length = 2 * count :=
    (Bytes.length_overwrite (fits 0)).trans whole
  rw [checksum_eq blankWhole, onesSum, onesSum, sum_overwrite whole inside (Nat.zero_le _),
    sum_overwrite whole inside (Nat.sub_le _ _), Nat.add_zero]
  generalize (words (header.take (2 * place))).sum +
    (words (header.drop (2 * place + 2))).sum = rest
  -- What the other words lack to a multiple of 65535 is what the checksum adds.
  obtain ⟨le, mod, zero⟩ := EndAround.foldCarries rest
  exact (EndAround.foldCarries _).eq_of_dvd (by omega) (by omega)

end PacketProtection.Command

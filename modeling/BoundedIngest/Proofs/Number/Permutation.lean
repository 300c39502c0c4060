/-
Module: BoundedIngest.Proofs.Number.Permutation
Purpose: Two operations that mix up the bits of a word and can be undone: folding its high bits
  into the low ones, and multiplying it by an odd word.
Main exports:
  Number.foldHigh, Number.unfoldHigh, Number.foldHigh_unfoldHigh, Number.unfoldHigh_foldHigh,
  Number.folding, Number.geometric, Number.mul_reciprocal, Number.unitOfOdd
-/
import Mathlib.Algebra.Group.Units.Equiv
import Mathlib.Data.UInt

namespace BoundedIngest.Number

/-!
Both operations are one and something that dies out when it is repeated.  Folding adds to a word
what is left of it further down, and a word that is shifted down often enough is zero.  An odd
factor is one less an even word, and the powers of an even word end in zero too.  Whatever
`1 - e` does is undone by `1 + e` but for the square of `e`, that by `1 + e ^ 2` but for its fourth
power, and so on.  Six squarings are enough for a word.
-/

/-! ### Folding -/

section Folding

variable {width : Nat}

/-- Join each bit with the one so many places above it. -/
def foldHigh (distance : Nat) (word : BitVec width) : BitVec width :=
  word ^^^ (word >>> distance)

/-- Fold over the distance, over twice the distance and so on, over the longest one first. -/
def unfoldHigh : Nat → Nat → BitVec width → BitVec width
  | 0, _, word => word
  | doublings + 1, distance, word =>
      foldHigh distance (unfoldHigh doublings (2 * distance) word)

theorem foldHigh_foldHigh (first second : Nat) (word : BitVec width) :
    foldHigh first (foldHigh second word) =
      (word ^^^ (word >>> second)) ^^^ ((word >>> first) ^^^ (word >>> (first + second))) := by
  rw [foldHigh, foldHigh, BitVec.ushiftRight_xor_distrib, Nat.add_comm, BitVec.shiftRight_add]

theorem foldHigh_comm (first second : Nat) (word : BitVec width) :
    foldHigh first (foldHigh second word) = foldHigh second (foldHigh first word) := by
  rw [foldHigh_foldHigh, foldHigh_foldHigh, Nat.add_comm second first]
  ac_rfl

/-- A bit that is joined twice is as if it had not been joined. -/
theorem foldHigh_twice (distance : Nat) (word : BitVec width) :
    foldHigh distance (foldHigh distance word) = foldHigh (2 * distance) word := by
  rw [foldHigh_foldHigh, BitVec.xor_assoc, ← BitVec.xor_assoc (word >>> distance),
    BitVec.xor_self, BitVec.zero_xor, ← Nat.two_mul, foldHigh]

/-- Above a word there is nothing to join. -/
theorem foldHigh_of_le {distance : Nat} (beyond : width ≤ distance) (word : BitVec width) :
    foldHigh distance word = word := by
  rw [foldHigh, BitVec.ushiftRight_eq_zero beyond, BitVec.xor_zero]

theorem unfoldHigh_foldHigh_comm (doublings first second : Nat) (word : BitVec width) :
    unfoldHigh doublings first (foldHigh second word) =
      foldHigh second (unfoldHigh doublings first word) := by
  induction doublings generalizing first with
  | zero => rfl
  | succ doublings ih => rw [unfoldHigh, ih, foldHigh_comm, unfoldHigh]

/-- One more fold collapses all of them, from the longest one inwards, to the one over the next
distance. -/
theorem foldHigh_unfoldHigh_eq (doublings distance : Nat) (word : BitVec width) :
    foldHigh distance (unfoldHigh doublings distance word) =
      foldHigh (2 ^ doublings * distance) word := by
  induction doublings generalizing distance with
  | zero => rw [unfoldHigh, Nat.pow_zero, Nat.one_mul]
  | succ doublings ih => rw [unfoldHigh, foldHigh_twice, ih, Nat.pow_succ, Nat.mul_assoc]

variable {doublings distance : Nat}

theorem foldHigh_unfoldHigh (beyond : width ≤ 2 ^ doublings * distance) (word : BitVec width) :
    foldHigh distance (unfoldHigh doublings distance word) = word := by
  rw [foldHigh_unfoldHigh_eq, foldHigh_of_le beyond]

theorem unfoldHigh_foldHigh (beyond : width ≤ 2 ^ doublings * distance) (word : BitVec width) :
    unfoldHigh doublings distance (foldHigh distance word) = word := by
  rw [unfoldHigh_foldHigh_comm, foldHigh_unfoldHigh beyond]

end Folding

theorem toBitVec_fold (distance word : UInt64) :
    (word ^^^ (word >>> distance)).toBitVec = foldHigh (distance % 64).toNat word.toBitVec := by
  rw [UInt64.toBitVec_xor, UInt64.toBitVec_shiftRight, BitVec.ushiftRight_eq', foldHigh]
  rfl

/-- Six doublings of any distance go beyond a word. -/
theorem beyond_of_moves {distance : UInt64} (moves : distance % 64 ≠ 0) :
    64 ≤ 2 ^ 6 * (distance % 64).toNat := by
  have positive : (distance % 64).toNat ≠ 0 := fun none => moves (UInt64.toNat_inj.mp none)
  omega

/-- Folding the high bits of a word into the low ones, over any distance that moves them. -/
def folding (distance : UInt64) (moves : distance % 64 ≠ 0) : Equiv.Perm UInt64 where
  toFun word := word ^^^ (word >>> distance)
  invFun word := UInt64.ofBitVec (unfoldHigh 6 (distance % 64).toNat word.toBitVec)
  left_inv word := by
    dsimp only
    rw [toBitVec_fold, unfoldHigh_foldHigh (beyond_of_moves moves)]
  right_inv word := by
    apply UInt64.toBitVec_inj.mp
    rw [toBitVec_fold, foldHigh_unfoldHigh (beyond_of_moves moves)]

/-! ### Multiplying -/

/-- The sum of the first `2 ^ doublings` powers of a ratio, as a product. -/
def geometric : Nat → UInt64 → UInt64
  | 0, _ => 1
  | doublings + 1, ratio => (1 + ratio) * geometric doublings (ratio * ratio)

theorem one_sub_mul_geometric (doublings : Nat) (ratio : UInt64) :
    (1 - ratio) * geometric doublings ratio = 1 - ratio ^ 2 ^ doublings := by
  induction doublings generalizing ratio with
  | zero => rw [geometric, UInt64.mul_one, Nat.pow_zero, pow_one]
  | succ doublings ih =>
    -- The first factor turns the ratio into its square, and the others are the series of that.
    calc (1 - ratio) * ((1 + ratio) * geometric doublings (ratio * ratio))
        = (1 - ratio * ratio) * geometric doublings (ratio * ratio) := by grind
      _ = 1 - (ratio * ratio) ^ 2 ^ doublings := ih _
      _ = 1 - ratio ^ 2 ^ (doublings + 1) := by rw [← pow_two, ← pow_mul, pow_succ']

/-- The powers of an even word run out of bits. -/
theorem double_pow (half : UInt64) : (2 * half) ^ 64 = 0 := by
  have double : (2 : UInt64) ^ 64 = 0 := by decide +kernel
  rw [mul_pow, double, UInt64.zero_mul]

variable {factor : UInt64}

theorem one_sub_of_odd (odd : factor % 2 = 1) : 1 - factor = 2 * -(factor / 2) := by
  have parts : 2 * (factor / 2) + 1 = factor := by grind
  grind

/-- What an odd word has to be multiplied by to get one. -/
def reciprocal (factor : UInt64) : UInt64 := geometric 6 (1 - factor)

theorem mul_reciprocal (odd : factor % 2 = 1) : factor * reciprocal factor = 1 := by
  calc factor * reciprocal factor = (1 - (1 - factor)) * geometric 6 (1 - factor) := by
        rw [reciprocal, sub_sub_cancel]
    _ = 1 - (1 - factor) ^ 64 := one_sub_mul_geometric 6 _
    _ = 1 := by rw [one_sub_of_odd odd, double_pow, UInt64.sub_zero]

/-- An odd word can be divided by, so multiplying by it can be undone. -/
def unitOfOdd (factor : UInt64) (odd : factor % 2 = 1) : UInt64ˣ where
  val := factor
  inv := reciprocal factor
  val_inv := mul_reciprocal odd
  inv_val := by rw [UInt64.mul_comm, mul_reciprocal odd]

end BoundedIngest.Number

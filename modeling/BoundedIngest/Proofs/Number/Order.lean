/-
Module: BoundedIngest.Proofs.Number.Order
Purpose: Rounding to 53 significant bits keeps the order of numbers, and so does cutting them
  down to words.
Main exports:
  Number.le_two_mul_roundQuotientEven, Number.rounding_near_of_pos, Number.nearest_mono,
  Number.nearestOfNat_mono, Number.floorWord_mono
-/
import BoundedIngest.Proofs.Number.Nearest
import Mathlib.Data.Rat.Floor

namespace BoundedIngest.Number

/-!
Two numbers whose last bits have different exponents have a power of two between them, and that
needs no rounding.  Where the exponents agree, rounding could swap two numbers only by moving each
of them by half of the last bit towards the other.  Then they are the same number.
-/

variable {x y : Rat} {num den : Nat}

/-- The rounded quotient is at most a half below the quotient. -/
theorem le_two_mul_roundQuotientEven (positive : 0 < den) :
    2 * num ≤ 2 * roundQuotientEven num den * den + den := by
  have parts := Nat.div_add_mod num den
  have rest := Nat.mod_lt num positive
  have goesUp : ∀ more, 2 * (num % den) ≤ 2 * more * den + den →
      2 * num ≤ 2 * (num / den + more) * den + den := by
    intro more bounded
    calc 2 * num = 2 * (den * (num / den)) + 2 * (num % den) := by omega
      _ ≤ 2 * (den * (num / den)) + (2 * more * den + den) := Nat.add_le_add_left bounded _
      _ = 2 * (num / den + more) * den + den := by ring
  unfold roundQuotientEven
  dsimp only
  split
  · exact goesUp 0 (by omega)
  · split
    · exact goesUp 1 (by omega)
    · exact goesUp _ (by omega)

/-- A positive number is at most half of the last bit above its rounding. -/
theorem rounding_near_of_pos (positive : 0 < x) :
    ∃ significand exponent, Rounding x significand exponent ∧
      nearest x = significand * 2 ^ exponent ∧
      x ≤ significand * 2 ^ exponent + 2 ^ exponent / 2 := by
  have num0 : 0 < x.num := Rat.num_pos.mpr positive
  have natAbs0 : 0 < x.num.natAbs := by omega
  have value : (x.num.natAbs : Rat) / x.den = x := by
    rw [Nat.cast_natAbs, abs_of_pos num0]
    exact Rat.num_div_den x
  have rounding := rounding_of_fraction natAbs0 x.den_pos
  have scaled := scaleDown_div x.num.natAbs x.den (quantum x.num.natAbs x.den)
  have scaledPos := @scaleDown_pos x.num.natAbs x.den (quantum x.num.natAbs x.den) x.den_pos
  rw [value] at rounding scaled
  refine ⟨_, _, rounding, ?_, ?_⟩
  · rw [nearest, if_neg (by omega), nearestFraction, if_neg (by omega)]
    exact shift_eq _ _
  · revert scaled scaledPos
    generalize quantum x.num.natAbs x.den = exponent
    generalize scaleDown x.num.natAbs x.den exponent = parts
    intro scaled scaledPos
    have den0 : (0 : Rat) < parts.2 := by exact_mod_cast scaledPos
    have power0 : (0 : Rat) < 2 ^ exponent := by positivity
    have half : (2 * parts.1 : Rat) ≤ 2 * roundQuotientEven parts.1 parts.2 * parts.2 + parts.2 := by
      exact_mod_cast le_two_mul_roundQuotientEven scaledPos
    have quotient : (parts.1 : Rat) / parts.2 ≤ roundQuotientEven parts.1 parts.2 + 1 / 2 := by
      rw [div_le_iff₀ den0]
      linarith
    rw [scaled, div_le_iff₀ power0] at quotient
    linarith

/-- The last bit of the smaller number does not lie above that of the larger one. -/
theorem Rounding.exponent_le {first second : Nat} {low high : Int}
    (lower : Rounding x first low) (upper : Rounding y second high) (ordered : x ≤ y) :
    low ≤ high := by
  have powers : (2 : Rat) ^ (52 + low) < 2 ^ (53 + high) := by
    rw [zpow_add₀ two_ne_zero, zpow_add₀ two_ne_zero]
    exact_mod_cast (lower.normal.trans ordered).trans_lt upper.bounded
  have exponents := (zpow_lt_zpow_iff_right₀ one_lt_two).mp powers
  omega

theorem nearest_mono_of_pos (positive : 0 < x) (ordered : x ≤ y) : nearest x ≤ nearest y := by
  obtain ⟨first, low, lower, valueLow, -⟩ := rounding_near_of_pos positive
  obtain ⟨second, high, upper, valueHigh, nearHigh⟩ :=
    rounding_near_of_pos (positive.trans_le ordered)
  rcases (lower.exponent_le upper ordered).lt_or_eq with apart | rfl
  · -- The power of two at which the last bit becomes coarser lies between the two numbers.
    have most : first ≤ 2 ^ 53 := by
      apply lower.above
      push_cast
      exact lower.bounded.le
    have least : 2 ^ 52 ≤ second := by
      apply upper.below
      push_cast
      exact upper.normal
    have doubled : (2 : Rat) ^ (low + 1) ≤ 2 ^ high := zpow_le_zpow_right₀ one_le_two (by omega)
    rw [zpow_add_one₀ two_ne_zero] at doubled
    rw [valueLow, valueHigh]
    calc (first : Rat) * 2 ^ low ≤ 2 ^ 53 * 2 ^ low := by
          gcongr
          exact_mod_cast most
      _ = 2 ^ 52 * (2 ^ low * 2) := by ring
      _ ≤ 2 ^ 52 * 2 ^ high := by gcongr
      _ ≤ second * 2 ^ high := by
          gcongr
          exact_mod_cast least
  · by_contra swapped
    have power0 : (0 : Rat) < 2 ^ low := by positivity
    have above : second < first := by
      by_contra below
      apply swapped
      rw [valueLow, valueHigh]
      gcongr
      omega
    have next : ((second : Rat) + 1) * 2 ^ low ≤ first * 2 ^ low := by
      gcongr
      exact_mod_cast above
    have nearLow := lower.near
    have same : x = y := by linarith
    rw [same] at swapped
    exact swapped le_rfl

/-- Rounding keeps the order of numbers. -/
theorem nearest_mono (ordered : x ≤ y) : nearest x ≤ nearest y := by
  have zero : IsExact 0 := isExact_natCast (Nat.zero_le _)
  rcases lt_or_ge 0 x with positive | notPositive
  · exact nearest_mono_of_pos positive ordered
  · rcases lt_or_ge y 0 with negative | notNegative
    · have mirrored := nearest_mono_of_pos (neg_pos.mpr negative) (neg_le_neg ordered)
      rw [nearest_neg, nearest_neg] at mirrored
      exact neg_le_neg_iff.mp mirrored
    · exact (nearest_le zero notPositive).trans (le_nearest zero notNegative)

theorem nearestOfNat_mono {first second : Nat} (ordered : first ≤ second) :
    nearestOfNat first ≤ nearestOfNat second := by
  rw [nearestOfNat_eq, nearestOfNat_eq]
  exact nearest_mono (by exact_mod_cast ordered)

theorem floorWord_mono (ordered : x ≤ y) : floorWord x ≤ floorWord y :=
  min_le_min_right _ (Int.toNat_le_toNat (Rat.floor_monotone ordered))

end BoundedIngest.Number

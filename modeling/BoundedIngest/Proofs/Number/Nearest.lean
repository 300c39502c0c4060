/-
Module: BoundedIngest.Proofs.Number.Nearest
Purpose: What rounding to 53 significant bits preserves.
Main exports:
  Number.IsExact, Number.Rounding, Number.rounding_of_pos, Number.nearest_le,
  Number.le_nearest, Number.nearest_of_isExact, Number.nearest_le_add
-/
import BoundedIngest.Number.Nearest
import Mathlib.Algebra.Order.Field.Power
import Mathlib.Algebra.Order.Ring.Abs
import Mathlib.Data.Rat.Cast.Order
import Mathlib.Tactic.FieldSimp
import Mathlib.Tactic.Linarith
import Mathlib.Tactic.Positivity
import Mathlib.Tactic.Ring

namespace BoundedIngest.Number

/-!
Two things are used of the rounding.  It never leads across a number that needs no rounding
itself, and it adds at most one part in `2 ^ 53`.  Both follow from what the exponent of the last
bit is chosen for: divided by it, the number has exactly 53 bits before the point.
-/

/-! ### Integers next to a quotient -/

section Quotients

variable {num den : Nat}

/-- An integer that the quotient reaches, the rounded quotient reaches. -/
theorem le_roundQuotientEven {bound : Nat} (positive : 0 < den) (reached : bound * den ≤ num) :
    bound ≤ roundQuotientEven num den := by
  have floor : bound ≤ num / den := (Nat.le_div_iff_mul_le positive).mpr reached
  unfold roundQuotientEven
  dsimp only
  split
  · exact floor
  · split <;> omega

/-- An integer that the quotient does not exceed, the rounded quotient does not exceed. -/
theorem roundQuotientEven_le {bound : Nat} (positive : 0 < den) (kept : num ≤ bound * den) :
    roundQuotientEven num den ≤ bound := by
  have parts := Nat.div_add_mod num den
  have floor : num / den ≤ bound := Nat.div_le_of_le_mul (by rwa [Nat.mul_comm] at kept)
  unfold roundQuotientEven
  dsimp only
  split
  · exact floor
  · have below : num / den < bound := by
      apply Nat.lt_of_le_of_ne floor
      intro same
      rw [same, Nat.mul_comm] at parts
      omega
    split <;> omega

/-- The rounded quotient is at most a half above the quotient. -/
theorem two_mul_roundQuotientEven_le :
    2 * roundQuotientEven num den * den ≤ 2 * num + den := by
  have goesUp : ∀ more, 2 * more * den ≤ 2 * (num % den) + den →
      2 * (num / den + more) * den ≤ 2 * num + den := by
    intro more bounded
    have parts := Nat.div_add_mod num den
    calc 2 * (num / den + more) * den = 2 * (den * (num / den)) + 2 * more * den := by ring
      _ ≤ 2 * (den * (num / den)) + (2 * (num % den) + den) := Nat.add_le_add_left bounded _
      _ = 2 * num + den := by omega
  unfold roundQuotientEven
  dsimp only
  split
  · exact goesUp 0 (by omega)
  · split
    · exact goesUp 1 (by omega)
    · apply goesUp
      rcases Nat.mod_two_eq_zero_or_one (num / den) with even | odd
      · rw [even]
        omega
      · rw [odd]
        omega

end Quotients

/-! ### The exponent of the last bit -/

section Exponents

variable {num den : Nat} {exponent : Int}

/-- A shift is to one side or the other. -/
theorem two_zpow (exponent : Int) :
    (2 : Rat) ^ exponent = 2 ^ exponent.toNat / 2 ^ (-exponent).toNat := by
  rw [← zpow_natCast, ← zpow_natCast, ← zpow_sub₀ two_ne_zero]
  congr 1
  omega

theorem scaleDown_pos (positive : 0 < den) : 0 < (scaleDown num den exponent).2 := by
  simp only [scaleDown, Nat.shiftLeft_eq]
  positivity

/-- Scaling divides by the power of two. -/
theorem scaleDown_div (num den : Nat) (exponent : Int) :
    ((scaleDown num den exponent).1 : Rat) / (scaleDown num den exponent).2 =
      num / den / 2 ^ exponent := by
  simp only [scaleDown, Nat.shiftLeft_eq, two_zpow exponent]
  push_cast
  field_simp

/-- The bit length of a number tells it up to a factor of two. -/
theorem log2_bounds {n : Nat} (positive : 0 < n) :
    (2 : Rat) ^ (n.log2 : Int) ≤ n ∧ (n : Rat) < 2 ^ (n.log2 + 1 : Int) := by
  have lower := Nat.log2_self_le (Nat.pos_iff_ne_zero.mp positive)
  have upper := @Nat.lt_log2_self n
  constructor
  · exact_mod_cast lower
  · exact_mod_cast upper

/-- The guess is at most one too high. -/
theorem guess_bounds (positive : 0 < num) (positiveDen : 0 < den) :
    (2 : Rat) ^ 51 * 2 ^ ((num.log2 : Int) - den.log2 - 52) ≤ num / den ∧
      (num : Rat) / den < 2 ^ 53 * 2 ^ ((num.log2 : Int) - den.log2 - 52) := by
  obtain ⟨numLower, numUpper⟩ := log2_bounds positive
  obtain ⟨denLower, denUpper⟩ := log2_bounds positiveDen
  have den0 : (0 : Rat) < den := by exact_mod_cast positiveDen
  have powers : ∀ (first : Nat) (second third : Int), (2 : Rat) ^ first * 2 ^ second * 2 ^ third =
      2 ^ (first + second + third) := by
    intro first second third
    rw [zpow_add₀ two_ne_zero, zpow_add₀ two_ne_zero, zpow_natCast]
  rw [le_div_iff₀ den0, div_lt_iff₀ den0]
  constructor
  · calc (2 : Rat) ^ 51 * 2 ^ ((num.log2 : Int) - den.log2 - 52) * den
        ≤ 2 ^ 51 * 2 ^ ((num.log2 : Int) - den.log2 - 52) * 2 ^ (den.log2 + 1 : Int) := by
          gcongr
      _ = 2 ^ (num.log2 : Int) := by
          rw [powers]
          congr 1
          omega
      _ ≤ num := numLower
  · calc (num : Rat) < 2 ^ (num.log2 + 1 : Int) := numUpper
      _ = 2 ^ 53 * 2 ^ ((num.log2 : Int) - den.log2 - 52) * 2 ^ (den.log2 : Int) := by
          rw [powers]
          congr 1
          omega
      _ ≤ 2 ^ 53 * 2 ^ ((num.log2 : Int) - den.log2 - 52) * den := by gcongr

/-- One comparison corrects the guess. -/
theorem quantum_eq (num den : Nat) :
    quantum num den =
      if (scaleDown num den ((num.log2 : Int) - den.log2 - 52)).2 * 2 ^ 52 ≤
          (scaleDown num den ((num.log2 : Int) - den.log2 - 52)).1 then
        (num.log2 : Int) - den.log2 - 52
      else (num.log2 : Int) - den.log2 - 52 - 1 := by
  simp only [quantum, significandBits, Nat.shiftLeft_eq]
  rfl

/-- Scaled by its last bit, a fraction has 53 bits before the point. -/
theorem quantum_bounds (positive : 0 < num) (positiveDen : 0 < den) :
    (2 : Rat) ^ 52 * 2 ^ quantum num den ≤ num / den ∧
      (num : Rat) / den < 2 ^ 53 * 2 ^ quantum num den := by
  obtain ⟨lower, upper⟩ := guess_bounds positive positiveDen
  rw [quantum_eq]
  have scaled := scaleDown_div num den ((num.log2 : Int) - den.log2 - 52)
  have scaledPos := @scaleDown_pos num den ((num.log2 : Int) - den.log2 - 52) positiveDen
  revert lower upper scaled scaledPos
  generalize (num.log2 : Int) - den.log2 - 52 = guess
  intro lower upper scaled scaledPos
  have den0 : (0 : Rat) < (scaleDown num den guess).2 := by exact_mod_cast scaledPos
  have power0 : (0 : Rat) < 2 ^ guess := by positivity
  have compares : (scaleDown num den guess).2 * 2 ^ 52 ≤ (scaleDown num den guess).1 ↔
      (2 : Rat) ^ 52 * 2 ^ guess ≤ num / den := by
    rw [← le_div_iff₀ power0, ← scaled, le_div_iff₀ den0, mul_comm]
    exact_mod_cast Iff.rfl
  split
  · rename_i reached
    exact ⟨compares.mp reached, upper⟩
  · rename_i missed
    have below := not_le.mp (mt compares.mpr missed)
    have halved : (2 : Rat) ^ (guess - 1) = 2 ^ guess / 2 := zpow_sub_one₀ two_ne_zero guess
    rw [halved]
    constructor
    · linarith
    · linarith

end Exponents

/-! ### Rounding a positive number -/

/-- Rounding `x` gives the significand at that exponent. -/
structure Rounding (x : Rat) (significand : Nat) (exponent : Int) : Prop where
  normal : 2 ^ 52 * 2 ^ exponent ≤ x
  bounded : x < 2 ^ 53 * 2 ^ exponent
  /-- An integer below the scaled number stays below. -/
  below : ∀ bound : Nat, bound * 2 ^ exponent ≤ x → bound ≤ significand
  above : ∀ bound : Nat, x ≤ bound * 2 ^ exponent → significand ≤ bound
  near : significand * 2 ^ exponent ≤ x + 2 ^ exponent / 2

theorem rounding_of_fraction {num den : Nat} (positive : 0 < num) (positiveDen : 0 < den) :
    Rounding (num / den)
      (roundQuotientEven (scaleDown num den (quantum num den)).1
        (scaleDown num den (quantum num den)).2)
      (quantum num den) := by
  obtain ⟨normal, bounded⟩ := quantum_bounds positive positiveDen
  have scaled := scaleDown_div num den (quantum num den)
  have scaledPos := @scaleDown_pos num den (quantum num den) positiveDen
  revert normal bounded scaled scaledPos
  generalize quantum num den = exponent
  intro normal bounded scaled scaledPos
  generalize scaleDown num den exponent = parts at scaled scaledPos
  have den0 : (0 : Rat) < parts.2 := by exact_mod_cast scaledPos
  have power0 : (0 : Rat) < 2 ^ exponent := by positivity
  have value : (num : Rat) / den = parts.1 / parts.2 * 2 ^ exponent := by
    rw [scaled]
    field_simp
  refine ⟨normal, bounded, fun bound reached => ?_, fun bound kept => ?_, ?_⟩
  · apply le_roundQuotientEven scaledPos
    rw [value, mul_le_mul_iff_left₀ power0, le_div_iff₀ den0] at reached
    exact_mod_cast reached
  · apply roundQuotientEven_le scaledPos
    rw [value, mul_le_mul_iff_left₀ power0, div_le_iff₀ den0] at kept
    exact_mod_cast kept
  · have half : 2 * (roundQuotientEven parts.1 parts.2 : Rat) * parts.2 ≤
        2 * parts.1 + parts.2 := by
      exact_mod_cast two_mul_roundQuotientEven_le
    have quotient : (roundQuotientEven parts.1 parts.2 : Rat) ≤ parts.1 / parts.2 + 1 / 2 := by
      rw [← sub_le_iff_le_add, le_div_iff₀ den0]
      linarith
    calc (roundQuotientEven parts.1 parts.2 : Rat) * 2 ^ exponent
        ≤ (parts.1 / parts.2 + 1 / 2) * 2 ^ exponent := by gcongr
      _ = num / den + 2 ^ exponent / 2 := by
        rw [value]
        ring

theorem shift_eq (significand : Nat) (exponent : Int) :
    ((significand <<< exponent.toNat : Nat) : Rat) / (1 <<< (-exponent).toNat : Nat) =
      significand * 2 ^ exponent := by
  rw [Nat.shiftLeft_eq, Nat.shiftLeft_eq, two_zpow exponent]
  push_cast
  ring

theorem nearest_zero : nearest 0 = 0 := by
  simp [nearest, nearestFraction]

theorem nearest_neg (x : Rat) : nearest (-x) = -nearest x := by
  unfold nearest
  simp only [Rat.neg_num, Rat.neg_den, Int.natAbs_neg]
  rcases lt_trichotomy x.num 0 with negative | zero | positive
  · rw [if_neg (by omega), if_pos negative, neg_neg]
  · simp [zero, nearestFraction]
  · rw [if_pos (by omega), if_neg (by omega)]

/-- Every positive number is rounded to a significand at some exponent. -/
theorem rounding_of_pos {x : Rat} (positive : 0 < x) :
    ∃ significand exponent, Rounding x significand exponent ∧
      nearest x = significand * 2 ^ exponent := by
  have num0 : 0 < x.num := Rat.num_pos.mpr positive
  have natAbs0 : 0 < x.num.natAbs := by omega
  have rounding := rounding_of_fraction natAbs0 x.den_pos
  have value : (x.num.natAbs : Rat) / x.den = x := by
    rw [Nat.cast_natAbs, abs_of_pos num0]
    exact Rat.num_div_den x
  rw [value] at rounding
  refine ⟨_, _, rounding, ?_⟩
  rw [nearest, if_neg (by omega), nearestFraction, if_neg (by omega)]
  exact shift_eq _ _

/-! ### Numbers that need no rounding -/

/-- The number is a significand of at most 53 bits at some exponent. -/
def IsExact (x : Rat) : Prop :=
  ∃ significand exponent : Int, |significand| ≤ 2 ^ 53 ∧ x = significand * 2 ^ exponent

theorem IsExact.neg {x : Rat} (exact : IsExact x) : IsExact (-x) := by
  obtain ⟨significand, exponent, bounded, rfl⟩ := exact
  refine ⟨-significand, exponent, by rwa [abs_neg], ?_⟩
  push_cast
  ring

theorem isExact_natCast {n : Nat} (bounded : n ≤ 2 ^ 53) : IsExact n := by
  refine ⟨n, 0, ?_, by simp⟩
  rw [Nat.abs_cast]
  exact_mod_cast bounded

/-- An exact number is a multiple of the last bit of a number that it bounds, or it is so small
that the bits of that number do not reach down to it. -/
theorem IsExact.multiple_or_le {r : Rat} (exact : IsExact r) (positive : 0 < r) (exponent : Int) :
    (∃ bound : Nat, r = bound * 2 ^ exponent) ∨ r ≤ 2 ^ 52 * 2 ^ exponent := by
  obtain ⟨significand, own, bounded, rfl⟩ := exact
  have own0 : (0 : Rat) < 2 ^ own := by positivity
  have sign : 0 < significand := by
    have : (0 : Rat) < significand := pos_of_mul_pos_left positive own0.le
    exact_mod_cast this
  rcases le_or_gt exponent own with coarse | fine
  · left
    refine ⟨significand.toNat * 2 ^ (own - exponent).toNat, ?_⟩
    have whole : ((significand.toNat : Nat) : Rat) = significand := by
      exact_mod_cast Int.toNat_of_nonneg sign.le
    have split : (2 : Rat) ^ own = 2 ^ (own - exponent).toNat * 2 ^ exponent := by
      rw [← zpow_natCast, ← zpow_add₀ two_ne_zero]
      congr 1
      omega
    push_cast
    rw [whole, split]
    ring
  · right
    have most : (significand : Rat) ≤ 2 ^ 53 := by
      exact_mod_cast (le_abs_self significand).trans bounded
    have halved : (2 : Rat) ^ own ≤ 2 ^ (exponent - 1) :=
      zpow_le_zpow_right₀ one_le_two (by omega)
    rw [zpow_sub_one₀ two_ne_zero] at halved
    calc (significand : Rat) * 2 ^ own ≤ 2 ^ 53 * (2 ^ exponent * 2⁻¹) := by gcongr
      _ = 2 ^ 52 * 2 ^ exponent := by ring

/-! ### What rounding preserves -/

theorem Rounding.le {x r : Rat} {significand : Nat} {exponent : Int}
    (rounding : Rounding x significand exponent) (exact : IsExact r) (kept : x ≤ r) :
    significand * 2 ^ exponent ≤ r := by
  have power0 : (0 : Rat) < 2 ^ exponent := by positivity
  have positive : 0 < r := lt_of_lt_of_le (by positivity) (rounding.normal.trans kept)
  rcases exact.multiple_or_le positive exponent with ⟨bound, rfl⟩ | small
  · have most := rounding.above bound kept
    gcongr
  · have most : significand ≤ 2 ^ 52 := by
      apply rounding.above
      push_cast
      exact kept.trans small
    calc (significand : Rat) * 2 ^ exponent ≤ 2 ^ 52 * 2 ^ exponent := by
          gcongr
          exact_mod_cast most
      _ ≤ x := rounding.normal
      _ ≤ r := kept

theorem Rounding.ge {x r : Rat} {significand : Nat} {exponent : Int}
    (rounding : Rounding x significand exponent) (exact : IsExact r) (reached : r ≤ x) :
    r ≤ significand * 2 ^ exponent := by
  have power0 : (0 : Rat) < 2 ^ exponent := by positivity
  rcases le_or_gt r 0 with negative | positive
  · exact negative.trans (by positivity)
  rcases exact.multiple_or_le positive exponent with ⟨bound, rfl⟩ | small
  · have least := rounding.below bound reached
    gcongr
  · have least : 2 ^ 52 ≤ significand := by
      apply rounding.below
      push_cast
      exact rounding.normal
    apply small.trans
    gcongr
    exact_mod_cast least

/-- A number that an exact one bounds is not rounded across it. -/
theorem nearest_le {x r : Rat} (exact : IsExact r) (kept : x ≤ r) : nearest x ≤ r := by
  rcases lt_trichotomy x 0 with negative | rfl | positive
  · obtain ⟨significand, exponent, rounding, value⟩ := rounding_of_pos (neg_pos.mpr negative)
    have mirrored := rounding.ge exact.neg (neg_le_neg kept)
    rw [← value, nearest_neg] at mirrored
    exact neg_le_neg_iff.mp mirrored
  · rw [nearest_zero]
    exact kept
  · obtain ⟨significand, exponent, rounding, value⟩ := rounding_of_pos positive
    rw [value]
    exact rounding.le exact kept

theorem le_nearest {x r : Rat} (exact : IsExact r) (reached : r ≤ x) : r ≤ nearest x := by
  have mirrored := nearest_le exact.neg (neg_le_neg reached)
  rw [nearest_neg] at mirrored
  exact neg_le_neg_iff.mp mirrored

theorem nearest_of_isExact {x : Rat} (exact : IsExact x) : nearest x = x :=
  le_antisymm (nearest_le exact le_rfl) (le_nearest exact le_rfl)

/-- A rounded number needs no rounding. -/
theorem isExact_nearest (x : Rat) : IsExact (nearest x) := by
  have ofPos : ∀ {y : Rat}, 0 < y → IsExact (nearest y) := by
    intro y positive
    obtain ⟨significand, exponent, rounding, value⟩ := rounding_of_pos positive
    have most : significand ≤ 2 ^ 53 := by
      apply rounding.above
      push_cast
      exact rounding.bounded.le
    refine ⟨significand, exponent, ?_, value⟩
    rw [Nat.abs_cast]
    exact_mod_cast most
  rcases lt_trichotomy x 0 with negative | rfl | positive
  · have mirrored := (ofPos (neg_pos.mpr negative)).neg
    rwa [nearest_neg, neg_neg] at mirrored
  · rw [nearest_zero]
    exact isExact_natCast (Nat.zero_le _)
  · exact ofPos positive

theorem nearest_nonneg {x : Rat} (nonneg : 0 ≤ x) : 0 ≤ nearest x :=
  le_nearest (isExact_natCast (Nat.zero_le _)) nonneg

/-- Rounding adds at most half of the last bit. -/
theorem nearest_le_add {x : Rat} (nonneg : 0 ≤ x) : nearest x ≤ x + x / 2 ^ 53 := by
  rcases nonneg.eq_or_lt with rfl | positive
  · simp [nearest_zero]
  · obtain ⟨significand, exponent, rounding, value⟩ := rounding_of_pos positive
    have normal := rounding.normal
    have near := rounding.near
    rw [value]
    linarith

/-- A natural number is rounded like any other. -/
theorem nearestOfNat_eq (n : Nat) : nearestOfNat n = nearest n := by
  have whole : ¬ ((n : Rat).num < 0) := by simp
  rw [nearest, if_neg whole]
  simp [nearestOfNat]

theorem nearestOfNat_of_le {n : Nat} (bounded : n ≤ 2 ^ 53) : nearestOfNat n = n := by
  rw [nearestOfNat_eq, nearest_of_isExact (isExact_natCast bounded)]

end BoundedIngest.Number

/-
Module: BoundedIngest.Proofs.Sizing.Capacity
Purpose: However the average is rounded, it stays between the sizes measured, and the limit does
  not exceed what the budget holds of the smallest of them.
Main exports:
  Capacity.nextAverage_first, Capacity.nextAverage_between, Capacity.floorWord_quotient_le,
  Capacity.limitFor_le, Capacity.Within, Capacity.Within.observe
-/
import BoundedIngest.Proofs.Number.Nearest
import BoundedIngest.Sizing.Capacity
import Mathlib.Data.Rat.Floor

namespace BoundedIngest.Capacity

open Number

/-!
A new average is the old one and a share of the difference, and each of the three operations
rounds.  From the second measurement on the share is at most about half of the difference, which
leaves room for what the first two roundings may add, and the third one does not lead across the
old average or the new size, since neither of them needs rounding.
-/

variable {average gap : Rat} {samples bytes : Nat}

/-! ### The average -/

theorem two_le_nearestOfNat (several : 2 ≤ samples) : 2 ≤ nearestOfNat samples := by
  rw [nearestOfNat_eq]
  have exact : IsExact (2 : Nat) := isExact_natCast (by norm_num)
  exact le_nearest exact (by exact_mod_cast several)

/-- The share of a gap is at most the gap. -/
theorem share_bounds (several : 2 ≤ samples) (nonneg : 0 ≤ gap) :
    0 ≤ nearest (nearest gap / nearestOfNat samples) ∧
      nearest (nearest gap / nearestOfNat samples) ≤ gap := by
  have count := two_le_nearestOfNat several
  have rounded0 := nearest_nonneg nonneg
  have quotient0 : 0 ≤ nearest gap / nearestOfNat samples := div_nonneg rounded0 (by linarith)
  have halved : nearest gap / nearestOfNat samples ≤ nearest gap / 2 :=
    div_le_div_of_nonneg_left rounded0 two_pos count
  have first := nearest_le_add nonneg
  have second := nearest_le_add quotient0
  exact ⟨nearest_nonneg quotient0, by linarith⟩

/-- The first measurement is the average. -/
theorem nextAverage_first (bounded : bytes ≤ 2 ^ 53) : nextAverage 0 1 bytes = bytes := by
  have exact := isExact_natCast bounded
  have one : nearestOfNat 1 = 1 := by
    have same := @nearestOfNat_of_le 1 (by norm_num)
    exact_mod_cast same
  simp only [nextAverage, nearestOfNat_of_le bounded, one, sub_zero, div_one, zero_add,
    nearest_of_isExact exact]

/-- A size above the average lifts it, but not above that size. -/
theorem nextAverage_up (exact : IsExact average) (bounded : bytes ≤ 2 ^ 53)
    (several : 2 ≤ samples) (above : average ≤ bytes) :
    average ≤ nextAverage average samples bytes ∧ nextAverage average samples bytes ≤ bytes := by
  obtain ⟨nonneg, small⟩ := share_bounds several (sub_nonneg.mpr above)
  rw [nextAverage, nearestOfNat_of_le bounded]
  constructor
  · exact le_nearest exact (by linarith)
  · exact nearest_le (isExact_natCast bounded) (by linarith)

/-- A size below the average lowers it, but not below that size. -/
theorem nextAverage_down (exact : IsExact average) (bounded : bytes ≤ 2 ^ 53)
    (several : 2 ≤ samples) (below : bytes ≤ average) :
    bytes ≤ nextAverage average samples bytes ∧ nextAverage average samples bytes ≤ average := by
  obtain ⟨nonneg, small⟩ := share_bounds several (sub_nonneg.mpr below)
  have mirrored : nearest (nearest (bytes - average) / nearestOfNat samples) =
      -nearest (nearest (average - bytes) / nearestOfNat samples) := by
    rw [← neg_sub, nearest_neg, neg_div, nearest_neg]
  rw [nextAverage, nearestOfNat_of_le bounded]
  rw [mirrored]
  constructor
  · exact le_nearest (isExact_natCast bounded) (by linarith)
  · exact nearest_le exact (by linarith)

/-- A new average lies between the old one and the new size. -/
theorem nextAverage_between (exact : IsExact average) (bounded : bytes ≤ 2 ^ 53)
    (several : 2 ≤ samples) :
    min average bytes ≤ nextAverage average samples bytes ∧
      nextAverage average samples bytes ≤ max average bytes := by
  rcases le_total average bytes with above | below
  · rw [min_eq_left above, max_eq_right above]
    exact nextAverage_up exact bounded several above
  · rw [min_eq_right below, max_eq_left below]
    exact nextAverage_down exact bounded several below

/-! ### The limit -/

variable {budget records least most : Nat}

/-- Rounding does not carry the quotient across an integer, as long as the budget itself needs no
rounding: the quotient stays below the integer by at least one part in the divisor. -/
theorem floorWord_quotient_le {divisor : Rat} (small : budget < 2 ^ 53) (positive : 1 ≤ least)
    (bounded : least ≤ divisor) : floorWord (nearest (budget / divisor)) ≤ budget / least := by
  have least0 : (1 : Rat) ≤ least := by exact_mod_cast positive
  have budget0 : (0 : Rat) ≤ budget := Nat.cast_nonneg budget
  have quotient0 : (0 : Rat) ≤ budget / divisor := div_nonneg budget0 (by linarith)
  have largest : (budget : Rat) / divisor ≤ budget / least :=
    div_le_div_of_nonneg_left budget0 (by linarith) bounded
  have next : (budget : Rat) + 1 ≤ ((budget / least : Nat) + 1) * least := by
    have floor : budget < (budget / least + 1) * least :=
      Nat.lt_mul_of_div_lt (Nat.lt_succ_self _) positive
    exact_mod_cast floor
  have apart : (budget : Rat) / least + budget / least / 2 ^ 53 < (budget / least : Nat) + 1 := by
    have part : (budget : Rat) / 2 ^ 53 < 1 := by
      rw [div_lt_one (by norm_num)]
      exact_mod_cast small
    calc (budget : Rat) / least + budget / least / 2 ^ 53
        = (budget + budget / 2 ^ 53) / least := by ring
      _ < ((budget / least : Nat) : Rat) + 1 := by
        rw [div_lt_iff₀ (by linarith)]
        linarith
  have below : nearest (budget / divisor) < (budget / least : Nat) + 1 := by
    have rounded := nearest_le_add quotient0
    linarith
  have floor : (nearest (budget / divisor)).floor < ((budget / least : Nat) : Int) + 1 := by
    rw [Rat.floor_lt_iff]
    exact_mod_cast below
  have whole : (nearest (budget / divisor)).floor.toNat ≤ budget / least :=
    Int.toNat_le.mpr (Int.lt_add_one_iff.mp floor)
  exact (min_le_left _ _).trans whole

theorem limitFor_le (small : budget < 2 ^ 53) (positive : 1 ≤ least) (bounded : least ≤ average) :
    limitFor budget records average ≤ max 1 (budget / least) := by
  have least0 : (1 : Rat) ≤ least := by exact_mod_cast positive
  have whole : ¬ average < 1 := not_lt.mpr (least0.trans bounded)
  have quotient := floorWord_quotient_le small positive bounded
  rw [limitFor, if_neg whole, nearestOfNat_of_le small.le]
  exact max_le_max_left 1 ((min_le_left _ _).trans quotient)

/-! ### Every measurement -/

/-- The average of what was measured lies between two sizes, and the limit does not exceed what
the budget holds of the smaller one. -/
structure Within (least most : Nat) (capacity : Capacity) : Prop where
  average : (capacity.samples = 0 ∧ capacity.average = 0) ∨
    (1 ≤ capacity.samples ∧ IsExact capacity.average ∧ least ≤ capacity.average ∧
      capacity.average ≤ most)
  limit : capacity.limit ≤ max 1 (capacity.budget.toNat / least)

theorem within_start (least most : Nat) (budget maxRecords : UInt64) :
    (start budget maxRecords).Within least most :=
  ⟨.inl ⟨rfl, rfl⟩, le_max_left 1 _⟩

theorem Within.observe {capacity : Capacity} {size : UInt64} (within : capacity.Within least most)
    (small : capacity.budget.toNat < 2 ^ 53) (positive : 1 ≤ least) (bounded : most ≤ 2 ^ 53)
    (atLeast : least ≤ size.toNat) (atMost : size.toNat ≤ most) :
    (capacity.observe size).1.Within least most := by
  have sizeLeast : (least : Rat) ≤ size.toNat := by exact_mod_cast atLeast
  have sizeMost : (size.toNat : Rat) ≤ most := by exact_mod_cast atMost
  have sizeBounded := atMost.trans bounded
  have between : IsExact (nextAverage capacity.average (capacity.samples + 1) size.toNat) ∧
      least ≤ nextAverage capacity.average (capacity.samples + 1) size.toNat ∧
      nextAverage capacity.average (capacity.samples + 1) size.toNat ≤ most := by
    refine ⟨isExact_nearest _, ?_⟩
    rcases within.average with ⟨none, zero⟩ | ⟨some, exact, lower, upper⟩
    · rw [none, zero, nextAverage_first sizeBounded]
      exact ⟨sizeLeast, sizeMost⟩
    · have several : 2 ≤ capacity.samples + 1 := by omega
      obtain ⟨above, below⟩ := nextAverage_between exact sizeBounded several
      exact ⟨(le_min lower sizeLeast).trans above, below.trans (max_le upper sizeMost)⟩
  exact ⟨.inr ⟨Nat.le_add_left 1 _, between⟩, limitFor_le small positive between.2.1⟩

end BoundedIngest.Capacity

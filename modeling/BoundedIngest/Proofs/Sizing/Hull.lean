/-
Module: BoundedIngest.Proofs.Sizing.Hull
Purpose: After any number of measurements the average lies between the smallest and the largest
  size, and the limit between what the budget holds of the one and of the other.
Main exports:
  Capacity.observeAll, Capacity.limitFor_between, Capacity.Between, Capacity.Between.observe,
  Capacity.Between.observeAll, Capacity.average_in_hull
-/
import BoundedIngest.Proofs.Sizing.Capacity
import Mathlib.Data.Nat.Cast.Order.Field

namespace BoundedIngest.Capacity

open Number

/-!
The bounds are numbers of bytes, and none of these needs rounding.  So a value that lies between
them before it is rounded lies between them afterwards, with one exception: rounding may carry the
quotient of the budget and the average up to an integer that it did not reach.  That would take
more than one part in `2 ^ 53`, which is more than rounding adds.
-/

variable {average : Rat} {budget records least most : Nat}

/-! ### The limit -/

/-- Rounding does not carry the quotient below an integer that it has reached. -/
theorem le_floorWord_quotient {divisor : Rat} (small : budget < 2 ^ 53) (positive : 0 < divisor)
    (bounded : divisor ≤ most) : budget / most ≤ floorWord (nearest (budget / divisor)) := by
  have most0 : (0 : Rat) < most := positive.trans_le bounded
  have share : budget / most ≤ budget := Nat.div_le_self budget most
  have exact : IsExact ((budget / most : Nat) : Rat) := isExact_natCast (share.trans small.le)
  have reached : ((budget / most : Nat) : Rat) ≤ budget / divisor :=
    calc ((budget / most : Nat) : Rat) ≤ budget / most := Nat.cast_div_le
      _ ≤ budget / divisor := div_le_div_of_nonneg_left (Nat.cast_nonneg budget) positive bounded
  have floor : ((budget / most : Nat) : Int) ≤ (nearest (budget / divisor)).floor := by
    rw [Rat.le_floor_iff]
    exact_mod_cast le_nearest exact reached
  have word : budget ≤ maxWord := small.le.trans (by decide)
  have whole : budget / most ≤ (nearest (budget / divisor)).floor.toNat :=
    (Int.le_toNat ((Int.natCast_nonneg _).trans floor)).mpr floor
  exact le_min whole (share.trans word)

/-- The limit for an average between two sizes.  An average below one byte counts as one byte, and
so do the sizes. -/
theorem limitFor_between (small : budget < 2 ^ 53) (lower : least ≤ average)
    (upper : average ≤ most) :
    max 1 (min (budget / max 1 most) records) ≤ limitFor budget records average ∧
      limitFor budget records average ≤ max 1 (min (budget / max 1 least) records) := by
  have divisor : (if average < 1 then 1 else average) = max 1 average := by
    split
    · rename_i below
      exact (max_eq_left below.le).symm
    · rename_i whole
      exact (max_eq_right (not_lt.mp whole)).symm
  have positive : 0 < max 1 average := zero_lt_one.trans_le (le_max_left 1 average)
  have above : ((max 1 least : Nat) : Rat) ≤ max 1 average := by
    push_cast
    exact max_le_max_left 1 lower
  have below : max 1 average ≤ ((max 1 most : Nat) : Rat) := by
    push_cast
    exact max_le_max_left 1 upper
  rw [limitFor, nearestOfNat_of_le small.le, divisor]
  constructor
  · exact max_le_max_left 1 (min_le_min_right _ (le_floorWord_quotient small positive below))
  · exact max_le_max_left 1 (min_le_min_right _
      (floorWord_quotient_le small (le_max_left 1 least) above))

/-! ### The average in whole bytes -/

theorem roundWord_between (lower : least ≤ average) (upper : average ≤ most)
    (bounded : most ≤ 2 ^ 53) : least ≤ roundWord average ∧ roundWord average ≤ most := by
  have atLeast : (least : Int) ≤ (average + 1 / 2).floor := by
    rw [Rat.le_floor_iff]
    push_cast
    linarith
  have below : (average + 1 / 2).floor < (most : Int) + 1 := by
    rw [Rat.floor_lt_iff]
    push_cast
    linarith
  have ordered : least ≤ most := by exact_mod_cast lower.trans upper
  have word : most ≤ maxWord := bounded.trans (by decide)
  constructor
  · have whole : least ≤ (average + 1 / 2).floor.toNat :=
      (Int.le_toNat ((Int.natCast_nonneg least).trans atLeast)).mpr atLeast
    exact le_min whole (ordered.trans word)
  · exact (min_le_left _ _).trans (Int.toNat_le.mpr (Int.lt_add_one_iff.mp below))

/-! ### Measurement after measurement -/

/-- Fold in one measurement after the other. -/
def observeAll (capacity : Capacity) (sizes : List UInt64) : Capacity :=
  sizes.foldl (fun capacity size => (capacity.observe size).1) capacity

/-- Something was measured, its average lies between two sizes, and the limit is the one for that
average. -/
structure Between (least most : Nat) (capacity : Capacity) : Prop where
  measured : 1 ≤ capacity.samples
  exact : IsExact capacity.average
  lower : least ≤ capacity.average
  upper : capacity.average ≤ most
  limit : capacity.limit =
    limitFor capacity.budget.toNat capacity.maxRecords.toNat capacity.average

variable {capacity : Capacity} {size : UInt64} {sizes : List UInt64}

/-- The first measurement is the average, whatever the bounds. -/
theorem between_first (fresh : capacity.samples = 0) (none : capacity.average = 0)
    (bounded : most ≤ 2 ^ 53) (atLeast : least ≤ size.toNat) (atMost : size.toNat ≤ most) :
    (capacity.observe size).1.Between least most := by
  have average : (capacity.observe size).1.average = size.toNat := by
    have first := nextAverage_first (atMost.trans bounded)
    simpa only [observe, fresh, none] using first
  refine ⟨Nat.le_add_left 1 _, isExact_nearest _, ?_, ?_, rfl⟩
  · rw [average]
    exact_mod_cast atLeast
  · rw [average]
    exact_mod_cast atMost

/-- A size between the bounds does not lead the average out of them. -/
theorem Between.observe (between : capacity.Between least most) (bounded : most ≤ 2 ^ 53)
    (atLeast : least ≤ size.toNat) (atMost : size.toNat ≤ most) :
    (capacity.observe size).1.Between least most := by
  have several : 2 ≤ capacity.samples + 1 := Nat.succ_le_succ between.measured
  obtain ⟨above, below⟩ := nextAverage_between between.exact (atMost.trans bounded) several
  have sizeLower : (least : Rat) ≤ size.toNat := by exact_mod_cast atLeast
  have sizeUpper : (size.toNat : Rat) ≤ most := by exact_mod_cast atMost
  refine ⟨Nat.le_add_left 1 _, isExact_nearest _, ?_, ?_, rfl⟩
  · exact (le_min between.lower sizeLower).trans above
  · exact below.trans (max_le between.upper sizeUpper)

theorem Between.observeAll (between : capacity.Between least most) (bounded : most ≤ 2 ^ 53)
    (within : ∀ size ∈ sizes, least ≤ size.toNat ∧ size.toNat ≤ most) :
    (capacity.observeAll sizes).Between least most := by
  induction sizes generalizing capacity with
  | nil => exact between
  | cons size rest ih =>
    obtain ⟨⟨atLeast, atMost⟩, later⟩ := List.forall_mem_cons.mp within
    exact ih (between.observe bounded atLeast atMost) later

/-- Measuring changes neither the budget nor the largest number of records. -/
theorem settings_observeAll (capacity : Capacity) (sizes : List UInt64) :
    (capacity.observeAll sizes).budget = capacity.budget ∧
      (capacity.observeAll sizes).maxRecords = capacity.maxRecords := by
  induction sizes generalizing capacity with
  | nil => exact ⟨rfl, rfl⟩
  | cons size rest ih => exact ih (capacity.observe size).1

/-- Take any budget below `2 ^ 53`, any number of records that is not zero, and any sizes of at
most `2 ^ 53` bytes, one at least.  Once all of them are measured, with each operation rounded,
the average in whole bytes lies between the smallest and the largest of them, and the limit
between the numbers of entries that the budget holds of the largest and of the smallest one, where
each counts as one byte at least and each of the two numbers as one entry at least and as the
number of records at most. -/
theorem average_in_hull {budget maxRecords : UInt64} (small : budget.toNat < 2 ^ 53)
    (positive : 1 ≤ maxRecords) (smallest : (sizes.map UInt64.toNat).min? = some least)
    (largest : (sizes.map UInt64.toNat).max? = some most) (bounded : most ≤ 2 ^ 53) :
    let observed := (start budget maxRecords).observeAll sizes
    (least ≤ observed.averageBytes ∧ observed.averageBytes ≤ most) ∧
      max 1 (min (budget.toNat / max 1 most) maxRecords.toNat) ≤ observed.limit ∧
      observed.limit ≤ max 1 (min (budget.toNat / max 1 least) maxRecords.toNat) := by
  intro observed
  have within : ∀ size ∈ sizes, least ≤ size.toNat ∧ size.toNat ≤ most := fun size found =>
    ⟨(List.min?_eq_some_iff.mp smallest).2 _ (List.mem_map_of_mem found),
      (List.max?_eq_some_iff.mp largest).2 _ (List.mem_map_of_mem found)⟩
  have between : observed.Between least most := by
    cases sizes with
    | nil => contradiction
    | cons first rest =>
      obtain ⟨⟨atLeast, atMost⟩, later⟩ := List.forall_mem_cons.mp within
      exact (between_first rfl rfl bounded atLeast atMost).observeAll bounded later
  obtain ⟨sameBudget, sameRecords⟩ := settings_observeAll (start budget maxRecords) sizes
  have limit := between.limit
  rw [sameBudget, sameRecords] at limit
  have records : (start budget maxRecords).maxRecords = maxRecords := by
    have same := UInt64.toNat_max maxRecords 1
    rw [Nat.max_eq_left (UInt64.le_iff_toNat_le.mp positive)] at same
    exact UInt64.toNat_inj.mp same
  rw [records] at limit
  rw [limit]
  exact ⟨roundWord_between between.lower between.upper bounded,
    limitFor_between small between.lower between.upper⟩

/-- One byte and twice two.  The average is rounded up a little, and then the quotient is, to the
six entries that it no longer reaches. -/
theorem average_in_hull_inhabited :
    let observed := (start 10 7).observeAll [1, 2, 2]
    (observed.averageBytes = 2 ∧ 10 / observed.average < 6 ∧ observed.limit = 6) ∧
      (1 ≤ observed.averageBytes ∧ observed.averageBytes ≤ 2) ∧
      5 ≤ observed.limit ∧ observed.limit ≤ 7 :=
  ⟨by decide +kernel,
    average_in_hull (by decide) (by decide) (by decide) (by decide) (by decide)⟩

end BoundedIngest.Capacity

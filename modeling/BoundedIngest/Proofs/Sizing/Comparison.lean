/-
Module: BoundedIngest.Proofs.Sizing.Comparison
Purpose: Of two models that measure the same sizes, the one with the larger budget and the larger
  number of records never admits fewer entries.
Main exports:
  Capacity.limitFor_mono, Capacity.Leaner, Capacity.Leaner.observe, Capacity.Leaner.observeAll,
  Capacity.changed_iff, Capacity.more_budget_more_room
-/
import BoundedIngest.Proofs.Number.Order
import BoundedIngest.Proofs.Sizing.Hull

namespace BoundedIngest.Capacity

open Number

/-!
Neither the budget nor the number of records has a part in the average.  So both models divide by
the same number, and from there on each operation keeps the order: the budget becomes a number of
53 significant bits, the quotient is rounded and cut down to a word, and the word is confined to
what the model admits.
-/

variable {average : Rat} {budget larger records more : Nat} {lean rich : Capacity}

theorem limitFor_mono (budgets : budget ≤ larger) (admitted : records ≤ more) :
    limitFor budget records average ≤ limitFor larger more average := by
  have divisor : (0 : Rat) ≤ if average < 1 then 1 else average := by
    split
    · exact zero_le_one
    · rename_i whole
      exact zero_le_one.trans (not_lt.mp whole)
  have quotient := div_le_div_of_nonneg_right (nearestOfNat_mono budgets) divisor
  exact max_le_max_left 1 (min_le_min (floorWord_mono (nearest_mono quotient)) admitted)

/-- The first model has at most the settings of the second, has measured the same sizes, and admits
at most as many entries. -/
structure Leaner (lean rich : Capacity) : Prop where
  budget : lean.budget ≤ rich.budget
  records : lean.maxRecords ≤ rich.maxRecords
  samples : lean.samples = rich.samples
  average : lean.average = rich.average
  limit : lean.limit ≤ rich.limit

/-- Before the first measurement both admit one entry. -/
theorem leaner_start {budget larger maxRecords moreRecords : UInt64} (budgets : budget ≤ larger)
    (admitted : maxRecords ≤ moreRecords) :
    (start budget maxRecords).Leaner (start larger moreRecords) := by
  refine ⟨budgets, ?_, rfl, rfl, le_rfl⟩
  change max maxRecords 1 ≤ max moreRecords 1
  rw [UInt64.le_iff_toNat_le, UInt64.toNat_max, UInt64.toNat_max]
  exact max_le_max_right _ (UInt64.le_iff_toNat_le.mp admitted)

theorem Leaner.observe (leaner : lean.Leaner rich) (size : UInt64) :
    (lean.observe size).1.Leaner (rich.observe size).1 := by
  have samples : lean.samples + 1 = rich.samples + 1 := congrArg (· + 1) leaner.samples
  have average : nextAverage lean.average (lean.samples + 1) size.toNat =
      nextAverage rich.average (rich.samples + 1) size.toNat := by
    rw [leaner.average, leaner.samples]
  refine ⟨leaner.budget, leaner.records, samples, average, ?_⟩
  change limitFor _ _ (nextAverage lean.average _ _) ≤ limitFor _ _ _
  rw [average]
  exact limitFor_mono (UInt64.le_iff_toNat_le.mp leaner.budget)
    (UInt64.le_iff_toNat_le.mp leaner.records)

theorem Leaner.observeAll (leaner : lean.Leaner rich) (sizes : List UInt64) :
    (lean.observeAll sizes).Leaner (rich.observeAll sizes) := by
  induction sizes generalizing lean rich with
  | nil => exact leaner
  | cons size rest ih => exact ih (leaner.observe size)

theorem samples_observeAll (capacity : Capacity) (sizes : List UInt64) :
    (capacity.observeAll sizes).samples = capacity.samples + sizes.length := by
  induction sizes generalizing capacity with
  | nil => rfl
  | cons size rest ih =>
    have counted := ih (capacity.observe size).1
    rw [List.length_cons, Nat.add_comm rest.length, ← Nat.add_assoc]
    exact counted

theorem observeAll_concat (capacity : Capacity) (sizes : List UInt64) (size : UInt64) :
    capacity.observeAll (sizes ++ [size]) = ((capacity.observeAll sizes).observe size).1 :=
  List.foldl_append

/-- A measurement tells of a change exactly if there is one. -/
theorem changed_iff (capacity : Capacity) (size : UInt64) :
    (capacity.observe size).2 = true ↔ (capacity.observe size).1.limit ≠ capacity.limit :=
  bne_iff_ne

/-- Take any two budgets and any two numbers of records, zero and the largest word included, the
first at most the second in both cases, and any sizes.  Once all of them are measured, the first
model admits at most as many entries as the second, and both have made as many measurements as there
are sizes and have the same average.  And the last measurement tells of each model that its limit
has changed exactly if it differs from the one before. -/
theorem more_budget_more_room {budget larger maxRecords moreRecords : UInt64}
    (budgets : budget ≤ larger) (admitted : maxRecords ≤ moreRecords) (sizes : List UInt64)
    (size : UInt64) :
    let before : Capacity := (start budget maxRecords).observeAll sizes
    let after := (start budget maxRecords).observeAll (sizes ++ [size])
    let richBefore := (start larger moreRecords).observeAll sizes
    let richAfter := (start larger moreRecords).observeAll (sizes ++ [size])
    (after.limit ≤ richAfter.limit ∧ after.average = richAfter.average ∧
        after.averageBytes = richAfter.averageBytes) ∧
      (after.samples = sizes.length + 1 ∧ richAfter.samples = sizes.length + 1) ∧
      ((before.observe size).2 = true ↔ after.limit ≠ before.limit) ∧
      ((richBefore.observe size).2 = true ↔ richAfter.limit ≠ richBefore.limit) := by
  intro before after richBefore richAfter
  have leaner : after.Leaner richAfter :=
    (leaner_start budgets admitted).observeAll (sizes ++ [size])
  have counted : ∀ given records : UInt64,
      ((start given records).observeAll (sizes ++ [size])).samples = sizes.length + 1 := by
    intro given records
    rw [samples_observeAll, List.length_append, start]
    exact Nat.zero_add _
  have told : ∀ given records : UInt64,
      (((start given records).observeAll sizes).observe size).2 = true ↔
        ((start given records).observeAll (sizes ++ [size])).limit ≠
          ((start given records).observeAll sizes).limit := by
    intro given records
    rw [observeAll_concat]
    exact changed_iff _ size
  exact ⟨⟨leaner.limit, leaner.average, congrArg roundWord leaner.average⟩,
    ⟨counted budget maxRecords, counted larger moreRecords⟩, told budget maxRecords,
    told larger moreRecords⟩

/-- A budget of one byte more than `2 ^ 53` counts as `2 ^ 53` bytes, and the largest one as `2 ^ 64`
bytes, of which the quotient is cut down to a word as long as the average is one byte. -/
theorem more_budget_more_room_inhabited :
    let lean := (start 9007199254740993 9007199254740993).observeAll [1, 3]
    let rich := (start 18446744073709551615 18446744073709551615).observeAll [1, 3]
    (lean.limit = 4503599627370496 ∧ rich.limit = 9223372036854775808 ∧
        ((start 18446744073709551615 18446744073709551615).observeAll [1]).limit =
          18446744073709551615) ∧
      lean.limit ≤ rich.limit ∧ lean.average = rich.average ∧
      lean.averageBytes = rich.averageBytes := by
  have evaluated :
      ((start 9007199254740993 9007199254740993).observeAll [1, 3]).limit = 4503599627370496 ∧
        ((start 18446744073709551615 18446744073709551615).observeAll [1, 3]).limit =
          9223372036854775808 ∧
        ((start 18446744073709551615 18446744073709551615).observeAll [1]).limit =
          18446744073709551615 := by
    decide +kernel
  have most : (9007199254740993 : UInt64) ≤ 18446744073709551615 := by decide
  exact ⟨evaluated, (more_budget_more_room most most [1] 3).1⟩

end BoundedIngest.Capacity

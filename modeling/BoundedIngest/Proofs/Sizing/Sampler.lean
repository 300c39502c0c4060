/-
Module: BoundedIngest.Proofs.Sizing.Sampler
Purpose: How many entries are measured, by the number of entries offered.
Main exports:
  Sampler.isDue_ofNat, Sampler.quota, Sampler.quota_succ, Sampler.quota_add_rate,
  Sampler.due, Sampler.count_due, Sampler.head?_due, Sampler.count_due_window
-/
import BoundedIngest.Sizing.Sampler
import Mathlib.Algebra.Order.Floor.Div
import Mathlib.Algebra.Order.Group.Nat

namespace BoundedIngest.Sampler

/-!
Sequence numbers are words, and as long as no more than `2 ^ 64` of them were drawn they are the
numbers from zero on.  Past the warm-up the numbers to be measured are the multiples of the rate,
counted from its end; so going from `n` numbers to `n + 1` adds to the count of them what it adds
to the quotient of `n` and the rate, rounded up.
-/

variable {sampler : Sampler} {warmup rate number n start : Nat}

/-! ### The rule in whole numbers -/

theorem isDue_ofNat (small : number < 2 ^ 64) :
    sampler.isDue (UInt64.ofNat number) = true ↔
      number < sampler.warmup.toNat ∨
        (number - sampler.warmup.toNat) % sampler.rate.toNat = 0 := by
  have word : (UInt64.ofNat number).toNat = number := UInt64.toNat_ofNat_of_lt' small
  have below : UInt64.ofNat number < sampler.warmup ↔ number < sampler.warmup.toNat := by
    rw [UInt64.lt_iff_toNat_lt, word]
  rw [isDue, Bool.or_eq_true, decide_eq_true_eq, beq_iff_eq, below]
  refine or_congr_right' fun warm => ?_
  have past : sampler.warmup ≤ UInt64.ofNat number := by
    rw [UInt64.le_iff_toNat_le, word]
    exact Nat.le_of_not_lt warm
  rw [← UInt64.toNat_inj, UInt64.toNat_mod, UInt64.toNat_sub_of_le _ _ past, word]
  rfl

/-- For each of the first `n` entries, whether it is measured. -/
def due (sampler : Sampler) (n : Nat) : List Bool :=
  (List.range n).map fun number => sampler.isDue (UInt64.ofNat number)

theorem due_succ (sampler : Sampler) (n : Nat) :
    sampler.due (n + 1) = sampler.due n ++ [sampler.isDue (UInt64.ofNat n)] := by
  rw [due, List.range_succ, List.map_append]
  rfl

@[simp] theorem length_due (sampler : Sampler) (n : Nat) : (sampler.due n).length = n := by
  simp [due]

/-! ### The number of entries measured -/

/-- How many of the first `n` entries are measured: all of the warm-up, and after it one in each
group, of which the last may be incomplete. -/
def quota (warmup rate n : Nat) : Nat := min n warmup + (n - warmup) ⌈/⌉ rate

/-- One more raises the rounded quotient where it follows a multiple of the divisor. -/
theorem ceilDiv_succ (positive : 0 < rate) (count : Nat) :
    (count + 1) ⌈/⌉ rate = count ⌈/⌉ rate + if count % rate = 0 then 1 else 0 := by
  have more : count + 1 + rate - 1 = count + rate - 1 + 1 := by omega
  have next : count + rate - 1 + 1 = count + rate := by omega
  rw [Nat.ceilDiv_eq_add_pred_div, Nat.ceilDiv_eq_add_pred_div, more, Nat.succ_div, next]
  simp only [Nat.dvd_iff_mod_eq_zero, Nat.add_mod_right]

theorem quota_succ (positive : 0 < rate) (warmup n : Nat) :
    quota warmup rate (n + 1) =
      quota warmup rate n + if n < warmup ∨ (n - warmup) % rate = 0 then 1 else 0 := by
  unfold quota
  rcases Nat.lt_or_ge n warmup with warm | past
  · rw [if_pos (.inl warm), Nat.sub_eq_zero_of_le warm, Nat.sub_eq_zero_of_le warm.le,
      Nat.min_eq_left warm, Nat.min_eq_left warm.le]
    omega
  · have step : n + 1 - warmup = n - warmup + 1 := Nat.succ_sub past
    have cold : ¬ n < warmup := past.not_gt
    simp only [cold, false_or]
    rw [step, ceilDiv_succ positive, Nat.min_eq_right past, Nat.min_eq_right (past.trans n.le_succ)]
    omega

/-- Past the warm-up there is one more to measure among as many entries as the rate says. -/
theorem quota_add_rate (positive : 0 < rate) (past : warmup ≤ start) :
    quota warmup rate (start + rate) = quota warmup rate start + 1 := by
  have further : start + rate - warmup + rate - 1 = start - warmup + rate - 1 + rate := by omega
  unfold quota
  rw [Nat.min_eq_right past, Nat.min_eq_right (past.trans (Nat.le_add_right start rate)),
    Nat.ceilDiv_eq_add_pred_div, Nat.ceilDiv_eq_add_pred_div, further,
    Nat.add_div_right _ positive]
  rfl

/-- By induction on the number of entries: each adds one to the count if it is due. -/
theorem count_due (positive : 0 < sampler.rate.toNat) (small : n ≤ 2 ^ 64) :
    (sampler.due n).count true = quota sampler.warmup.toNat sampler.rate.toNat n := by
  induction n with
  | zero => simp [due, quota]
  | succ n ih =>
    have rule := @isDue_ofNat sampler n (Nat.lt_of_succ_le small)
    rw [due_succ, List.count_append, ih (Nat.le_of_succ_le small), quota_succ positive]
    congr 1
    split
    · rename_i holds
      rw [rule.mpr holds]
      rfl
    · rename_i fails
      rw [Bool.eq_false_of_not_eq_true (mt rule.mp fails)]
      rfl

/-! ### Which entries these are -/

theorem take_due (inside : number ≤ n) : (sampler.due n).take number = sampler.due number := by
  rw [due, ← List.map_take, List.take_range, Nat.min_eq_left inside]
  rfl

/-- The first entry of all is measured, with a warm-up and without one. -/
theorem head?_due (offered : 0 < n) : (sampler.due n).head? = some true := by
  have first : (sampler.due 1).head? = (sampler.due n).head? := by
    rw [← take_due offered, List.head?_take]
    rfl
  have due : sampler.isDue (UInt64.ofNat 0) = true := by
    apply (isDue_ofNat (by decide)).mpr
    rcases Nat.eq_zero_or_pos sampler.warmup.toNat with none | warm
    · right
      rw [none]
      exact Nat.zero_mod _
    · exact .inl warm
  rw [← first]
  exact congrArg Option.some due

/-- Among any entries past the warm-up that are as many as the rate says and follow each other, one
is measured. -/
theorem count_due_window (positive : 0 < sampler.rate.toNat)
    (past : sampler.warmup.toNat ≤ start) (inside : start + sampler.rate.toNat ≤ n)
    (small : n ≤ 2 ^ 64) :
    (((sampler.due n).drop start).take sampler.rate.toNat).count true = 1 := by
  have upTo : start ≤ n := (Nat.le_add_right _ _).trans inside
  have parts := congrArg (List.count true) (List.take_add (l := sampler.due n)
    (i := start) (j := sampler.rate.toNat))
  rw [take_due inside, List.count_append, take_due upTo, count_due positive (inside.trans small),
    count_due positive (upTo.trans small), quota_add_rate positive past] at parts
  omega

end BoundedIngest.Sampler

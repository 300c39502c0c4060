/-
Module: BoundedIngest.Proofs.Bench.Mixing
Purpose: Mixing the keys of a bench run loses nothing.
Main exports:
  mixing, coe_mixing, mixing_loses_nothing
-/
import BoundedIngest.Proofs.Bench.Partition
import BoundedIngest.Proofs.Number.Permutation

namespace BoundedIngest.Bench

open Number

/-!
Each stage of mixing can be undone by itself, so mixing is undone by undoing them in the opposite
order, the last one first.
-/

/-- Mixing, put together from stages that can be undone. -/
def mixing : Equiv.Perm UInt64 :=
  (Equiv.addRight 0x9E3779B97F4A7C15).trans <|
    (folding 30 (by decide)).trans <|
      (Units.mulRight (unitOfOdd 0xBF58476D1CE4E5B9 (by decide))).trans <|
        (folding 27 (by decide)).trans <|
          (Units.mulRight (unitOfOdd 0x94D049BB133111EB (by decide))).trans <|
            folding 31 (by decide)

theorem coe_mixing : ⇑mixing = mixKey := rfl

/-- Mixing is a bijection of the words, and `mixing.symm` computes the key from what it was mixed
to.  So the keys of a bench run, whoever makes their rows, are mixed to words that all differ. -/
theorem mixing_loses_nothing :
    Function.Bijective mixKey ∧
      (∀ key word, mixKey key = word ↔ key = mixing.symm word) ∧
        ∀ workload : Workload,
          ((workload.keyRanges.flatMap KeyRange.keys).map mixKey).Nodup := by
  have bijective : Function.Bijective mixKey := mixing.bijective
  refine ⟨bijective, fun key word => ?_, fun workload => ?_⟩
  · rw [← coe_mixing]
    exact mixing.eq_symm_apply.symm
  · rw [workload.flatMap_keyRanges]
    exact workload.nodup_keys.map bijective.injective

/-- The key zero, there and back. -/
example : mixKey 0 = 0xE220A8397B1DCDAF ∧ mixing.symm 0xE220A8397B1DCDAF = 0 := by decide

end BoundedIngest.Bench

/-
Module: BoundedIngest.Proofs.Bench.Partition
Purpose: The keys of a bench run are split among its producers without loss, repetition or
  overflow.
Main exports:
  Workload.keys, Workload.Fits, Workload.fits, Workload.flatMap_keyRanges,
  Workload.count_keyRanges
-/
import BoundedIngest.Bench.Workload
import Mathlib.Data.List.Nodup

namespace BoundedIngest.Bench

/-!
Every producer but the last gets the same share of the keys, rounded down, and its range
begins where the one before ends.  The last one goes on to the number of records, so that
no rounding and no surplus of producers can leave a gap.
-/

namespace Workload

variable {workload : Workload} {producer : UInt64}

/-- All keys, in order. -/
def keys (workload : Workload) : List UInt64 :=
  (List.range workload.records.toNat).map UInt64.ofNat

/-- The words that a producer's range is computed with are the numbers they stand for. -/
structure Fits (workload : Workload) (producer : UInt64) : Prop where
  /-- The number of records is divided by something. -/
  divisor : workload.producerCount ≠ 0
  first : producer.toNat * workload.share.toNat < UInt64.size
  following : producer.toNat + 1 < UInt64.size
  stop : producer.toNat * workload.share.toNat + workload.share.toNat < UInt64.size

theorem producerCount_pos (workload : Workload) : 0 < workload.producerCount.toNat := by
  rw [producerCount, UInt64.toNat_max]
  exact Nat.lt_of_lt_of_le Nat.zero_lt_one (Nat.le_max_right _ _)

/-- As many shares as there are producers are not more than all keys. -/
theorem mul_share_le (workload : Workload) :
    workload.producerCount.toNat * workload.share.toNat ≤ workload.records.toNat := by
  rw [share, UInt64.toNat_div]
  exact Nat.mul_div_le _ _

/-- So many shares do not go beyond the keys. -/
theorem shares_le {count : Nat} (inside : count ≤ workload.producerCount.toNat) :
    count * workload.share.toNat ≤ workload.records.toNat :=
  Nat.le_trans (Nat.mul_le_mul_right _ inside) workload.mul_share_le

theorem fits (inside : producer < workload.producerCount) : workload.Fits producer := by
  have below : producer.toNat < workload.producerCount.toNat := UInt64.lt_iff_toNat_lt.mp inside
  have records := workload.records.toNat_lt_size
  have most := workload.producerCount.toNat_lt_size
  have first := workload.shares_le (Nat.le_of_lt below)
  have stop := workload.shares_le (Nat.succ_le_of_lt below)
  rw [Nat.succ_mul] at stop
  refine ⟨?_, by omega, by omega, by omega⟩
  intro none
  have some := workload.producerCount_pos
  rw [none] at some
  contradiction

/-! ### Ranges as numbers -/

theorem toNat_first (inside : producer < workload.producerCount) :
    (workload.keyRange producer).first.toNat = producer.toNat * workload.share.toNat := by
  have product := UInt64.toNat_mul producer workload.share
  rwa [Nat.mod_eq_of_lt (fits inside).first] at product

theorem isLast_iff (inside : producer < workload.producerCount) :
    producer + 1 = workload.producerCount ↔ producer.toNat + 1 = workload.producerCount.toNat := by
  rw [← UInt64.toNat_inj, UInt64.toNat_add, UInt64.toNat_one,
    Nat.mod_eq_of_lt (fits inside).following]

theorem toNat_stop (inside : producer < workload.producerCount) :
    (workload.keyRange producer).stop.toNat =
      if producer.toNat + 1 = workload.producerCount.toNat then workload.records.toNat
      else producer.toNat * workload.share.toNat + workload.share.toNat := by
  have first := toNat_first inside
  have sum := UInt64.toNat_add (workload.keyRange producer).first workload.share
  rw [first, Nat.mod_eq_of_lt (fits inside).stop] at sum
  by_cases last : producer + 1 = workload.producerCount
  · rw [if_pos ((isLast_iff inside).mp last)]
    exact congrArg UInt64.toNat (if_pos last)
  · rw [if_neg (mt (isLast_iff inside).mpr last), ← sum]
    exact congrArg UInt64.toNat (if_neg last)

/-- How many keys a producer gets. -/
def portion (workload : Workload) (producer : Nat) : Nat :=
  if producer + 1 = workload.producerCount.toNat then
    workload.records.toNat - producer * workload.share.toNat
  else workload.share.toNat

theorem keys_keyRange {producer : Nat} (inside : producer < workload.producerCount.toNat) :
    (workload.keyRange (UInt64.ofNat producer)).keys =
      (List.range' (producer * workload.share.toNat) (workload.portion producer)).map
        UInt64.ofNat := by
  have small := Nat.lt_trans inside workload.producerCount.toNat_lt_size
  have number : (UInt64.ofNat producer).toNat = producer := UInt64.toNat_ofNat_of_lt' small
  have word : UInt64.ofNat producer < workload.producerCount := by
    rwa [UInt64.lt_iff_toNat_lt, number]
  rw [KeyRange.keys, toNat_first word, toNat_stop word, number, portion]
  split
  · rfl
  · rw [Nat.add_sub_cancel_left]

/-! ### All ranges together -/

theorem range_append_range' (first count : Nat) :
    List.range first ++ List.range' first count = List.range (first + count) := by
  rw [List.range_eq_range', List.range_eq_range', ← List.range'_append_1, Nat.zero_add]

/-- Each of the first producers goes on where the one before stops. -/
theorem flatMap_shares (share count : Nat) :
    ((List.range count).flatMap fun producer => List.range' (producer * share) share) =
      List.range (count * share) := by
  induction count with
  | zero => rw [Nat.zero_mul, List.range_zero, List.flatMap_nil]
  | succ count ih =>
    rw [List.range_succ, List.flatMap_append, ih, List.flatMap_singleton, range_append_range',
      Nat.succ_mul]

/-- The last producer goes on to the end. -/
theorem flatMap_portions (workload : Workload) :
    ((List.range workload.producerCount.toNat).flatMap fun producer =>
      List.range' (producer * workload.share.toNat) (workload.portion producer)) =
        List.range workload.records.toNat := by
  obtain ⟨others, count⟩ := Nat.exists_eq_succ_of_ne_zero (Nat.ne_of_gt workload.producerCount_pos)
  have early : ((List.range others).flatMap fun producer =>
      List.range' (producer * workload.share.toNat) (workload.portion producer)) =
        List.range (others * workload.share.toNat) := by
    rw [← flatMap_shares]
    refine List.flatMap_congr fun producer inside => ?_
    have before := List.mem_range.mp inside
    rw [portion, if_neg (by omega)]
  have last : workload.portion others =
      workload.records.toNat - others * workload.share.toNat := if_pos count.symm
  have room := workload.shares_le (count ▸ Nat.le_succ others)
  rw [count, List.range_succ, List.flatMap_append, early, List.flatMap_singleton, last,
    range_append_range', Nat.add_sub_cancel' room]

/-- Put one after the other, the ranges are all keys in order. -/
theorem flatMap_keyRanges (workload : Workload) :
    workload.keyRanges.flatMap KeyRange.keys = workload.keys := by
  rw [keyRanges, List.flatMap_map, keys, ← workload.flatMap_portions, List.map_flatMap]
  exact List.flatMap_congr fun producer inside => keys_keyRange (List.mem_range.mp inside)

theorem nodup_keys (workload : Workload) : workload.keys.Nodup := by
  refine List.Nodup.map_on (fun first small second little same => ?_) List.nodup_range
  have records := workload.records.toNat_lt_size
  have before := List.mem_range.mp small
  have after := List.mem_range.mp little
  have numbers := congrArg UInt64.toNat same
  rwa [UInt64.toNat_ofNat_of_lt' (Nat.lt_trans before records),
    UInt64.toNat_ofNat_of_lt' (Nat.lt_trans after records)] at numbers

theorem mem_keys {key : UInt64} : key ∈ workload.keys ↔ key < workload.records := by
  rw [keys, List.mem_map, UInt64.lt_iff_toNat_lt]
  constructor
  · rintro ⟨number, inside, rfl⟩
    have before := List.mem_range.mp inside
    rwa [UInt64.toNat_ofNat_of_lt' (Nat.lt_trans before workload.records.toNat_lt_size)]
  · exact fun before => ⟨key.toNat, List.mem_range.mpr before, UInt64.ofNat_toNat⟩

/-- Each key belongs to one producer and comes once in its range, and nothing else is in a
range. -/
theorem count_keyRanges (workload : Workload) (key : UInt64) :
    (workload.keyRanges.flatMap KeyRange.keys).count key =
      if key < workload.records then 1 else 0 := by
  rw [flatMap_keyRanges, workload.nodup_keys.count]
  simp only [mem_keys]

end Workload

end BoundedIngest.Bench

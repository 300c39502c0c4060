/-
Module: BoundedIngest.Proofs.Bench.Totals
Purpose: What the bench reports does not depend on scheduling, on the number of producers or
  on the settings.
Main exports:
  Totals.foldl_add_perm, Workload.totals, Workload.payloadBytes, Workload.Splits,
  totals_of_every_run
-/
import BoundedIngest.Bench.Command
import BoundedIngest.Proofs.Bench.Partition
import BoundedIngest.Proofs.Executor.Fulfilment

namespace BoundedIngest.Bench

/-!
Rows come to the consumer in some order that the scheduler chooses.  What is added up about
them forgets that order, and the rows are those of all keys, whoever makes them.
-/

/-! ### Rows -/

namespace Row

theorem size_partitionName : ∀ number < 16, (partitionName number).utf8ByteSize = 3 := by
  decide

/-- The name of a partition always takes three bytes. -/
theorem dataBytes_ofKey (key : UInt64) (widePercent : UInt8) (wideBytes : Nat) :
    (ofKey key widePercent wideBytes).dataBytes =
      (ofKey key widePercent wideBytes).payloadLength + 3 := by
  have few : (mixKey key % partitions).toNat < 16 := by
    rw [UInt64.toNat_mod]
    exact Nat.mod_lt _ (by decide)
  exact congrArg (_ + ·) (size_partitionName _ few)

end Row

/-! ### Sums -/

namespace Totals

theorem add_right_comm (totals : Totals) (first second : Row) :
    (totals.add first).add second = (totals.add second).add first := by
  have bytes : totals.bytes + UInt64.ofNat first.dataBytes + UInt64.ofNat second.dataBytes =
      totals.bytes + UInt64.ofNat second.dataBytes + UInt64.ofNat first.dataBytes := by
    rw [UInt64.add_assoc, UInt64.add_comm (UInt64.ofNat first.dataBytes), ← UInt64.add_assoc]
  have maxKey : max (max totals.maxKey first.key) second.key =
      max (max totals.maxKey second.key) first.key := by
    rw [← UInt64.toNat_inj]
    simp only [UInt64.toNat_max]
    exact Nat.max_right_comm ..
  simp only [add, bytes, maxKey]

/-- The order in which rows are consumed does not matter. -/
theorem foldl_add_perm {rows others : List Row} (same : rows.Perm others) (totals : Totals) :
    rows.foldl add totals = others.foldl add totals :=
  same.foldl_eq' (fun first _ second _ totals => add_right_comm totals first second) totals

end Totals

namespace Workload

/-- What is added up about all rows, in the order of their keys. -/
def totals (workload : Workload) : Totals :=
  (workload.keys.map workload.row).foldl Totals.add {}

/-- What the payloads of all rows come to, each with the three bytes of its partition. -/
def payloadBytes (workload : Workload) : Nat :=
  (workload.keys.map fun key => (workload.row key).payloadLength + 3).sum

/-- The same rows, made by so many producers. -/
def withProducers (workload : Workload) (producers : UInt64) : Workload :=
  { workload with producers }

/-- The keys are split without overflow, and each of them goes to one producer once. -/
structure Splits (workload : Workload) : Prop where
  fits : ∀ producer < workload.producerCount, workload.Fits producer
  once : ∀ key, (workload.keyRanges.flatMap KeyRange.keys).count key =
    if key < workload.records then 1 else 0

variable {workload : Workload}

/-- The rows of the first keys, one after the other. -/
theorem foldl_add_range (workload : Workload) {count : Nat} (small : count < UInt64.size) :
    (((List.range count).map UInt64.ofNat).map workload.row).foldl Totals.add {} =
      { rows := UInt64.ofNat count
        bytes := UInt64.ofNat (((List.range count).map UInt64.ofNat).map fun key =>
          (workload.row key).payloadLength + 3).sum
        maxKey := UInt64.ofNat (count - 1) } := by
  induction count with
  | zero => rfl
  | succ count ih =>
    have last : max (UInt64.ofNat (count - 1)) (workload.row (UInt64.ofNat count)).key =
        UInt64.ofNat count := by
      have key : (workload.row (UInt64.ofNat count)).key = UInt64.ofNat count := rfl
      rw [key, ← UInt64.toNat_inj, UInt64.toNat_max, UInt64.toNat_ofNat_of_lt' (by omega),
        UInt64.toNat_ofNat_of_lt' (by omega)]
      exact Nat.max_eq_right (Nat.sub_le _ _)
    have bytes : (workload.row (UInt64.ofNat count)).dataBytes =
        (workload.row (UInt64.ofNat count)).payloadLength + 3 := Row.dataBytes_ofKey ..
    have sum : (((List.range (count + 1)).map UInt64.ofNat).map fun key =>
        (workload.row key).payloadLength + 3).sum =
          (((List.range count).map UInt64.ofNat).map fun key =>
            (workload.row key).payloadLength + 3).sum +
              (workload.row (UInt64.ofNat count)).dataBytes := by
      simp [List.range_succ, bytes]
    have added : (((List.range (count + 1)).map UInt64.ofNat).map workload.row).foldl
        Totals.add {} =
          ((((List.range count).map UInt64.ofNat).map workload.row).foldl Totals.add {}).add
            (workload.row (UInt64.ofNat count)) := by
      simp [List.range_succ]
    rw [added, ih (by omega), sum, Totals.add, last, UInt64.ofNat_add, UInt64.ofNat_add,
      Nat.add_sub_cancel]
    rfl

theorem totals_eq (workload : Workload) :
    workload.totals =
      { rows := workload.records
        bytes := UInt64.ofNat workload.payloadBytes
        maxKey := UInt64.ofNat (workload.records.toNat - 1) } := by
  have sums := workload.foldl_add_range workload.records.toNat_lt_size
  rwa [UInt64.ofNat_toNat] at sums

/-- Whatever order the rows come in, what is added up is the same. -/
theorem conclude_of_merges {estimate : Row → UInt64} {rows : List Row}
    (merges : (workload.job estimate).Merges rows) :
    (workload.job estimate).conclude rows = workload.totals := by
  have all : ((workload.job estimate).sources.flatMap fun source =>
      source.records.map (workload.job estimate).transform) = workload.keys.map workload.row := by
    rw [← workload.flatMap_keyRanges, List.map_flatMap]
    exact List.flatMap_map ..
  have sorted := merges.perm
  rw [all] at sorted
  exact Totals.foldl_add_perm sorted {}

theorem splits (workload : Workload) : workload.Splits :=
  ⟨fun _ inside => fits inside, workload.count_keyRanges⟩

/-- If the bench has something to report, a run has led to it. -/
theorem run_of_done {estimate : Row → UInt64} {options : Options} {settings : Config}
    {summary : Summary} {complaints : List String} {log : List LogEvent}
    (done : perform estimate options settings = .done summary complaints log) :
    ∃ first events jobRun,
      JobRun.start (options.executorConfig settings.executor) (options.workload.job estimate) =
          .ok first ∧
        first.run events = some jobRun ∧ jobRun.outcome? = some (.ok summary.totals) := by
  unfold perform at done
  dsimp only at done
  split at done
  · contradiction
  · rename_i first started
    obtain ⟨events, ran⟩ := Course.run_of_complete first
    split at done
    all_goals try contradiction
    rename_i totals known
    cases done
    exact ⟨first, events, _, started, ran, known⟩

end Workload

/-- Whatever is reported about a workload is the same for every number of producers, under all
settings, for all estimates of the rows' sizes and in whatever order the threads take their steps:
as many rows as there are records, what their payloads come to, and the last key, which is zero if
there is none.  A run gets to that unless no thread name can be made of the prefix, and then
nothing is reported at all. -/
theorem totals_of_every_run (workload : Workload)
    (fits : workload.payloadBytes < UInt64.size) :
    workload.totals.rows = workload.records ∧
      workload.totals.bytes.toNat = workload.payloadBytes ∧
        workload.totals.maxKey.toNat = workload.records.toNat - 1 ∧
          ∀ producers, (workload.withProducers producers).Splits ∧
            (∀ estimate config first,
              JobRun.start config ((workload.withProducers producers).job estimate) = .ok first →
                first.Settles config ((workload.withProducers producers).job estimate)
                  workload.totals) ∧
            ∀ estimate options settings summary complaints log,
              options.workload = workload.withProducers producers →
                perform estimate options settings = .done summary complaints log →
                  summary.totals = workload.totals := by
  have values := workload.totals_eq
  have settles : ∀ producers estimate config first,
      JobRun.start config ((workload.withProducers producers).job estimate) = .ok first →
        first.Settles config ((workload.withProducers producers).job estimate)
          workload.totals :=
    fun producers estimate config first started => JobRun.settles_of_start started
      fun rows merges => (workload.withProducers producers).conclude_of_merges merges
  refine ⟨by rw [values], ?_, ?_, fun producers => ⟨?_, settles producers, ?_⟩⟩
  · rw [values]
    exact UInt64.toNat_ofNat_of_lt' fits
  · rw [values]
    exact UInt64.toNat_ofNat_of_lt' (Nat.lt_of_le_of_lt (Nat.sub_le _ _)
      workload.records.toNat_lt_size)
  · exact (workload.withProducers producers).splits
  · intro estimate options settings summary complaints log same done
    obtain ⟨first, events, jobRun, started, ran, known⟩ := Workload.run_of_done done
    rw [same] at started
    have settled := settles producers estimate _ first started
    by_cases unnamed : (options.executorConfig settings.executor).HasNul
    · rw [settled.unnamed unnamed events jobRun ran] at known
      contradiction
    · exact Except.ok.inj ((settled.named unnamed events jobRun ran).2 _ known)

/-- Three rows, made by two producers. -/
def threeRows : Options :=
  { records := 3, producers := 2, widePercent := 50, wideBytes := 100 }

/-- A run that reports three rows. -/
theorem totals_of_every_run_inhabited :
    ∃ first events jobRun summary complaints log,
      threeRows.workload.payloadBytes < UInt64.size ∧
        JobRun.start {} (threeRows.workload.job Row.estimate) = .ok first ∧
          first.run events = some jobRun ∧
            jobRun.outcome? = some (.ok threeRows.workload.totals) ∧
            perform Row.estimate threeRows {} = .done summary complaints log ∧
              summary.totals = threeRows.workload.totals ∧ summary.totals.rows = 3 := by
  have fits : threeRows.workload.payloadBytes < UInt64.size := by decide +kernel
  have reports : (perform Row.estimate threeRows {}).rows = 3 := by decide +kernel
  obtain ⟨rows, -, -, all⟩ := totals_of_every_run threeRows.workload fits
  obtain ⟨-, settles, reported⟩ := all 2
  cases answered : perform Row.estimate threeRows {} with
  | done summary complaints log =>
    obtain ⟨first, events, jobRun, started, ran, known⟩ := Workload.run_of_done answered
    have totals := reported Row.estimate threeRows {} summary complaints log rfl answered
    rw [totals] at known
    exact ⟨first, events, jobRun, summary, complaints, log, fits, started, ran, known, rfl,
      totals, by rw [totals, rows]; rfl⟩
  | refused | help | defaults | failed | crashed | exhausted =>
    rw [answered] at reports
    contradiction

/-- Settings that are accepted do not ensure that anything is reported. -/
theorem totals_of_every_run_unreported :
    (perform Row.estimate { records := 1 } { executor := Chronicle.nulPrefix }).exitCode? =
        some 101 ∧
      ¬ ∀ (workload : Workload) (config : ExecutorConfig) (first : JobRun UInt64 Row Totals),
        workload.payloadBytes < UInt64.size →
          JobRun.start config (workload.job Row.estimate) = .ok first →
          ∃ events jobRun totals, first.run events = some jobRun ∧
            jobRun.outcome? = some (.ok totals) := by
  refine ⟨by decide +kernel, fun claim => ?_⟩
  have started : ∃ first,
      JobRun.start Chronicle.nulPrefix (threeRows.workload.job Row.estimate) = .ok first :=
    ⟨_, rfl⟩
  obtain ⟨first, started⟩ := started
  obtain ⟨events, jobRun, totals, ran, known⟩ :=
    claim threeRows.workload Chronicle.nulPrefix first (by decide +kernel) started
  have ends := JobRun.ends_of_run started ran
  rw [if_pos (by decide)] at ends
  rw [ends] at known
  contradiction

end BoundedIngest.Bench

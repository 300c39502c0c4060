/-
Module: BoundedIngest.Proofs.Executor.Fulfilment
Purpose: How a job ends, in whatever order the threads take their steps.
Main exports:
  JobRun.Tracks, Job.Merges, JobRun.Endless, JobRun.Endless.returns, JobRun.Settles,
  JobRun.settles_of_start, Course.run_of_complete
-/
import BoundedIngest.Executor.Course
import BoundedIngest.Proofs.Executor.Delivery
import BoundedIngest.Proofs.Executor.Following
import BoundedIngest.Proofs.Executor.Office

namespace BoundedIngest

/-!
An undisturbed run brings a job to its outcome, and nothing that happens afterwards changes it.
The consumer gets the entries of all sources, mixed in some way; where the result does not
depend on how, it is the same for every order of steps.
-/

variable {ρ α β : Type}

/-- What the only call has returned stays, as long as no other call begins. -/
theorem Executor.executes_of_step {executor next : Executor ρ α β} {event : Event ρ α β}
    {outcome : Except ExecError β}
    (stepped : executor.step event = some next) (only : executor.executes = [.returned outcome])
    (once : event ≠ .execute) : next.executes = [.returned outcome] := by
  have move := officeMove_of_step stepped
  generalize seen : next.office = office at move
  have executes : next.executes = office.executes := congrArg Office.executes seen
  have returned : ∀ (call : Nat) (phase : ExecutePhase β),
      executor.executes[call]? = some phase → phase = .returned outcome := by
    intro call phase found
    rw [only] at found
    exact List.mem_singleton.mp (List.mem_of_getElem? found)
  rw [executes]
  cases move with
  | still | cancels | awaits | collects | joins | leaves => exact only
  | executes => exact absurd rfl once
  | serves old new was turn | retreats old new lifecycle was turn =>
    cases returned _ _ was
    cases turn
  | aborts was | enters was | takesParts was | takesSender _ was | takesReceiver _ _ was
  | starts was | strands _ _ was | spawns _ was _ | settles _ was =>
    cases returned _ _ was

namespace JobRun

variable {job : Job ρ α β} {config : ExecutorConfig} {jobRun next : JobRun ρ α β}
  {chronicle : Chronicle ρ α β} {event : Executor.Event ρ α β}

theorem outcome?_eq_some {outcome : Except ExecError β} :
    jobRun.outcome? = some outcome ↔ jobRun.executor.executes = [.returned outcome] := by
  unfold outcome?
  split
  · rename_i other only
    simp [only]
  · rename_i others
    exact ⟨nofun, fun only => absurd only (others outcome)⟩

theorem panic?_eq_some {panic : Panic} :
    jobRun.panic? = some panic ↔ jobRun.executor.executes = [.panicked panic] := by
  unfold panic?
  split
  · rename_i found only
    simp [only]
  · rename_i others
    exact ⟨nofun, fun only => absurd only (others panic)⟩

theorem hasReturned_eq_isSome : jobRun.hasReturned = jobRun.outcome?.isSome := by
  unfold hasReturned outcome?
  split
  · rfl
  · rfl

/-- A job as far as an undisturbed run has brought it, and whatever has become of it since
its call returned. -/
structure Tracks (jobRun : JobRun ρ α β) (config : ExecutorConfig) (job : Job ρ α β)
    (chronicle : Chronicle ρ α β) : Prop where
  undisturbed : Undisturbed job.assignment config false chronicle
  executes : jobRun.executor.executes = chronicle.executor.executes
  results : ∀ result ∈ chronicle.history.results,
    result = job.conclude chronicle.history.consumed
  follows : jobRun.hasReturned = false → jobRun.Follows job chronicle

theorem Follows.tracks (follows : jobRun.Follows job chronicle)
    (undisturbed : Undisturbed job.assignment config false chronicle) :
    jobRun.Tracks config job chronicle :=
  ⟨undisturbed, by rw [follows.executor], follows.results, fun _ => follows⟩

variable [DecidableEq ρ] [DecidableEq α] [DecidableEq β]

/-! ### Whole runs -/

/-- After the call has returned the outcome stays. -/
theorem executes_of_step {outcome : Except ExecError β}
    (stepped : jobRun.step event = some next)
    (only : jobRun.executor.executes = [.returned outcome]) :
    next.executor.executes = [.returned outcome] := by
  obtain ⟨allowed, moved, -⟩ := split_step stepped
  refine Executor.executes_of_step moved only ?_
  rintro rfl
  have none := List.isEmpty_iff.mp allowed
  rw [only] at none
  contradiction

theorem Tracks.step (tracks : jobRun.Tracks config job chronicle)
    (stepped : jobRun.step event = some next) : ∃ later, next.Tracks config job later := by
  cases returned : jobRun.hasReturned with
  | false =>
    obtain ⟨later, permitted, moved, follows⟩ :=
      (tracks.follows returned).step tracks.undisturbed returned stepped
    exact ⟨later, follows.tracks (.step tracks.undisturbed permitted moved)⟩
  | true =>
    rw [hasReturned_eq_isSome] at returned
    obtain ⟨outcome, known⟩ := Option.isSome_iff_exists.mp returned
    have only := outcome?_eq_some.mp known
    have still := executes_of_step stepped only
    refine ⟨chronicle, tracks.undisturbed, ?_, tracks.results, fun running => ?_⟩
    · rw [still, ← tracks.executes, only]
    · rw [hasReturned_eq_isSome, outcome?_eq_some.mpr still] at running
      contradiction

theorem Tracks.run {events : List (Executor.Event ρ α β)}
    (tracks : jobRun.Tracks config job chronicle) (ran : jobRun.run events = some next) :
    ∃ later, next.Tracks config job later := by
  induction events generalizing jobRun chronicle with
  | nil =>
    cases ran
    exact ⟨chronicle, tracks⟩
  | cons event rest ih =>
    obtain ⟨middle, stepped, ran⟩ := Option.bind_eq_some_iff.mp ran
    obtain ⟨later, tracks⟩ := tracks.step stepped
    exact ih tracks ran

theorem tracks_of_run {events : List (Executor.Event ρ α β)}
    (started : start config job = .ok jobRun) (ran : jobRun.run events = some next) :
    ∃ chronicle, next.Tracks config job chronicle :=
  ((follows_start started).tracks .start).run ran

end JobRun

/-! ### What is consumed in the end -/

/-- The entries of all sources, mixed in some way that keeps those of each source in order. -/
def Job.Merges (job : Job ρ α β) (entries : List α) : Prop :=
  ∃ pairs : List (Nat × α), entries = pairs.map (·.2) ∧
    (∀ pair ∈ pairs, pair.1 < job.sources.length) ∧
      ∀ index, (pairs.filter (·.1 == index)).map (·.2) = job.assignment.entries index

/-- Pairs sorted by their first component. -/
theorem perm_flatMap_filter {pairs : List (Nat × α)} {count : Nat}
    (inside : ∀ pair ∈ pairs, pair.1 < count) :
    (pairs.map (·.2)).Perm
      ((List.range count).flatMap fun index => (pairs.filter (·.1 == index)).map (·.2)) := by
  induction count generalizing pairs with
  | zero =>
    have none : pairs = [] := List.eq_nil_iff_forall_not_mem.mpr fun pair found =>
      Nat.not_lt_zero _ (inside pair found)
    simp [none]
  | succ count ih =>
    have before : ∀ pair ∈ pairs.filter fun pair => !(pair.1 == count), pair.1 < count := by
      intro pair found
      obtain ⟨found, other⟩ := List.mem_filter.mp found
      have most := inside pair found
      have apart : pair.1 ≠ count := by simpa using other
      omega
    have others := ih before
    -- Taking the last index away leaves the others as they are.
    have same : ((List.range count).flatMap fun index =>
        ((pairs.filter fun pair => !(pair.1 == count)).filter (·.1 == index)).map (·.2)) =
          (List.range count).flatMap fun index => (pairs.filter (·.1 == index)).map (·.2) := by
      refine List.flatMap_congr fun index before => ?_
      have apart : index ≠ count := Nat.ne_of_lt (List.mem_range.mp before)
      rw [List.filter_filter]
      congr 1
      refine List.filter_congr fun pair _ => ?_
      by_cases here : pair.1 = index
      · simp [here, apart]
      · simp [here]
    rw [same] at others
    rw [List.range_succ, List.flatMap_append, List.flatMap_singleton]
    have split := (List.filter_append_perm (·.1 == count) pairs).map (·.2)
    rw [List.map_append] at split
    exact split.symm.trans (List.perm_append_comm.trans (others.append_right _))

theorem Job.flatMap_entries (job : Job ρ α β) :
    (List.range job.sources.length).flatMap job.assignment.entries =
      job.sources.flatMap fun source => source.records.map job.transform := by
  rw [List.flatMap_def, List.flatMap_def]
  congr 1
  apply List.ext_getElem
  · simp
  · intro index inside there
    have here : index < job.sources.length := by simpa using there
    rw [List.getElem_map, List.getElem_range, List.getElem_map, job.entries_assignment]
    simp [Assignment.records, Job.assignment, here]

/-- Every record of every source is there once. -/
theorem Job.Merges.perm {job : Job ρ α β} {entries : List α} (merges : job.Merges entries) :
    entries.Perm (job.sources.flatMap fun source => source.records.map job.transform) := by
  obtain ⟨pairs, rfl, inside, each⟩ := merges
  rw [← job.flatMap_entries]
  have sorted := perm_flatMap_filter inside
  rwa [List.flatMap_congr fun index _ => each index] at sorted

theorem Undisturbed.merges_of_delivered {job : Job ρ α β} {config : ExecutorConfig}
    {chronicle : Chronicle ρ α β} {result : β}
    (undisturbed : Undisturbed job.assignment config false chronicle)
    (delivered : chronicle.Delivered job.assignment result) :
    job.Merges chronicle.history.consumed := by
  have asked : .finish ∈ chronicle.history.requests := by
    rw [delivered.requests]
    simp
  have ranDry := Chronicle.ranDry_of_reached undisturbed.reached asked
  refine ⟨chronicle.history.pushed, ranDry.consumed.trans ranDry.passed, ?_, delivered.entries⟩
  intro pair pushed
  have inserter := undisturbed.reached.ledger.inserters pair pushed
  rwa [undisturbed.length_phases] at inserter

namespace JobRun

variable [DecidableEq ρ] [DecidableEq α] [DecidableEq β] {job : Job ρ α β}
  {config : ExecutorConfig} {jobRun first : JobRun ρ α β}
  {events : List (Executor.Event ρ α β)}

/-- If no thread name can be made of the prefix, the call never returns; otherwise it does
not panic, and returns the result for all entries. -/
theorem ends_of_run (started : start config job = .ok first)
    (ran : first.run events = some jobRun) :
    if config.HasNul then jobRun.outcome? = none
    else jobRun.panic? = none ∧ ∀ outcome, jobRun.outcome? = some outcome →
      ∃ entries, job.Merges entries ∧ outcome = .ok (job.conclude entries) := by
  obtain ⟨chronicle, tracks⟩ := tracks_of_run started ran
  have ends := tracks.undisturbed.ends_of_over
  by_cases unnamed : config.HasNul
  · rw [if_pos unnamed] at ends ⊢
    rw [Option.eq_none_iff_forall_ne_some]
    intro outcome known
    have only := tracks.executes.symm.trans (outcome?_eq_some.mp known)
    obtain ⟨panic, panicked⟩ := (ends (.inl ⟨outcome, only⟩)).panicked
    rw [only] at panicked
    cases panicked
  · rw [if_neg unnamed] at ends ⊢
    constructor
    · rw [Option.eq_none_iff_forall_ne_some]
      intro panic known
      have only := tracks.executes.symm.trans (panic?_eq_some.mp known)
      obtain ⟨result, delivered⟩ := ends (.inr ⟨panic, only⟩)
      have returned := delivered.returned
      rw [only] at returned
      cases returned
    · intro outcome known
      have only := tracks.executes.symm.trans (outcome?_eq_some.mp known)
      obtain ⟨result, delivered⟩ := ends (.inl ⟨outcome, only⟩)
      have returned := delivered.returned
      rw [only] at returned
      cases returned
      have given := tracks.results result (by simp [delivered.results])
      exact ⟨_, tracks.undisturbed.merges_of_delivered delivered, congrArg Except.ok given⟩

/-- Until the call has ended, somebody can do something better than let it wait longer. -/
theorem headway (started : start config job = .ok first)
    (ran : first.run events = some jobRun) (running : jobRun.outcome? = none)
    (alive : jobRun.panic? = none) :
    ∃ event next, (∀ call, event ≠ .executing call .timeout) ∧ jobRun.step event = some next := by
  obtain ⟨chronicle, tracks⟩ := tracks_of_run started ran
  have unfinished : jobRun.hasReturned = false := by
    rw [hasReturned_eq_isSome, running]
    rfl
  have follows := tracks.follows unfinished
  have : Nonempty β := ⟨job.conclude []⟩
  obtain ⟨event, later, busy, permitted, moved⟩ := tracks.undisturbed.headway
    (fun outcome only => by
      rw [outcome?_eq_some.mpr (tracks.executes.trans only)] at running
      contradiction)
    (fun panic only => by
      rw [panic?_eq_some.mpr (tracks.executes.trans only)] at alive
      contradiction)
  obtain ⟨other, next, stepped, same | apart⟩ := follows.able tracks.undisturbed permitted moved
  · exact ⟨other, next, same ▸ busy, stepped⟩
  · exact ⟨other, next, fun call => apart call .timeout, stepped⟩

/-! ### Runs that do not end -/

/-- A job that is done step after step for ever. -/
structure Endless (config : ExecutorConfig) (job : Job ρ α β) where
  state : Nat → JobRun ρ α β
  event : Nat → Executor.Event ρ α β
  starts : start config job = .ok (state 0)
  stepped : ∀ time, (state time).step (event time) = some (state (time + 1))

/-- Somebody other than the call that executes can take a step. -/
def CanWork (jobRun : JobRun ρ α β) : Prop :=
  ∃ event next, (∀ call act, event ≠ .executing call act) ∧ jobRun.step event = some next

namespace Endless

/-- If from some time on there is always somebody other than the call that executes who can
go on, then somebody other does. -/
def Fair (endless : Endless config job) : Prop :=
  ∀ point, (∀ time, point ≤ time → (endless.state time).CanWork) →
    ∃ time, point ≤ time ∧ ∀ call act, endless.event time ≠ .executing call act

/-- The same steps, written down. -/
def chronicle (endless : Endless config job) : Nat → Chronicle ρ α β
  | 0 => .start config false (job.assignment.sources.map Source.kind)
  | time + 1 =>
      ((endless.chronicle time).step (endless.event time)).getD (endless.chronicle time)

variable (endless : Endless config job)

theorem chronicle_succ {time : Nat} {later : Chronicle ρ α β}
    (moved : (endless.chronicle time).step (endless.event time) = some later) :
    endless.chronicle (time + 1) = later := by
  rw [chronicle, moved]
  rfl

theorem follows (never : ∀ time, (endless.state time).hasReturned = false) (time : Nat) :
    Undisturbed job.assignment config false (endless.chronicle time) ∧
      (endless.state time).Follows job (endless.chronicle time) := by
  induction time with
  | zero => exact ⟨.start, follows_start endless.starts⟩
  | succ time ih =>
    obtain ⟨undisturbed, follows⟩ := ih
    obtain ⟨later, permitted, moved, next⟩ :=
      follows.step undisturbed (never time) (endless.stepped time)
    rw [endless.chronicle_succ moved]
    exact ⟨.step undisturbed permitted moved, next⟩

/-- Nothing but starving the workers keeps the call from returning. -/
theorem returns (fair : endless.Fair) : ∃ time, (endless.state time).hasReturned = true := by
  by_contra all
  have never : ∀ time, (endless.state time).hasReturned = false := by
    simpa using all
  have : Nonempty β := ⟨job.conclude []⟩
  have step : ∀ time, job.assignment.Permits (endless.chronicle time) (endless.event time) ∧
      (endless.chronicle time).step (endless.event time) = some (endless.chronicle (time + 1)) := by
    intro time
    obtain ⟨undisturbed, follows⟩ := endless.follows never time
    obtain ⟨later, permitted, moved, -⟩ :=
      follows.step undisturbed (never time) (endless.stepped time)
    rw [endless.chronicle_succ moved]
    exact ⟨permitted, moved⟩
  -- Written down, the steps are an undisturbed run without an end, and such a run is not fair.
  let interleaving : Interleaving job.assignment config false β :=
    { state := endless.chronicle
      event := endless.event
      starts := rfl
      permitted := fun time => (step time).1
      stepped := fun time => (step time).2 }
  refine interleaving.not_fair fun point able => fair point fun time after => ?_
  obtain ⟨undisturbed, follows⟩ := endless.follows never time
  obtain ⟨event, later, apart, permitted, moved⟩ := able time after
  obtain ⟨other, next, stepped, same | different⟩ := follows.able undisturbed permitted moved
  · exact ⟨other, next, same ▸ apart, stepped⟩
  · exact ⟨other, next, different, stepped⟩

end Endless

/-! ### Jobs whose result does not depend on the order -/

/-- What can come of a job that has been started. -/
structure Settles (first : JobRun ρ α β) (config : ExecutorConfig) (job : Job ρ α β)
    (result : β) : Prop where
  /-- Without names for its threads the call never returns. -/
  unnamed : config.HasNul → ∀ events jobRun, first.run events = some jobRun →
    jobRun.outcome? = none
  /-- Otherwise it does not panic, and whatever it returns is the result. -/
  named : ¬ config.HasNul → ∀ events jobRun, first.run events = some jobRun →
    jobRun.panic? = none ∧ ∀ outcome, jobRun.outcome? = some outcome → outcome = .ok result
  /-- Until it has ended, somebody can do something better than let it wait longer. -/
  onward : ∀ events jobRun, first.run events = some jobRun → jobRun.outcome? = none →
    jobRun.panic? = none →
      ∃ event next, (∀ call, event ≠ .executing call .timeout) ∧ jobRun.step event = some next
  /-- No run goes on without its returning, unless the workers are starved. -/
  returns : ∀ endless : Endless config job, endless.Fair →
    ∃ time, (endless.state time).hasReturned = true

theorem settles_of_start {result : β} (started : start config job = .ok first)
    (settled : ∀ entries, job.Merges entries → job.conclude entries = result) :
    first.Settles config job result := by
  refine ⟨fun unnamed events jobRun ran => ?_, fun named events jobRun ran => ?_,
    fun events jobRun ran running alive => headway started ran running alive,
    fun endless fair => endless.returns fair⟩
  · have ends := ends_of_run started ran
    rwa [if_pos unnamed] at ends
  · have ends := ends_of_run started ran
    rw [if_neg named] at ends
    refine ⟨ends.1, fun outcome known => ?_⟩
    obtain ⟨entries, merges, rfl⟩ := ends.2 outcome known
    rw [settled entries merges]

end JobRun

/-! ### One order of steps -/

namespace Course

variable [DecidableEq ρ] [DecidableEq α] [DecidableEq β]

theorem run_of_finish (course : Course ρ α β) (fuel : Nat) :
    ∃ events, course.jobRun.run events = some (course.finish fuel).jobRun := by
  induction fuel generalizing course with
  | zero => exact ⟨[], rfl⟩
  | succ fuel ih =>
    rw [finish]
    cases taken : course.step? with
    | none => exact ⟨[], rfl⟩
    | some next =>
      obtain ⟨event, -, moved⟩ := Option.bind_eq_some_iff.mp taken
      obtain ⟨jobRun, stepped, same⟩ := Option.bind_eq_some_iff.mp moved
      obtain ⟨events, ran⟩ := ih next
      refine ⟨event :: events, ?_⟩
      cases same
      exact Option.bind_eq_some_iff.mpr ⟨jobRun, stepped, ran⟩

/-- What is done in this order is one of the runs of the job. -/
theorem run_of_complete (jobRun : JobRun ρ α β) :
    ∃ events, jobRun.run events = some (complete jobRun).jobRun :=
  run_of_finish { jobRun : Course ρ α β } (stepLimit jobRun.job)

end Course

end BoundedIngest

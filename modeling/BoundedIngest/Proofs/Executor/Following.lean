/-
Module: BoundedIngest.Proofs.Executor.Following
Purpose: Until its call has returned, a job is done by an undisturbed run.
Main exports:
  Job.assignment, Executor.Plain, JobRun.Follows, JobRun.Follows.step, JobRun.Follows.able
-/
import BoundedIngest.Proofs.Executor.Account

namespace BoundedIngest

/-!
A job settles what an assignment leaves open: the sizes, the result, and that no hook runs.  So
whatever it does before its call has returned, an undisturbed run does too.  The other way
round, where an undisturbed run can go on, the job can, with its own size or result.
-/

variable {ρ α β : Type}

/-- What each producer of a job has to do.  It does not matter where a record stands. -/
def Job.assignment (job : Job ρ α β) : Assignment ρ α :=
  { sources := job.sources, transform := fun _ _ record => job.transform record }

theorem Job.entries_assignment (job : Job ρ α β) (index : Nat) :
    job.assignment.entries index = (job.assignment.records index).map job.transform := by
  apply List.ext_getElem?
  simp [Assignment.entries, Job.assignment]

/-! ### Executors without hooks -/

namespace Executor

/-- There is no hook, and nobody waits for termination. -/
structure Plain (executor : Executor ρ α β) : Prop where
  hooked : executor.hooked = false
  producers : ∀ worker ∈ executor.producers, worker.phase ≠ .hooking
  consumer : executor.consumer.phase ≠ .hooking
  awaits : executor.awaits = []

variable {executor next : Executor ρ α β}

theorem plain_create (config : ExecutorConfig) (kinds : List SourceKind) :
    (create config false kinds : Executor ρ α β).Plain := by
  refine ⟨rfl, ?_, by simp [create], rfl⟩
  intro worker found
  obtain ⟨kind, -, rfl⟩ := List.mem_map.mp found
  simp

theorem Plain.withShared {shared : SharedQueue α} (plain : executor.Plain) :
    Plain { executor with shared } :=
  ⟨plain.hooked, plain.producers, plain.consumer, plain.awaits⟩

theorem Plain.setProducerPhase {index : Nat} {phase : ProducerPhase ρ} (plain : executor.Plain)
    (other : phase ≠ .hooking) : (executor.setProducerPhase index phase).Plain := by
  refine ⟨plain.hooked, ?_, plain.consumer, plain.awaits⟩
  intro worker found
  obtain ⟨position, here⟩ := List.mem_iff_getElem?.mp found
  dsimp only [Executor.setProducerPhase] at here
  rw [List.getElem?_modify] at here
  obtain ⟨old, was, rfl⟩ := Option.map_eq_some_iff.mp here
  split
  · exact other
  · exact plain.producers old (List.mem_of_getElem? was)

theorem Plain.producer {index : Nat} {worker : ProducerWorker ρ} {act : ProducerAct ρ α}
    (plain : executor.Plain) (step : ProducerStep executor index worker act next) :
    next.Plain := by
  cases step with
  | hooked | offered | exhausted | checked => exact plain.setProducerPhase (by simp)
  | inserts | marked => exact plain.withShared.setProducerPhase (by simp)
  | measured => exact plain.withShared
  | accepted =>
    refine ⟨plain.hooked, ?_, plain.consumer, plain.awaits⟩
    intro other here
    rcases List.mem_or_eq_of_mem_set here with before | rfl
    · exact plain.producers other before
    · simp
  | reported =>
    have moved : (executor.setProducerPhase index .marking).Plain :=
      plain.setProducerPhase (by simp)
    exact moved.withShared

theorem Plain.consumes {act : ConsumerAct β} (plain : executor.Plain)
    (step : ConsumerStep executor act next) : next.Plain := by
  refine ⟨?_, ?_, ?_, ?_⟩
  · cases step <;> exact plain.hooked
  · cases step <;> exact plain.producers
  · cases step <;> intro hooking <;> contradiction
  · cases step <;> exact plain.awaits

/-- A consumer without a hook pulls from the start. -/
theorem Plain.spawns {worker : Nat} (plain : executor.Plain)
    (last : executor.consumerIndex ≤ worker) (spawned : executor.spawn worker = some next) :
    next.consumer.phase = .pulling := by
  rw [spawn, if_neg (Nat.not_lt.mpr last), plain.hooked, if_neg (by simp), beginPull] at spawned
  obtain ⟨middle, -, rfl⟩ := Option.map_eq_some_iff.mp spawned
  rfl

theorem Plain.calls {phase : ExecutePhase β} {act : ExecuteAct} (plain : executor.Plain)
    (willing : ∀ worker, executor.refuses worker = none)
    (only : executor.executes = [phase]) (step : CallerStep executor phase act next)
    (stepped : executor.stepExecute 0 act = some next) : next.Plain := by
  cases step with
  | spawnsProducer worker =>
    have moved : (executor.setProducerPhase worker (.sourcing none)).Plain :=
      plain.setProducerPhase (by simp)
    rw [plain.hooked]
    exact ⟨moved.hooked, moved.producers, moved.consumer, moved.awaits⟩
  | spawnsHook worker named last =>
    have first : executor.executes[0]? = some (.spawning worker) := by
      rw [only]
      rfl
    simp only [stepExecute, first, named, willing worker] at stepped
    obtain ⟨middle, spawned, same⟩ := Option.map_eq_some_iff.mp stepped
    have consumer := congrArg (fun executor => executor.consumer.phase) same
    have pulling := (plain.spawns last spawned).symm.trans consumer
    contradiction
  | spawnsPull =>
    refine ⟨plain.hooked, plain.producers, ?_, plain.awaits⟩
    intro hooking
    contradiction
  | enters | takesParts | takesSender | takesReceiver | starts | fails | receives | givesUp
  | timesOut | checksFlag | checksSlot | judges | settles | records =>
    exact ⟨plain.hooked, plain.producers, plain.consumer, plain.awaits⟩

theorem Plain.step {event : Event ρ α β} (plain : executor.Plain)
    (willing : ∀ worker, executor.refuses worker = none)
    (step : CalmStep executor event next) (stepped : executor.step event = some next) :
    next.Plain := by
  cases step with
  | enters | notifies | reports => exact plain.withShared
  | producer found step => exact plain.producer step
  | consumer step => exact plain.consumes step
  | begins => exact ⟨plain.hooked, plain.producers, plain.consumer, plain.awaits⟩
  | caller only step => exact plain.calls willing only step stepped

end Executor

/-! ### Histories -/

namespace History

variable {history : History ρ α β} {before after : Snapshot ρ α β}
  {event : Executor.Event ρ α β}

theorem consumed_extend_others (others : event ≠ .consumer .consumed) :
    (history.extend before event after).consumed = history.consumed := by
  cases event with
  | consumer act => cases act <;> first | rfl | exact absurd rfl others
  | _ => rfl

theorem results_extend_others (others : ∀ result, event ≠ .consumer (.concluded result)) :
    (history.extend before event after).results = history.results := by
  cases event with
  | consumer act => cases act <;> first | rfl | exact absurd rfl (others _)
  | _ => rfl

end History

/-! ### A job beside an undisturbed run -/

namespace JobRun

/-- A job that is being done, beside a chronicle of the same steps. -/
structure Follows (jobRun : JobRun ρ α β) (job : Job ρ α β) (chronicle : Chronicle ρ α β) :
    Prop where
  task : jobRun.job = job
  executor : jobRun.executor = chronicle.executor
  plain : chronicle.executor.Plain
  left : ∀ index : Nat, jobRun.left[index]? = job.sources[index]?.map fun source =>
    source.records.drop (chronicle.history.offeredTo index).length
  consumed : jobRun.consumed.reverse = chronicle.history.consumed
  /-- Every result is the one for the entries consumed. -/
  results : ∀ result ∈ chronicle.history.results,
    result = job.conclude chronicle.history.consumed

variable {job : Job ρ α β} {config : ExecutorConfig} {jobRun next : JobRun ρ α β}
  {chronicle later : Chronicle ρ α β} {event : Executor.Event ρ α β}

theorem follows_start (started : start config job = .ok jobRun) :
    jobRun.Follows job (.start config false (job.assignment.sources.map Source.kind)) := by
  unfold start at started
  cases accepted : config.validate with
  | error error =>
    rw [accepted] at started
    contradiction
  | ok done =>
    rw [accepted] at started
    cases started
    exact ⟨rfl, rfl, Executor.plain_create config _, fun _ => List.getElem?_map, rfl, nofun⟩

/-- Which record is next is the same on both sides. -/
theorem Follows.nextRecord? (follows : jobRun.Follows job chronicle) (index : Nat) :
    jobRun.nextRecord? index =
      (job.assignment.records index)[(chronicle.history.offeredTo index).length]? := by
  rw [JobRun.nextRecord?, follows.left, Assignment.records]
  cases source : job.assignment.sources[index]? with
  | none =>
    have nobody : job.sources[index]? = none := source
    simp [nobody]
  | some source =>
    have here : job.sources[index]? = some _ := source
    simp [here]

theorem account_left_others
    (others : ∀ index record, event ≠ .producer index (.offered record)) :
    (jobRun.account event).left = jobRun.left := by
  unfold account
  split
  · exact absurd rfl (others _ _)
  · split <;> rfl
  · rfl

theorem account_consumed_others (others : event ≠ .consumer .consumed) :
    (jobRun.account event).consumed = jobRun.consumed := by
  unfold account
  split
  · rfl
  · exact absurd rfl others
  · rfl

variable [DecidableEq ρ] [DecidableEq α] [DecidableEq β]

theorem split_step (stepped : jobRun.step event = some next) :
    jobRun.allows event = true ∧ jobRun.executor.step event = some next.executor ∧
      next.job = jobRun.job ∧ next.left = (jobRun.account event).left ∧
        next.consumed = (jobRun.account event).consumed := by
  unfold step at stepped
  split at stepped
  · rename_i allowed
    obtain ⟨executor, moved, rfl⟩ := Option.map_eq_some_iff.mp stepped
    refine ⟨allowed, moved, ?_, rfl, rfl⟩
    unfold account
    split
    · rfl
    · split <;> rfl
    · rfl
  · contradiction

theorem step_of_allows {executor : Executor ρ α β} (allowed : jobRun.allows event = true)
    (moved : jobRun.executor.step event = some executor) :
    ∃ next, jobRun.step event = some next :=
  ⟨_, (if_pos allowed).trans (Option.map_eq_some_iff.mpr ⟨executor, moved, rfl⟩)⟩

/-- Until its call has returned, a job allows only what its assignment permits. -/
theorem Follows.permits (follows : jobRun.Follows job chronicle)
    (calm : chronicle.executor.Calm) (running : jobRun.hasReturned = false)
    (stepped : jobRun.step event = some next) : job.assignment.Permits chronicle event := by
  obtain ⟨allowed, moved, -⟩ := split_step stepped
  rw [follows.executor] at moved
  cases event with
  | enterQueue | notifyQueue | reportQueue => trivial
  | producer index act =>
    cases act with
    | offered record =>
      have next : jobRun.nextRecord? index = some record := of_decide_eq_true allowed
      rw [follows.nextRecord?] at next
      exact ⟨rfl, next⟩
    | sourceEnded =>
      have none : jobRun.nextRecord? index = none := Option.isNone_iff_eq_none.mp allowed
      rw [follows.nextRecord?] at none
      exact ⟨rfl, List.getElem?_eq_none_iff.mp none⟩
    | transformed entry =>
      simp only [allows, allowsProducer] at allowed
      split at allowed
      · rename_i record found
        rw [follows.executor] at found
        refine ⟨rfl, (Assignment.due?_eq found rfl).trans ?_⟩
        rw [of_decide_eq_true allowed, follows.task]
        rfl
      · contradiction
    | measured | checkFlag | inserted | report | recordFailure | closeQueue | closed | signal
    | markDone => exact ⟨rfl, trivial⟩
    | hookReturned | hookPanicked | sourceFailed | sourceHalted | sourcePanicked
    | transformFailed | transformPanicked | measuringPanicked => contradiction
  | consumer act => cases act <;> first | rfl | contradiction
  | execute =>
    have none := List.isEmpty_iff.mp allowed
    rwa [follows.executor] at none
  | executing call act =>
    cases act with
    | readFlag raised =>
      cases raised with
      | false => rfl
      | true => contradiction
    | proceed | timeout => trivial
  | setFlag => contradiction
  | shutdown | await =>
    have returned : jobRun.hasReturned = true := allowed
    rw [running] at returned
    contradiction
  | shuttingDown call =>
    simp only [Executor.step, Executor.stepShutdown, calm.shutdowns, List.getElem?_nil] at moved
    contradiction
  | awaiting call =>
    simp only [Executor.step, Executor.stepAwait, follows.plain.awaits, List.getElem?_nil]
      at moved
    contradiction

/-! ### One step -/

theorem Follows.left_step (follows : jobRun.Follows job chronicle)
    (stepped : jobRun.step event = some next) (moved : chronicle.step event = some later)
    (index : Nat) :
    next.left[index]? = job.sources[index]?.map fun source =>
      source.records.drop (later.history.offeredTo index).length := by
  obtain ⟨-, -, -, left, -⟩ := split_step stepped
  obtain ⟨executor, -, rfl⟩ := Option.map_eq_some_iff.mp moved
  by_cases offers : ∃ caller record, event = .producer caller (.offered record)
  · obtain ⟨caller, record, rfl⟩ := offers
    have modified : next.left = jobRun.left.modify caller List.tail := left
    rw [modified, List.getElem?_modify, follows.left, History.offeredTo_extend]
    by_cases here : caller = index
    · simp [here, Function.comp_def]
    · simp [here]
  · have others : ∀ caller record, event ≠ .producer caller (.offered record) :=
      fun caller record same => offers ⟨caller, record, same⟩
    rw [left, account_left_others others, follows.left,
      History.offeredTo_extend_others others]

theorem Follows.consumed_step (follows : jobRun.Follows job chronicle)
    (stepped : jobRun.step event = some next) (moved : chronicle.step event = some later) :
    next.consumed.reverse = later.history.consumed := by
  obtain ⟨-, -, -, -, consumed⟩ := split_step stepped
  obtain ⟨executor, -, rfl⟩ := Option.map_eq_some_iff.mp moved
  by_cases consumes : event = .consumer .consumed
  · subst consumes
    have same : chronicle.executor.snapshot.consumer = jobRun.executor.consumer.phase := by
      rw [follows.executor]
      rfl
    rw [consumed]
    simp only [account, History.extend, same]
    cases jobRun.executor.consumer.phase with
    | consuming entry => rw [List.reverse_cons, follows.consumed]
    | _ => exact follows.consumed
  · rw [consumed, account_consumed_others consumes, follows.consumed,
      History.consumed_extend_others consumes]

/-- A result is given for what was consumed by then, and nothing is consumed afterwards. -/
theorem Follows.results_step (follows : jobRun.Follows job chronicle)
    (undisturbed : Undisturbed job.assignment config false chronicle)
    (permitted : job.assignment.Permits chronicle event)
    (stepped : jobRun.step event = some next) (moved : chronicle.step event = some later)
    (result : β) (found : result ∈ later.history.results) :
    result = job.conclude later.history.consumed := by
  have consumption := undisturbed.reached.consumption
  have step := undisturbed.calm.step permitted (Chronicle.executor_of_step moved)
  obtain ⟨executor, -, rfl⟩ := Option.map_eq_some_iff.mp moved
  by_cases concludes : ∃ given, event = .consumer (.concluded given)
  · obtain ⟨given, rfl⟩ := concludes
    obtain ⟨allowed, -⟩ := split_step stepped
    have conclusion : given = jobRun.conclusion := of_decide_eq_true allowed
    cases step with
    | consumer step =>
      cases step with
      | concluded _ was =>
        have none := consumption.unanswered_of was (by simp) (by simp)
        have only : result ∈ chronicle.history.results ++ [given] := found
        rw [none, List.nil_append, List.mem_singleton] at only
        rw [History.consumed_extend_others (by simp), ← follows.consumed, only, conclusion,
          JobRun.conclusion, follows.task]
  · rw [History.results_extend_others fun given same => concludes ⟨given, same⟩] at found
    by_cases consumes : event = .consumer .consumed
    · subst consumes
      cases step with
      | consumer step =>
        cases step with
        | goesOn entry count shared was =>
          rw [consumption.unanswered_of was (by simp) (by simp)] at found
          contradiction
    · rw [History.consumed_extend_others consumes]
      exact follows.results result found

/-- Until its call has returned, a job is done by an undisturbed run. -/
theorem Follows.step (follows : jobRun.Follows job chronicle)
    (undisturbed : Undisturbed job.assignment config false chronicle)
    (running : jobRun.hasReturned = false) (stepped : jobRun.step event = some next) :
    ∃ later, job.assignment.Permits chronicle event ∧ chronicle.step event = some later ∧
      next.Follows job later := by
  have permitted := follows.permits undisturbed.calm running stepped
  obtain ⟨-, moved, same, -⟩ := split_step stepped
  rw [follows.executor] at moved
  have recorded : chronicle.step event = some { executor := next.executor, history := _ } :=
    Option.map_eq_some_iff.mpr ⟨next.executor, moved, rfl⟩
  refine ⟨_, permitted, recorded, same.trans follows.task, rfl, ?_, ?_, ?_, ?_⟩
  · exact follows.plain.step undisturbed.calm.willing (undisturbed.calm.step permitted moved) moved
  · exact follows.left_step stepped recorded
  · exact follows.consumed_step stepped recorded
  · exact follows.results_step undisturbed permitted stepped recorded

/-- An entry is measured to have the size that the job settles. -/
theorem measures {index : Nat} {worker : ProducerWorker ρ} {entry : α}
    (found : jobRun.executor.producers[index]? = some worker) (was : worker.phase = .inserting)
    (measuring : jobRun.executor.shared.calls[index]? = some (.measuring entry)) :
    ∃ next, jobRun.step (.producer index (.measured (jobRun.job.estimate entry))) = some next := by
  have allowed : jobRun.allows (.producer index (.measured (jobRun.job.estimate entry))) =
      true := by
    simp [allows, allowsProducer, measuring]
  have possible : (jobRun.executor.step
      (.producer index (.measured (jobRun.job.estimate entry)))).isSome = true := by
    simp [Executor.step, Executor.stepProducer, found, Executor.turnProducer, was,
      Executor.engageProducer, Executor.stepQueue, SharedQueue.step, measuring]
  obtain ⟨executor, moved⟩ := Option.isSome_iff_exists.mp possible
  exact step_of_allows allowed moved

/-- The consumer gives the result that the job settles. -/
theorem concludes (was : jobRun.executor.consumer.phase = .concluding) :
    ∃ next, jobRun.step (.consumer (.concluded jobRun.conclusion)) = some next := by
  have allowed : jobRun.allows (.consumer (.concluded jobRun.conclusion)) = true :=
    decide_eq_true rfl
  have possible : (jobRun.executor.step
      (.consumer (.concluded jobRun.conclusion))).isSome = true := by
    simp [Executor.step, Executor.stepConsumer, was, Executor.turnConsumer]
  obtain ⟨executor, moved⟩ := Option.isSome_iff_exists.mp possible
  exact step_of_allows allowed moved

/-- What an undisturbed run can do, a job can do, with the size and the result that it
settles. -/
theorem Follows.able (follows : jobRun.Follows job chronicle)
    (undisturbed : Undisturbed job.assignment config false chronicle)
    (permitted : job.assignment.Permits chronicle event)
    (moved : chronicle.step event = some later) :
    ∃ other next, jobRun.step other = some next ∧
      (other = event ∨ ∀ call act, other ≠ .executing call act) := by
  obtain ⟨executor, stepped, rfl⟩ := Option.map_eq_some_iff.mp moved
  have calmly := undisturbed.calm.step permitted stepped
  rw [← follows.executor] at stepped
  -- Most steps are allowed as they are; only a size and a result have to be replaced.
  have itself : jobRun.allows event = true → ∃ other next, jobRun.step other = some next ∧
      (other = event ∨ ∀ call act, other ≠ .executing call act) := by
    intro allowed
    obtain ⟨next, done⟩ := step_of_allows allowed stepped
    exact ⟨event, next, done, .inl rfl⟩
  cases calmly with
  | enters | notifies | reports => exact itself rfl
  | @producer index worker act executor found step =>
    cases step with
    | hooked was => exact absurd was (follows.plain.producers worker (List.mem_of_getElem? found))
    | offered answer record was =>
      refine itself (decide_eq_true ?_)
      rw [follows.nextRecord?]
      exact permitted.2
    | exhausted answer was =>
      refine itself (Option.isNone_iff_eq_none.mpr ?_)
      rw [follows.nextRecord?]
      exact List.getElem?_eq_none permitted.2
    | inserts record entry shared was began =>
      refine itself ?_
      have due := (Assignment.due?_eq found was).symm.trans permitted.2
      obtain ⟨kind, phase, flag, produced, joined⟩ := worker
      cases was
      rw [← follows.executor] at found
      simp only [allows, allowsProducer, found, follows.task]
      exact decide_eq_true (Option.some.inj due).symm
    | measured size shared was folded =>
      obtain ⟨entry, measuring⟩ : ∃ entry,
          jobRun.executor.shared.calls[index]? = some (.measuring entry) := by
        rw [follows.executor]
        simp only [SharedQueue.step] at folded
        split at folded
        · exact ⟨_, by assumption⟩
        · contradiction
      rw [← follows.executor] at found
      obtain ⟨next, done⟩ := measures found was measuring
      exact ⟨_, next, done, .inr (by simp)⟩
    | checked | accepted | reported | marked => exact itself rfl
  | consumer step =>
    cases step with
    | starts shared was => exact absurd was follows.plain.consumer
    | concluded result was =>
      rw [← follows.executor] at was
      obtain ⟨next, done⟩ := concludes was
      exact ⟨_, next, done, .inr (by simp)⟩
    | goesOn | receives | drains | reports | finished | delivers => exact itself rfl
  | begins none =>
    refine itself (List.isEmpty_iff.mpr ?_)
    rw [follows.executor]
    exact none
  | @caller phase act executor only step =>
    refine itself ?_
    cases act with
    | readFlag raised =>
      have lowered : raised = false := permitted
      rw [lowered]
      rfl
    | proceed | timeout => rfl

end JobRun

end BoundedIngest

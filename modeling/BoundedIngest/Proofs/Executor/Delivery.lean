/-
Module: BoundedIngest.Proofs.Executor.Delivery
Purpose: What an undisturbed run comes to, in whatever order the threads take their steps.
Main exports:
  Chronicle.Stalled, Chronicle.Delivered, Undisturbed.stalled_iff, Interleaving,
  Interleaving.Fair, exactly_once_delivery
-/
import BoundedIngest.Proofs.Executor.Effort
import BoundedIngest.Proofs.Executor.Headway
import BoundedIngest.Proofs.Executor.Outcome

namespace BoundedIngest

/-!
An undisturbed run goes on until the call that executes has ended.  It cannot go on for ever
unless the call looks around again and again while nobody else is given a turn.  At the end
every producer's entries were consumed, each once and in order; the one exception is a prefix
of which no thread name can be made.
-/

variable {ρ α β : Type}

namespace Chronicle

/-- Nothing can happen but that the call that executes waits longer. -/
def Stalled (chronicle : Chronicle ρ α β) (assignment : Assignment ρ α) : Prop :=
  ∀ event next, assignment.Permits chronicle event → chronicle.step event = some next →
    ∃ call, event = .executing call .timeout

/-- The call that executes has returned the result, and everything went as assigned. -/
structure Delivered (chronicle : Chronicle ρ α β) (assignment : Assignment ρ α)
    (result : β) : Prop where
  returned : chronicle.executor.executes = [.returned (.ok result)]
  /-- The consumer was asked for one result, and gave this one. -/
  results : chronicle.history.results = [result]
  /-- What was inserted was passed on once and in the order of insertion.  Then the consumer
  was asked to finish and for its result. -/
  requests : chronicle.history.requests =
    chronicle.history.pushed.map (fun pair => .consume pair.2) ++ [.finish, .conclude]
  /-- Of each producer it was what becomes of its records, in order, and of nobody else
  anything. -/
  entries : ∀ index, chronicle.history.pushedBy index = assignment.entries index
  remaining : chronicle.executor.shared.queue.hasRemaining = false

/-- The call that executes has panicked before it spawned anybody. -/
structure Stranded (chronicle : Chronicle ρ α β) : Prop where
  panicked : ∃ panic, chronicle.executor.executes = [.panicked panic]
  requests : chronicle.history.requests = []
  pushed : chronicle.history.pushed = []

end Chronicle

namespace Undisturbed

variable {assignment : Assignment ρ α} {config : ExecutorConfig} {hooked : Bool}
  {chronicle : Chronicle ρ α β}

/-! ### How a run ends -/

theorem hinted (undisturbed : Undisturbed assignment config hooked chronicle) :
    chronicle.executor.shared.Hinted := by
  induction undisturbed with
  | start => rfl
  | step _ _ stepped ih => exact ih.used (Executor.used_of_step (Chronicle.executor_of_step stepped))

theorem length_phases (undisturbed : Undisturbed assignment config hooked chronicle) :
    chronicle.executor.snapshot.phases.length = assignment.sources.length :=
  undisturbed.reached.length_phases

/-- A producer that has ended has inserted what became of its records. -/
theorem entries_of_ended (undisturbed : Undisturbed assignment config hooked chronicle)
    (ended : ∀ phase ∈ chronicle.executor.snapshot.phases, phase = .ended) (index : Nat) :
    chronicle.history.pushedBy index = assignment.entries index := by
  by_cases inside : index < chronicle.executor.snapshot.phases.length
  · have here := List.getElem?_eq_getElem inside
    have past := ended _ (List.getElem_mem inside)
    rw [past] at here
    obtain ⟨-, spent, inserted⟩ := undisturbed.account index _ here
    rw [spent rfl] at inserted
    rw [Assignment.entries, ← inserted]
    exact (List.append_nil _).symm
  · have nobody : assignment.sources[index]? = none := by
      apply List.getElem?_eq_none
      rw [← undisturbed.length_phases]
      exact Nat.le_of_not_lt inside
    have records : assignment.records index = [] := by
      rw [Assignment.records, nobody]
      rfl
    have none : chronicle.history.pushed.filter (·.1 == index) = [] := by
      rw [List.filter_eq_nil_iff]
      intro pair pushed same
      have inserter := undisturbed.reached.ledger.inserters pair pushed
      rw [beq_iff_eq.mp same] at inserter
      exact inside inserter
    rw [History.pushedBy, none, Assignment.entries, records]
    rfl

theorem delivered_of_returned {result : β}
    (undisturbed : Undisturbed assignment config hooked chronicle)
    (only : chronicle.executor.executes = [.returned (.ok result)]) :
    chronicle.Delivered assignment result := by
  have reached := undisturbed.reached
  have sent := reached.carried.results (.returned (.ok result)) (by simp [Executor.snapshot, only])
    result rfl
  obtain ⟨-, results, requests, -⟩ := reached.consumption.delivered result sent
  have asked : .finish ∈ chronicle.history.requests := by
    rw [requests]
    simp
  have ranDry := Chronicle.ranDry_of_reached reached asked
  have done := reached.completion.finishing asked
  constructor
  · exact only
  · exact results
  · rw [requests, ranDry.passed, List.map_map]
    rfl
  · exact undisturbed.entries_of_ended (reached.agreement.all_ended done.2.1)
  · have empty : chronicle.executor.shared.queue.buffer = [] := done.2.2
    have hint := undisturbed.hinted
    rw [SharedQueue.Hinted, empty] at hint
    rw [Queue.hasRemaining, hint]
    rfl

/-- Which of the two ends a run comes to is decided by the prefix alone. -/
theorem ends_of_over (undisturbed : Undisturbed assignment config hooked chronicle)
    (past : (∃ outcome, chronicle.executor.executes = [.returned outcome]) ∨
      ∃ panic, chronicle.executor.executes = [.panicked panic]) :
    if config.HasNul then chronicle.Stranded
    else ∃ result, chronicle.Delivered assignment result := by
  have crew := undisturbed.crew
  rcases past with ⟨outcome, only⟩ | ⟨panic, only⟩
  · rw [if_neg (crew.named _ (by rw [only]; exact List.mem_singleton_self _) rfl)]
    rcases undisturbed.calm.caller with ⟨none, -⟩ | ⟨phase, same, supplies⟩
    · rw [only] at none
      contradiction
    · rw [only] at same
      cases same
      obtain ⟨result, rfl⟩ := supplies
      exact ⟨result, undisturbed.delivered_of_returned only⟩
  · rw [if_pos (crew.unnamed panic (by rw [only]; exact List.mem_singleton_self _))]
    obtain ⟨-, pushed, requests⟩ := crew.blank (by simp [only, ExecutePhase.isEarly])
    exact ⟨⟨panic, only⟩, requests, pushed⟩

/-- Once the call that executes has ended, every worker has ended, or none was spawned. -/
theorem idle_of_over (undisturbed : Undisturbed assignment config hooked chronicle)
    (past : (∃ outcome, chronicle.executor.executes = [.returned outcome]) ∨
      ∃ panic, chronicle.executor.executes = [.panicked panic]) :
    (∀ phase ∈ chronicle.executor.snapshot.phases, phase = .unborn ∨ phase = .ended) ∧
      (chronicle.executor.consumer.phase = .unborn ∨ chronicle.executor.consumer.phase = .ended) := by
  rcases past with ⟨outcome, only⟩ | ⟨panic, only⟩
  · rcases undisturbed.calm.caller with ⟨none, -⟩ | ⟨phase, same, supplies⟩
    · rw [only] at none
      contradiction
    rw [only] at same
    cases same
    obtain ⟨result, rfl⟩ := supplies
    have reached := undisturbed.reached
    have sent := reached.carried.results (.returned (.ok result))
      (by simp [Executor.snapshot, only]) result rfl
    obtain ⟨ended, -, requests, -⟩ := reached.consumption.delivered result sent
    have asked : .finish ∈ chronicle.history.requests := by
      rw [requests]
      simp
    have done := reached.completion.finishing asked
    exact ⟨fun phase found => .inr (reached.agreement.all_ended done.2.1 phase found), .inr ended⟩
  · obtain ⟨unborn, -⟩ := undisturbed.crew.blank (by simp [only, ExecutePhase.isEarly])
    refine ⟨fun phase found => ?_, .inl unborn.1⟩
    obtain ⟨index, here⟩ := List.mem_iff_getElem?.mp found
    exact .inl (unborn.2 index phase (Nat.zero_le index) here)

theorem stalled_of_over (undisturbed : Undisturbed assignment config hooked chronicle)
    (past : (∃ outcome, chronicle.executor.executes = [.returned outcome]) ∨
      ∃ panic, chronicle.executor.executes = [.panicked panic]) :
    chronicle.Stalled assignment := by
  obtain ⟨producers, consumer⟩ := undisturbed.idle_of_over past
  have agreement := undisturbed.reached.agreement
  -- Whoever has nothing to do has no call on the queue.
  have idle : ∀ (caller : Nat) (call : Call α),
      chronicle.executor.shared.calls[caller]? = some call → call = .idle := by
    intro caller call found
    have outline : chronicle.executor.snapshot.outlines[caller]? = some call.outline :=
      SharedQueue.outlines_getElem? found
    have nothing : call.outline.errand = .nothing := by
      rcases agreement.owner outline with ⟨phase, here, same⟩ | ⟨-, same⟩ | ⟨_, _, -, here, -⟩
      · rcases producers phase (List.mem_of_getElem? here) with rfl | rfl
        · exact same.symm
        · exact same.symm
      · have phase : chronicle.executor.snapshot.consumer = chronicle.executor.consumer.phase := rfl
        rcases consumer with unborn | ended
        · rw [phase, unborn] at same
          exact same.symm
        · rw [phase, ended] at same
          exact same.symm
      · have nobody : chronicle.executor.snapshot.shutdowns = [] := undisturbed.calm.shutdowns
        rw [nobody] at here
        contradiction
    have free := Executor.idle_of_nothing outline nothing
    rw [found] at free
    exact Option.some.inj free
  intro event next permitted stepped
  exfalso
  obtain ⟨executor, moved, -⟩ := Option.map_eq_some_iff.mp stepped
  cases undisturbed.calm.step permitted moved with
  | enters caller shared entered =>
    simp only [SharedQueue.step, SharedQueue.enter] at entered
    split at entered
    case h_5 => contradiction
    all_goals
      rename_i found
      have free := idle _ _ found
      contradiction
  | notifies caller target shared notified =>
    simp only [SharedQueue.step, SharedQueue.notify] at notified
    split at notified
    case h_5 => contradiction
    all_goals
      rename_i found
      have free := idle _ _ found
      contradiction
  | reports caller shared reported =>
    simp only [SharedQueue.step, SharedQueue.report] at reported
    split at reported
    case h_3 => contradiction
    all_goals
      rename_i found
      have free := idle _ _ found
      contradiction
  | @producer index worker act executor found step =>
    have phase := producers _ (List.mem_of_getElem? (Executor.phases_getElem? found))
    cases step <;> simp_all
  | consumer step => cases step <;> simp_all
  | begins none =>
    rcases past with ⟨outcome, only⟩ | ⟨panic, only⟩
    · rw [only] at none
      contradiction
    · rw [only] at none
      contradiction
  | caller same step =>
    rcases past with ⟨outcome, only⟩ | ⟨panic, only⟩
    · rw [only] at same
      cases same
      contradiction
    · rw [only] at same
      cases same
      contradiction

/-- An undisturbed run goes on until the call that executes has ended. -/
theorem stalled_iff [Nonempty β] (undisturbed : Undisturbed assignment config hooked chronicle) :
    chronicle.Stalled assignment ↔
      (∃ outcome, chronicle.executor.executes = [.returned outcome]) ∨
        ∃ panic, chronicle.executor.executes = [.panicked panic] := by
  constructor
  · intro stalled
    by_cases returned : ∃ outcome, chronicle.executor.executes = [.returned outcome]
    · exact .inl returned
    by_cases panicked : ∃ panic, chronicle.executor.executes = [.panicked panic]
    · exact .inr panicked
    obtain ⟨event, next, busy, permitted, stepped⟩ := undisturbed.headway
      (fun outcome only => returned ⟨outcome, only⟩) fun panic only => panicked ⟨panic, only⟩
    obtain ⟨call, waits⟩ := stalled event next permitted stepped
    exact absurd waits (busy call)
  · exact undisturbed.stalled_of_over

end Undisturbed

/-! ### Runs that do not end -/

/-- An undisturbed run that goes on for ever. -/
structure Interleaving (assignment : Assignment ρ α) (config : ExecutorConfig) (hooked : Bool)
    (β : Type) where
  state : Nat → Chronicle ρ α β
  event : Nat → Executor.Event ρ α β
  starts : state 0 = .start config hooked (assignment.sources.map Source.kind)
  permitted : ∀ time, assignment.Permits (state time) (event time)
  stepped : ∀ time, (state time).step (event time) = some (state (time + 1))

namespace Interleaving

variable {assignment : Assignment ρ α} {config : ExecutorConfig} {hooked : Bool}

/-- If from some time on there is always somebody other than the call that executes who can
go on, then somebody other does. -/
def Fair (interleaving : Interleaving assignment config hooked β) : Prop :=
  ∀ point, (∀ time, point ≤ time → (interleaving.state time).CanWork assignment) →
    ∃ time, point ≤ time ∧ ∀ call act, interleaving.event time ≠ .executing call act

/-- The call that executes looks around at this time. -/
def Polls (interleaving : Interleaving assignment config hooked β) (time : Nat) : Prop :=
  ∃ act, interleaving.event time = .executing 0 act ∧
    (interleaving.state time).executor.Poll act (interleaving.state (time + 1)).executor

theorem undisturbed (interleaving : Interleaving assignment config hooked β) (time : Nat) :
    Undisturbed assignment config hooked (interleaving.state time) := by
  induction time with
  | zero =>
    rw [interleaving.starts]
    exact .start
  | succ time ih => exact .step ih (interleaving.permitted time) (interleaving.stepped time)

theorem effort_le (interleaving : Interleaving assignment config hooked β) {time later : Nat}
    (after : time ≤ later) :
    (interleaving.state later).effort assignment ≤ (interleaving.state time).effort assignment := by
  induction after with
  | refl => exact Nat.le_refl _
  | step _ ih =>
    rcases (interleaving.undisturbed _).effort_of_step (interleaving.permitted _)
      (interleaving.stepped _) with less | ⟨most, -⟩
    · exact Nat.le_trans (Nat.le_of_lt less) ih
    · exact Nat.le_trans most ih

/-- What is left to do comes to an end, so from some time on nothing of it is done. -/
theorem eventually_polls (interleaving : Interleaving assignment config hooked β) :
    ∃ point, ∀ time, point ≤ time → interleaving.Polls time := by
  have below : ∀ effort time, (interleaving.state time).effort assignment = effort →
      ∃ point, ∀ later, point ≤ later → interleaving.Polls later := by
    intro effort
    induction effort using Nat.strongRecOn with
    | ind effort ih =>
      intro time same
      by_cases all : ∀ later, time ≤ later → interleaving.Polls later
      · exact ⟨time, all⟩
      obtain ⟨later, busy⟩ := Classical.not_forall.mp all
      obtain ⟨after, works⟩ := Classical.not_imp.mp busy
      rcases (interleaving.undisturbed later).effort_of_step (interleaving.permitted later)
        (interleaving.stepped later) with less | ⟨-, polls⟩
      · have most := interleaving.effort_le after
        exact ih _ (by omega) (later + 1) rfl
      · exact absurd polls works
  exact below _ 0 rfl

/-- If the call that executes only looks around from now on, it has nothing to hear. -/
theorem silent_of_polls (interleaving : Interleaving assignment config hooked β) {point : Nat}
    (polls : ∀ time, point ≤ time → interleaving.Polls time) {time : Nat} (after : point ≤ time) :
    (interleaving.state time).executor.channel.messages = [] := by
  have waiting : ∀ later, point ≤ later →
      (interleaving.state later).executor.executes = [.waiting] →
      (interleaving.state later).executor.channel.messages = [] := by
    intro later reached only
    obtain ⟨act, -, polled⟩ := polls later reached
    exact polled.course.1 only
  have checking : ∀ later, point ≤ later →
      (interleaving.state later).executor.executes = [.checkingSlot] →
      (interleaving.state later).executor.channel.messages = [] := by
    intro later reached only
    obtain ⟨act, -, polled⟩ := polls later reached
    rw [← polled.messages]
    exact waiting (later + 1) (Nat.le_succ_of_le reached) (polled.course.2.1 only)
  obtain ⟨act, -, polled⟩ := polls time after
  rcases polled.course.2.2 with only | only | next
  · exact waiting time after only
  · exact checking time after only
  · rw [← polled.messages]
    exact checking (time + 1) (Nat.le_succ_of_le after) next

/-- A run that goes on for ever never gives a turn to workers that could go on. -/
theorem not_fair [Nonempty β] (interleaving : Interleaving assignment config hooked β) :
    ¬ interleaving.Fair := by
  intro fair
  obtain ⟨point, polls⟩ := interleaving.eventually_polls
  obtain ⟨time, after, other⟩ := fair point fun time after => by
    obtain ⟨act, -, polled⟩ := polls time after
    obtain ⟨phase, only, manned, listening⟩ := polled.listens
    exact (interleaving.undisturbed time).works only manned listening
      (interleaving.silent_of_polls polls after)
  obtain ⟨act, event, -⟩ := polls time after
  exact other 0 act event

end Interleaving

/-! ### Delivery -/

/-- Whenever nothing more can happen in an undisturbed run, the call that executes has
returned the result, and every producer's entries were consumed, each once and in order.  If
no thread name can be made of the prefix, it has panicked instead before it spawned anybody.
Nothing but starving the workers keeps a run from coming to that point. -/
theorem exactly_once_delivery [Nonempty β] (assignment : Assignment ρ α)
    (config : ExecutorConfig) (hooked : Bool) :
    (∀ chronicle : Chronicle ρ α β, Undisturbed assignment config hooked chronicle →
      chronicle.Stalled assignment →
        if config.HasNul then chronicle.Stranded
        else ∃ result, chronicle.Delivered assignment result) ∧
      ∀ interleaving : Interleaving assignment config hooked β, ¬ interleaving.Fair := by
  constructor
  · intro chronicle undisturbed stalled
    exact undisturbed.ends_of_over (undisturbed.stalled_iff.mp stalled)
  · exact fun interleaving => interleaving.not_fair

namespace Chronicle

/-- Two producers with one record each. -/
def twoRecords : Assignment Nat Nat :=
  { sources := [{ records := [7] }, { kind := .results, records := [5] }]
    transform := fun _ _ record => record + 1 }

/-- There is room for one entry at first, so an insert waits until the consumer, which has
waited itself, has pulled the other entry. -/
def crowdedRun : List (Executor.Event Nat Nat Nat) :=
  [.execute, .executing 0 (.readFlag false), .executing 0 .proceed, .executing 0 .proceed,
    .executing 0 .proceed, .executing 0 .proceed, .executing 0 .proceed, .executing 0 .proceed,
    .executing 0 .proceed, .enterQueue 2, .producer 1 (.offered 5), .producer 0 (.offered 7),
    .producer 1 .checkFlag, .producer 0 .checkFlag, .producer 1 (.transformed 6),
    .producer 0 (.transformed 8), .producer 1 (.measured 10), .producer 0 (.measured 4194304),
    .enterQueue 1, .enterQueue 0, .notifyQueue 1 (some 2), .executing 0 .timeout, .enterQueue 2,
    .notifyQueue 2 (some 0), .enterQueue 0, .reportQueue 2, .consumer .pulled,
    .consumer .consumed, .reportQueue 1, .producer 1 .inserted, .producer 1 .sourceEnded,
    .producer 1 .report, .producer 1 .markDone, .notifyQueue 0 none, .reportQueue 0,
    .producer 0 .inserted, .producer 0 .sourceEnded, .producer 0 .report,
    .executing 0 (.readFlag false), .producer 0 .markDone, .enterQueue 2, .notifyQueue 2 none,
    .reportQueue 2, .consumer .pulled, .consumer .consumed, .enterQueue 2, .consumer .pulled,
    .consumer .report, .consumer .finished, .consumer (.concluded 0), .consumer .deliver,
    .executing 0 .proceed, .executing 0 .proceed, .executing 0 .proceed, .executing 0 .proceed,
    .executing 0 .proceed]

/-- A prefix that the settings allow. -/
def nulPrefix : ExecutorConfig := { threadNamePrefix := "a\x00b" }

/-- The call that executes gets as far as the name of the first worker. -/
def strandedRun : List (Executor.Event Nat Nat Nat) :=
  [.execute, .executing 0 (.readFlag false), .executing 0 .proceed, .executing 0 .proceed,
    .executing 0 .proceed, .executing 0 .proceed, .executing 0 .proceed]

/-- Has the call that executes ended? -/
def isOver (chronicle : Chronicle ρ α β) : Bool :=
  match chronicle.executor.executes with
  | [.returned _] | [.panicked _] => true
  | _ => false

theorem over_of_isOver {chronicle : Chronicle ρ α β} (past : chronicle.isOver = true) :
    (∃ outcome, chronicle.executor.executes = [.returned outcome]) ∨
      ∃ panic, chronicle.executor.executes = [.panicked panic] := by
  unfold isOver at past
  split at past
  · exact .inl ⟨_, by assumption⟩
  · exact .inr ⟨_, by assumption⟩
  · contradiction

end Chronicle

/-- An undisturbed run in which both sides have waited for each other is delivered. -/
theorem exactly_once_delivery_inhabited :
    ∃ chronicle : Chronicle Nat Nat Nat,
      Undisturbed Chronicle.twoRecords {} false chronicle ∧
        chronicle.Stalled Chronicle.twoRecords ∧
          ∃ result, chronicle.Delivered Chronicle.twoRecords result := by
  have permits : Chronicle.twoRecords.permitsAll
      (.start {} false (Chronicle.twoRecords.sources.map Source.kind)) Chronicle.crowdedRun
        Chronicle.isOver = true := by
    decide +kernel
  obtain ⟨chronicle, undisturbed, past⟩ := Undisturbed.start.of_permitsAll permits
  have stalled := undisturbed.stalled_of_over (Chronicle.over_of_isOver past)
  have delivered := (exactly_once_delivery Chronicle.twoRecords {} false).1 chronicle undisturbed
    stalled
  rw [if_neg (by decide)] at delivered
  exact ⟨chronicle, undisturbed, stalled, delivered⟩

/-- Settings that are accepted do not ensure delivery. -/
theorem exactly_once_delivery_stranded :
    ¬ ∀ (assignment : Assignment Nat Nat) (config : ExecutorConfig) (hooked : Bool)
      (chronicle : Chronicle Nat Nat Nat), config.validate = .ok () →
        Undisturbed assignment config hooked chronicle → chronicle.Stalled assignment →
          ∃ result, chronicle.Delivered assignment result := by
  intro claim
  have permits : Chronicle.twoRecords.permitsAll
      (.start Chronicle.nulPrefix false (Chronicle.twoRecords.sources.map Source.kind))
        Chronicle.strandedRun Chronicle.isOver = true := by
    decide +kernel
  have valid : Chronicle.nulPrefix.validate = .ok () := by rfl
  obtain ⟨chronicle, undisturbed, past⟩ := Undisturbed.start.of_permitsAll permits
  have ended := Chronicle.over_of_isOver past
  obtain ⟨result, delivered⟩ := claim _ _ _ chronicle valid undisturbed
    (undisturbed.stalled_of_over ended)
  have stranded := undisturbed.ends_of_over ended
  rw [if_pos (by decide)] at stranded
  obtain ⟨panic, panicked⟩ := stranded.panicked
  rw [delivered.returned] at panicked
  cases panicked

end BoundedIngest

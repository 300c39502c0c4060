/-
Module: BoundedIngest.Proofs.Executor.Interruption
Purpose: What becomes of a run in which a producer is interrupted.
Main exports:
  Snapshot.Shut, Chronicle.interrupted_run, Chronicle.interrupted_run_completes
-/
import BoundedIngest.Proofs.Executor.Outcome

namespace BoundedIngest

/-!
A shutdown closes the queue before it raises a flag, so a producer that it interrupts was
cut off from a closed queue.  A flag raised by a callback closes nothing: the producer
simply ends where it is.
-/

variable {ρ α β : Type}

namespace Snapshot

/-- Every shutdown that has begun its work has closed the queue, or found it done. -/
def Shut (snapshot : Snapshot ρ α β) : Prop :=
  ∀ phase ∈ snapshot.shutdowns, phase ≠ .entering → snapshot.closed = true ∨ snapshot.Done

variable {snapshot next : Snapshot ρ α β}

namespace Shut

/-- A step that lets no shutdown close the queue. -/
theorem keeps {event : Executor.Event ρ α β} (shut : snapshot.Shut)
    (agreement : snapshot.Agreement) (move : Move snapshot event next)
    (shutdowns : ∀ phase ∈ next.shutdowns, phase ≠ .entering →
      ∃ old ∈ snapshot.shutdowns, old ≠ .entering) : next.Shut := by
  intro phase found begun
  obtain ⟨old, before, begunBefore⟩ := shutdowns phase found begun
  rcases shut old before begunBefore with closed | done
  · exact .inl (move.closed closed)
  · exact .inr (done.move agreement move)

/-- Another shutdown begins. -/
theorem begins {event : Executor.Event ρ α β} (shut : snapshot.Shut)
    (agreement : snapshot.Agreement) (move : Move snapshot event next)
    (added : next.shutdowns = snapshot.shutdowns ++ [.entering]) : next.Shut := by
  refine shut.keeps agreement move fun phase found begun => ?_
  rw [added] at found
  rcases List.mem_append.mp found with before | now
  · exact ⟨phase, before, begun⟩
  · exact absurd (List.mem_singleton.mp now) begun

theorem user {event : Executor.Event ρ α β} (shut : snapshot.Shut)
    (agreement : snapshot.Agreement)
    (mine : event = .execute ∨ event = .shutdown ∨ ∃ call, event = .shuttingDown call)
    (move : UserMove snapshot next) : next.Shut := by
  have step : Move snapshot event next := .user mine move
  cases move with
  | executes => exact shut.keeps agreement step fun phase found begun => ⟨phase, found, begun⟩
  | begins => exact shut.begins agreement step rfl
  | closes call was free => exact fun _ _ _ => closed_or_done_close snapshot
  | closed call was =>
    refine shut.keeps agreement step fun phase found begun => ?_
    rcases List.mem_or_eq_of_mem_set found with before | rfl
    · exact ⟨phase, before, begun⟩
    · exact ⟨_, List.mem_of_getElem? was, by simp⟩
  | advances call old new was turn =>
    refine shut.keeps agreement step fun phase found begun => ?_
    rcases List.mem_or_eq_of_mem_set found with before | rfl
    · exact ⟨phase, before, begun⟩
    · refine ⟨old, List.mem_of_getElem? was, ?_⟩
      rcases turn with ⟨rfl, -⟩ | ⟨rfl, -⟩ <;> simp

theorem move {event : Executor.Event ρ α β} (shut : snapshot.Shut)
    (agreement : snapshot.Agreement) (move : Move snapshot event next) : next.Shut := by
  have step := move
  have same : next.shutdowns = snapshot.shutdowns → next.Shut := by
    intro same
    refine shut.keeps agreement step fun phase found begun => ⟨phase, ?_, begun⟩
    rwa [same] at found
  cases move with
  | queue move => exact same move.frame.shutdowns
  | producer move => exact same move.frame.shutdowns
  | consumer move => exact same move.frame.shutdowns
  | caller moved =>
    rcases moved.frame.shutdowns with kept | added
    · exact same kept
    · exact shut.begins agreement step added
  | user mine move => exact shut.user agreement mine move
  | still others => exact same rfl

end Shut

end Snapshot

theorem Reached.shut {producers : Nat} {snapshot : Snapshot ρ α β}
    {history : History ρ α β} (reached : Reached producers snapshot history) :
    snapshot.Shut := by
  induction reached with
  | start =>
    intro phase found
    contradiction
  | move reached move ih => exact ih.move reached.agreement move

/-- The shutdown has raised the flags of the workers. -/
def ShutdownPhase.hasInterrupted : ShutdownPhase → Bool
  | .cancelling | .returned => true
  | _ => false

namespace Chronicle

variable {config : ExecutorConfig} {hooked : Bool} {kinds : List SourceKind}
  {events later : List (Executor.Event ρ α β)} {chronicle next final : Chronicle ρ α β}

/-- A producer is about to be refused a record because its flag is up. -/
def Refuses (chronicle : Chronicle ρ α β) (index : Nat) : Prop :=
  ∃ worker record, chronicle.executor.producers[index]? = some worker ∧
    worker.phase = .offering record ∧ worker.flag = true

/-- If a producer is refused a record because its flag is up, and a shutdown has raised the
flags of the workers, then the consumer is never asked to finish and nobody who executes
gets a result.  Without a shutdown, a run in which somebody gets a result has consumed
exactly what was inserted, and nobody has failed. -/
theorem interrupted_run {index : Nat}
    (ran : (start config hooked kinds).run events = some chronicle)
    (refused : chronicle.Refuses index)
    (stepped : chronicle.step (.producer index .checkFlag) = some next)
    (goesOn : next.run later = some final) :
    ((∃ phase ∈ chronicle.executor.shutdowns, phase.hasInterrupted = true) →
      .finish ∉ final.history.requests ∧ .conclude ∉ final.history.requests ∧
        ∀ result, .returned (.ok result) ∉ final.executor.executes) ∧
      ∀ result, .returned (.ok result) ∈ final.executor.executes →
        final.RanDry ∧ final.executor.failure.captured = none := by
  have reached := reached_of_start ran
  have reachedNext := reached_of_step reached stepped
  have reachedFinal := reached_of_run reachedNext goesOn
  constructor
  · rintro ⟨phase, found, interrupted⟩
    have begun : phase ≠ .entering := by
      rintro rfl
      contradiction
    rcases reached.shut phase found begun with closed | done
    · have closedNext := (Executor.move_of_step (executor_of_step stepped)).closed closed
      exact nothing_of_closed reachedFinal (closed_of_run goesOn closedNext)
    · obtain ⟨worker, record, here, offering, -⟩ := refused
      have ended := reached.agreement.all_ended done.2.1 _
        (List.mem_of_getElem? (Executor.phases_getElem? here))
      rw [offering] at ended
      contradiction
  · intro result returned
    have sent := reachedFinal.carried.results _ returned result rfl
    obtain ⟨-, -, requests, -⟩ := reachedFinal.consumption.delivered result sent
    have asked : .finish ∈ final.history.requests := by
      rw [requests]
      simp
    exact ⟨ranDry_of_reached reachedFinal asked, reachedFinal.alarm.clean result sent⟩

/-- The producer waits to learn whether its second record is accepted; the first one was
inserted, and a callback has raised the flag since. -/
def interruptedRun : List (Executor.Event Nat Nat Nat) :=
  [.execute, .executing 0 (.readFlag false), .executing 0 .proceed, .executing 0 .proceed,
    .executing 0 .proceed, .executing 0 .proceed, .executing 0 .proceed, .executing 0 .proceed,
    .producer 0 (.offered 7), .producer 0 .checkFlag, .producer 0 (.transformed 8),
    .producer 0 (.measured 10), .enterQueue 0, .notifyQueue 0 none, .reportQueue 0,
    .producer 0 .inserted, .setFlag 0 true, .producer 0 (.offered 9)]

/-- The producer at that point. -/
def interruptedWorker : ProducerWorker Nat :=
  { kind := .records, phase := .offering 9, flag := true, produced := 1 }

/-- The refused producer is marked done, and the consumer finishes on what was inserted. -/
def completedRest : List (Executor.Event Nat Nat Nat) :=
  [.producer 0 .report, .producer 0 .markDone, .enterQueue 1, .notifyQueue 1 none,
    .reportQueue 1, .consumer .pulled, .consumer .consumed, .enterQueue 1, .consumer .pulled,
    .consumer .report, .consumer .finished, .consumer (.concluded 0), .consumer .deliver,
    .executing 0 .proceed, .executing 0 .proceed, .executing 0 .proceed, .executing 0 .proceed]

/-- A shutdown closes the queue and raises the flags. -/
def shutdownRest : List (Executor.Event Nat Nat Nat) :=
  [.shutdown, .shuttingDown 0, .notifyQueue 2 none, .notifyQueue 2 none, .shuttingDown 0,
    .shuttingDown 0]

theorem refuses_of_producers {chronicle : Chronicle Nat Nat Nat}
    (producers : chronicle.executor.producers = [interruptedWorker]) : chronicle.Refuses 0 :=
  ⟨interruptedWorker, 9, by rw [producers]; rfl, rfl, rfl⟩

/-- Whoever executes alone has got this result. -/
def hasReturned (chronicle : Chronicle Nat Nat Nat) : Bool :=
  match chronicle.executor.executes with
  | [.returned (.ok 0)] => true
  | _ => false

theorem returned_of_hasReturned {chronicle : Chronicle Nat Nat Nat}
    (returned : chronicle.hasReturned = true) :
    .returned (.ok 0) ∈ chronicle.executor.executes := by
  unfold hasReturned at returned
  split at returned
  · rename_i executes
    rw [executes]
    exact List.mem_singleton_self _
  · contradiction

/-- The refusal of a record under a raised flag does not keep a run from completing. -/
theorem interrupted_run_completes :
    ¬ ∀ (events later : List (Executor.Event Nat Nat Nat))
      (chronicle next final : Chronicle Nat Nat Nat) (index : Nat),
      (start {} false [.records]).run events = some chronicle → chronicle.Refuses index →
        chronicle.step (.producer index .checkFlag) = some next →
          next.run later = some final →
            ∀ result, .returned (.ok result) ∉ final.executor.executes := by
  intro claim
  have waits : ((start {} false [.records]).run interruptedRun).map
      (fun chronicle : Chronicle Nat Nat Nat => chronicle.executor.producers) =
        some [interruptedWorker] := by
    decide +kernel
  have completes : ((start {} false [.records]).run
      (interruptedRun ++ .producer 0 .checkFlag :: completedRest)).map hasReturned =
        some true := by
    decide +kernel
  obtain ⟨chronicle, ran, producers⟩ := Option.map_eq_some_iff.mp waits
  obtain ⟨final, ranOn, returned⟩ := Option.map_eq_some_iff.mp completes
  obtain ⟨before, next, ranBefore, stepped, goesOn⟩ := run_split ranOn
  cases ran.symm.trans ranBefore
  exact claim _ _ _ _ _ _ ran (refuses_of_producers producers) stepped goesOn 0
    (returned_of_hasReturned returned)

/-- A producer is refused a record after a shutdown has raised its flag. -/
theorem interrupted_run_inhabited :
    ∃ chronicle next : Chronicle Nat Nat Nat,
      (start {} false [.records]).run (interruptedRun ++ shutdownRest) = some chronicle ∧
        chronicle.Refuses 0 ∧ chronicle.step (.producer 0 .checkFlag) = some next ∧
          .finish ∉ next.history.requests := by
  have waits : ((start {} false [.records]).run (interruptedRun ++ shutdownRest)).map
      (fun chronicle : Chronicle Nat Nat Nat =>
        (chronicle.executor.producers, chronicle.executor.shutdowns)) =
        some ([interruptedWorker], [.cancelling]) := by
    decide +kernel
  have goesOn : ((start {} false [.records] : Chronicle Nat Nat Nat).run
      ((interruptedRun ++ shutdownRest) ++ [.producer 0 .checkFlag])).isSome = true := by
    decide +kernel
  obtain ⟨chronicle, ran, facts⟩ := Option.map_eq_some_iff.mp waits
  obtain ⟨producers, shutdowns⟩ := Prod.mk.inj facts
  obtain ⟨final, ranOn⟩ := Option.isSome_iff_exists.mp goesOn
  obtain ⟨before, next, ranBefore, stepped, -⟩ := run_split ranOn
  cases ran.symm.trans ranBefore
  have stays : next.run [] = some next := rfl
  have refuses := refuses_of_producers producers
  have interrupted : ∃ phase ∈ chronicle.executor.shutdowns,
      phase.hasInterrupted = true := by
    rw [shutdowns]
    exact ⟨.cancelling, List.mem_singleton_self _, rfl⟩
  exact ⟨chronicle, next, ran, refuses, stepped,
    ((interrupted_run ran refuses stepped stays).1 interrupted).1⟩

end Chronicle

end BoundedIngest

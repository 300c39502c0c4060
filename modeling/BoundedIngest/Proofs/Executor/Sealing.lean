/-
Module: BoundedIngest.Proofs.Executor.Sealing
Purpose: Once something has failed, the queue is closed, or done, or about to be closed.
Main exports:
  Snapshot.Sealed, Sealed.move, Reached.sealed
-/
import BoundedIngest.Proofs.Executor.Signals

namespace BoundedIngest

/-!
A worker that sets the failure slot closes the queue next, and nobody else has to see to it.
So a queue that is still open after a failure will not stay open, unless nothing is left that
a close could change.
-/

variable {ρ α β : Type}

namespace Snapshot

variable {snapshot next : Snapshot ρ α β} {event : Executor.Event ρ α β}

/-- Once something has failed the queue is closed, or done, or whoever has failed is about to
close it. -/
def Sealed (snapshot : Snapshot ρ α β) : Prop :=
  snapshot.failure ≠ none →
    snapshot.closed = true ∨ snapshot.Done ∨ .alarmed ∈ snapshot.phases ∨
      snapshot.consumer = .alarmed

namespace Sealed

/-- What is closed or done remains so. -/
theorem of_move (sealing : snapshot.Sealed) (agreement : snapshot.Agreement)
    (move : Move snapshot event next) (failure : next.failure = snapshot.failure)
    (phases : .alarmed ∈ snapshot.phases → next.closed = true ∨ .alarmed ∈ next.phases)
    (consumer : snapshot.consumer = .alarmed →
      next.closed = true ∨ next.Done ∨ next.consumer = .alarmed) : next.Sealed := by
  intro failed
  rw [failure] at failed
  rcases sealing failed with closed | done | alarmed | mine
  · exact .inl (move.closed closed)
  · exact .inr (.inl (done.move agreement move))
  · rcases phases alarmed with closed | still
    · exact .inl closed
    · exact .inr (.inr (.inl still))
  · rcases consumer mine with closed | done | still
    · exact .inl closed
    · exact .inr (.inl done)
    · exact .inr (.inr (.inr still))

/-- Only a producer that closes the queue leaves its alarm behind. -/
theorem producer {index : Nat} (sealing : snapshot.Sealed) (agreement : snapshot.Agreement)
    (whole : Move snapshot event next) (move : ProducerMove snapshot index next) :
    next.Sealed := by
  have keeps : ∀ {old new : ProducerPhase ρ}, snapshot.phases[index]? = some old →
      old ≠ .alarmed → next.phases = snapshot.phases.set index new →
      next.failure = snapshot.failure → next.Sealed := by
    intro old new was calm phases failure
    refine sealing.of_move agreement whole failure (fun alarmed => ?_) (fun mine => ?_)
    · rw [phases]
      exact .inr (mem_set_of_ne alarmed was calm)
    · rw [move.frame.consumer]
      exact .inr (.inr mine)
  cases move with
  | recorded error was first =>
    intro _
    have inside := (List.getElem?_eq_some_iff.mp was).1
    exact .inr (.inr (.inl (List.mem_set inside _)))
  | closes was free => exact fun _ => .inl (Alarm.closes agreement was)
  | turned old new was busy stays =>
    refine keeps was ?_ rfl rfl
    rintro rfl
    contradiction
  | reported was =>
    rcases was with was | was
    · exact keeps was (by simp) rfl rfl
    · exact keeps was (by simp) rfl rfl
  | inserts _ _ was | measuringFailed _ _ was | accepted _ was | declined _ was
  | discarded _ was | closed was | signalled was | marked was =>
    exact keeps was (by simp) rfl rfl

theorem consumer {act : Executor.ConsumerAct β} (sealing : snapshot.Sealed)
    (agreement : snapshot.Agreement) (whole : Move snapshot event next)
    (move : ConsumerMove snapshot act next) : next.Sealed := by
  have keeps : snapshot.consumer ≠ .alarmed → next.failure = snapshot.failure →
      next.Sealed := by
    intro calm failure
    refine sealing.of_move agreement whole failure (fun alarmed => ?_) (absurd · calm)
    rw [move.frame.phases]
    exact .inr alarmed
  cases move with
  | recorded error was first => exact fun _ => .inr (.inr (.inr rfl))
  | closes was free =>
    intro _
    exact (closed_or_done_close snapshot).imp_right .inl
  | turned act new turn =>
    refine keeps ?_ rfl
    intro alarmed
    have calm := (ConsumerPhase.calm_of_turn turn).1
    rw [alarmed] at calm
    contradiction
  | starts was | goesOn _ was | receives _ was | drains _ was | reports _ was | delivers _ was
  | discarded _ was | closed was | signalled was => exact keeps (by simp [was]) rfl

theorem caller {call : Nat} (sealing : snapshot.Sealed) (agreement : snapshot.Agreement)
    (started : snapshot.Started) (whole : Move snapshot event next)
    (move : CallerMove snapshot call next) : next.Sealed := by
  have unborn : ∀ {worker : Nat}, snapshot.executes[call]? = some (.spawning worker) →
      snapshot.Unborn worker :=
    fun was => started.frontier _ (List.mem_of_getElem? was) _ rfl
  cases move with
  | spawnsProducer worker new was inside born =>
    obtain ⟨old, found⟩ : ∃ old, snapshot.phases[worker]? = some old :=
      ⟨_, List.getElem?_eq_getElem inside⟩
    have fresh := (unborn was).2 worker old (Nat.le_refl _) found
    refine sealing.of_move agreement whole rfl (fun alarmed => .inr ?_) fun mine => ?_
    · exact mem_set_of_ne alarmed found (by simp [fresh])
    · exact .inr (.inr mine)
  | spawnsHook worker was last =>
    refine sealing.of_move agreement whole rfl .inr fun mine => ?_
    rw [(unborn was).1] at mine
    contradiction
  | spawnsPull worker was last free =>
    refine sealing.of_move agreement whole rfl .inr fun mine => ?_
    rw [(unborn was).1] at mine
    contradiction
  | takesParts | receives | withdraws | proceeds =>
    exact sealing.of_move agreement whole rfl .inr fun mine => .inr (.inr mine)

theorem move (sealing : snapshot.Sealed) (agreement : snapshot.Agreement)
    (started : snapshot.Started) (move : Move snapshot event next) : next.Sealed := by
  have whole := move
  cases move with
  | producer move => exact sealing.producer agreement whole move
  | consumer move => exact sealing.consumer agreement whole move
  | caller move => exact sealing.caller agreement started whole move
  | queue move =>
    have frame := move.frame
    refine sealing.of_move agreement whole frame.failure (fun alarmed => ?_) fun mine => ?_
    · exact .inr (frame.phases ▸ alarmed)
    · exact .inr (.inr (frame.consumer.trans mine))
  | user mine move =>
    have frame := move.frame
    refine sealing.of_move agreement whole frame.failure (fun alarmed => ?_) fun mine => ?_
    · exact .inr (frame.phases ▸ alarmed)
    · exact .inr (.inr (frame.consumer.trans mine))
  | still others => exact sealing

end Sealed

end Snapshot

theorem Reached.sealed {producers : Nat} {snapshot : Snapshot ρ α β}
    {history : History ρ α β} (reached : Reached producers snapshot history) :
    snapshot.Sealed := by
  induction reached with
  | start => exact fun failed => absurd rfl failed
  | move reached move ih => exact ih.move reached.agreement reached.started move

end BoundedIngest

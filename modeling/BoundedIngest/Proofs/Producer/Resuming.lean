/-
Module: BoundedIngest.Proofs.Producer.Resuming
Purpose: Calls one after the other on one pulling producer take up its source where the call
  before has left it.
Main exports:
  Producer.PullProducer, Producer.Source, Producer.Conduct, Producer.stints, Producer.Played,
  Producer.calls_in_turn
-/
import BoundedIngest.Proofs.Producer.Offering
import Mathlib.Data.List.Induction
import Mathlib.Order.Monotone.Basic

namespace BoundedIngest.Producer

/-!
A producer over an iterator keeps the position of the iterator from one call to the next, and
a call can end at any pull for one of four reasons.  A call on an endless source need not end
at all; it is watched for as many pulls as one likes, and what the sink was offered in them
counts as well.
-/

variable {τ ω ρ ι κ σ : Type}

/-- A producer that pulls, over an iterator of records or of results. -/
inductive PullProducer (τ ω ρ : Type) where
  | records (pull : Iteration τ ω ρ)
  | results (pull : Iteration τ ω (Except String ρ))

/-- What the pull of an item gives, if there is one. -/
def Pulled.ofOption : Option ι → Pulled ι
  | some value => .item value
  | none => .exhausted

def Pulled.map (convert : ι → κ) : Pulled ι → Pulled κ
  | .item value => .item (convert value)
  | .exhausted => .exhausted
  | .panicked panic => .panicked panic

namespace Iteration

/-- An iterator of records as one of results that are never errors. -/
def asResults (pull : Iteration τ ω ρ) : Iteration τ ω (Except String ρ) := fun position world =>
  ((pull position world).1.map .ok, (pull position world).2)

/-- The iterator beside notes that it does not see. -/
def beside (pull : Iteration τ ω ι) : Iteration τ (ω × σ) ι := fun position (world, notes) =>
  let (pulled, position, world) := pull position world
  (pulled, position, world, notes)

/-- The iterator cut off after so many pulls. -/
def cut (pull : Iteration τ ω ι) : Iteration (Nat × τ) ω ι
  | (0, position), world => (.exhausted, (0, position), world)
  | (pulls + 1, position), world =>
      let (pulled, position, world) := pull position world
      (pulled, (pulls, position), world)

end Iteration

theorem drainResults_asResults (pull : Iteration τ ω ρ) (accept : Sink ω ρ) (pulls : Nat)
    (position : τ) (world : ω) :
    drainResults pull.asResults accept pulls position world =
      drainRecords pull accept pulls position world := by
  induction pulls generalizing position world with
  | zero => rfl
  | succ pulls ih =>
    rcases pulled : pull position world with ⟨record | _ | panic, after, later⟩
    · rcases answered : accept later record with ⟨_ | halt, final⟩
      · simp only [drainResults, drainRecords, Iteration.asResults, Pulled.map, pulled, answered,
          ih]
      · simp only [drainResults, drainRecords, Iteration.asResults, Pulled.map, pulled, answered]
    all_goals simp only [drainResults, drainRecords, Iteration.asResults, Pulled.map, pulled]

namespace PullProducer

def produce (accept : Sink ω ρ) (pulls : Nat) :
    PullProducer τ ω ρ → τ → ω → Option (ProduceOutcome × τ × ω)
  | .records pull => drainRecords pull accept pulls
  | .results pull => drainResults pull accept pulls

def pull : PullProducer τ ω ρ → Iteration τ ω (Except String ρ)
  | .records pull => pull.asResults
  | .results pull => pull

/-- The producer over the iterator beside notes. -/
def beside : PullProducer τ ω ρ → PullProducer τ (ω × σ) ρ
  | .records pull => .records pull.beside
  | .results pull => .results pull.beside

/-- The producer over the iterator cut off. -/
def cut : PullProducer τ ω ρ → PullProducer (Nat × τ) ω ρ
  | .records pull => .records pull.cut
  | .results pull => .results pull.cut

theorem pull_beside (producer : PullProducer τ ω ρ) :
    (producer.beside : PullProducer τ (ω × σ) ρ).pull = producer.pull.beside := by
  cases producer <;> rfl

theorem pull_cut (producer : PullProducer τ ω ρ) : producer.cut.pull = producer.pull.cut := by
  cases producer with
  | records pull =>
    funext ⟨pulls, position⟩ world
    cases pulls <;> rfl
  | results pull => rfl

theorem produce_eq_drainResults (producer : PullProducer τ ω ρ) (accept : Sink ω ρ) (pulls : Nat)
    (position : τ) (world : ω) :
    producer.produce accept pulls position world =
      drainResults producer.pull accept pulls position world := by
  cases producer with
  | records pull => exact (drainResults_asResults pull accept pulls position world).symm
  | results => rfl

end PullProducer

/-- So many pulls of a call, and where they lead.  Without an outcome the call is still on
its way. -/
def advance (pull : Iteration τ ω (Except String ρ)) (accept : Sink ω ρ) :
    Nat → τ → ω → Option ProduceOutcome × τ × ω
  | 0, position, world => (none, position, world)
  | pulls + 1, position, world =>
      match pull position world with
      | (.exhausted, position, world) => (some .completed, position, world)
      | (.panicked panic, position, world) => (some (.panicked panic), position, world)
      | (.item (.error reason), position, world) =>
          (some (.halted (.failed (.source reason))), position, world)
      | (.item (.ok record), position, world) =>
          match accept world record with
          | (none, world) => advance pull accept pulls position world
          | (some halt, world) => (some (.halted halt), position, world)

/-- A call returns exactly when its pulls lead to an outcome, and where they lead. -/
theorem drainResults_eq_advance (pull : Iteration τ ω (Except String ρ)) (accept : Sink ω ρ)
    (pulls : Nat) (position : τ) (world : ω) :
    drainResults pull accept pulls position world =
      (advance pull accept pulls position world).1.map
        fun outcome => (outcome, (advance pull accept pulls position world).2) := by
  induction pulls generalizing position world with
  | zero => rfl
  | succ pulls ih =>
    rcases pulled : pull position world with ⟨(reason | record) | _ | panic, after, later⟩
    case item.ok =>
      rcases answered : accept later record with ⟨_ | halt, final⟩
      · simp only [drainResults, advance, pulled, answered, ih]
      · simp only [drainResults, advance, pulled, answered, Option.map_some]
    all_goals simp only [drainResults, advance, pulled, Option.map_some]

/-- What a call has done when it is still on its way, it does to the end on the iterator that is
cut off there. -/
theorem drainResults_cut {pull : Iteration τ ω (Except String ρ)} {accept : Sink ω ρ}
    {pulls : Nat} {position after : τ} {world final : ω}
    (underway : advance pull accept pulls position world = (none, after, final)) :
    drainResults pull.cut accept (pulls + 1) (pulls, position) world =
      some (.completed, (0, after), final) := by
  induction pulls generalizing position world with
  | zero =>
    cases underway
    rfl
  | succ pulls ih =>
    rcases pulled : pull position world with ⟨(reason | record) | _ | panic, between, later⟩
    case item.ok =>
      rcases answered : accept later record with ⟨_ | halt, last⟩
      · simp only [advance, pulled, answered] at underway
        rw [drainResults]
        simp only [Iteration.cut, pulled, answered, ih underway]
      · simp [advance, pulled, answered] at underway
    all_goals simp [advance, pulled] at underway

/-!
The source of a producer is the sequence of answers that its iterator gives, whatever happens
in the world meanwhile.
-/

/-- An iterator goes through a sequence of answers: where it stands at a number it gives the
answer of this number and goes on to the next.  Once exhausted, it stays so. -/
structure Source (pull : Iteration τ ω (Except String ρ)) where
  answers : Nat → Pulled (Except String ρ)
  StandsAt : τ → Nat → Prop
  gives : ∀ {position number} (world : ω), StandsAt position number →
    (pull position world).1 = answers number ∧ StandsAt (pull position world).2.1 (number + 1)
  stays : ∀ number, answers number = .exhausted → answers (number + 1) = .exhausted

/-- The record that an answer brings, if it is one and not an error. -/
def recordOf? : Pulled (Except String ρ) → Option ρ
  | .item (.ok record) => some record
  | _ => none

namespace Source

variable {pull : Iteration τ ω (Except String ρ)}

/-- So many answers from a number on. -/
def stretch (source : Source pull) (first count : Nat) : List (Pulled (Except String ρ)) :=
  (List.range' first count).map source.answers

/-- The records among the first answers, errors left out. -/
def recordsUpTo (source : Source pull) (count : Nat) : List ρ :=
  (source.stretch 0 count).filterMap recordOf?

theorem stretch_succ (source : Source pull) (first count : Nat) :
    source.stretch first (count + 1) = source.answers first :: source.stretch (first + 1) count := by
  simp only [stretch, List.range'_succ, List.map_cons]

theorem recordsUpTo_add (source : Source pull) (first count : Nat) :
    source.recordsUpTo (first + count) =
      source.recordsUpTo first ++ (source.stretch first count).filterMap recordOf? := by
  have split := List.range'_append_1 (s := 0) (m := first) (n := count)
  rw [Nat.zero_add] at split
  simp only [recordsUpTo, stretch, ← split, List.map_append, List.filterMap_append]

theorem recordsUpTo_prefix (source : Source pull) {first last : Nat} (within : first ≤ last) :
    source.recordsUpTo first <+: source.recordsUpTo last := by
  obtain ⟨count, rfl⟩ := Nat.exists_eq_add_of_le within
  exact ⟨_, (source.recordsUpTo_add first count).symm⟩

theorem getLast?_stretch (source : Source pull) {first count : Nat}
    {answer : Pulled (Except String ρ)}
    (last : (source.stretch first count).getLast? = some answer) :
    0 < count ∧ source.answers (first + count - 1) = answer := by
  simp only [stretch, List.getLast?_map, List.getLast?_range'] at last
  split at last
  · simp at last
  · rename_i some_answer
    refine ⟨Nat.pos_of_ne_zero some_answer, ?_⟩
    simpa using last

theorem exhausted_from (source : Source pull) {first number : Nat}
    (exhausted : source.answers first = .exhausted) (later : first ≤ number) :
    source.answers number = .exhausted := by
  induction later with
  | refl => exact exhausted
  | step _ ih => exact source.stays _ ih

end Source

/-- What a call makes of the answers it gets: every record is offered, and an answer that ends
the call is the last one it gets. -/
inductive Conduct :
    List (Pulled (Except String ρ)) → List (Offer ρ) → Option ProduceOutcome → Prop
  | unfinished : Conduct [] [] none
  | completed : Conduct [.exhausted] [] (some .completed)
  | panicked (panic : Panic) : Conduct [.panicked panic] [] (some (.panicked panic))
  | failed (reason : String) :
      Conduct [.item (.error reason)] [] (some (.halted (.failed (.source reason))))
  | halted (record : ρ) (halt : Halt) :
      Conduct [.item (.ok record)] [⟨record, some halt⟩] (some (.halted halt))
  | accepted (record : ρ) {answers : List (Pulled (Except String ρ))} {offers : List (Offer ρ)}
      {outcome : Option ProduceOutcome} (rest : Conduct answers offers outcome) :
      Conduct (.item (.ok record) :: answers) (⟨record, none⟩ :: offers) outcome

namespace Conduct

variable {answers : List (Pulled (Except String ρ))} {offers : List (Offer ρ)}
  {outcome : Option ProduceOutcome}

theorem records_offered (conduct : Conduct answers offers outcome) :
    offers.map (·.record) = answers.filterMap recordOf? := by
  induction conduct with
  | unfinished | completed | panicked | failed | halted => rfl
  | accepted record _ ih => simp only [List.map_cons, List.filterMap_cons, recordOf?, ih]

theorem exhausted_of_completed (conduct : Conduct answers offers outcome)
    (completed : outcome = some .completed) : answers.getLast? = some .exhausted := by
  induction conduct with
  | completed => rfl
  | accepted record _ ih => rw [List.getLast?_cons, ih completed, Option.getD_some]
  | unfinished | panicked | failed | halted => cases completed

end Conduct

/-- A call from where the source stands takes a stretch of it, however many pulls it is
watched for; the notes beside the world change nothing. -/
theorem conduct_of_advance {pull : Iteration τ ω (Except String ρ)} (source : Source pull)
    (accept : Sink ω ρ) (pulls : Nat) {position : τ} {number : Nat}
    (stands : source.StandsAt position number) (world : ω) (earlier : List (Offer ρ)) :
    ∃ count offers outcome after final,
      advance pull accept pulls position world = (outcome, after, final) ∧
      advance pull.beside accept.noting pulls position (world, earlier) =
        (outcome, after, final, earlier ++ offers) ∧
      source.StandsAt after (number + count) ∧
      Conduct (source.stretch number count) offers outcome := by
  induction pulls generalizing position number world earlier with
  | zero =>
    exact ⟨0, [], none, position, world, rfl, by simp [advance], stands, .unfinished⟩
  | succ pulls ih =>
    obtain ⟨given, standing⟩ := source.gives world stands
    have taken : source.stretch number 1 = [(pull position world).1] := by rw [given]; rfl
    rcases pulled : pull position world with ⟨(reason | record) | _ | panic, after, later⟩
    all_goals rw [pulled] at given standing taken
    all_goals simp only [advance, Iteration.beside, pulled]
    case exhausted =>
      refine ⟨1, [], some .completed, after, later, rfl, ?_, standing, taken ▸ .completed⟩
      rw [List.append_nil]
    case panicked =>
      refine ⟨1, [], some (.panicked panic), after, later, rfl, ?_, standing,
        taken ▸ .panicked panic⟩
      rw [List.append_nil]
    case item.error =>
      refine ⟨1, [], some (.halted (.failed (.source reason))), after, later, rfl, ?_, standing,
        taken ▸ .failed reason⟩
      rw [List.append_nil]
    case item.ok =>
      rcases answered : accept later record with ⟨_ | halt, final⟩
      all_goals simp only [Sink.noting_of_answer answered earlier]
      · obtain ⟨count, offers, outcome, last, lastly, bare, noting, reached, conduct⟩ :=
          ih standing final (earlier ++ [⟨record, none⟩])
        refine ⟨count + 1, ⟨record, none⟩ :: offers, outcome, last, lastly, bare, ?_, ?_, ?_⟩
        · simpa only [List.append_assoc, List.singleton_append] using noting
        · simpa only [Nat.add_assoc, Nat.add_comm 1 count] using reached
        · rw [source.stretch_succ, ← given]
          exact .accepted record conduct
      · exact ⟨1, [⟨record, some halt⟩], some (.halted halt), after, final, rfl, rfl, standing,
          taken ▸ .halted record halt⟩

/-!
Calls one after the other.
-/

/-- A call on a producer: what others do to the world before it, its sink, and for how many
pulls it is watched. -/
structure Call (ω ρ : Type) where
  meanwhile : ω → ω
  sink : Sink ω ρ
  pulls : Nat

/-- What is seen of a call; without an outcome it has not ended. -/
structure Stint (ρ : Type) where
  offers : List (Offer ρ)
  outcome : Option ProduceOutcome
deriving Repr, DecidableEq

/-- The records that a call offered to its sink. -/
def Stint.records (stint : Stint ρ) : List ρ := stint.offers.map (·.record)

/-- The calls on a producer one after the other, each from where the one before has left the
producer and the world.  After a call that has not ended there is no other. -/
def stints (producer : PullProducer τ ω ρ) : List (Call ω ρ) → τ → ω → List (Stint ρ)
  | [], _, _ => []
  | call :: calls, position, world =>
      let world := call.meanwhile world
      let offers :=
        (advance producer.pull.beside call.sink.noting call.pulls position (world, [])).2.2.2
      match producer.produce call.sink call.pulls position world with
      | none => [⟨offers, none⟩]
      | some (outcome, position, world) =>
          ⟨offers, some outcome⟩ :: stints producer calls position world

/-- What is seen of calls one after the other, told by the production itself, run over the sink
that notes what it is offered.  A call that is still on its way has done what it does to the end
on the iterator that is cut off after as many pulls. -/
inductive Played (producer : PullProducer τ ω ρ) :
    List (Call ω ρ) → τ → ω → List (Stint ρ) → Prop
  | nil (position : τ) (world : ω) : Played producer [] position world []
  | ended {call : Call ω ρ} {calls : List (Call ω ρ)} {position after : τ} {world final : ω}
      {offers : List (Offer ρ)} {outcome : ProduceOutcome} {others : List (Stint ρ)}
      (returns : producer.produce call.sink call.pulls position (call.meanwhile world) =
        some (outcome, after, final))
      (notes : producer.beside.produce call.sink.noting call.pulls position
        (call.meanwhile world, []) = some (outcome, after, final, offers))
      (later : Played producer calls after final others) :
      Played producer (call :: calls) position world (⟨offers, some outcome⟩ :: others)
  | underway {call : Call ω ρ} {calls : List (Call ω ρ)} {position after : τ} {world final : ω}
      {offers : List (Offer ρ)}
      (goesOn : producer.produce call.sink call.pulls position (call.meanwhile world) = none)
      (notes : producer.beside.cut.produce call.sink.noting (call.pulls + 1)
        (call.pulls, position) (call.meanwhile world, []) =
          some (.completed, (0, after), final, offers)) :
      Played producer (call :: calls) position world [⟨offers, none⟩]

theorem stints_cons {producer : PullProducer τ ω ρ} {source : Source producer.pull}
    {position : τ} {number : Nat} (stands : source.StandsAt position number) (call : Call ω ρ)
    (calls : List (Call ω ρ)) (world : ω) :
    ∃ count stint after final,
      Conduct (source.stretch number count) stint.offers stint.outcome ∧
      source.StandsAt after (number + count) ∧
      (stints producer (call :: calls) position world = [stint] ∨
        stints producer (call :: calls) position world =
          stint :: stints producer calls after final) ∧
      (Played producer calls after final (stints producer calls after final) →
        Played producer (call :: calls) position world
          (stints producer (call :: calls) position world)) := by
  obtain ⟨count, offers, outcome, after, final, bare, noting, reached, conduct⟩ :=
    conduct_of_advance source call.sink call.pulls stands (call.meanwhile world) []
  refine ⟨count, ⟨offers, outcome⟩, after, final, conduct, reached, ?_⟩
  rw [List.nil_append, ← producer.pull_beside] at noting
  have returned : producer.produce call.sink call.pulls position (call.meanwhile world) =
      outcome.map fun outcome => (outcome, after, final) := by
    rw [producer.produce_eq_drainResults, drainResults_eq_advance, bare]
  cases outcome with
  | none =>
    have only : stints producer (call :: calls) position world = [⟨offers, none⟩] := by
      simp only [stints, ← producer.pull_beside, noting, returned, Option.map_none]
    refine ⟨.inl only, fun _ => ?_⟩
    rw [only]
    apply Played.underway returned
    rw [PullProducer.produce_eq_drainResults, PullProducer.pull_cut]
    exact drainResults_cut noting
  | some outcome =>
    have more : stints producer (call :: calls) position world =
        ⟨offers, some outcome⟩ :: stints producer calls after final := by
      simp only [stints, ← producer.pull_beside, noting, returned, Option.map_some]
    refine ⟨.inr more, fun later => ?_⟩
    rw [more]
    apply Played.ended returned ?_ later
    rw [PullProducer.produce_eq_drainResults, drainResults_eq_advance, noting, Option.map_some]

/-- Each call takes the stretch of the source that follows the one of the call before. -/
theorem stretches_of_stints {producer : PullProducer τ ω ρ} (source : Source producer.pull)
    (calls : List (Call ω ρ)) {position : τ} {number : Nat}
    (stands : source.StandsAt position number) (world : ω) :
    ∃ bounds : Nat → Nat, bounds 0 = number ∧ Monotone bounds ∧
      ∀ index stint, (stints producer calls position world)[index]? = some stint →
        Conduct (source.stretch (bounds index) (bounds (index + 1) - bounds index))
          stint.offers stint.outcome := by
  induction calls generalizing position number world with
  | nil => exact ⟨fun _ => number, rfl, monotone_const, by simp [stints]⟩
  | cons call calls ih =>
    obtain ⟨count, stint, after, final, conduct, reached, only | more, -⟩ :=
      stints_cons stands call calls world
    · refine ⟨fun index => if index = 0 then number else number + count, rfl, ?_, ?_⟩
      · refine monotone_nat_of_le_succ fun index => ?_
        split <;> simp
      · intro index other found
        rw [only] at found
        cases index with
        | zero => cases found; simpa using conduct
        | succ => simp at found
    · obtain ⟨bounds, start, monotone, conducts⟩ := ih reached final
      refine ⟨fun index => Nat.casesOn index number bounds, rfl, ?_, ?_⟩
      · refine monotone_nat_of_le_succ fun index => ?_
        cases index with
        | zero => simp [start]
        | succ index => exact monotone (Nat.le_succ index)
      · intro index other found
        rw [more] at found
        cases index with
        | zero => cases found; simpa [start] using conduct
        | succ index => exact conducts index other found

theorem played_stints {producer : PullProducer τ ω ρ} (source : Source producer.pull)
    (calls : List (Call ω ρ)) {position : τ} {number : Nat}
    (stands : source.StandsAt position number) (world : ω) :
    Played producer calls position world (stints producer calls position world) := by
  induction calls generalizing position number world with
  | nil => exact .nil position world
  | cons call calls ih =>
    obtain ⟨count, stint, after, final, -, reached, -, plays⟩ :=
      stints_cons stands call calls world
    exact plays (ih reached final)

/-- The records that calls in a row have offered are those of the answers they took. -/
theorem records_of_conducts {pull : Iteration τ ω (Except String ρ)} (source : Source pull)
    {bounds : Nat → Nat} (start : bounds 0 = 0) (monotone : Monotone bounds)
    {seen : List (Stint ρ)}
    (conducts : ∀ index stint, seen[index]? = some stint →
      Conduct (source.stretch (bounds index) (bounds (index + 1) - bounds index))
        stint.offers stint.outcome) :
    seen.flatMap Stint.records = source.recordsUpTo (bounds seen.length) := by
  -- From the last call, as `bounds` counts the answers from the first one on.
  induction seen using List.reverseRecOn with
  | nil => simp [start, Source.recordsUpTo, Source.stretch]
  | append_singleton seen stint ih =>
    have before := ih fun index other found =>
      conducts index other (List.getElem?_append_left (List.getElem?_eq_some_iff.mp found).1 ▸ found)
    have last := conducts seen.length stint (by simp)
    have reached : bounds seen.length + (bounds (seen.length + 1) - bounds seen.length) =
        bounds (seen.length + 1) := Nat.add_sub_of_le (monotone (Nat.le_succ _))
    calc (seen ++ [stint]).flatMap Stint.records
      _ = seen.flatMap Stint.records ++ stint.records := by simp
      _ = source.recordsUpTo (bounds seen.length) ++
            (source.stretch (bounds seen.length)
              (bounds (seen.length + 1) - bounds seen.length)).filterMap recordOf? := by
          rw [before, Stint.records, last.records_offered]
      _ = source.recordsUpTo (bounds (seen ++ [stint]).length) := by
          rw [← source.recordsUpTo_add, reached, List.length_append, List.length_singleton]

/-- Calls share a source in turn: `bounds` says how many answers had been given before each
of them. -/
structure InTurn {pull : Iteration τ ω (Except String ρ)} (source : Source pull)
    (seen : List (Stint ρ)) (bounds : Nat → Nat) : Prop where
  start : bounds 0 = 0
  monotone : Monotone bounds
  /-- A call deals with the answers between its bounds and with no others.  A record on which
  it halted, and an error that ended it, is the last of them and so no other call's. -/
  conduct : ∀ index stint, seen[index]? = some stint →
    Conduct (source.stretch (bounds index) (bounds (index + 1) - bounds index))
      stint.offers stint.outcome
  /-- The last answer to a call that completes, and every later one, is that nothing is
  left. -/
  exhausted : ∀ index stint, seen[index]? = some stint → stint.outcome = some .completed →
    ∀ number, bounds (index + 1) ≤ number + 1 → source.answers number = .exhausted
  /-- All calls together have offered the records among the answers given so far. -/
  offered : seen.flatMap Stint.records = source.recordsUpTo (bounds seen.length)
  /-- These come first among the records of the source. -/
  leading : ∀ count, bounds seen.length ≤ count →
    seen.flatMap Stint.records <+: source.recordsUpTo count

/-- Calls on one producer, whatever their sinks, neither offer a record twice nor leave one
out: each goes on in the source after the answer that ended the call before. -/
theorem calls_in_turn (producer : PullProducer τ ω ρ) (source : Source producer.pull)
    (calls : List (Call ω ρ)) {position : τ} (start : source.StandsAt position 0) (world : ω) :
    Played producer calls position world (stints producer calls position world) ∧
      ∃ bounds, InTurn source (stints producer calls position world) bounds := by
  refine ⟨played_stints source calls start world, ?_⟩
  obtain ⟨bounds, first, monotone, conducts⟩ := stretches_of_stints source calls start world
  have offered := records_of_conducts source first monotone conducts
  refine ⟨bounds, first, monotone, conducts, ?_, offered, ?_⟩
  · intro index stint found completed number later
    have last := (conducts index stint found).exhausted_of_completed completed
    obtain ⟨within, given⟩ := source.getLast?_stretch last
    exact source.exhausted_from given (by omega)
  · intro count later
    rw [offered]
    exact source.recordsUpTo_prefix later

/-- Any finite or endless sequence is a source, whatever the world. -/
def Source.ofSequence (ω : Type) (sequence : Nat → Option (Except String ρ))
    (ends : ∀ number, sequence number = none → sequence (number + 1) = none) :
    Source (Producer.ofSequence sequence : Iteration Nat ω (Except String ρ)) where
  answers number := .ofOption (sequence number)
  -- The position stays where the sequence has ended, while the pulls go on.
  StandsAt position number :=
    position = number ∨ position ≤ number ∧ sequence position = none
  gives := by
    intro position number world stands
    rw [Producer.ofSequence]
    rcases stands with rfl | ⟨before, ended⟩
    · cases found : sequence position with
      | some item => exact ⟨rfl, .inl rfl⟩
      | none => exact ⟨rfl, .inr ⟨Nat.le_succ position, found⟩⟩
    · have still : sequence number = none := Nat.le_induction ended (fun _ _ => ends _) _ before
      rw [ended, still]
      exact ⟨rfl, .inr ⟨Nat.le_succ_of_le before, ended⟩⟩
  stays := by
    intro number exhausted
    cases found : sequence number with
    | some item =>
      rw [found] at exhausted
      contradiction
    | none => rw [ends number found, Pulled.ofOption]

/-- Three records, with an error after the first one. -/
def corrupted : Nat → Option (Except String Nat)
  | 0 => some (.ok 1)
  | 1 => some (.error "corrupt")
  | 2 => some (.ok 2)
  | 3 => some (.ok 3)
  | _ => none

theorem corrupted_ends : ∀ number, corrupted number = none → corrupted (number + 1) = none
  | 0 | 1 | 2 | 3 => nofun
  | _ + 4 => fun _ => rfl

/-- The error ends the first of four calls and the sink the second; the last two exhaust what
is left. -/
theorem calls_in_turn_inhabited :
    stints (.results (ofSequence corrupted)) (.replicate 4 ⟨id, failingOn 2, 4⟩) 0 [] =
      [⟨[⟨1, none⟩], some (.halted (.failed (.source "corrupt")))⟩,
        ⟨[⟨2, some (.failed (.transform "refused"))⟩],
          some (.halted (.failed (.transform "refused")))⟩,
        ⟨[⟨3, none⟩], some .completed⟩, ⟨[], some .completed⟩] ∧
      Played (.results (ofSequence corrupted)) (.replicate 4 ⟨id, failingOn 2, 4⟩) 0 []
        (stints (.results (ofSequence corrupted)) (.replicate 4 ⟨id, failingOn 2, 4⟩) 0 []) ∧
      ∃ bounds,
        InTurn (Source.ofSequence (List Nat) corrupted corrupted_ends)
          (stints (.results (ofSequence corrupted)) (.replicate 4 ⟨id, failingOn 2, 4⟩) 0 [])
          bounds :=
  ⟨rfl, calls_in_turn (.results (ofSequence corrupted)) (Source.ofSequence _ _ corrupted_ends)
    _ (.inl rfl) []⟩

end BoundedIngest.Producer

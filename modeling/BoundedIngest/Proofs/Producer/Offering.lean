/-
Module: BoundedIngest.Proofs.Producer.Offering
Purpose: What a sink is offered by one call on a producer, and that it does not show which
  kind of producer offers it.
Main exports:
  Producer.Offer, Producer.Sink.noting, Producer.AllEnd, Producer.sources_agree
-/
import BoundedIngest.Producer.Basic

namespace BoundedIngest.Producer

/-!
A sink is known by what it does with the world and by what it answers.  To speak of what it
was offered, a note of each record and of the answer to it is kept beside the world; the sink
itself does not see these notes.
-/

variable {ω ρ : Type}

/-- A record that a sink was offered, and what the sink answered. -/
structure Offer (ρ : Type) where
  record : ρ
  answer : Option Halt
deriving Repr, DecidableEq

/-- The sink, with a note of each offer. -/
def Sink.noting (accept : Sink ω ρ) : Sink (ω × List (Offer ρ)) ρ :=
  fun (world, offers) record =>
    let (answer, world) := accept world record
    (answer, world, offers ++ [⟨record, answer⟩])

theorem Sink.noting_of_answer {accept : Sink ω ρ} {world after : ω} {record : ρ}
    {answer : Option Halt} (answered : accept world record = (answer, after))
    (earlier : List (Offer ρ)) :
    accept.noting (world, earlier) record = (answer, after, earlier ++ [⟨record, answer⟩]) := by
  simp only [Sink.noting, answered]

/-- How a call ends that stops at the first halt. -/
def outcomeOf (offers : List (Offer ρ)) : ProduceOutcome :=
  match offers.findSome? (·.answer) with
  | none => .completed
  | some halt => .halted halt

/-- Records offered one after the other until the sink halts: how that ends, the records not
offered and the world. -/
def offerInOrder (accept : Sink ω ρ) : List ρ → ω → ProduceOutcome × List ρ × ω
  | [], world => (.completed, [], world)
  | record :: rest, world =>
      match accept world record with
      | (none, world) => offerInOrder accept rest world
      | (some halt, world) => (.halted halt, rest, world)

/-- One call on each producer of these records, of at most so many pulls, ends in the same
way: with the same outcome, the same records left in the iterators and the same world. -/
structure AllEnd (accept : Sink ω ρ) (records : List ρ) (pulls : Nat) (world : ω)
    (outcome : ProduceOutcome) (rest : List ρ) (final : ω) : Prop where
  overRecords : drainRecords ofList accept pulls records world = some (outcome, rest, final)
  overResults :
    drainResults ofList accept pulls (records.map .ok) world =
      some (outcome, rest.map .ok, final)
  pushed : (Pushing.ofRecords records).run accept world = (outcome, final)

/-- Whatever the sink, the three producers do what offering the records in order does. -/
theorem allEnd_offerInOrder (accept : Sink ω ρ) {records : List ρ} {pulls : Nat}
    (enough : records.length < pulls) (world : ω) :
    AllEnd accept records pulls world (offerInOrder accept records world).1
      (offerInOrder accept records world).2.1 (offerInOrder accept records world).2.2 := by
  induction records generalizing pulls world with
  | nil =>
    obtain ⟨pulls, rfl⟩ := Nat.exists_eq_add_one_of_ne_zero (Nat.ne_of_gt enough)
    exact ⟨rfl, rfl, rfl⟩
  | cons record records ih =>
    obtain ⟨pulls, rfl⟩ := Nat.exists_eq_add_one_of_ne_zero (Nat.ne_of_gt (Nat.zero_lt_of_lt enough))
    obtain ⟨overRecords, overResults, pushed⟩ :=
      ih (Nat.lt_of_succ_lt_succ enough) (accept world record).2
    cases answered : accept world record with
    | mk answer after =>
      rw [answered] at overRecords overResults pushed
      cases answer with
      | none =>
        constructor
        · simpa only [drainRecords, ofList, offerInOrder, answered] using overRecords
        · simpa only [drainResults, ofList, List.map_cons, offerInOrder, answered]
            using overResults
        · simpa only [Pushing.ofRecords, Pushing.pushOrFail, Pushing.run, offerInOrder, answered]
            using pushed
      | some halt =>
        constructor
        · simp only [drainRecords, ofList, offerInOrder, answered]
        · simp only [drainResults, ofList, List.map_cons, offerInOrder, answered]
        · simp only [Pushing.ofRecords, Pushing.pushOrFail, Pushing.run, PushError.toHalt,
            offerInOrder, answered]

/-- The notes beside the world change nothing, and they hold the records offered. -/
theorem offerInOrder_noting (accept : Sink ω ρ) (records : List ρ) (world : ω)
    (earlier : List (Offer ρ)) :
    ∃ offers outcome rest final,
      offerInOrder accept records world = (outcome, rest, final) ∧
      offerInOrder accept.noting records (world, earlier) =
        (outcome, rest, final, earlier ++ offers) ∧
      offers.map (·.record) ++ rest = records ∧
      (∀ offer ∈ offers.dropLast, offer.answer = none) ∧ outcome = outcomeOf offers ∧
      (outcome = .completed → rest = []) := by
  induction records generalizing world earlier with
  | nil => exact ⟨[], .completed, [], world, rfl, by simp [offerInOrder], by simp [outcomeOf]⟩
  | cons record records ih =>
    cases answered : accept world record with
    | mk answer after =>
      have noted := Sink.noting_of_answer answered earlier
      cases answer with
      | none =>
        obtain ⟨offers, outcome, rest, final, bare, noting, order, before, ending, all⟩ :=
          ih after (earlier ++ [⟨record, none⟩])
        refine ⟨⟨record, none⟩ :: offers, outcome, rest, final, ?_, ?_, ?_, ?_, ending, all⟩
        · simpa only [offerInOrder, answered] using bare
        · simpa only [offerInOrder, noted, List.append_assoc, List.singleton_append] using noting
        · simp [order]
        · intro offer member
          cases offers with
          | nil => simp at member
          | cons first others =>
            rcases List.mem_cons.mp member with rfl | later
            · rfl
            · exact before offer later
      | some halt =>
        refine ⟨[⟨record, some halt⟩], .halted halt, records, after, ?_, ?_, rfl, ?_, rfl, ?_⟩
        · simp only [offerInOrder, answered]
        · simp only [offerInOrder, noted]
        · simp
        · intro impossible
          contradiction

/-- An iterator over records, one over the same records as successes, and a procedure that
pushes them and passes a halt on, cannot be told apart by any sink: they offer it the same
records, up to the first one on which it halts, leave the world alike and end with the same
outcome, which is the halt of the sink if there was one. -/
theorem sources_agree (accept : Sink ω ρ) (records : List ρ) (world : ω) {pulls : Nat}
    (enough : records.length < pulls) :
    ∃ offers outcome rest final,
      AllEnd accept records pulls world outcome rest final ∧
      AllEnd accept.noting records pulls (world, []) outcome rest (final, offers) ∧
      offers.map (·.record) ++ rest = records ∧
      (∀ offer ∈ offers.dropLast, offer.answer = none) ∧ outcome = outcomeOf offers ∧
      (outcome = .completed → rest = []) := by
  obtain ⟨offers, outcome, rest, final, bare, noting, told⟩ :=
    offerInOrder_noting accept records world []
  have ends := allEnd_offerInOrder accept enough world
  have endsNoting := allEnd_offerInOrder accept.noting enough (world, [])
  rw [bare] at ends
  rw [noting] at endsNoting
  exact ⟨offers, outcome, rest, final, ends, endsNoting, told⟩

/-- A sink that keeps what it accepts and fails on one record. -/
def failingOn (refused : Nat) : Sink (List Nat) Nat := fun kept record =>
  if record = refused then (some (.failed (.transform "refused")), kept)
  else (none, kept ++ [record])

/-- The second of three records ends all three productions, with the third one left. -/
theorem sources_agree_inhabited :
    drainRecords ofList (failingOn 99) 4 [5, 99, 6] [] =
        some (.halted (.failed (.transform "refused")), [6], [5]) ∧
      ∃ offers outcome rest final,
        AllEnd (failingOn 99) [5, 99, 6] 4 [] outcome rest final ∧
        AllEnd (failingOn 99).noting [5, 99, 6] 4 ([], []) outcome rest (final, offers) ∧
        offers.map (·.record) ++ rest = [5, 99, 6] ∧
        (∀ offer ∈ offers.dropLast, offer.answer = none) ∧ outcome = outcomeOf offers ∧
        (outcome = .completed → rest = []) :=
  ⟨rfl, sources_agree (failingOn 99) [5, 99, 6] [] (by decide)⟩

end BoundedIngest.Producer

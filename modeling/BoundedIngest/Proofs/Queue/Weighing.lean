/-
Module: BoundedIngest.Proofs.Queue.Weighing
Purpose: The capacity of a queue is decided by what was offered to it, and by nothing else.
Main exports:
  Scales, Scales.weigh, Call.arrival, SharedQueue.allows, SharedQueue.Sampled,
  SharedQueue.sampled_of_step, SharedQueue.Accounted, SharedQueue.isOrderly,
  SharedQueue.scales_of_run, IteratedQueue.capacity_of_inserts_alone
-/
import BoundedIngest.Proofs.Queue.Conservation

namespace BoundedIngest

/-!
An insert draws a number when it begins, and when it first has the lock it folds in what was
measured, before it looks whether it may add its entry at all.  No other step touches the
sampler or the running average.  So an insert is on its way from the one moment to the other,
and if no insert begins while another one is on its way, then the sizes are folded in in the
order in which they were offered.
-/

variable {α : Type}

/-! ### Offers -/

/-- Fold in what was measured, if anything was. -/
def Capacity.fold (capacity : Capacity) : Option UInt64 → Capacity
  | some size => (capacity.observe size).1
  | none => capacity

/-- What decides how many entries a queue holds. -/
structure Scales where
  sampler : Sampler
  capacity : Capacity

namespace Scales

def ofConfig (config : ExecutorConfig) : Scales :=
  { sampler := Sampler.ofConfig config
    capacity := Capacity.start config.writeBufferLimitBytes config.maxCachedRecords }

/-- What is measured of an entry of the given size, if it can be measured. -/
def sample (scales : Scales) (size : Option UInt64) : Option UInt64 :=
  if scales.sampler.draw.1 then size.map measuredSize else none

/-- An entry of the given size is offered. -/
def offer (scales : Scales) (size : Option UInt64) : Scales :=
  { sampler := scales.sampler.draw.2, capacity := scales.capacity.fold (scales.sample size) }

/-- Entries of the given sizes are offered, one after the other. -/
def weigh (config : ExecutorConfig) (sizes : List (Option UInt64)) : Scales :=
  sizes.foldl offer (ofConfig config)

theorem weigh_concat (config : ExecutorConfig) (sizes : List (Option UInt64))
    (size : Option UInt64) : weigh config (sizes ++ [size]) = (weigh config sizes).offer size := by
  rw [weigh, List.foldl_append]
  rfl

end Scales

/-! ### Inserts on their way -/

/-- What an insert that has not had the lock yet is going to fold in. -/
def Call.arrival (estimate : α → Option UInt64) : Call α → Option (Option UInt64)
  | .measuring entry => some ((estimate entry).map measuredSize)
  | .inserting _ size => some size
  | _ => none

/-- An insert that has not had the lock yet, and so has neither returned nor waited. -/
def Call.isArriving : Call α → Bool
  | .measuring _ | .inserting .. => true
  | _ => false

theorem Call.arrival_eq_none {estimate : α → Option UInt64} {call : Call α} :
    call.arrival estimate = none ↔ call.isArriving = false := by
  cases call <;> simp [arrival, isArriving]

@[simp] theorem Call.arrival_notifyRoom (estimate : α → Option UInt64) (call : Call α) :
    call.notifyRoom.arrival estimate = call.arrival estimate := by
  cases call <;> rfl

@[simp] theorem Call.arrival_notifyEntry (estimate : α → Option UInt64) (call : Call α) :
    call.notifyEntry.arrival estimate = call.arrival estimate := by
  cases call <;> rfl

namespace SharedQueue

variable {shared next final origin : SharedQueue α} {estimate : α → Option UInt64}
variable {event : Event α} {events : List (Event α)} {caller : Nat} {entry : α}

/-- For each call, what it is going to fold in if it is an insert on its way. -/
def arrivals (estimate : α → Option UInt64) (shared : SharedQueue α) :
    List (Option (Option UInt64)) :=
  shared.calls.map (Call.arrival estimate)

theorem arrivals_getElem? {call : Call α} (found : shared.calls[caller]? = some call) :
    (shared.arrivals estimate)[caller]? = some (call.arrival estimate) := by
  simp [arrivals, found]

@[simp] theorem arrivals_setCall (call : Call α) :
    (shared.setCall caller call).arrivals estimate =
      (shared.arrivals estimate).set caller (call.arrival estimate) := by
  simp [arrivals, setCall]

@[simp] theorem arrivals_notifyAllRoom :
    shared.notifyAllRoom.arrivals estimate = shared.arrivals estimate := by
  simp [arrivals, notifyAllRoom]

@[simp] theorem arrivals_notifyAllEntry :
    shared.notifyAllEntry.arrivals estimate = shared.arrivals estimate := by
  simp [arrivals, notifyAllEntry]

theorem arrivals_setCall_same {old call : Call α} (found : shared.calls[caller]? = some old)
    (same : call.arrival estimate = old.arrival estimate) :
    (shared.setCall caller call).arrivals estimate = shared.arrivals estimate := by
  rw [arrivals_setCall, same]
  exact set_eq_self (arrivals_getElem? found)

/-! ### What a step does to the scales -/

/-- The scales of a queue. -/
def scales (shared : SharedQueue α) : Scales :=
  { sampler := shared.sampler, capacity := shared.queue.capacity }

/-- The size that a step offers. -/
def Event.offers (estimate : α → Option UInt64) : Event α → List (Option UInt64)
  | .insert _ entry => [estimate entry]
  | _ => []

/-- An insert begins and draws a number, or one that was on its way folds in what it has
brought along, or nothing changes. -/
inductive Sampled (estimate : α → Option UInt64) (shared : SharedQueue α) (event : Event α)
    (next : SharedQueue α) : Prop
  | offered (caller : Nat) (entry : α) (begins : event = .insert caller entry)
      (was : (shared.arrivals estimate)[caller]? = some none)
      (scales : next.scales = { shared.scales with sampler := shared.sampler.draw.2 })
      (arrivals : next.arrivals estimate = (shared.arrivals estimate).set caller
        (some (shared.scales.sample (estimate entry))))
  | landed (caller : Nat) (size : Option UInt64) (silent : event.offers estimate = [])
      (was : (shared.arrivals estimate)[caller]? = some (some size))
      (scales : next.scales =
        { shared.scales with capacity := shared.queue.capacity.fold size })
      (arrivals : next.arrivals estimate = (shared.arrivals estimate).set caller none)
  | passed (silent : event.offers estimate = []) (scales : next.scales = shared.scales)
      (arrivals : next.arrivals estimate = shared.arrivals estimate)

/-- The steps that a script can come to: no insert begins while another one is on its way, and
what is measured is the size of the entry, if that can be measured. -/
def allows (estimate : α → Option UInt64) (shared : SharedQueue α) : Event α → Bool
  | .insert .. => shared.calls.all fun call => !call.isArriving
  | .measured caller size =>
      match shared.calls[caller]? with
      | some (.measuring entry) => estimate entry == some size
      | _ => true
  | .measuringPanicked caller =>
      match shared.calls[caller]? with
      | some (.measuring entry) => estimate entry == none
      | _ => true
  | _ => true

theorem scales_observe (size : UInt64) :
    (shared.observe size).scales =
      { shared.scales with capacity := shared.queue.capacity.fold (some size) } := by
  unfold observe
  dsimp only
  split <;> rfl

@[simp] theorem arrivals_observe (size : UInt64) :
    (shared.observe size).arrivals estimate = shared.arrivals estimate := by
  unfold observe
  dsimp only
  split
  · exact arrivals_notifyAllRoom
  · rfl

/-- An insert that has the lock touches the scales no more, whatever becomes of it. -/
theorem scales_tryPush {waited : Bool} :
    (shared.tryPush caller entry waited).scales = shared.scales ∧
      (shared.tryPush caller entry waited).arrivals estimate =
        (shared.arrivals estimate).set caller none := by
  unfold tryPush
  split
  · exact ⟨rfl, arrivals_setCall _⟩
  · split
    · exact ⟨rfl, arrivals_setCall _⟩
    · exact ⟨rfl, arrivals_setCall _⟩

theorem scales_firstInsert {size : Option UInt64} :
    (shared.firstInsert caller entry size).scales =
        { shared.scales with capacity := shared.queue.capacity.fold size } ∧
      (shared.firstInsert caller entry size).arrivals estimate =
        (shared.arrivals estimate).set caller none := by
  have arrives : ∀ observed : SharedQueue α,
      observed.arrivals estimate = shared.arrivals estimate →
      (if observed.queue.refuses then observed.setCall caller (.returned .refused)
          else observed.tryPush caller entry false).scales = observed.scales ∧
        (if observed.queue.refuses then observed.setCall caller (.returned .refused)
          else observed.tryPush caller entry false).arrivals estimate =
            (shared.arrivals estimate).set caller none := by
    intro observed same
    rw [← same]
    split
    · exact ⟨rfl, arrivals_setCall _⟩
    · exact scales_tryPush
  cases size with
  | none => exact arrives shared rfl
  | some size =>
    obtain ⟨scales, arrivals⟩ := arrives (shared.observe size) (arrivals_observe size)
    exact ⟨scales.trans (scales_observe size), arrivals⟩

theorem scales_tryPull {call : Call α} (found : shared.calls[caller]? = some call)
    (notArriving : call.isArriving = false) :
    (shared.tryPull caller).scales = shared.scales ∧
      (shared.tryPull caller).arrivals estimate = shared.arrivals estimate := by
  have stays : ∀ other : Call α, other.isArriving = false →
      (shared.setCall caller other).arrivals estimate = shared.arrivals estimate := by
    intro other apart
    apply arrivals_setCall_same found
    rw [Call.arrival_eq_none.mpr apart, Call.arrival_eq_none.mpr notArriving]
  unfold tryPull
  split
  · exact ⟨rfl, stays _ rfl⟩
  · split
    · rename_i entry queue popped
      obtain ⟨rest, -, rfl⟩ := Queue.front_of_pop popped
      exact ⟨rfl, stays (.pulled _ _ _) rfl⟩
    · split
      · exact ⟨rfl, stays _ rfl⟩
      · exact ⟨rfl, stays _ rfl⟩

theorem sampled_of_enter (entered : shared.enter caller = some next) :
    Sampled estimate shared (.enter caller) next := by
  unfold enter at entered
  split at entered
  · rename_i entry size found
    cases entered
    obtain ⟨scales, arrivals⟩ := @scales_firstInsert _ shared estimate caller entry size
    exact .landed caller size rfl (arrivals_getElem? found) scales arrivals
  · rename_i entry found
    cases entered
    obtain ⟨scales, arrivals⟩ := @scales_tryPush _ shared estimate caller entry true
    exact .passed rfl scales (arrivals.trans (set_eq_self (arrivals_getElem? found)))
  · rename_i found
    cases entered
    obtain ⟨scales, arrivals⟩ := @scales_tryPull _ shared estimate caller _ found rfl
    exact .passed rfl scales arrivals
  · rename_i found
    cases entered
    obtain ⟨scales, arrivals⟩ := @scales_tryPull _ shared estimate caller _ found rfl
    exact .passed rfl scales arrivals
  · contradiction

/-- A call that sends a notification is not on its way, and nobody who is gets one. -/
theorem arrivals_notifyOneRoom {target : Option Nat}
    (notified : shared.notifyOneRoom target = some next) :
    next.scales = shared.scales ∧ next.arrivals estimate = shared.arrivals estimate := by
  rcases reached_of_notifyOneRoom notified with ⟨-, rfl⟩ | ⟨woken, entry, found, rfl⟩
  · exact ⟨rfl, rfl⟩
  · exact ⟨rfl, arrivals_setCall_same found rfl⟩

theorem arrivals_notifyOneEntry {target : Option Nat}
    (notified : shared.notifyOneEntry target = some next) :
    next.scales = shared.scales ∧ next.arrivals estimate = shared.arrivals estimate := by
  rcases reached_of_notifyOneEntry notified with ⟨-, rfl⟩ | ⟨woken, found, rfl⟩
  · exact ⟨rfl, rfl⟩
  · exact ⟨rfl, arrivals_setCall_same found rfl⟩

theorem arrivals_notify {target : Option Nat} (notified : shared.notify caller target = some next) :
    next.scales = shared.scales ∧ next.arrivals estimate = shared.arrivals estimate := by
  have settle : ∀ {middle : SharedQueue α} {old call : Call α},
      shared.calls[caller]? = some old → call.arrival estimate = old.arrival estimate →
      middle.arrivals estimate = shared.arrivals estimate →
      (middle.setCall caller call).arrivals estimate = shared.arrivals estimate := by
    intro middle old call found stage same
    rw [arrivals_setCall, same, stage]
    exact set_eq_self (arrivals_getElem? found)
  unfold notify at notified
  split at notified
  · rename_i found
    obtain ⟨middle, first, rfl⟩ := Option.map_eq_some_iff.mp notified
    obtain ⟨scales, same⟩ := arrivals_notifyOneEntry first
    exact ⟨scales, settle found rfl same⟩
  · rename_i found
    obtain ⟨middle, first, rfl⟩ := Option.map_eq_some_iff.mp notified
    obtain ⟨scales, same⟩ := arrivals_notifyOneRoom first
    exact ⟨scales, settle found rfl same⟩
  · rename_i found
    cases notified
    exact ⟨rfl, settle found rfl arrivals_notifyAllRoom⟩
  · rename_i found
    cases notified
    exact ⟨rfl, settle found rfl arrivals_notifyAllEntry⟩
  · contradiction

theorem arrivals_report (reported : shared.report caller = some next) :
    next.scales = shared.scales ∧ next.arrivals estimate = shared.arrivals estimate := by
  unfold report at reported
  split at reported
  · rename_i waited found
    have same : (shared.setCall caller (.returned .inserted)).arrivals estimate =
        shared.arrivals estimate := arrivals_setCall_same found rfl
    cases reported
    cases waited <;> exact ⟨rfl, same⟩
  · rename_i entry _ _ found
    have same : (shared.setCall caller (.returned (.entry entry))).arrivals estimate =
        shared.arrivals estimate := arrivals_setCall_same found rfl
    cases reported
    exact ⟨rfl, same⟩
  · contradiction

theorem sampled_of_insert (stepped : shared.step (.insert caller entry) = some next) :
    Sampled estimate shared (.insert caller entry) next := by
  have brings : ∀ due : Bool,
      Call.arrival estimate (if due then .measuring entry else .inserting entry none) =
        some (if due then (estimate entry).map measuredSize else none) := by
    intro due
    cases due <;> rfl
  dsimp only [step] at stepped
  split at stepped
  · rename_i found
    cases stepped
    apply Sampled.offered caller entry rfl (arrivals_getElem? found) rfl
    rw [arrivals_setCall, brings]
    rfl
  · contradiction

theorem sampled_of_step (allowed : shared.allows estimate event = true)
    (stepped : shared.step event = some next) : Sampled estimate shared event next := by
  cases event with
  | insert caller entry => exact sampled_of_insert stepped
  | enter caller => exact sampled_of_enter stepped
  | measured caller size =>
    dsimp only [step] at stepped
    split at stepped
    · rename_i entry found
      cases stepped
      have same : Call.arrival estimate (.inserting entry (some (measuredSize size))) =
          Call.arrival estimate (.measuring entry) := by
        rw [allows, found] at allowed
        rw [Call.arrival, Call.arrival, eq_of_beq allowed]
        rfl
      exact .passed rfl rfl (arrivals_setCall_same found same)
    · contradiction
  | measuringPanicked caller =>
    dsimp only [step] at stepped
    split at stepped
    · rename_i entry found
      cases stepped
      have was := @arrivals_getElem? _ shared estimate _ _ found
      rw [allows, found] at allowed
      rw [Call.arrival, eq_of_beq allowed] at was
      exact .landed caller none rfl was rfl (arrivals_setCall _)
    · contradiction
  | pull caller =>
    dsimp only [step] at stepped
    split at stepped
    · rename_i found
      cases stepped
      exact .passed rfl rfl (arrivals_setCall_same found rfl)
    · contradiction
  | notify caller target =>
    obtain ⟨scales, arrivals⟩ := @arrivals_notify _ _ _ estimate _ _ stepped
    exact .passed rfl scales arrivals
  | report caller =>
    obtain ⟨scales, arrivals⟩ := @arrivals_report _ _ _ estimate _ stepped
    exact .passed rfl scales arrivals
  | close caller =>
    dsimp only [step] at stepped
    split at stepped
    · rename_i found
      cases stepped
      unfold close
      split
      · exact .passed rfl rfl (arrivals_setCall_same found rfl)
      · exact .passed rfl rfl (arrivals_setCall_same found rfl)
    · contradiction
  | markDone =>
    cases stepped
    unfold markDone
    dsimp only
    split
    · exact .passed rfl rfl (arrivals_notifyAllRoom.trans arrivals_notifyAllEntry)
    · exact .passed rfl rfl rfl
  | leave caller =>
    dsimp only [step] at stepped
    split at stepped
    · rename_i found
      cases stepped
      exact .passed rfl rfl (arrivals_setCall_same found rfl)
    · contradiction

/-! ### Runs -/

/-- What the inserts on their way are going to fold in. -/
def inFlight (estimate : α → Option UInt64) (shared : SharedQueue α) : List (Option UInt64) :=
  (shared.arrivals estimate).reduceOption

theorem inFlight_eq_nil_iff :
    shared.inFlight estimate = [] ↔ ∀ call ∈ shared.calls, call.isArriving = false := by
  constructor
  · intro none call present
    exact Call.arrival_eq_none.mp
      (List.filterMap_eq_nil_iff.mp none _ (List.mem_map_of_mem present))
  · intro settled
    apply List.filterMap_eq_nil_iff.mpr
    intro arrival found
    obtain ⟨call, present, rfl⟩ := List.mem_map.mp found
    exact Call.arrival_eq_none.mpr (settled call present)

/-- One insert at most is on its way, and once it has folded in what it has brought along, the
scales are those of the sizes offered. -/
structure Accounted (config : ExecutorConfig) (estimate : α → Option UInt64)
    (sizes : List (Option UInt64)) (shared : SharedQueue α) : Prop where
  few : (shared.inFlight estimate).length ≤ 1
  sampler : shared.sampler = (Scales.weigh config sizes).sampler
  capacity : (shared.inFlight estimate).foldl Capacity.fold shared.queue.capacity =
    (Scales.weigh config sizes).capacity

variable {config : ExecutorConfig} {sizes : List (Option UInt64)}

theorem Accounted.scales (accounted : shared.Accounted config estimate sizes)
    (none : shared.inFlight estimate = []) : shared.scales = Scales.weigh config sizes := by
  have capacity := accounted.capacity
  rw [none, List.foldl_nil] at capacity
  rw [SharedQueue.scales, accounted.sampler, capacity]

theorem Accounted.step (accounted : shared.Accounted config estimate sizes)
    (allowed : shared.allows estimate event = true) (stepped : shared.step event = some next) :
    next.Accounted config estimate (sizes ++ event.offers estimate) := by
  cases sampled_of_step allowed stepped with
  | offered caller entry begins was scales arrivals =>
    subst begins
    have none : shared.inFlight estimate = [] :=
      inFlight_eq_nil_iff.mpr (by simpa [allows] using allowed)
    have one : next.inFlight estimate = [shared.scales.sample (estimate entry)] := by
      rw [inFlight, arrivals]
      exact reduceOption_set_some was none
    have before := accounted.scales none
    have drawn : next.sampler = shared.sampler.draw.2 := congrArg Scales.sampler scales
    have kept : next.queue.capacity = shared.queue.capacity := congrArg Scales.capacity scales
    rw [Event.offers]
    refine ⟨by rw [one]; exact Nat.le_refl 1, ?_, ?_⟩
    · rw [Scales.weigh_concat, ← before, drawn]
      rfl
    · rw [Scales.weigh_concat, ← before, one, kept]
      rfl
  | landed caller size silent was scales arrivals =>
    obtain ⟨one, none⟩ := reduceOption_set_none was accounted.few
    have empty : next.inFlight estimate = [] := by rw [inFlight, arrivals, none]
    have sampler : next.sampler = shared.sampler := congrArg Scales.sampler scales
    have folded : next.queue.capacity = shared.queue.capacity.fold size :=
      congrArg Scales.capacity scales
    have capacity := accounted.capacity
    rw [inFlight, one] at capacity
    rw [silent, List.append_nil]
    refine ⟨by rw [empty]; exact Nat.zero_le 1, sampler.trans accounted.sampler, ?_⟩
    rw [empty, folded]
    exact capacity
  | passed silent scales arrivals =>
    have same : next.inFlight estimate = shared.inFlight estimate := by
      rw [inFlight, inFlight, arrivals]
    have sampler : next.sampler = shared.sampler := congrArg Scales.sampler scales
    have kept : next.queue.capacity = shared.queue.capacity := congrArg Scales.capacity scales
    rw [silent, List.append_nil]
    refine ⟨by rw [same]; exact accounted.few, sampler.trans accounted.sampler, ?_⟩
    rw [same, kept]
    exact accounted.capacity

/-- Steps each of which a script can come to. -/
def isOrderly (estimate : α → Option UInt64) : SharedQueue α → List (Event α) → Bool
  | _, [] => true
  | shared, event :: rest =>
      shared.allows estimate event &&
        match shared.step event with
        | some next => isOrderly estimate next rest
        | none => true

/-- The sizes that steps offer, in the order in which they are offered. -/
def offered (estimate : α → Option UInt64) (events : List (Event α)) : List (Option UInt64) :=
  events.flatMap (Event.offers estimate)

theorem Accounted.run (accounted : shared.Accounted config estimate sizes)
    (orderly : isOrderly estimate shared events = true) (ran : shared.run events = some final) :
    final.Accounted config estimate (sizes ++ offered estimate events) := by
  induction events generalizing shared sizes with
  | nil =>
    cases ran
    rw [offered, List.flatMap_nil, List.append_nil]
    exact accounted
  | cons event rest ih =>
    obtain ⟨middle, stepped, ran⟩ := Option.bind_eq_some_iff.mp ran
    rw [isOrderly, stepped, Bool.and_eq_true] at orderly
    obtain ⟨allowed, orderly⟩ := orderly
    rw [offered, List.flatMap_cons, ← List.append_assoc]
    exact ih (accounted.step allowed stepped) orderly ran

theorem accounted_start (config : ExecutorConfig) (producers callers : Nat) :
    (start config producers callers : SharedQueue α).Accounted config estimate [] := by
  have none : (start config producers callers : SharedQueue α).inFlight estimate = [] := by
    apply inFlight_eq_nil_iff.mpr
    intro call found
    rw [List.eq_of_mem_replicate found]
    rfl
  refine ⟨by rw [none]; exact Nat.zero_le 1, rfl, ?_⟩
  rw [none]
  rfl

/-- Where no insert is on its way, what was offered decides the scales. -/
theorem scales_of_run {producers callers : Nat}
    (ran : (start config producers callers).run events = some final)
    (orderly : isOrderly estimate (start config producers callers) events = true)
    (settled : ∀ call ∈ final.calls, call.isArriving = false) :
    final.scales = Scales.weigh config (offered estimate events) :=
  ((accounted_start config producers callers).run orderly ran).scales
    (inFlight_eq_nil_iff.mpr settled)

end SharedQueue

/-! ### Two runs -/

namespace IteratedQueue

open SharedQueue (isOrderly offered)

/-- The steps that were made are steps of the queue. -/
theorem run_made {config : ExecutorConfig} {producers callers : Nat} {events : List (Event α)}
    {final : IteratedQueue α} (ran : (start config producers callers).run events = some final) :
    (SharedQueue.start config producers callers).run final.made = some final.watch.shared := by
  have fresh : Lawful (SharedQueue.start config producers callers : SharedQueue α)
      (start config producers callers) :=
    ⟨rfl, fun _ none => absurd none List.not_mem_nil⟩
  have watched := Watch.map_shared_run
    (Watch.begin (SharedQueue.start config producers callers)) final.made
  rw [(fresh.run ran).ran] at watched
  exact watched.symm

/-- Two queues with the same settings, used by any number of threads and through any number of
iterators, to which entries of the same sizes were offered in the same order: where no insert
is on its way they have seen as many entries, with the same average, and hold as many. -/
theorem capacity_of_inserts_alone {β : Type} {config : ExecutorConfig}
    {estimate : α → Option UInt64} {otherEstimate : β → Option UInt64}
    {producers callers otherProducers otherCallers : Nat}
    {events : List (Event α)} {otherEvents : List (Event β)}
    {final : IteratedQueue α} {other : IteratedQueue β}
    (ran : (start config producers callers).run events = some final)
    (otherRan : (start config otherProducers otherCallers).run otherEvents = some other)
    (orderly : isOrderly estimate (SharedQueue.start config producers callers) final.made = true)
    (otherOrderly : isOrderly otherEstimate
      (SharedQueue.start config otherProducers otherCallers) other.made = true)
    (settled : ∀ call ∈ final.watch.shared.calls, call.isArriving = false)
    (otherSettled : ∀ call ∈ other.watch.shared.calls, call.isArriving = false)
    (same : offered estimate final.made = offered otherEstimate other.made) :
    final.watch.shared.sampler.seen = other.watch.shared.sampler.seen ∧
      final.watch.shared.queue.capacity.average = other.watch.shared.queue.capacity.average ∧
      final.watch.shared.queue.capacity.limit = other.watch.shared.queue.capacity.limit := by
  have scales : final.watch.shared.scales = other.watch.shared.scales := by
    rw [SharedQueue.scales_of_run (run_made ran) orderly settled,
      SharedQueue.scales_of_run (run_made otherRan) otherOrderly otherSettled, same]
  refine ⟨?_, ?_, ?_⟩
  · exact congrArg (·.sampler.seen) scales
  · exact congrArg (·.capacity.average) scales
  · exact congrArg (·.capacity.limit) scales

/-- The second insert waits for room, since it has made the first entry fill the queue. -/
def crowding : List (Event Nat) :=
  [.iterate, .queue (.insert 0 10), .queue (.measured 0 10), .queue (.enter 0),
    .queue (.notify 0 none), .queue (.report 0), .queue (.leave 0), .queue (.insert 0 50),
    .queue (.measured 0 50), .queue (.enter 0)]

/-- Both inserts find the queue closed; an iterator has been told so before. -/
def closing : List (Event (String × UInt64)) :=
  [.iterate, .queue (.close 1), .queue (.notify 1 none), .queue (.notify 1 none), .queue (.leave 1),
    .next 0 1, .queue (.enter 1), .queue (.leave 1), .queue (.insert 0 ("ten", 10)),
    .queue (.measured 0 10), .queue (.enter 0), .queue (.leave 0), .queue (.insert 0 ("fifty", 50)),
    .queue (.measured 0 50), .queue (.enter 0)]

theorem capacity_of_inserts_alone_inhabited :
    ∃ (final : IteratedQueue Nat) (other : IteratedQueue (String × UInt64)),
      (start { writeBufferLimitBytes := 40 } 1 2).run crowding = some final ∧
        (start { writeBufferLimitBytes := 40 } 2 2).run closing = some other ∧
        final.watch.shared.calls[0]? = some (.awaitingRoom 50) ∧
        other.watch.shared.reply? 0 = some .refused ∧
        final.watch.shared.sampler.seen = other.watch.shared.sampler.seen ∧
        final.watch.shared.queue.capacity.average = other.watch.shared.queue.capacity.average ∧
        final.watch.shared.queue.capacity.limit = other.watch.shared.queue.capacity.limit := by
  have runs : ((start { writeBufferLimitBytes := 40 } 1 2).run crowding).map (fun final =>
      decide (final.watch.shared.calls[0]? = some (.awaitingRoom 50) ∧
        isOrderly (fun entry => some (UInt64.ofNat entry))
          (SharedQueue.start { writeBufferLimitBytes := 40 } 1 2) final.made = true ∧
        offered (fun entry => some (UInt64.ofNat entry)) final.made = [some 10, some 50] ∧
        ∀ call ∈ final.watch.shared.calls, call.isArriving = false)) = some true := by
    decide +kernel
  have otherRuns : ((start { writeBufferLimitBytes := 40 } 2 2).run closing).map (fun other =>
      decide (other.watch.shared.reply? 0 = some .refused ∧
        isOrderly (fun entry => some entry.2)
          (SharedQueue.start { writeBufferLimitBytes := 40 } 2 2) other.made = true ∧
        offered (fun entry => some entry.2) other.made = [some 10, some 50] ∧
        ∀ call ∈ other.watch.shared.calls, call.isArriving = false)) = some true := by
    decide +kernel
  obtain ⟨final, ran, holds⟩ := Option.map_eq_some_iff.mp runs
  obtain ⟨other, otherRan, otherHolds⟩ := Option.map_eq_some_iff.mp otherRuns
  obtain ⟨waits, orderly, sizes, settled⟩ := of_decide_eq_true holds
  obtain ⟨refused, otherOrderly, otherSizes, otherSettled⟩ := of_decide_eq_true otherHolds
  exact ⟨final, other, ran, otherRan, waits, refused,
    capacity_of_inserts_alone ran otherRan orderly otherOrderly settled otherSettled
      (sizes.trans otherSizes.symm)⟩

end IteratedQueue

end BoundedIngest

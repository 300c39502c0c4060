/-
Module: BoundedIngest.Proofs.Queue.Sampling
Purpose: However inserts interleave and whatever becomes of them, the order in which they begin
  decides which entries are measured, and each measurement is folded in once.
Main exports:
  SharedQueue.picks, SharedQueue.picks_eq, SharedQueue.sampled_of_estimated, SharedQueue.carried,
  SharedQueue.samples_of_sampled, SharedQueue.Metered, SharedQueue.Metered.step,
  SharedQueue.Metered.run, SharedQueue.sampling_count
-/
import BoundedIngest.Proofs.Queue.Weighing
import BoundedIngest.Proofs.Sizing.Sampler

namespace BoundedIngest

/-!
Drawing a number and folding a measurement in are two steps, and other inserts may take theirs in
between, in any order.  What connects the two is the insert itself: from the one step to the other
it carries its measurement, or is going to.  So the measurements in the average and those still
carried are together the entries picked so far.
-/

variable {α : Type}

/-- An insert on its way that has a measurement to fold in, or will have one. -/
def Call.bringsSample : Call α → Bool
  | .measuring _ => true
  | .inserting _ size => size.isSome
  | _ => false

/-- An insert on its way whose entry was measured. -/
def Call.carriesSize : Call α → Bool
  | .inserting _ size => size.isSome
  | _ => false

def Call.isMeasuring : Call α → Bool
  | .measuring _ => true
  | _ => false

theorem Call.isArriving_of_bringsSample {call : Call α} (brings : call.bringsSample = true) :
    call.isArriving = true := by
  cases call <;> first | rfl | contradiction

/-- What is brought is being measured, or it was. -/
theorem Call.countP_bringsSample (calls : List (Call α)) :
    calls.countP bringsSample = calls.countP isMeasuring + calls.countP carriesSize := by
  induction calls with
  | nil => rfl
  | cons call rest ih =>
    rw [countP_cons_toNat, countP_cons_toNat, countP_cons_toNat, ih]
    have parts : call.bringsSample.toNat = call.isMeasuring.toNat + call.carriesSize.toNat := by
      cases call <;> simp [bringsSample, isMeasuring, carriesSize]
    omega

namespace SharedQueue

variable {shared next final : SharedQueue α} {estimate : α → Option UInt64}
variable {event : Event α} {events : List (Event α)} {caller : Nat} {entry : α} {size : UInt64}

def Event.isInsert : Event α → Bool
  | .insert .. => true
  | _ => false

def Event.isMeasured : Event α → Bool
  | .measured .. => true
  | _ => false

theorem Event.eq_of_isMeasured (measured : event.isMeasured = true) :
    ∃ caller size, event = .measured caller size := by
  cases event with
  | measured caller size => exact ⟨caller, size, rfl⟩
  | insert | measuringPanicked | pull | enter | notify | report | close | markDone | leave =>
    contradiction

/-! ### Who is picked -/

/-- The call is about to have its entry measured. -/
def isPicked (shared : SharedQueue α) (caller : Nat) : Bool :=
  match shared.calls[caller]? with
  | some call => call.isMeasuring
  | none => false

/-- Whether the entry of an insert that has just begun is to be measured. -/
def pick? (shared : SharedQueue α) : Event α → Option Bool
  | .insert caller _ => some (shared.isPicked caller)
  | _ => none

/-- For each insert of a run, in the order in which they begin, whether its entry is to be
measured. -/
def picks (shared : SharedQueue α) : List (Event α) → List Bool
  | [] => []
  | event :: rest =>
      match shared.step event with
      | none => []
      | some next => (next.pick? event).toList ++ next.picks rest

theorem isPicked_of_insert (stepped : shared.step (.insert caller entry) = some next) :
    next.isPicked caller = shared.sampler.isDue shared.sampler.seen := by
  have turns : ∀ due : Bool,
      Call.isMeasuring (if due then .measuring entry else .inserting entry none) = due := by
    intro due
    cases due <;> rfl
  dsimp only [step] at stepped
  split at stepped
  · rename_i found
    cases stepped
    have inside := (List.getElem?_eq_some_iff.mp found).1
    simp only [isPicked, setCall, List.getElem?_set_self inside]
    exact turns _
  · contradiction

/-! ### Any interleaving -/

/-- A step that is not a measurement, for an estimator of which nothing is known yet. -/
theorem sampled_of_unmeasured (other : event.isMeasured = false)
    (stepped : shared.step event = some next) : Sampled (fun _ => none) shared event next := by
  cases event with
  | insert caller entry => exact sampled_of_insert stepped
  | measured caller size => contradiction
  | measuringPanicked caller =>
    refine sampled_of_step ?_ stepped
    unfold allows
    dsimp only
    split <;> rfl
  | pull | enter | notify | report | close | markDone | leave => exact sampled_of_step rfl stepped

/-- Where the estimator returns, one size does for a step: the one that the step brings along, if it
brings one. -/
theorem sampled_of_estimated (returns : ∀ caller, event ≠ .measuringPanicked caller)
    (stepped : shared.step event = some next) :
    ∃ size : UInt64, Sampled (fun _ => some size) shared event next := by
  cases event with
  | insert caller entry => exact ⟨0, sampled_of_insert stepped⟩
  | measured caller size =>
    refine ⟨size, sampled_of_step ?_ stepped⟩
    unfold allows
    dsimp only
    split
    · exact beq_self_eq_true _
    · rfl
  | measuringPanicked caller => exact absurd rfl (returns caller)
  | pull | enter | notify | report | close | markDone | leave =>
    exact ⟨0, sampled_of_step rfl stepped⟩

/-- Numbers are drawn by inserts that begin, and by nobody else. -/
theorem sampler_of_sampled (sampled : Sampled estimate shared event next) :
    next.sampler = if event.isInsert then shared.sampler.draw.2 else shared.sampler := by
  have apart : event.offers estimate = [] → event.isInsert = false := by
    cases event <;> simp [Event.offers, Event.isInsert]
  cases sampled with
  | offered caller entry begins was scales arrivals =>
    rw [begins]
    exact congrArg Scales.sampler scales
  | landed caller size silent was scales arrivals =>
    rw [apart silent]
    exact congrArg Scales.sampler scales
  | passed silent scales arrivals =>
    rw [apart silent]
    exact congrArg Scales.sampler scales

theorem sampler_of_step (stepped : shared.step event = some next) :
    next.sampler = if event.isInsert then shared.sampler.draw.2 else shared.sampler := by
  cases measured : event.isMeasured with
  | false => exact sampler_of_sampled (sampled_of_unmeasured measured stepped)
  | true =>
    obtain ⟨caller, size, rfl⟩ := Event.eq_of_isMeasured measured
    obtain ⟨size, sampled⟩ := sampled_of_estimated (by simp) stepped
    exact sampler_of_sampled sampled

/-! ### Measurements on their way -/

/-- How many inserts on their way are going to fold a measurement in. -/
def carried (estimate : α → Option UInt64) (shared : SharedQueue α) : Nat :=
  (shared.arrivals estimate).countP fun arrival => arrival.join.isSome

theorem carried_some (size : UInt64) :
    shared.carried (fun _ => some size) = shared.calls.countP Call.bringsSample := by
  rw [carried, arrivals, List.countP_map]
  congr 1
  funext call
  cases call <;> rfl

theorem carried_none : shared.carried (fun _ => none) = shared.calls.countP Call.carriesSize := by
  rw [carried, arrivals, List.countP_map]
  congr 1
  funext call
  cases call <;> rfl

/-- The measurement that a step promises: one, if it begins an insert that is due. -/
def promised (estimate : α → Option UInt64) (shared : SharedQueue α) : Event α → Nat
  | .insert _ entry => (shared.scales.sample (estimate entry)).isSome.toNat
  | _ => 0

theorem samples_fold (capacity : Capacity) (size : Option UInt64) :
    (capacity.fold size).samples = capacity.samples + size.isSome.toNat := by
  cases size <;> rfl

/-- The measurements in the average and those on their way there. -/
theorem samples_of_sampled (sampled : Sampled estimate shared event next) :
    next.queue.capacity.samples + next.carried estimate =
      shared.queue.capacity.samples + shared.carried estimate + shared.promised estimate event := by
  have none : event.offers estimate = [] → shared.promised estimate event = 0 := by
    cases event <;> simp [Event.offers, promised]
  cases sampled with
  | offered caller entry begins was scales arrivals =>
    have kept : next.queue.capacity = shared.queue.capacity := congrArg Scales.capacity scales
    have counted := countP_set_add (fun arrival => arrival.join.isSome)
      (some (shared.scales.sample (estimate entry))) was
    rw [begins, promised, carried, arrivals, kept]
    simp only [Option.join_none, Option.join_some, Option.isSome_none, Bool.toNat_false] at counted
    rw [carried]
    omega
  | landed caller size silent was scales arrivals =>
    have folded : next.queue.capacity = shared.queue.capacity.fold size :=
      congrArg Scales.capacity scales
    have counted := countP_set_add (fun arrival => arrival.join.isSome) Option.none was
    rw [none silent, carried, arrivals, folded, samples_fold, carried]
    simp only [Option.join_none, Option.join_some, Option.isSome_none, Bool.toNat_false] at counted
    omega
  | passed silent scales arrivals =>
    have kept : next.queue.capacity = shared.queue.capacity := congrArg Scales.capacity scales
    rw [none silent, carried, arrivals, kept, carried, Nat.add_zero]

/-- A measurement is carried from then on, and it is one byte at least. -/
theorem carried_of_measured (stepped : shared.step (.measured caller size) = some next) :
    ∃ entry, shared.calls[caller]? = some (.measuring entry) ∧
      next = shared.setCall caller (.inserting entry (some (measuredSize size))) := by
  dsimp only [step] at stepped
  split at stepped
  · rename_i entry found
    cases stepped
    exact ⟨entry, found, rfl⟩
  · contradiction

theorem one_le_measuredSize (estimate : UInt64) : 1 ≤ (measuredSize estimate).toNat := by
  rw [measuredSize, UInt64.toNat_max]
  exact Nat.le_max_right _ _

theorem mem_arrivals_iff :
    some (some size) ∈ shared.arrivals (fun _ => none) ↔
      ∃ entry, .inserting entry (some size) ∈ shared.calls := by
  constructor
  · intro found
    obtain ⟨call, there, carries⟩ := List.mem_map.mp found
    cases call <;> simp_all [Call.arrival]
    exact ⟨_, there⟩
  · rintro ⟨entry, there⟩
    exact List.mem_map_of_mem (f := Call.arrival fun _ => none) there

/-- A step that is not a measurement brings no size along. -/
theorem mem_arrivals_of_step (other : event.isMeasured = false)
    (stepped : shared.step event = some next)
    (found : some (some size) ∈ next.arrivals (fun _ => none)) :
    some (some size) ∈ shared.arrivals (fun _ => none) := by
  have none : ∀ due : Bool, (if due then Option.map measuredSize none else none) = none :=
    fun due => ite_self _
  cases sampled_of_unmeasured other stepped with
  | offered caller entry begins was scales arrivals =>
    rw [Scales.sample, none] at arrivals
    rw [arrivals] at found
    rcases List.mem_or_eq_of_mem_set found with before | new
    · exact before
    · cases new
  | landed caller size silent was scales arrivals =>
    rw [arrivals] at found
    rcases List.mem_or_eq_of_mem_set found with before | new
    · exact before
    · cases new
  | passed silent scales arrivals =>
    rwa [arrivals] at found

/-! ### Every step and every run -/

theorem returns_cons {rest : List (Event α)}
    (returns : ∀ caller, .measuringPanicked caller ∉ event :: rest) :
    (∀ caller, event ≠ .measuringPanicked caller) ∧
      ∀ caller, .measuringPanicked caller ∉ rest := by
  constructor
  · rintro caller rfl
    exact returns caller List.mem_cons_self
  · exact fun caller found => returns caller (List.mem_cons_of_mem event found)

/-- So many inserts have begun and so many entries were measured. -/
structure Metered (config : ExecutorConfig) (offers measured : Nat) (shared : SharedQueue α) :
    Prop where
  sampler : shared.sampler = { Sampler.ofConfig config with seen := UInt64.ofNat offers }
  /-- Each entry that was picked is folded in, or an insert brings it. -/
  picked : shared.queue.capacity.samples + shared.calls.countP Call.bringsSample =
    ((Sampler.ofConfig config).due offers).count true
  measured : shared.queue.capacity.samples + shared.calls.countP Call.carriesSize = measured
  sizes : ∀ entry size, .inserting entry (some size) ∈ shared.calls → 1 ≤ size.toNat

variable {config : ExecutorConfig} {offers measured : Nat}

theorem metered_start (config : ExecutorConfig) (producers callers : Nat) :
    (start config producers callers : SharedQueue α).Metered config 0 0 := by
  have nobody : ∀ test : Call α → Bool, test .idle = false →
      (List.replicate callers .idle).countP test = 0 := by
    intro test fails
    rw [List.countP_replicate, if_neg (by simp [fails])]
  refine ⟨rfl, ?_, ?_, fun entry size found => ?_⟩
  · exact (Nat.zero_add _).trans (nobody Call.bringsSample rfl)
  · exact (Nat.zero_add _).trans (nobody Call.carriesSize rfl)
  · exact absurd (List.eq_of_mem_replicate found) (by simp)

namespace Metered

theorem isDue_eq (metered : shared.Metered config offers measured) :
    shared.sampler.isDue shared.sampler.seen =
      (Sampler.ofConfig config).isDue (UInt64.ofNat offers) := by
  rw [metered.sampler]
  rfl

theorem sampler_step (metered : shared.Metered config offers measured)
    (stepped : shared.step event = some next) :
    next.sampler = { Sampler.ofConfig config with
      seen := UInt64.ofNat (offers + event.isInsert.toNat) } := by
  rw [sampler_of_step stepped, metered.sampler]
  cases event.isInsert with
  | false => rfl
  | true =>
    rw [Bool.toNat_true, UInt64.ofNat_add]
    rfl

theorem picked_step (metered : shared.Metered config offers measured)
    (returns : ∀ caller, event ≠ .measuringPanicked caller)
    (stepped : shared.step event = some next) :
    next.queue.capacity.samples + next.calls.countP Call.bringsSample =
      ((Sampler.ofConfig config).due (offers + event.isInsert.toNat)).count true := by
  have promise : ∀ size : UInt64, ((Sampler.ofConfig config).due offers).count true +
      shared.promised (fun _ => some size) event =
        ((Sampler.ofConfig config).due (offers + event.isInsert.toNat)).count true := by
    intro size
    cases event with
    | insert caller entry =>
      have due := metered.isDue_eq
      simp only [promised, Scales.sample, scales, Sampler.draw, due, Event.isInsert,
        Bool.toNat_true, Sampler.due_succ, List.count_append]
      cases (Sampler.ofConfig config).isDue (UInt64.ofNat offers) <;> rfl
    | measured | measuringPanicked | pull | enter | notify | report | close | markDone | leave => rfl
  obtain ⟨size, sampled⟩ := sampled_of_estimated returns stepped
  have counted := samples_of_sampled sampled
  rwa [carried_some, carried_some, metered.picked, promise] at counted

theorem measured_step (metered : shared.Metered config offers measured)
    (stepped : shared.step event = some next) :
    next.queue.capacity.samples + next.calls.countP Call.carriesSize =
      measured + event.isMeasured.toNat := by
  cases other : event.isMeasured with
  | false =>
    have counted := samples_of_sampled (sampled_of_unmeasured other stepped)
    have none : shared.promised (fun _ => none) event = 0 := by
      cases event with
      | insert caller entry =>
        simp only [promised, Scales.sample]
        cases shared.scales.sampler.draw.1 <;> rfl
      | measured | measuringPanicked | pull | enter | notify | report | close | markDone
      | leave => rfl
    rwa [carried_none, carried_none, metered.measured, none] at counted
  | true =>
    obtain ⟨caller, size, rfl⟩ := Event.eq_of_isMeasured other
    obtain ⟨entry, found, rfl⟩ := carried_of_measured stepped
    have gained := countP_set_gain Call.carriesSize
      (.inserting entry (some (measuredSize size))) found rfl rfl
    rw [Bool.toNat_true, ← metered.measured, Nat.add_assoc]
    exact congrArg _ gained

theorem sizes_step (metered : shared.Metered config offers measured)
    (stepped : shared.step event = some next) :
    ∀ entry size, .inserting entry (some size) ∈ next.calls → 1 ≤ size.toNat := by
  intro entry size found
  cases other : event.isMeasured with
  | false =>
    have before := mem_arrivals_of_step other stepped (mem_arrivals_iff.mpr ⟨entry, found⟩)
    obtain ⟨entry, there⟩ := mem_arrivals_iff.mp before
    exact metered.sizes entry size there
  | true =>
    obtain ⟨caller, estimate, rfl⟩ := Event.eq_of_isMeasured other
    obtain ⟨mine, -, rfl⟩ := carried_of_measured stepped
    rcases List.mem_or_eq_of_mem_set found with before | new
    · exact metered.sizes entry size before
    · cases new
      exact one_le_measuredSize _

/-- Every step of a run in which the estimator returns. -/
theorem step (metered : shared.Metered config offers measured)
    (returns : ∀ caller, event ≠ .measuringPanicked caller)
    (stepped : shared.step event = some next) :
    next.Metered config (offers + event.isInsert.toNat) (measured + event.isMeasured.toNat) :=
  ⟨metered.sampler_step stepped, metered.picked_step returns stepped,
    metered.measured_step stepped, metered.sizes_step stepped⟩

theorem run (metered : shared.Metered config offers measured)
    (returns : ∀ caller, .measuringPanicked caller ∉ events)
    (ran : shared.run events = some final) :
    final.Metered config (offers + events.countP Event.isInsert)
      (measured + events.countP Event.isMeasured) := by
  induction events generalizing shared offers measured with
  | nil =>
    cases ran
    exact metered
  | cons event rest ih =>
    obtain ⟨middle, stepped, ran⟩ := Option.bind_eq_some_iff.mp ran
    obtain ⟨first, later⟩ := returns_cons returns
    rw [countP_cons_toNat, countP_cons_toNat, ← Nat.add_assoc, ← Nat.add_assoc]
    exact ih (metered.step first stepped) later ran

/-- What is picked in a run: by induction on its steps, each of which draws at most one number. -/
theorem picks_eq (metered : shared.Metered config offers measured)
    (returns : ∀ caller, .measuringPanicked caller ∉ events)
    (ran : shared.run events = some final) :
    shared.picks events = (List.range' offers (events.countP Event.isInsert)).map
      fun number => (Sampler.ofConfig config).isDue (UInt64.ofNat number) := by
  induction events generalizing shared offers measured with
  | nil => rfl
  | cons event rest ih =>
    obtain ⟨middle, stepped, ran⟩ := Option.bind_eq_some_iff.mp ran
    obtain ⟨first, later⟩ := returns_cons returns
    have onward := ih (metered.step first stepped) later ran
    rw [picks, stepped, countP_cons_toNat]
    dsimp only
    rw [onward, List.range'_append_1.symm, List.map_append]
    congr 1
    cases event with
    | insert caller entry =>
      rw [pick?, isPicked_of_insert stepped, metered.isDue_eq]
      rfl
    | measured | measuringPanicked | pull | enter | notify | report | close | markDone | leave => rfl

/-- Where no insert is on its way, everything picked is folded in. -/
theorem samples_of_settled (metered : shared.Metered config offers measured)
    (settled : ∀ call ∈ shared.calls, call.isArriving = false) :
    shared.queue.capacity.samples = ((Sampler.ofConfig config).due offers).count true := by
  have nobody : shared.calls.countP Call.bringsSample = 0 := by
    apply List.countP_eq_zero.mpr
    intro call there brings
    have arriving := Call.isArriving_of_bringsSample brings
    rw [settled call there] at arriving
    contradiction
  have picked := metered.picked
  rwa [nobody] at picked

end Metered

/-! ### The count -/

/-- Take any settings with a rate that is not zero and any run in which the estimator returns and
fewer than `2 ^ 64` inserts begin, by any number of threads in any interleaving and with any
outcome.  As many entries are measured or being measured as there are in the warm-up and, past it,
groups of as many as the rate says; the first entry is, and of any such group exactly one.  Every
size counts as one byte at least; and where no insert is between drawing its number and folding in
what was measured, the average is that of exactly so many measurements. -/
theorem sampling_count {producers callers : Nat} (positive : 1 ≤ config.sampleRate)
    (returns : ∀ caller, .measuringPanicked caller ∉ events)
    (ran : (start config producers callers).run events = some final)
    (fewer : events.countP Event.isInsert < 2 ^ 64) :
    let warmup := config.sampleWarmup.toNat
    let rate := config.sampleRate.toNat
    let offers := events.countP Event.isInsert
    let picks := (start config producers callers).picks events
    let quota := min offers warmup + (offers - warmup) ⌈/⌉ rate
    (picks.length = offers ∧ final.sampler.seen.toNat = offers) ∧
      (picks.count true = quota ∧
        events.countP Event.isMeasured + final.calls.countP Call.isMeasuring = quota) ∧
      (0 < offers → picks.head? = some true) ∧
      (∀ first, warmup ≤ first → first + rate ≤ offers →
        ((picks.drop first).take rate).count true = 1) ∧
      (∀ entry size, .inserting entry (some size) ∈ final.calls → 1 ≤ size.toNat) ∧
      ((∀ call ∈ final.calls, call.isArriving = false) →
        final.queue.capacity.samples = quota) := by
  intro warmup rate offers picks quota
  have metered := (metered_start config producers callers).run returns ran
  have picked : picks = (Sampler.ofConfig config).due offers := by
    have along := (metered_start config producers callers).picks_eq returns ran
    rwa [← List.range_eq_range'] at along
  rw [Nat.zero_add, Nat.zero_add] at metered
  have rateWord : (Sampler.ofConfig config).rate.toNat = rate :=
    (UInt64.toNat_max _ 1).trans (Nat.max_eq_left (UInt64.le_iff_toNat_le.mp positive))
  have groups : 0 < (Sampler.ofConfig config).rate.toNat := by
    rw [rateWord]
    exact UInt64.le_iff_toNat_le.mp positive
  have counted : ((Sampler.ofConfig config).due offers).count true = quota := by
    rw [Sampler.count_due groups fewer.le, rateWord]
    rfl
  refine ⟨⟨?length, ?seen⟩, ⟨?picked, ?measured⟩, ?first, ?groups, metered.sizes, ?settled⟩
  case length => rw [picked, Sampler.length_due]
  case seen =>
    rw [metered.sampler]
    exact UInt64.toNat_ofNat_of_lt' fewer
  case picked => rw [picked, counted]
  case measured =>
    have folded := metered.measured
    have brought := metered.picked
    rw [counted, Call.countP_bringsSample] at brought
    omega
  case first =>
    intro offered
    rw [picked]
    exact Sampler.head?_due offered
  case groups =>
    intro first past inside
    rw [picked, ← rateWord]
    exact Sampler.count_due_window groups past (by rwa [rateWord]) fewer.le
  case settled =>
    intro settled
    rw [metered.samples_of_settled settled, counted]

/-- The second entry is measured and inserted before the first one, which then waits; the third is
not measured, and the fourth is, although the queue is closed by then. -/
def overtaking : List (Event Nat) :=
  [.insert 0 7, .insert 1 8, .measured 1 0, .enter 1, .insert 2 9, .enter 2, .measured 0 100,
    .enter 0, .close 3, .insert 4 5, .measured 4 3, .enter 4]

theorem sampling_count_inhabited :
    ∃ final : SharedQueue Nat,
      (start { writeBufferLimitBytes := 10, sampleWarmup := 1, sampleRate := 2 } 1 5).run
          overtaking = some final ∧
        final.calls[0]? = some (.awaitingRoom 7) ∧ final.reply? 4 = some .refused ∧
        ((start { writeBufferLimitBytes := 10, sampleWarmup := 1, sampleRate := 2 } 1 5).picks
          overtaking).count true = 3 ∧
        final.queue.capacity.samples = 3 := by
  have runs : ((start { writeBufferLimitBytes := 10, sampleWarmup := 1, sampleRate := 2 } 1 5).run
      overtaking).map (fun final : SharedQueue Nat =>
        decide (final.calls[0]? = some (.awaitingRoom 7) ∧ final.reply? 4 = some .refused ∧
          ∀ call ∈ final.calls, call.isArriving = false)) = some true := by
    decide +kernel
  obtain ⟨final, ran, holds⟩ := Option.map_eq_some_iff.mp runs
  obtain ⟨waits, refused, settled⟩ := of_decide_eq_true holds
  have returns : ∀ caller, Event.measuringPanicked caller ∉ overtaking := by
    intro caller
    simp [overtaking]
  obtain ⟨-, ⟨picked, -⟩, -, -, -, folded⟩ := sampling_count (by decide) returns ran (by decide)
  exact ⟨final, ran, waits, refused, picked, folded settled⟩

end SharedQueue

end BoundedIngest

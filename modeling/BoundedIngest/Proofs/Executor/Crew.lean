/-
Module: BoundedIngest.Proofs.Executor.Crew
Purpose: Whom the call that executes has spawned, and what it has heard from them.
Main exports:
  Crew, Undisturbed.crew
-/
import BoundedIngest.Proofs.Executor.Calm
import BoundedIngest.Proofs.Executor.Naming

namespace BoundedIngest

variable {ρ α β : Type}

namespace ExecutePhase

/-- The call has spawned nobody, and perhaps never will. -/
def isEarly : ExecutePhase β → Bool
  | .entering | .takingParts | .takingSender _ | .takingReceiver _ _ | .starting | .spawning 0
  | .panicked _ => true
  | _ => false

/-- The call has spawned everybody. -/
def isManned : ExecutePhase β → Bool
  | .waiting | .checkingFlag | .checkingSlot | .judging _ | .settling _ | .recording _
  | .returned _ => true
  | _ => false

/-- The call has received no signal. -/
def isListening : ExecutePhase β → Bool
  | .judging _ | .settling _ | .recording _ | .returned _ => false
  | _ => true

end ExecutePhase

structure Crew (config : ExecutorConfig) (executor : Executor ρ α β) (history : History ρ α β) :
    Prop where
  settings : executor.config = config
  spawned : ∀ worker, executor.executes = [.spawning worker] → ∀ index < worker,
    executor.snapshot.phases[index]? ≠ some .unborn
  manned : ∀ phase ∈ executor.executes, phase.isManned = true →
    .unborn ∉ executor.snapshot.phases ∧ executor.consumer.phase ≠ .unborn
  listening : (∀ phase ∈ executor.executes, phase.isListening = true) →
    executor.channel.messages = history.signals
  blank : (∀ phase ∈ executor.executes, phase.isEarly = true) →
    executor.snapshot.Unborn 0 ∧ history.pushed = [] ∧ history.requests = []
  named : ∀ phase ∈ executor.executes, phase.isEarly = false → ¬ config.HasNul
  unnamed : ∀ panic, .panicked panic ∈ executor.executes → config.HasNul

namespace Crew

variable {config : ExecutorConfig} {executor next : Executor ρ α β} {history later : History ρ α β}
  {index : Nat} {event : Executor.Event ρ α β}

/-- A step of a worker, or of a call on the queue, once somebody was spawned. -/
theorem work (crew : Crew config executor history) (settings : next.config = executor.config)
    (executes : next.executes = executor.executes)
    (producers : ∀ index : Nat, next.snapshot.phases[index]? = some ProducerPhase.unborn →
      executor.snapshot.phases[index]? = some ProducerPhase.unborn)
    (consumer : next.consumer.phase = .unborn → executor.consumer.phase = .unborn)
    (listening : executor.channel.messages = history.signals →
      next.channel.messages = later.signals)
    (blank : executor.snapshot.Unborn 0 → history.pushed = [] ∧ history.requests = [] →
      next.snapshot.Unborn 0 ∧ later.pushed = [] ∧ later.requests = []) :
    Crew config next later := by
  constructor
  · rw [settings, crew.settings]
  · rw [executes]
    exact fun worker only index before unborn =>
      crew.spawned worker only index before (producers index unborn)
  · rw [executes]
    intro phase found manned
    obtain ⟨everybody, alive⟩ := crew.manned phase found manned
    refine ⟨fun unborn => everybody ?_, fun unborn => alive (consumer unborn)⟩
    obtain ⟨index, here⟩ := List.mem_iff_getElem?.mp unborn
    exact List.mem_of_getElem? (producers index here)
  · rw [executes]
    exact fun all => listening (crew.listening all)
  · rw [executes]
    intro all
    obtain ⟨unborn, pushed⟩ := crew.blank all
    exact blank unborn pushed
  · rw [executes]
    exact crew.named
  · rw [executes]
    exact crew.unnamed

/-- A step of a call on the queue. -/
theorem queue {shared : SharedQueue α} (crew : Crew config executor history)
    (pushed : executor.snapshot.Unborn 0 →
      (history.extend executor.snapshot event
        ({ executor with shared } : Executor ρ α β).snapshot).pushed = history.pushed)
    (others : ∀ act, event ≠ .consumer act) :
    Crew config { executor with shared } (history.extend executor.snapshot event
      ({ executor with shared } : Executor ρ α β).snapshot) := by
  have signals : (history.extend executor.snapshot event
      ({ executor with shared } : Executor ρ α β).snapshot).signals = history.signals :=
    History.signals_extend_same (Nat.le_refl _)
  refine crew.work rfl rfl (fun _ unborn => unborn) id (fun same => ?_) fun unborn none => ?_
  · rw [signals]
    exact same
  · rw [pushed unborn, History.requests_extend_others others]
    exact ⟨unborn, none⟩

/-- As long as nobody was spawned, nobody calls on the queue. -/
theorem pushed_of_unborn {caller : Nat} (agreement : executor.snapshot.Agreement)
    (unborn : executor.snapshot.Unborn 0)
    (stepped : executor.step (.enterQueue caller) = some next) :
    (history.extend executor.snapshot (.enterQueue caller) next.snapshot).pushed =
      history.pushed := by
  have nobody : ∀ {after : Snapshot ρ α β}, ¬ QueueMove executor.snapshot caller after := by
    intro after move
    have inserts : ∀ entry, executor.snapshot.outlines[caller]? ≠ some (.inserting entry) := by
      intro entry was
      have inserting := agreement.inserting was rfl
      have born := unborn.2 caller _ (Nat.zero_le _) inserting
      contradiction
    have pulls : executor.snapshot.outlines[caller]? ≠ some .pulling := by
      intro was
      obtain ⟨-, pulling⟩ := agreement.pulling was rfl
      rw [unborn.1] at pulling
      contradiction
    cases move with
    | refused entry was reason => exact absurd was (inserts entry)
    | pushed entry was stillOpen => exact absurd was (inserts entry)
    | taken entry rest was stillOpen front => exact absurd was pulls
    | endedClosed was reason => exact absurd was pulls
    | endedDone was reason => exact absurd was pulls
  rcases Executor.snapshot_enter stepped with move | same
  · exact absurd move nobody
  · rw [same]
    simp [History.extend]

/-- A producer that goes on was born and is not unborn again. -/
theorem producer {worker : ProducerWorker ρ} {act : Executor.ProducerAct ρ α}
    (crew : Crew config executor history) (found : executor.producers[index]? = some worker)
    (step : Executor.ProducerStep executor index worker act next) :
    Crew config next (history.extend executor.snapshot (.producer index act) next.snapshot) := by
  have here := Executor.phases_getElem? found
  have turn : ∀ {after : Executor ρ α β} {new : ProducerPhase ρ}, worker.phase ≠ .unborn →
      new ≠ .unborn → after.config = executor.config → after.executes = executor.executes →
      after.snapshot.phases = executor.snapshot.phases.set index new →
      after.consumer = executor.consumer → after.channel = executor.channel →
      Crew config after
        (history.extend executor.snapshot (.producer index act) after.snapshot) := by
    intro after new alive born settings executes phases consumer channel
    refine crew.work settings executes (fun other unborn => ?_) (fun unborn => ?_) (fun same => ?_)
      fun unborn none => ?_
    · rw [phases] at unborn
      by_cases same : index = other
      · subst same
        rw [List.getElem?_set_self (List.getElem?_eq_some_iff.mp here).1] at unborn
        exact absurd (Option.some.inj unborn) born
      · rwa [List.getElem?_set_ne same] at unborn
    · rwa [consumer] at unborn
    · rw [channel, same]
      have messages : after.snapshot.messages = executor.snapshot.messages :=
        congrArg Channel.messages channel
      rw [History.signals_extend_same (Nat.le_of_eq (by rw [messages]))]
    · exact absurd (unborn.2 index _ (Nat.zero_le _) here) alive
  cases step with
  | hooked was =>
    exact turn (by simp [was]) (by simp) rfl rfl
      (congrArg Snapshot.phases (Executor.snapshot_setProducerPhase index _)) rfl rfl
  | offered answer record was =>
    exact turn (by simp [was]) (by simp) rfl rfl
      (congrArg Snapshot.phases (Executor.snapshot_setProducerPhase index _)) rfl rfl
  | exhausted answer was =>
    exact turn (by simp [was]) (by simp) rfl rfl
      (congrArg Snapshot.phases (Executor.snapshot_setProducerPhase index _)) rfl rfl
  | checked record was =>
    exact turn (by simp [was]) (by simp) rfl rfl
      (congrArg Snapshot.phases (Executor.snapshot_setProducerPhase index _)) rfl rfl
  | inserts record entry shared was began =>
    exact turn (by simp [was]) (by simp) rfl rfl
      (congrArg Snapshot.phases (Executor.snapshot_setProducerPhase index _)) rfl rfl
  | measured size shared was folded =>
    have still : executor.snapshot.phases = executor.snapshot.phases.set index worker.phase :=
      (set_eq_self here).symm
    exact turn (by simp [was]) (by simp [was]) rfl rfl still rfl rfl
  | accepted shared was replied left =>
    exact turn (by simp [was]) (by simp) rfl rfl
      (congrArg Snapshot.phases (Executor.snapshot_setProducer index _)) rfl rfl
  | reported measurement was =>
    exact turn (by simp [was]) (by simp) rfl rfl
      (congrArg Snapshot.phases (Executor.snapshot_setProducerPhase index _)) rfl rfl
  | marked was =>
    exact turn (by simp [was]) (by simp) rfl rfl
      (congrArg Snapshot.phases (Executor.snapshot_setProducerPhase index _)) rfl rfl

/-- A consumer that goes on was born and is not unborn again. -/
theorem consumer {act : Executor.ConsumerAct β} (crew : Crew config executor history)
    (step : Executor.ConsumerStep executor act next) :
    Crew config next (history.extend executor.snapshot (.consumer act) next.snapshot) := by
  have turn : ∀ {after : Executor ρ α β}, executor.consumer.phase ≠ .unborn →
      after.consumer.phase ≠ .unborn → after.config = executor.config →
      after.executes = executor.executes → after.producers = executor.producers →
      (∃ sent, after.channel.messages = executor.channel.messages ++ sent) →
      Crew config after (history.extend executor.snapshot (.consumer act) after.snapshot) := by
    rintro after alive born settings executes producers ⟨sent, messages⟩
    refine crew.work settings executes (fun index unborn => ?_) (fun unborn => absurd unborn born)
      (fun same => ?_) fun unborn _ => absurd unborn.1 alive
    · have phases : after.snapshot.phases = executor.snapshot.phases :=
        congrArg (List.map ProducerWorker.phase) producers
      rwa [phases] at unborn
    · have carried : after.snapshot.messages = executor.snapshot.messages ++ sent := messages
      rw [History.signals_extend_append carried, ← same]
      exact messages
  have silent : ∀ messages : List (Signal β), ∃ sent, messages = messages ++ sent :=
    fun messages => ⟨[], (List.append_nil messages).symm⟩
  cases step with
  | starts shared was began =>
    exact turn (by simp [was]) (by simp [Executor.setConsumerPhase]) rfl rfl rfl (silent _)
  | goesOn entry count shared was began =>
    exact turn (by simp [was]) (by simp) rfl rfl rfl (silent _)
  | receives entry shared was replied left =>
    exact turn (by simp [was]) (by simp [Executor.setConsumerPhase]) rfl rfl rfl (silent _)
  | drains shared was replied left =>
    exact turn (by simp [was]) (by simp [Executor.setConsumerPhase]) rfl rfl rfl (silent _)
  | reports measurement was =>
    exact turn (by simp [was]) (by simp [Executor.setConsumerPhase, Executor.record]) rfl rfl rfl
      (silent _)
  | finished was =>
    exact turn (by simp [was]) (by simp [Executor.setConsumerPhase]) rfl rfl rfl (silent _)
  | concluded result was =>
    exact turn (by simp [was]) (by simp [Executor.setConsumerPhase]) rfl rfl rfl (silent _)
  | delivers result was =>
    exact turn (by simp [was]) (by simp [Executor.endConsumer, Executor.setConsumerPhase]) rfl rfl
      rfl ⟨_, rfl⟩

/-- A step in which the call that executes does nothing to workers. -/
theorem alone {call : Nat} {act : Executor.ExecuteAct} {old new : ExecutePhase β}
    (crew : Crew config executor history)
    (only : executor.executes = [old]) (executes : next.executes = executor.executes.set 0 new)
    (workers : Executor.SameWorkers executor next)
    (messages : next.channel.messages.length ≤ executor.channel.messages.length)
    (spawned : ∀ worker, new = .spawning worker → worker = 0)
    (manned : new.isManned = true → old.isManned = true)
    (listening : new.isListening = true →
      old.isListening = true ∧ next.channel.messages = executor.channel.messages)
    (early : new.isEarly = old.isEarly) (nul : ∀ panic, new = .panicked panic → config.HasNul) :
    Crew config next (history.extend executor.snapshot (.executing call act) next.snapshot) := by
  have phases : next.snapshot.phases = executor.snapshot.phases :=
    congrArg (List.map ProducerWorker.phase) workers.producers
  rw [Executor.executes_set only] at executes
  constructor
  · rw [workers.config, crew.settings]
  · intro worker now
    rw [executes] at now
    rw [spawned worker (List.singleton_inj.mp now)]
    exact fun index before => absurd before (Nat.not_lt_zero index)
  · rw [executes, phases, workers.consumer]
    intro phase found all
    cases List.mem_singleton.mp found
    exact crew.manned old (by simp [only]) (manned all)
  · rw [executes]
    intro all
    obtain ⟨before, same⟩ := listening (all new (List.mem_singleton_self new))
    have heard := crew.listening (by simpa [only] using before)
    rw [same, heard]
    exact (History.signals_extend_same messages).symm
  · rw [executes]
    intro all
    have before : old.isEarly = true := early ▸ all new (List.mem_singleton_self new)
    obtain ⟨unborn, none⟩ := crew.blank (by simpa [only] using before)
    refine ⟨?_, none⟩
    rw [Snapshot.Unborn, phases]
    exact ⟨(congrArg ConsumerWorker.phase workers.consumer).trans unborn.1, unborn.2⟩
  · rw [executes]
    intro phase found late
    cases List.mem_singleton.mp found
    exact crew.named old (by simp [only]) (early ▸ late)
  · rw [executes]
    intro panic found
    exact nul panic (List.mem_singleton.mp found).symm

/-- A worker is spawned, so its name is one that a thread can have. -/
theorem spawns {call worker : Nat} {act : Executor.ExecuteAct} {new : ExecutePhase β}
    (crew : Crew config executor history) (only : executor.executes = [.spawning worker])
    (valid : threadNamePanic? (executor.workerName worker) = none)
    (executes : next.executes = executor.executes.set 0 new)
    (settings : next.config = executor.config)
    (messages : next.channel.messages = executor.channel.messages)
    (late : new.isEarly = false) (alive : ∀ panic, new ≠ .panicked panic)
    (spawned : ∀ reached, new = .spawning reached → ∀ index < reached,
      next.snapshot.phases[index]? ≠ some .unborn)
    (manned : new.isManned = true →
      .unborn ∉ next.snapshot.phases ∧ next.consumer.phase ≠ .unborn) :
    Crew config next (history.extend executor.snapshot (.executing call act) next.snapshot) := by
  rw [Executor.executes_set only] at executes
  have named : ¬ config.HasNul := by
    rw [← crew.settings]
    exact (executor.named_iff worker).mp valid
  constructor
  · rw [settings, crew.settings]
  · intro reached now
    rw [executes] at now
    exact spawned reached (List.singleton_inj.mp now)
  · rw [executes]
    intro phase found
    cases List.mem_singleton.mp found
    exact manned
  · intro listening
    have fewer : next.snapshot.messages.length ≤ executor.snapshot.messages.length :=
      Nat.le_of_eq (congrArg List.length messages)
    have heard := crew.listening (by simp [only, ExecutePhase.isListening])
    rw [messages, heard, History.signals_extend_same fewer]
  · rw [executes]
    intro all
    have early := all new (List.mem_singleton_self new)
    rw [late] at early
    contradiction
  · exact fun _ _ _ => named
  · rw [executes]
    intro panic found
    exact absurd (List.mem_singleton.mp found).symm (alive panic)

/-- A step of the call that executes. -/
theorem caller {phase : ExecutePhase β} {act : Executor.ExecuteAct}
    (crew : Crew config executor history) (calm : executor.Calm)
    (only : executor.executes = [phase]) (step : Executor.CallerStep executor phase act next) :
    Crew config next (history.extend executor.snapshot (.executing 0 act) next.snapshot) := by
  have everybody : ∀ worker, phase = .spawning worker → executor.consumerIndex ≤ worker →
      .unborn ∉ executor.snapshot.phases := by
    rintro worker rfl last unborn
    obtain ⟨index, here⟩ := List.mem_iff_getElem?.mp unborn
    have inside : index < executor.consumerIndex := by
      have found := (List.getElem?_eq_some_iff.mp here).1
      rwa [Executor.snapshot, List.length_map] at found
    exact crew.spawned worker only index (Nat.lt_of_lt_of_le inside last) here
  cases step with
  | enters | takesParts | takesSender | takesReceiver =>
    exact crew.alone only rfl {} (Nat.le_refl _) (by simp) id (fun _ => ⟨rfl, rfl⟩) rfl
      (by simp)
  | starts lifecycle =>
    exact crew.alone only rfl {} (Nat.le_refl _) (by simp) (by simp [ExecutePhase.isManned])
      (fun _ => ⟨rfl, rfl⟩) rfl (by simp)
  | fails worker panic unnamed =>
    have nul : config.HasNul := by
      by_cases hasNul : config.HasNul
      · exact hasNul
      · rw [← crew.settings, ← executor.named_iff worker, unnamed] at hasNul
        contradiction
    cases worker with
    | zero =>
      exact crew.alone only rfl {} (Nat.le_refl _) (by simp)
        (by simp [ExecutePhase.isManned]) (fun _ => ⟨rfl, rfl⟩) rfl fun _ _ => nul
    | succ before => exact absurd nul (crew.named (.spawning (before + 1)) (by simp [only]) rfl)
  | spawnsProducer worker named inside =>
    refine crew.spawns only named rfl rfl rfl rfl (by simp) ?_ (by simp [ExecutePhase.isManned])
    rintro reached same index before
    cases same
    have phases : ((executor.setProducerPhase worker
        (if executor.hooked then .hooking else .sourcing none)).setExecute 0
          (.spawning (worker + 1))).snapshot.phases = executor.snapshot.phases.set worker
            (if executor.hooked then .hooking else .sourcing none) :=
      congrArg Snapshot.phases (Executor.snapshot_setProducerPhase worker _)
    rw [phases]
    by_cases here : worker = index
    · subst here
      have long : worker < executor.snapshot.phases.length := by
        rwa [Executor.snapshot, List.length_map]
      rw [List.getElem?_set_self long]
      split <;> simp
    · rw [List.getElem?_set_ne here]
      exact crew.spawned worker only index (by omega)
  | spawnsHook worker named last =>
    exact crew.spawns only named rfl rfl rfl rfl (by simp) (by simp)
      fun _ => ⟨everybody worker rfl last, by simp [Executor.setConsumerPhase, Executor.setExecute]⟩
  | spawnsPull worker shared named last began =>
    exact crew.spawns only named rfl rfl rfl rfl (by simp) (by simp)
      fun _ => ⟨everybody worker rfl last, by simp [Executor.setConsumerPhase, Executor.setExecute]⟩
  | receives message rest front =>
    exact crew.alone only rfl {} (by simp [front]) (by simp) (fun _ => rfl)
      (by simp [ExecutePhase.isListening]) rfl (by simp)
  | givesUp empty alone =>
    have some := calm.connected.1
    omega
  | timesOut | checksFlag | checksSlot =>
    exact crew.alone only rfl {} (Nat.le_refl _) (by simp) id (fun _ => ⟨rfl, rfl⟩) rfl
      (by simp)
  | judges | settles | records =>
    exact crew.alone only rfl {} (Nat.le_refl _) (by simp) id
      (by simp [ExecutePhase.isListening]) rfl (by simp)

theorem begins (crew : Crew config executor history) (none : executor.executes = []) :
    Crew config { executor with executes := [.entering] }
      (history.extend executor.snapshot .execute
        ({ executor with executes := [.entering] } : Executor ρ α β).snapshot) := by
  have signals : (history.extend executor.snapshot .execute
      ({ executor with executes := [.entering] } : Executor ρ α β).snapshot).signals =
        history.signals := History.signals_extend_same (Nat.le_refl _)
  refine ⟨crew.settings, by simp, ?_, fun _ => ?_, fun _ => ?_, ?_, by simp⟩
  · simp [ExecutePhase.isManned]
  · rw [signals]
    exact crew.listening (by simp [none])
  · exact crew.blank (by simp [none])
  · simp [ExecutePhase.isEarly]

theorem stays (crew : Crew config executor history) (calm : executor.Calm)
    (agreement : executor.snapshot.Agreement) (step : Executor.CalmStep executor event next) :
    Crew config next (history.extend executor.snapshot event next.snapshot) := by
  cases step with
  | enters caller shared stepped =>
    have moved : executor.step (.enterQueue caller) = some { executor with shared } := by
      rw [Executor.step, Executor.stepQueue, stepped]
      rfl
    exact crew.queue (fun unborn => pushed_of_unborn agreement unborn moved) (by simp)
  | notifies caller target shared stepped => exact crew.queue (fun _ => rfl) (by simp)
  | reports caller shared stepped => exact crew.queue (fun _ => rfl) (by simp)
  | producer found step => exact crew.producer found step
  | consumer step => exact crew.consumer step
  | begins none => exact crew.begins none
  | caller only step => exact crew.caller calm only step

theorem create (config : ExecutorConfig) (hooked : Bool) (kinds : List SourceKind) :
    Crew config (Executor.create config hooked kinds : Executor ρ α β) {} := by
  refine ⟨rfl, ?_, ?_, fun _ => rfl, fun _ => ⟨?_, rfl, rfl⟩, ?_, ?_⟩
  · simp [Executor.create]
  · simp [Executor.create]
  · rw [Executor.snapshot_create]
    exact (Snapshot.started_start _).fresh rfl
  · simp [Executor.create]
  · simp [Executor.create]

end Crew

theorem Undisturbed.crew {assignment : Assignment ρ α} {config : ExecutorConfig} {hooked : Bool}
    {chronicle : Chronicle ρ α β} (undisturbed : Undisturbed assignment config hooked chronicle) :
    Crew config chronicle.executor chronicle.history := by
  induction undisturbed with
  | start => exact Crew.create config hooked _
  | step undisturbed permitted stepped ih =>
    have calm := undisturbed.calm
    have step := calm.step permitted (Chronicle.executor_of_step stepped)
    obtain ⟨executor, moved, rfl⟩ := Option.map_eq_some_iff.mp stepped
    exact ih.stays calm undisturbed.reached.agreement step

end BoundedIngest

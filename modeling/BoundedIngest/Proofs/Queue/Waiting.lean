/-
Module: BoundedIngest.Proofs.Queue.Waiting
Purpose: Whoever waits inside a queue has to wait, or somebody is on the way to wake it.
Main exports:
  SharedQueue.Attended, SharedQueue.Attended.step, SharedQueue.Attended.run
-/
import BoundedIngest.Proofs.Queue.Outline

namespace BoundedIngest

/-!
A notification is sent after the lock was released, and it wakes one waiter.  Meanwhile
others may push, pull and begin to wait.  So what keeps a waiter waiting is not that the
queue is full or empty, but that it is as soon as every call on its way has had its turn:
each such call accounts for one place, or for one entry.
-/

variable {α : Type}

namespace Call

/-- The call takes a place at its next turn, or wakes somebody who does. -/
def bringsRoom : Call α → Bool
  | .retryingInsert _ | .pulled .. => true
  | _ => false

/-- The call takes an entry at its next turn, or wakes somebody who does. -/
def bringsEntry : Call α → Bool
  | .retryingPull | .pushed .. => true
  | _ => false

/-- The call will wake every insert. -/
def wakesInserts : Call α → Bool
  | .closedRoom => true
  | _ => false

/-- The call will wake every pull. -/
def wakesPulls : Call α → Bool
  | .closedRoom | .closedEntries => true
  | _ => false

/-- The call is about to take the lock to insert. -/
def isInserting : Call α → Bool
  | .inserting .. | .retryingInsert _ => true
  | _ => false

/-- The call is about to take the lock to pull. -/
def isPulling : Call α → Bool
  | .pulling | .retryingPull => true
  | _ => false

/-- The call has yet to do something for others. -/
def isOnTheWay (call : Call α) : Bool :=
  (call.bringsRoom || call.bringsEntry) || (call.wakesInserts || call.wakesPulls)

end Call

namespace SharedQueue

structure Attended (shared : SharedQueue α) : Prop where
  positive : 1 ≤ shared.queue.capacity.limit
  room : shared.queue.closed = false → 0 < shared.calls.countP Call.isAwaitingRoom →
    shared.queue.capacity.limit ≤
      shared.queue.buffer.length + shared.calls.countP Call.bringsRoom
  entry : shared.queue.closed = false → 0 < shared.calls.countP Call.isAwaitingEntry →
    shared.queue.buffer.length ≤ shared.calls.countP Call.bringsEntry
  unfinished : shared.queue.closed = false → 0 < shared.calls.countP Call.isAwaitingEntry →
    shared.queue.producersFinished = false
  inserts : shared.queue.closed = true → 0 < shared.calls.countP Call.isAwaitingRoom →
    0 < shared.calls.countP Call.wakesInserts
  pulls : shared.queue.closed = true → 0 < shared.calls.countP Call.isAwaitingEntry →
    0 < shared.calls.countP Call.wakesPulls

variable {shared next : SharedQueue α} {caller : Nat}

theorem attended_start (config : ExecutorConfig) (producers callers : Nat) :
    (start config producers callers : SharedQueue α).Attended := by
  have nobody : ∀ test : Call α → Bool, test .idle = false →
      (start config producers callers : SharedQueue α).calls.countP test = 0 := by
    intro test fails
    simp [start, List.countP_replicate, fails]
  constructor
  · exact Nat.le_refl 1
  · rw [nobody Call.isAwaitingRoom rfl]
    exact fun _ waits => absurd waits (Nat.lt_irrefl 0)
  · rw [nobody Call.isAwaitingEntry rfl]
    exact fun _ waits => absurd waits (Nat.lt_irrefl 0)
  · rw [nobody Call.isAwaitingEntry rfl]
    exact fun _ waits => absurd waits (Nat.lt_irrefl 0)
  · exact fun closed => absurd closed (by simp [start, Queue.start])
  · exact fun closed => absurd closed (by simp [start, Queue.start])

/-- What `waits` needs is kept when one call is replaced: it holds as soon as a call begins
to wait, and a call gives up its contribution only if nobody waits or none is needed. -/
theorem kept_of_exchange {calls : List (Call α)} {old new : Call α} (waits brings : Call α → Bool)
    (enough : Nat → Prop) (mono : ∀ few many : Nat, few ≤ many → enough few → enough many)
    (found : calls[caller]? = some old)
    (before : 0 < calls.countP waits → enough (calls.countP brings))
    (begins : waits new = true → enough 0)
    (gives : brings old = true → brings new = true ∨ enough 0 ∨ calls.countP waits = 0)
    (after : 0 < (calls.set caller new).countP waits) :
    enough ((calls.set caller new).countP brings) := by
  have waiting := countP_set_add waits new found
  have bringing := countP_set_add brings new found
  by_cases now : waits new = true
  · exact mono _ _ (Nat.zero_le _) (begins now)
  · have still : 0 < calls.countP waits := by
      rw [Bool.not_eq_true] at now
      rw [now, Bool.toNat_false] at waiting
      omega
    by_cases did : brings old = true
    · rcases gives did with does | free | nobody
      · rw [did, does] at bringing
        exact mono _ _ (by omega) (before still)
      · exact mono _ _ (Nat.zero_le _) free
      · omega
    · rw [Bool.not_eq_true] at did
      rw [did, Bool.toNat_false] at bringing
      exact mono _ _ (by omega) (before still)

/-! ### Who waits after everybody was notified -/

theorem countP_notifyRoom_waiting (calls : List (Call α)) :
    (calls.map Call.notifyRoom).countP Call.isAwaitingRoom = 0 := by
  rw [List.countP_map, List.countP_eq_zero]
  intro call _
  cases call <;> simp [Call.notifyRoom, Call.isAwaitingRoom]

theorem countP_notifyEntry_waiting (calls : List (Call α)) :
    (calls.map Call.notifyEntry).countP Call.isAwaitingEntry = 0 := by
  rw [List.countP_map, List.countP_eq_zero]
  intro call _
  cases call <;> simp [Call.notifyEntry, Call.isAwaitingEntry]

/-- A test that does not see whether an insert waits for room. -/
theorem countP_notifyRoom_same (test : Call α → Bool)
    (blind : ∀ call, test (Call.notifyRoom call) = test call) (calls : List (Call α)) :
    (calls.map Call.notifyRoom).countP test = calls.countP test := by
  rw [List.countP_map]
  exact List.countP_congr fun call _ => by simp [blind call]

/-- A test that does not see whether a pull waits for an entry. -/
theorem countP_notifyEntry_same (test : Call α → Bool)
    (blind : ∀ call, test (Call.notifyEntry call) = test call) (calls : List (Call α)) :
    (calls.map Call.notifyEntry).countP test = calls.countP test := by
  rw [List.countP_map]
  exact List.countP_congr fun call _ => by simp [blind call]

namespace Attended

/-- A call goes from one stage to another and leaves the queue as it is.  If it begins to
wait, it has to; if it gives up what it was on its way for, nobody waits for that. -/
theorem setCall {old new : Call α} (attended : shared.Attended)
    (found : shared.calls[caller]? = some old)
    (waitsForRoom : new.isAwaitingRoom = true →
      shared.queue.closed = false ∧ shared.queue.capacity.limit ≤ shared.queue.buffer.length)
    (waitsForEntry : new.isAwaitingEntry = true →
      shared.queue.closed = false ∧ shared.queue.buffer = [] ∧
        shared.queue.producersFinished = false)
    (bringsRoom : old.bringsRoom = true → new.bringsRoom = true ∨ shared.queue.closed = true ∨
      shared.queue.capacity.limit ≤ shared.queue.buffer.length ∨
      shared.calls.countP Call.isAwaitingRoom = 0)
    (bringsEntry : old.bringsEntry = true → new.bringsEntry = true ∨
      shared.queue.closed = true ∨ shared.queue.buffer = [] ∨
      shared.calls.countP Call.isAwaitingEntry = 0)
    (wakesInserts : old.wakesInserts = true → new.wakesInserts = true ∨
      shared.calls.countP Call.isAwaitingRoom = 0)
    (wakesPulls : old.wakesPulls = true → new.wakesPulls = true ∨
      shared.calls.countP Call.isAwaitingEntry = 0) :
    (shared.setCall caller new).Attended := by
  have shut : ∀ {p : Prop}, shared.queue.closed = true → shared.queue.closed = false → p := by
    intro p closed stillOpen
    rw [closed] at stillOpen
    contradiction
  constructor
  · exact attended.positive
  · intro stillOpen
    refine kept_of_exchange Call.isAwaitingRoom Call.bringsRoom
      (shared.queue.capacity.limit ≤ shared.queue.buffer.length + ·)
      (fun few many fewer enough => by omega) found (attended.room stillOpen)
      (fun now => (waitsForRoom now).2) (fun did => ?_)
    rcases bringsRoom did with does | closed | full | nobody
    · exact .inl does
    · exact shut closed stillOpen
    · exact .inr (.inl full)
    · exact .inr (.inr nobody)
  · intro stillOpen
    refine kept_of_exchange Call.isAwaitingEntry Call.bringsEntry
      (shared.queue.buffer.length ≤ ·) (fun few many fewer enough => by omega) found
      (attended.entry stillOpen) (fun now => ?_) (fun did => ?_)
    · rw [(waitsForEntry now).2.1]
      exact Nat.le_refl 0
    · rcases bringsEntry did with does | closed | empty | nobody
      · exact .inl does
      · exact shut closed stillOpen
      · rw [empty]
        exact .inr (.inl (Nat.le_refl 0))
      · exact .inr (.inr nobody)
  · intro stillOpen
    exact kept_of_exchange Call.isAwaitingEntry (fun _ => false)
      (fun _ => shared.queue.producersFinished = false) (fun _ _ _ same => same) found
      (attended.unfinished stillOpen) (fun now => (waitsForEntry now).2.2)
      (fun did => absurd did (Bool.false_ne_true))
  · intro closed
    refine kept_of_exchange Call.isAwaitingRoom Call.wakesInserts (0 < ·)
      (fun few many fewer enough => by omega) found (attended.inserts closed)
      (fun now => shut closed (waitsForRoom now).1) (fun did => ?_)
    rcases wakesInserts did with does | nobody
    · exact .inl does
    · exact .inr (.inr nobody)
  · intro closed
    refine kept_of_exchange Call.isAwaitingEntry Call.wakesPulls (0 < ·)
      (fun few many fewer enough => by omega) found (attended.pulls closed)
      (fun now => shut closed (waitsForEntry now).1) (fun did => ?_)
    rcases wakesPulls did with does | nobody
    · exact .inl does
    · exact .inr (.inr nobody)

/-- A call that was on its way to wake nobody, and does not begin to wait. -/
theorem setCall_quiet {old new : Call α} (attended : shared.Attended)
    (found : shared.calls[caller]? = some old) (idle : old.isOnTheWay = false)
    (goesOn : new.isWaiting = false) : (shared.setCall caller new).Attended := by
  have idle : (old.bringsRoom = false ∧ old.bringsEntry = false) ∧
      old.wakesInserts = false ∧ old.wakesPulls = false := by
    simpa [Call.isOnTheWay] using idle
  have goesOn : new.isAwaitingRoom = false ∧ new.isAwaitingEntry = false := by
    simpa [Call.isWaiting] using goesOn
  apply attended.setCall found
  · simp [goesOn.1]
  · simp [goesOn.2]
  · simp [idle.1.1]
  · simp [idle.1.2]
  · simp [idle.2.1]
  · simp [idle.2.2]

/-- Nothing that attention rests on is changed. -/
theorem of_same (attended : shared.Attended) (queue : next.queue = shared.queue)
    (calls : next.calls = shared.calls) : next.Attended := by
  obtain ⟨positive, room, entry, unfinished, inserts, pulls⟩ := attended
  constructor <;> rw [queue] <;> try rw [calls]
  · exact positive
  · exact room
  · exact entry
  · exact unfinished
  · exact inserts
  · exact pulls

/-! ### Notifying everybody -/

/-- Once every waiting insert was notified, room may change as it likes. -/
theorem of_room (attended : shared.Attended)
    (buffer : next.queue.buffer = shared.queue.buffer)
    (closed : next.queue.closed = shared.queue.closed)
    (finished : next.queue.producersFinished = shared.queue.producersFinished)
    (positive : 1 ≤ next.queue.capacity.limit)
    (calls : next.calls = shared.calls.map Call.notifyRoom) : next.Attended := by
  have nobody : next.calls.countP Call.isAwaitingRoom = 0 := by
    rw [calls]
    exact countP_notifyRoom_waiting shared.calls
  have waiting : next.calls.countP Call.isAwaitingEntry =
      shared.calls.countP Call.isAwaitingEntry := by
    rw [calls]
    exact countP_notifyRoom_same Call.isAwaitingEntry (fun call => by cases call <;> rfl) shared.calls
  have bringing : next.calls.countP Call.bringsEntry =
      shared.calls.countP Call.bringsEntry := by
    rw [calls]
    exact countP_notifyRoom_same Call.bringsEntry (fun call => by cases call <;> rfl) shared.calls
  have waking : next.calls.countP Call.wakesPulls = shared.calls.countP Call.wakesPulls := by
    rw [calls]
    exact countP_notifyRoom_same Call.wakesPulls (fun call => by cases call <;> rfl) shared.calls
  constructor
  · exact positive
  · exact fun _ waits => absurd waits (by omega)
  · rw [closed, buffer, waiting, bringing]
    exact attended.entry
  · rw [closed, finished, waiting]
    exact attended.unfinished
  · exact fun _ waits => absurd waits (by omega)
  · rw [closed, waiting, waking]
    exact attended.pulls

/-- Once every waiting pull was notified, the producers may be done. -/
theorem of_entry (attended : shared.Attended)
    (buffer : next.queue.buffer = shared.queue.buffer)
    (closed : next.queue.closed = shared.queue.closed)
    (capacity : next.queue.capacity = shared.queue.capacity)
    (calls : next.calls = shared.calls.map Call.notifyEntry) : next.Attended := by
  have nobody : next.calls.countP Call.isAwaitingEntry = 0 := by
    rw [calls]
    exact countP_notifyEntry_waiting shared.calls
  have waiting : next.calls.countP Call.isAwaitingRoom =
      shared.calls.countP Call.isAwaitingRoom := by
    rw [calls]
    exact countP_notifyEntry_same Call.isAwaitingRoom (fun call => by cases call <;> rfl) shared.calls
  have bringing : next.calls.countP Call.bringsRoom = shared.calls.countP Call.bringsRoom := by
    rw [calls]
    exact countP_notifyEntry_same Call.bringsRoom (fun call => by cases call <;> rfl) shared.calls
  have waking : next.calls.countP Call.wakesInserts =
      shared.calls.countP Call.wakesInserts := by
    rw [calls]
    exact countP_notifyEntry_same Call.wakesInserts (fun call => by cases call <;> rfl) shared.calls
  constructor
  · rw [capacity]
    exact attended.positive
  · rw [closed, buffer, capacity, waiting, bringing]
    exact attended.room
  · exact fun _ waits => absurd waits (by omega)
  · exact fun _ waits => absurd waits (by omega)
  · rw [closed, waiting, waking]
    exact attended.inserts
  · exact fun _ waits => absurd waits (by omega)

/-! ### The critical section of an insert or a pull -/

/-- An insert that pushes owes a notification for its entry. -/
theorem pushes {old : Call α} {entry : α} {length capacity : Nat} {waited : Bool}
    (attended : shared.Attended) (found : shared.calls[caller]? = some old)
    (inserting : old.isInserting = true) (stillOpen : shared.queue.closed = false) :
    ({ shared with queue := shared.queue.push entry }.setCall caller
      (.pushed length capacity waited)).Attended := by
  have waits : old.isAwaitingRoom = false ∧ old.isAwaitingEntry = false ∧
      old.bringsEntry = false := by
    cases old <;> first | exact ⟨rfl, rfl, rfl⟩ | contradiction
  have forRoom := countP_set_same Call.isAwaitingRoom (.pushed length capacity waited)
    found waits.1.symm
  have forEntry := countP_set_same Call.isAwaitingEntry (.pushed length capacity waited)
    found waits.2.1.symm
  have bringsRoom := countP_le_set Call.bringsRoom (.pushed length capacity waited) found
  have bringsEntry := countP_set_gain Call.bringsEntry (.pushed length capacity waited)
    found waits.2.2 rfl
  have longer : (shared.queue.push entry).buffer.length = shared.queue.buffer.length + 1 :=
    List.length_append
  have shut : ∀ {p : Prop}, shared.queue.closed = true → p := by
    intro p closed
    rw [stillOpen] at closed
    contradiction
  constructor
  · exact attended.positive
  · intro _ waiting
    have before := attended.room stillOpen (Nat.lt_of_lt_of_eq waiting forRoom)
    change shared.queue.capacity.limit ≤ (shared.queue.push entry).buffer.length +
      (shared.calls.set caller _).countP Call.bringsRoom
    omega
  · intro _ waiting
    have before := attended.entry stillOpen (Nat.lt_of_lt_of_eq waiting forEntry)
    change (shared.queue.push entry).buffer.length ≤
      (shared.calls.set caller _).countP Call.bringsEntry
    omega
  · exact fun _ waiting => attended.unfinished stillOpen (Nat.lt_of_lt_of_eq waiting forEntry)
  · exact fun closed => shut closed
  · exact fun closed => shut closed

/-- A pull that takes an entry owes a notification for its place. -/
theorem takes {old : Call α} {entry : α} {queue : Queue α} {length capacity : Nat}
    (attended : shared.Attended) (found : shared.calls[caller]? = some old)
    (pulling : old.isPulling = true) (stillOpen : shared.queue.closed = false)
    (popped : shared.queue.pop? = some (entry, queue)) :
    ({ shared with queue }.setCall caller (.pulled entry length capacity)).Attended := by
  have waits : old.isAwaitingRoom = false ∧ old.isAwaitingEntry = false ∧
      old.bringsRoom = false := by
    cases old <;> first | exact ⟨rfl, rfl, rfl⟩ | contradiction
  have forRoom := countP_set_same Call.isAwaitingRoom (.pulled entry length capacity)
    found waits.1.symm
  have forEntry := countP_set_same Call.isAwaitingEntry (.pulled entry length capacity)
    found waits.2.1.symm
  have bringsRoom := countP_set_gain Call.bringsRoom (.pulled entry length capacity)
    found waits.2.2 rfl
  have bringsEntry := countP_le_set Call.bringsEntry (.pulled entry length capacity) found
  obtain ⟨rest, front, rfl⟩ := Queue.front_of_pop popped
  have shorter : shared.queue.buffer.length = rest.length + 1 := congrArg List.length front
  have shut : ∀ {p : Prop}, shared.queue.closed = true → p := by
    intro p closed
    rw [stillOpen] at closed
    contradiction
  constructor
  · exact attended.positive
  · intro _ waiting
    have before := attended.room stillOpen (Nat.lt_of_lt_of_eq waiting forRoom)
    change shared.queue.capacity.limit ≤ rest.length +
      (shared.calls.set caller _).countP Call.bringsRoom
    omega
  · intro _ waiting
    have before := attended.entry stillOpen (Nat.lt_of_lt_of_eq waiting forEntry)
    change rest.length ≤ (shared.calls.set caller _).countP Call.bringsEntry
    omega
  · exact fun _ waiting => attended.unfinished stillOpen (Nat.lt_of_lt_of_eq waiting forEntry)
  · exact fun closed => shut closed
  · exact fun closed => shut closed

theorem tryPush {old : Call α} {entry : α} {waited : Bool} (attended : shared.Attended)
    (found : shared.calls[caller]? = some old) (inserting : old.isInserting = true) :
    (shared.tryPush caller entry waited).Attended := by
  have quiet : old.bringsEntry = false ∧ old.wakesInserts = false ∧ old.wakesPulls = false := by
    cases old <;> first | exact ⟨rfl, rfl, rfl⟩ | contradiction
  unfold SharedQueue.tryPush
  split
  · rename_i closed
    apply attended.setCall found
    · exact fun waits => absurd waits Bool.false_ne_true
    · exact fun waits => absurd waits Bool.false_ne_true
    · exact fun _ => .inr (.inl closed)
    · simp [quiet.1]
    · simp [quiet.2.1]
    · simp [quiet.2.2]
  · rename_i notClosed
    have stillOpen : shared.queue.closed = false := by simpa using notClosed
    split
    · rename_i isFull
      have full : shared.queue.capacity.limit ≤ shared.queue.buffer.length :=
        of_decide_eq_true isFull
      apply attended.setCall found
      · exact fun _ => ⟨stillOpen, full⟩
      · exact fun waits => absurd waits Bool.false_ne_true
      · exact fun _ => .inr (.inr (.inl full))
      · simp [quiet.1]
      · simp [quiet.2.1]
      · simp [quiet.2.2]
    · exact attended.pushes found inserting stillOpen

theorem tryPull {old : Call α} (attended : shared.Attended)
    (found : shared.calls[caller]? = some old) (pulling : old.isPulling = true) :
    (shared.tryPull caller).Attended := by
  have quiet : old.bringsRoom = false ∧ old.wakesInserts = false ∧ old.wakesPulls = false := by
    cases old <;> first | exact ⟨rfl, rfl, rfl⟩ | contradiction
  unfold SharedQueue.tryPull
  split
  · rename_i closed
    apply attended.setCall found
    · exact fun waits => absurd waits Bool.false_ne_true
    · exact fun waits => absurd waits Bool.false_ne_true
    · simp [quiet.1]
    · exact fun _ => .inr (.inl closed)
    · simp [quiet.2.1]
    · simp [quiet.2.2]
  · rename_i notClosed
    have stillOpen : shared.queue.closed = false := by simpa using notClosed
    split
    · rename_i popped
      exact attended.takes found pulling stillOpen popped
    · rename_i popped
      have empty := Queue.empty_of_pop popped
      have stops : ∀ new : Call α, new.isAwaitingRoom = false →
          (new.isAwaitingEntry = true → shared.queue.producersFinished = false) →
          (shared.setCall caller new).Attended := by
        intro new forRoom forEntry
        apply attended.setCall found
        · simp [forRoom]
        · exact fun waits => ⟨stillOpen, empty, forEntry waits⟩
        · simp [quiet.1]
        · exact fun _ => .inr (.inr (.inl empty))
        · simp [quiet.2.1]
        · simp [quiet.2.2]
      split
      · exact stops _ rfl fun waits => absurd waits Bool.false_ne_true
      · rename_i running
        exact stops _ rfl fun _ => by simpa using running

/-- A limit that a measurement has changed is told to every waiting insert. -/
theorem observe (attended : shared.Attended) (size : UInt64) :
    (shared.observe size).Attended := by
  have positive : 1 ≤ (shared.queue.capacity.observe size).1.limit := Nat.le_max_left 1 _
  unfold SharedQueue.observe
  dsimp only
  split
  · exact attended.of_room rfl rfl rfl positive rfl
  · rename_i unchanged
    have same : (shared.queue.capacity.observe size).1.limit = shared.queue.capacity.limit := by
      simpa [Capacity.observe] using unchanged
    obtain ⟨_, room, entry, unfinished, inserts, pulls⟩ := attended
    refine ⟨positive, ?_, entry, unfinished, inserts, pulls⟩
    dsimp only
    rw [same]
    exact room

theorem firstInsert {entry : α} {size : Option UInt64} (attended : shared.Attended)
    (found : shared.calls[caller]? = some (.inserting entry size)) :
    (shared.firstInsert caller entry size).Attended := by
  have arrives : ∀ observed : SharedQueue α, observed.Attended →
      observed.calls[caller]? = some (.inserting entry size) →
      (if observed.queue.refuses then observed.setCall caller (.returned .refused)
        else observed.tryPush caller entry false).Attended := by
    intro observed attended found
    split
    · exact attended.setCall_quiet found rfl rfl
    · exact attended.tryPush found rfl
  cases size with
  | none => exact arrives shared attended found
  | some bytes => exact arrives _ (attended.observe bytes) (found_observe found rfl)

theorem enter (attended : shared.Attended) (entered : shared.enter caller = some next) :
    next.Attended := by
  unfold SharedQueue.enter at entered
  split at entered
  · rename_i found
    cases entered
    exact attended.firstInsert found
  · rename_i found
    cases entered
    exact attended.tryPush found rfl
  · rename_i found
    cases entered
    exact attended.tryPull found rfl
  · rename_i found
    cases entered
    exact attended.tryPull found rfl
  · contradiction

/-! ### Notifications that are owed -/

/-- A notification of one waiter hands on what the call was on its way for. -/
theorem handsOn {target : Nat} {old waiter new woken : Call α} (attended : shared.Attended)
    (apart : target ≠ caller) (found : shared.calls[caller]? = some old)
    (waits : shared.calls[target]? = some waiter) (awake : woken.isWaiting = false)
    (goesOn : new.isWaiting = false)
    (bringsRoom : old.bringsRoom.toNat + waiter.bringsRoom.toNat ≤ woken.bringsRoom.toNat)
    (bringsEntry : old.bringsEntry.toNat + waiter.bringsEntry.toNat ≤ woken.bringsEntry.toNat)
    (wakesInserts : old.wakesInserts.toNat + waiter.wakesInserts.toNat = 0)
    (wakesPulls : old.wakesPulls.toNat + waiter.wakesPulls.toNat = 0) :
    ((shared.setCall target woken).setCall caller new).Attended := by
  have here : (shared.calls.set target woken)[caller]? = some old :=
    (List.getElem?_set_ne apart).trans found
  have counted : ∀ test : Call α → Bool,
      ((shared.calls.set target woken).set caller new).countP test + (test old).toNat +
        (test waiter).toNat =
      shared.calls.countP test + (test new).toNat + (test woken).toNat := by
    intro test
    have first := countP_set_add test woken waits
    have second := countP_set_add test new here
    omega
  have sleeps : woken.isAwaitingRoom = false ∧ woken.isAwaitingEntry = false := by
    simpa [Call.isWaiting] using awake
  have stays : new.isAwaitingRoom = false ∧ new.isAwaitingEntry = false := by
    simpa [Call.isWaiting] using goesOn
  have fewer : ∀ test : Call α → Bool, test new = false → test woken = false →
      ((shared.calls.set target woken).set caller new).countP test ≤
        shared.calls.countP test := by
    intro test newFails wokenFails
    have total := counted test
    rw [newFails, wokenFails, Bool.toNat_false] at total
    omega
  have more : ∀ test : Call α → Bool,
      (test old).toNat + (test waiter).toNat ≤ (test woken).toNat →
        shared.calls.countP test ≤
          ((shared.calls.set target woken).set caller new).countP test := by
    intro test handed
    have total := counted test
    omega
  have forRoom := fewer Call.isAwaitingRoom stays.1 sleeps.1
  have forEntry := fewer Call.isAwaitingEntry stays.2 sleeps.2
  constructor
  · exact attended.positive
  · intro stillOpen waiting
    have before := attended.room stillOpen (Nat.lt_of_lt_of_le waiting forRoom)
    exact Nat.le_trans before (Nat.add_le_add_left (more Call.bringsRoom bringsRoom) _)
  · intro stillOpen waiting
    have before := attended.entry stillOpen (Nat.lt_of_lt_of_le waiting forEntry)
    exact Nat.le_trans before (more Call.bringsEntry bringsEntry)
  · intro stillOpen waiting
    exact attended.unfinished stillOpen (Nat.lt_of_lt_of_le waiting forEntry)
  · intro closed waiting
    have before := attended.inserts closed (Nat.lt_of_lt_of_le waiting forRoom)
    exact Nat.lt_of_lt_of_le before (more Call.wakesInserts (by omega))
  · intro closed waiting
    have before := attended.pulls closed (Nat.lt_of_lt_of_le waiting forEntry)
    exact Nat.lt_of_lt_of_le before (more Call.wakesPulls (by omega))

theorem notifyOneEntry {target : Option Nat} {length capacity : Nat} {waited : Bool}
    (attended : shared.Attended)
    (found : shared.calls[caller]? = some (.pushed length capacity waited))
    (notified : shared.notifyOneEntry target = some next) :
    (next.setCall caller (.reportingPush length capacity waited)).Attended := by
  rcases reached_of_notifyOneEntry notified with ⟨nobody, rfl⟩ | ⟨woken, waits, rfl⟩
  · have none : next.calls.countP Call.isAwaitingEntry = 0 := by
      rw [List.countP_eq_zero]
      simpa using nobody
    apply attended.setCall found
    · exact fun waits => absurd waits Bool.false_ne_true
    · exact fun waits => absurd waits Bool.false_ne_true
    · exact fun brings => absurd brings Bool.false_ne_true
    · exact fun _ => .inr (.inr (.inr none))
    · exact fun wakes => absurd wakes Bool.false_ne_true
    · exact fun wakes => absurd wakes Bool.false_ne_true
  · have apart : woken ≠ caller := by
      rintro rfl
      rw [found] at waits
      cases waits
    exact attended.handsOn apart found waits rfl rfl (Nat.le_refl _) (Nat.le_refl _) rfl rfl

theorem notifyOneRoom {target : Option Nat} {entry : α} {length capacity : Nat}
    (attended : shared.Attended)
    (found : shared.calls[caller]? = some (.pulled entry length capacity))
    (notified : shared.notifyOneRoom target = some next) :
    (next.setCall caller (.reportingPull entry length capacity)).Attended := by
  rcases reached_of_notifyOneRoom notified with ⟨nobody, rfl⟩ | ⟨woken, entry, waits, rfl⟩
  · have none : next.calls.countP Call.isAwaitingRoom = 0 := by
      rw [List.countP_eq_zero]
      simpa using nobody
    apply attended.setCall found
    · exact fun waits => absurd waits Bool.false_ne_true
    · exact fun waits => absurd waits Bool.false_ne_true
    · exact fun _ => .inr (.inr (.inr none))
    · exact fun brings => absurd brings Bool.false_ne_true
    · exact fun wakes => absurd wakes Bool.false_ne_true
    · exact fun wakes => absurd wakes Bool.false_ne_true
  · have apart : woken ≠ caller := by
      rintro rfl
      rw [found] at waits
      cases waits
    exact attended.handsOn apart found waits rfl rfl (Nat.le_refl _) (Nat.le_refl _) rfl rfl

theorem notifyAllRoom (attended : shared.Attended) : shared.notifyAllRoom.Attended :=
  attended.of_room rfl rfl rfl attended.positive rfl

theorem notifyAllEntry (attended : shared.Attended) : shared.notifyAllEntry.Attended :=
  attended.of_entry rfl rfl rfl rfl

theorem notify {target : Option Nat} (attended : shared.Attended)
    (notified : shared.notify caller target = some next) : next.Attended := by
  unfold SharedQueue.notify at notified
  split at notified
  · rename_i found
    obtain ⟨middle, first, rfl⟩ := Option.map_eq_some_iff.mp notified
    exact attended.notifyOneEntry found first
  · rename_i found
    obtain ⟨middle, first, rfl⟩ := Option.map_eq_some_iff.mp notified
    exact attended.notifyOneRoom found first
  · rename_i found
    cases notified
    have here : shared.notifyAllRoom.calls[caller]? = some .closedRoom := by
      simp [SharedQueue.notifyAllRoom, found, Call.notifyRoom]
    apply attended.notifyAllRoom.setCall here
    · exact fun waits => absurd waits Bool.false_ne_true
    · exact fun waits => absurd waits Bool.false_ne_true
    · exact fun brings => absurd brings Bool.false_ne_true
    · exact fun brings => absurd brings Bool.false_ne_true
    · exact fun _ => .inr (countP_notifyRoom_waiting shared.calls)
    · exact fun _ => .inl rfl
  · rename_i found
    cases notified
    have here : shared.notifyAllEntry.calls[caller]? = some .closedEntries := by
      simp [SharedQueue.notifyAllEntry, found, Call.notifyEntry]
    apply attended.notifyAllEntry.setCall here
    · exact fun waits => absurd waits Bool.false_ne_true
    · exact fun waits => absurd waits Bool.false_ne_true
    · exact fun brings => absurd brings Bool.false_ne_true
    · exact fun brings => absurd brings Bool.false_ne_true
    · exact fun wakes => absurd wakes Bool.false_ne_true
    · exact fun _ => .inr (countP_notifyEntry_waiting shared.calls)
  · contradiction

/-! ### All steps -/

/-- Once the last producer is done, nobody waits. -/
theorem markDone (attended : shared.Attended) : shared.markDone.Attended := by
  unfold SharedQueue.markDone
  dsimp only
  split
  · have told : SharedQueue.Attended { shared.notifyAllEntry with
        queue := shared.queue.markDone } := attended.of_entry rfl rfl rfl rfl
    exact told.notifyAllRoom
  · rename_i running
    obtain ⟨positive, room, entry, unfinished, inserts, pulls⟩ := attended
    refine ⟨positive, room, entry, fun _ _ => ?_, inserts, pulls⟩
    simpa using running

theorem close (attended : shared.Attended) (found : shared.calls[caller]? = some .idle) :
    (shared.close caller).Attended := by
  unfold SharedQueue.close
  split
  · have mine : ∀ test : Call α → Bool, test .closedRoom = true →
        0 < (shared.calls.set caller .closedRoom).countP test := by
      intro test passes
      have inside := (List.getElem?_eq_some_iff.mp found).1
      exact List.countP_pos_iff.mpr ⟨_, List.mem_set inside .closedRoom, passes⟩
    constructor
    · exact attended.positive
    · exact fun stillOpen => absurd stillOpen.symm Bool.false_ne_true
    · exact fun stillOpen => absurd stillOpen.symm Bool.false_ne_true
    · exact fun stillOpen => absurd stillOpen.symm Bool.false_ne_true
    · exact fun _ _ => mine Call.wakesInserts rfl
    · exact fun _ _ => mine Call.wakesPulls rfl
  · exact attended.setCall_quiet found rfl rfl

theorem report (attended : shared.Attended) (reported : shared.report caller = some next) :
    next.Attended := by
  unfold SharedQueue.report at reported
  split at reported
  · rename_i waited found
    cases reported
    have moved : (shared.setCall caller (.returned .inserted)).Attended :=
      attended.setCall_quiet found rfl rfl
    cases waited
    · exact moved.of_same rfl rfl
    · exact moved.of_same rfl rfl
  · rename_i entry _ _ found
    cases reported
    have moved : (shared.setCall caller (.returned (.entry entry))).Attended :=
      attended.setCall_quiet found rfl rfl
    exact moved.of_same rfl rfl
  · contradiction

theorem step {event : Event α} (attended : shared.Attended)
    (stepped : shared.step event = some next) : next.Attended := by
  cases event with
  | enter caller => exact attended.enter stepped
  | notify caller target => exact attended.notify stepped
  | report caller => exact attended.report stepped
  | markDone =>
    cases stepped
    exact attended.markDone
  | insert caller entry =>
    simp only [SharedQueue.step] at stepped
    split at stepped
    · rename_i found
      cases stepped
      have begins : ∀ new : Call α, new.isWaiting = false →
          SharedQueue.Attended
            ({ shared with sampler := shared.sampler.draw.2 }.setCall caller new) := by
        intro new goesOn
        have moved : (shared.setCall caller new).Attended :=
          attended.setCall_quiet found rfl goesOn
        exact moved.of_same rfl rfl
      cases shared.sampler.draw.1
      · exact begins _ rfl
      · exact begins _ rfl
    · contradiction
  | measured caller size | measuringPanicked caller | pull caller | leave caller =>
    simp only [SharedQueue.step] at stepped
    split at stepped
    · rename_i found
      cases stepped
      exact attended.setCall_quiet found rfl rfl
    · contradiction
  | close caller =>
    simp only [SharedQueue.step] at stepped
    split at stepped
    · rename_i found
      cases stepped
      exact attended.close found
    · contradiction

/-- In every run of a queue, whoever waits is attended to. -/
theorem run {events : List (Event α)} (attended : shared.Attended)
    (ran : shared.run events = some next) : next.Attended := by
  induction events generalizing shared with
  | nil =>
    cases ran
    exact attended
  | cons event rest ih =>
    obtain ⟨middle, stepped, ran⟩ := Option.bind_eq_some_iff.mp ran
    exact ih (attended.step stepped) ran

end Attended

end SharedQueue

end BoundedIngest

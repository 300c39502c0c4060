/-
Module: BoundedIngest.Proofs.Interrupt.Sharing
Purpose: A flag is shared by those it was handed on to, and by nobody else.
Main exports:
  Holder, FlagAction.origin?, FlagAction.receiver?, FlagAction.touch?, FlagRegistry.flagOf?,
  FlagRegistry.reads?, FlagRegistry.Shares, FlagRegistry.lastTouch?, FlagRegistry.Kept,
  FlagRegistry.performed, FlagRegistry.Aliasing, FlagRegistry.shared_by_clones
-/
import BoundedIngest.Interrupt.Registry
import BoundedIngest.Proofs.Interrupt.Resting

namespace BoundedIngest

/-!
A flag is had by the names that are bound to it, and maybe by the running thread.  An action hands
flags on from those who have them or makes a new one, and it makes one at most, for one holder.  It
raises or lowers one flag at most, and this shows wherever that flag is read.
-/

/-- Who has a flag. -/
inductive Holder where
  | name (name : String)
  /-- The running thread. -/
  | thread
deriving Repr, DecidableEq

namespace FlagAction

/-- Who had the flag before that a holder has after the action, unless it is a new one. -/
def origin? : FlagAction → Holder → Option Holder
  | .make name, holder | .currentOfOther name, holder =>
      if holder = .name name then none else some holder
  | .clone name source, holder => some (if holder = .name name then .name source else holder)
  | .current name, holder => some (if holder = .name name then .thread else holder)
  | .install name previous, holder =>
      some (if holder = .thread then .name name
        else if holder = .name previous then .thread else holder)
  | _, holder => some holder

/-- Who is handed a new flag if there is none to hand on. -/
def receiver? : FlagAction → Option Holder
  | .make name | .currentOfOther name | .clone name _ => some (.name name)
  | .install _ _ => some .thread
  | _ => none

/-- Whose flag the action raises or lowers, and whether the flag is up then. -/
def touch? : FlagAction → Option (Holder × Bool)
  | .interrupt name => some (.name name, true)
  | .clear name | .interrupted name => some (.name name, false)
  | .threadInterrupted => some (.thread, false)
  | _ => none

end FlagAction

namespace FlagRegistry

/-- The flag of a holder. -/
def flagOf? (registry : FlagRegistry) : Holder → Option FlagId
  | .name name => registry.names.lookup name
  | .thread => some registry.own

/-- What is seen by looking at the flag of a holder. -/
def reads? (registry : FlagRegistry) (holder : Holder) : Option Bool :=
  (registry.flagOf? holder).map registry.isRaised

/-- Both have the same flag. -/
def Shares (registry : FlagRegistry) (one other : Holder) : Prop :=
  ∃ flag, registry.flagOf? one = some flag ∧ registry.flagOf? other = some flag

/-- The flag that is meant by a holder.  A name without a flag stands for one that is made on the
spot. -/
def meant (registry : FlagRegistry) (holder : Holder) : FlagId :=
  (registry.flagOf? holder).getD registry.flags.length

/-- What the action does to this flag. -/
def touched? (registry : FlagRegistry) (flag : FlagId) (action : FlagAction) : Option Bool :=
  action.touch?.bind fun (target, up) => if registry.meant target = flag then some up else none

/-- The last raise or lowering of this flag in a script. -/
def lastTouch? (registry : FlagRegistry) (flag : FlagId) : List FlagAction → Option Bool
  | [] => none
  | action :: rest =>
      ((registry.perform action).2.lastTouch? flag rest).or (registry.touched? flag action)

/-- Every flag that somebody has is there, and nobody is inside one. -/
structure Kept (registry : FlagRegistry) : Prop where
  inside : ∀ holder flag, registry.flagOf? holder = some flag → flag < registry.flags.length
  free : ∀ flag ∈ registry.flags, flag.isLocked = false

variable {registry : FlagRegistry} {action : FlagAction} {holder one other target : Holder}
  {flag : FlagId} {script : List FlagAction} {up : Bool}

/-! ### Names -/

theorem lookup_filter_ne {known name : String} (names : List (String × FlagId))
    (apart : known ≠ name) :
    (names.filter fun (other, _) => other != name).lookup known = names.lookup known := by
  have unlike : (known == name) = false := beq_eq_false_iff_ne.mpr apart
  induction names with
  | nil => rfl
  | cons entry rest ih =>
    obtain ⟨first, flag⟩ := entry
    by_cases same : first = name
    · simp [same, List.lookup_cons, ih, unlike]
    · simp [same, List.lookup_cons, ih]

theorem flagOf?_bindName (registry : FlagRegistry) (name : String) (flag : FlagId)
    (holder : Holder) :
    (registry.bindName name flag).flagOf? holder =
      if holder = .name name then some flag else registry.flagOf? holder := by
  cases holder with
  | thread => rfl
  | name known =>
    by_cases same : known = name
    · simp [flagOf?, bindName, same]
    · have unlike : (known == name) = false := beq_eq_false_iff_ne.mpr same
      simp [flagOf?, bindName, same, List.lookup_cons, lookup_filter_ne _ same, unlike]

/-! ### Where no flag is raised or lowered -/

/-- Everybody has the flag they had, and every flag is up or down as it was. -/
structure Untouched (registry next : FlagRegistry) : Prop where
  names : next.names = registry.names
  own : next.own = registry.own
  length : registry.flags.length ≤ next.flags.length
  raised : ∀ flag, next.isRaised flag = registry.isRaised flag
  free : ∀ flag ∈ next.flags, flag.isLocked = false

theorem Untouched.trans {between next : FlagRegistry} (first : Untouched registry between)
    (second : Untouched between next) : Untouched registry next where
  names := second.names.trans first.names
  own := second.own.trans first.own
  length := first.length.trans second.length
  raised flag := (second.raised flag).trans (first.raised flag)
  free := second.free

theorem Untouched.flagOf? {next : FlagRegistry} (untouched : Untouched registry next)
    (holder : Holder) : next.flagOf? holder = registry.flagOf? holder := by
  cases holder with
  | name name => exact congrArg (List.lookup name) untouched.names
  | thread => exact congrArg some untouched.own

theorem Untouched.kept {next : FlagRegistry} (untouched : Untouched registry next)
    (kept : registry.Kept) : next.Kept := by
  refine ⟨fun holder flag found => ?_, untouched.free⟩
  rw [untouched.flagOf?] at found
  exact (kept.inside holder flag found).trans_le untouched.length

theorem Kept.untouched (kept : registry.Kept) : Untouched registry registry :=
  ⟨rfl, rfl, le_rfl, fun _ => rfl, kept.free⟩

theorem untouched_make (kept : registry.Kept) : Untouched registry registry.make.2 where
  names := rfl
  own := rfl
  length := by simp [make]
  raised flag := by
    dsimp only [isRaised, make]
    rw [List.getElem?_append]
    split
    · rfl
    · rename_i outside
      rw [List.getElem?_eq_none (Nat.not_lt.mp outside)]
      cases flag - registry.flags.length <;> rfl
  free := List.forall_mem_append.mpr ⟨kept.free, List.forall_mem_singleton.mpr rfl⟩

theorem some_meant (registry : FlagRegistry) (holder : Holder) :
    some (registry.meant holder) =
      (registry.flagOf? holder).or (some registry.flags.length) := by
  rw [meant]
  cases registry.flagOf? holder <;> rfl

/-- A name stands for a flag that is there by then. -/
theorem resolve_spec (kept : registry.Kept) (name : String) :
    (registry.resolve name).1 = registry.meant (.name name) ∧
      Untouched registry (registry.resolve name).2 ∧
      (registry.resolve name).1 < (registry.resolve name).2.flags.length := by
  unfold resolve
  cases found : registry.names.lookup name with
  | some flag =>
    have here : registry.flagOf? (.name name) = some flag := found
    exact ⟨by rw [meant, here]; rfl, kept.untouched, kept.inside _ _ here⟩
  | none =>
    have here : registry.flagOf? (.name name) = none := found
    exact ⟨by rw [meant, here]; rfl, untouched_make kept, by simp [make]⟩

theorem free_modify (free : ∀ cell ∈ registry.flags, cell.isLocked = false) (flag : FlagId)
    {change : InterruptFlag → InterruptFlag}
    (keeps : ∀ cell : InterruptFlag, cell.isLocked = false → (change cell).isLocked = false) :
    ∀ cell ∈ (registry.modify flag change).flags, cell.isLocked = false := by
  intro cell found
  obtain ⟨other, found⟩ := List.mem_iff_getElem?.mp found
  dsimp only [modify] at found
  rw [List.getElem?_modify] at found
  obtain ⟨before, there, rfl⟩ := Option.map_eq_some_iff.mp found
  have still := free before (List.mem_of_getElem? there)
  split
  · exact keeps before still
  · exact still

/-- A flag changes, and does not go up or down. -/
theorem untouched_modify (kept : registry.Kept) (flag : FlagId)
    {change : InterruptFlag → InterruptFlag}
    (rests : ∀ flag : InterruptFlag, flag.isLocked = false → flag.Rests (change flag)) :
    Untouched registry (registry.modify flag change) where
  names := rfl
  own := rfl
  length := by simp [modify]
  raised other := by
    dsimp only [isRaised, modify]
    rw [List.getElem?_modify]
    cases found : registry.flags[other]? with
    | none => rfl
    | some cell =>
      have same := (rests cell (kept.free cell (List.mem_of_getElem? found))).raised
      by_cases here : flag = other <;> simp [here, same]
  free := free_modify kept.free flag fun cell free => (rests cell free).free

theorem untouched_elapse (kept : registry.Kept) (milliseconds : Nat) :
    Untouched registry (registry.elapse milliseconds) where
  names := rfl
  own := rfl
  length := by simp [elapse]
  raised flag := by
    dsimp only [isRaised, elapse]
    rw [List.getElem?_map]
    cases found : registry.flags[flag]? with
    | none => rfl
    | some cell =>
      have free := kept.free cell (List.mem_of_getElem? found)
      exact (InterruptFlag.rests_elapse free milliseconds).raised
  free := by
    intro cell found
    obtain ⟨before, there, rfl⟩ := List.mem_map.mp found
    exact (InterruptFlag.rests_elapse (kept.free before there) milliseconds).free

theorem untouched_beginSleep (kept : registry.Kept) (flag : FlagId) (milliseconds : Nat) :
    Untouched registry (registry.modify flag (·.beginSleep milliseconds)) :=
  untouched_modify kept flag fun _ free => InterruptFlag.rests_beginSleep free milliseconds

theorem untouched_sleepOn (kept : registry.Kept) (flag : FlagId) (milliseconds : Nat) :
    Untouched registry (registry.sleepOn flag milliseconds).2 := by
  have begun := untouched_beginSleep kept flag milliseconds
  unfold sleepOn
  dsimp only
  split
  · exact begun
  · exact begun.trans (untouched_elapse (begun.kept kept) milliseconds)

theorem untouched_joinWaits (kept : registry.Kept) : Untouched registry registry.joinWaits.2 := by
  have settled := untouched_elapse kept 0
  have ended := settled.trans (untouched_elapse (settled.kept kept) longSleep)
  unfold joinWaits
  dsimp only
  split
  · exact ⟨settled.names, settled.own, settled.length, settled.raised, settled.free⟩
  · exact ⟨ended.names, ended.own, ended.length, ended.raised, ended.free⟩

theorem untouched_waitElsewhere (kept : registry.Kept) (name : String) (pause : Nat) :
    Untouched registry (registry.perform (.waitElsewhere name pause)).2 := by
  have resolved := (resolve_spec kept name).2.1
  have begun := resolved.trans
    (untouched_beginSleep (resolved.kept kept) (registry.resolve name).1 longSleep)
  -- Nobody asks a registry about its sleeps here.
  have listed : ∀ sleeps, Untouched registry
      { (registry.resolve name).2.modify (registry.resolve name).1 (·.beginSleep longSleep) with
        sleeps } :=
    fun _ => ⟨begun.names, begun.own, begun.length, begun.raised, begun.free⟩
  exact (listed _).trans (untouched_elapse ((listed _).kept kept) pause)

/-! ### What an action does -/

/-- An action hands flags on, may make a new one, and raises or lowers one at most. -/
structure Performed (registry : FlagRegistry) (action : FlagAction) (next : FlagRegistry) :
    Prop where
  flags : ∀ holder, next.flagOf? holder =
    ((action.origin? holder).bind registry.flagOf?).or
      (if action.receiver? = some holder then some registry.flags.length else none)
  raised : ∀ flag, next.isRaised flag =
    (registry.touched? flag action).getD (registry.isRaised flag)
  kept : next.Kept

theorem touched?_of_none (nothing : action.touch? = none) (flag : FlagId) :
    registry.touched? flag action = none := by
  rw [touched?, nothing, Option.bind_none]

variable {between next : FlagRegistry}

/-- An action that only looks, or waits. -/
theorem performed_of_untouched (kept : registry.Kept) (untouched : Untouched registry next)
    (own : ∀ holder, action.origin? holder = some holder) (nobody : action.receiver? = none)
    (nothing : action.touch? = none) : Performed registry action next where
  flags holder := by
    rw [untouched.flagOf?, own, nobody]
    simp
  raised flag := by
    rw [touched?_of_none nothing]
    exact untouched.raised flag
  kept := untouched.kept kept

/-- An action that raises or lowers a flag. -/
theorem performed_of_change (kept : registry.Kept) (untouched : Untouched registry between)
    (inside : registry.meant target < between.flags.length)
    {change : InterruptFlag → InterruptFlag}
    (sets : ∀ cell : InterruptFlag, cell.isLocked = false →
      (change cell).isLocked = false ∧ (change cell).raised = up)
    (own : ∀ holder, action.origin? holder = some holder) (nobody : action.receiver? = none)
    (touches : action.touch? = some (target, up)) :
    Performed registry action (between.modify (registry.meant target) change) where
  flags holder := by
    have same : (between.modify (registry.meant target) change).flagOf? holder =
        between.flagOf? holder := by
      cases holder <;> rfl
    rw [same, untouched.flagOf?, own, nobody]
    simp
  raised flag := by
    rw [touched?, touches, Option.bind_some, ← untouched.raised flag]
    dsimp only [isRaised, modify]
    rw [List.getElem?_modify]
    by_cases here : registry.meant target = flag
    · subst here
      have free := untouched.free _ (List.getElem_mem inside)
      simp [List.getElem?_eq_getElem inside, (sets _ free).2]
    · simp [here]
  kept := by
    refine ⟨fun holder flag found => ?_,
      free_modify untouched.free _ fun cell free => (sets cell free).1⟩
    have there := (untouched.kept kept).inside holder flag
    rw [modify, List.length_modify]
    cases holder <;> exact there found

/-- An action that binds a name. -/
theorem performed_of_binds {name : String} (kept : registry.Kept)
    (untouched : Untouched registry between) (inside : flag < between.flags.length)
    (handed : ∀ holder, (if holder = .name name then some flag else registry.flagOf? holder) =
      ((action.origin? holder).bind registry.flagOf?).or
        (if action.receiver? = some holder then some registry.flags.length else none))
    (nothing : action.touch? = none) : Performed registry action (between.bindName name flag) where
  flags holder := by rw [flagOf?_bindName, untouched.flagOf?, handed]
  raised other := by
    rw [touched?_of_none nothing]
    exact untouched.raised other
  kept := by
    refine ⟨fun holder other found => ?_, untouched.free⟩
    rw [flagOf?_bindName] at found
    split at found
    · cases found
      exact inside
    · exact (untouched.kept kept).inside holder other found

theorem flagOf?_install (kept : registry.Kept) (name previous : String) (holder : Holder) :
    (registry.perform (.install name previous)).2.flagOf? holder =
      if holder = .thread then some (registry.meant (.name name))
      else if holder = .name previous then registry.flagOf? .thread
      else registry.flagOf? holder := by
  obtain ⟨same, untouched, -⟩ := resolve_spec kept name
  rw [← untouched.flagOf? .thread, ← untouched.flagOf? holder, ← same]
  simp only [perform, flagOf?_bindName]
  cases holder <;> rfl

theorem performed_of_install (kept : registry.Kept) (name previous : String) :
    Performed registry (.install name previous)
      (registry.perform (.install name previous)).2 := by
  obtain ⟨same, untouched, inside⟩ := resolve_spec kept name
  refine ⟨fun holder => ?_, fun flag => ?_, fun holder flag found => ?_, untouched.free⟩
  · rw [flagOf?_install kept]
    by_cases thread : holder = .thread
    · simp [FlagAction.origin?, FlagAction.receiver?, thread, some_meant]
    · have apart : Holder.thread ≠ holder := Ne.symm thread
      by_cases bound : holder = .name previous <;>
        simp [FlagAction.origin?, FlagAction.receiver?, thread, bound, apart]
  · rw [touched?_of_none rfl]
    exact untouched.raised flag
  · have still := (untouched.kept kept).inside
    rw [flagOf?_install kept, ← same] at found
    split at found
    · cases found
      exact inside
    · split at found
      · exact still .thread flag ((untouched.flagOf? .thread).trans found)
      · exact still holder flag ((untouched.flagOf? holder).trans found)

/-- A lowered flag is as free as it was. -/
theorem lowered_of_clear (cell : InterruptFlag) (free : cell.isLocked = false) :
    cell.clear.isLocked = false ∧ cell.clear.raised = false :=
  ⟨free, rfl⟩

theorem performed (kept : registry.Kept) (action : FlagAction) :
    Performed registry action (registry.perform action).2 := by
  cases action with
  | install name previous => exact performed_of_install kept name previous
  | make name | currentOfOther name =>
    have inside : registry.flags.length < registry.make.2.flags.length := by simp [make]
    refine performed_of_binds kept (untouched_make kept) inside (fun holder => ?_) rfl
    by_cases own : holder = .name name
    · simp [FlagAction.origin?, FlagAction.receiver?, own]
    · have apart : Holder.name name ≠ holder := Ne.symm own
      simp [FlagAction.origin?, FlagAction.receiver?, own, apart]
  | clone name source =>
    obtain ⟨same, untouched, inside⟩ := resolve_spec kept source
    simp only [perform]
    rw [same] at inside ⊢
    refine performed_of_binds kept untouched inside (fun holder => ?_) rfl
    by_cases own : holder = .name name
    · simp [FlagAction.origin?, FlagAction.receiver?, own, some_meant]
    · have apart : Holder.name name ≠ holder := Ne.symm own
      simp [FlagAction.origin?, FlagAction.receiver?, own, apart]
  | current name =>
    refine performed_of_binds kept kept.untouched (kept.inside .thread _ rfl) (fun holder => ?_) rfl
    by_cases own : holder = .name name <;>
      simp [FlagAction.origin?, FlagAction.receiver?, own, flagOf?]
  | interrupt name =>
    obtain ⟨same, untouched, inside⟩ := resolve_spec kept name
    simp only [perform]
    rw [same] at inside ⊢
    exact performed_of_change kept untouched inside
      (fun _ => InterruptFlag.raised_of_interrupt) (fun _ => rfl) rfl rfl
  | clear name | interrupted name =>
    obtain ⟨same, untouched, inside⟩ := resolve_spec kept name
    simp only [perform]
    rw [same] at inside ⊢
    exact performed_of_change kept untouched inside lowered_of_clear (fun _ => rfl) rfl rfl
  | threadInterrupted =>
    have inside : registry.meant .thread < registry.flags.length := kept.inside .thread _ rfl
    exact performed_of_change kept kept.untouched inside lowered_of_clear (fun _ => rfl) rfl rfl
  | isInterrupted name | describe name =>
    exact performed_of_untouched kept (resolve_spec kept name).2.1 (fun _ => rfl) rfl rfl
  | sameAs | threadIsInterrupted | threadCheck =>
    exact performed_of_untouched kept kept.untouched (fun _ => rfl) rfl rfl
  | threadSleep milliseconds =>
    exact performed_of_untouched kept (untouched_sleepOn kept _ _) (fun _ => rfl) rfl rfl
  | wait name milliseconds =>
    have resolved := (resolve_spec kept name).2.1
    exact performed_of_untouched kept
      (resolved.trans (untouched_sleepOn (resolved.kept kept) _ _)) (fun _ => rfl) rfl rfl
  | waitElsewhere name pause =>
    exact performed_of_untouched kept (untouched_waitElsewhere kept name pause)
      (fun _ => rfl) rfl rfl
  | joinWaits =>
    exact performed_of_untouched kept (untouched_joinWaits kept) (fun _ => rfl) rfl rfl

/-- A flag that somebody has after an action was handed on, or is new. -/
theorem Performed.handed (performed : Performed registry action next)
    (found : next.flagOf? holder = some flag) :
    (∃ source, action.origin? holder = some source ∧ registry.flagOf? source = some flag) ∨
      (action.receiver? = some holder ∧ flag = registry.flags.length) := by
  rw [performed.flags, Option.or_eq_some_iff] at found
  rcases found with old | ⟨-, new⟩
  · exact .inl (Option.bind_eq_some_iff.mp old)
  · split at new
    · rename_i receives
      exact .inr ⟨receives, (Option.some.inj new).symm⟩
    · contradiction

theorem Performed.keeps {source : Holder} (performed : Performed registry action next)
    (origin : action.origin? holder = some source) (found : registry.flagOf? source = some flag) :
    next.flagOf? holder = some flag := by
  rw [performed.flags, origin, Option.bind_some, found, Option.some_or]

/-- Two have the same flag after an action if it comes from such as had the same flag before, and a
new flag is had by one only. -/
theorem shares_iff (kept : registry.Kept) (performed : Performed registry action next) :
    next.Shares one other ↔
      (∃ source otherSource, action.origin? one = some source ∧
        action.origin? other = some otherSource ∧ registry.Shares source otherSource) ∨
      (one = other ∧ (next.flagOf? one).isSome) := by
  constructor
  · rintro ⟨flag, here, there⟩
    rcases performed.handed here with ⟨source, origin, found⟩ | ⟨receives, rfl⟩
    · rcases performed.handed there with ⟨otherSource, otherOrigin, alsoFound⟩ | ⟨-, rfl⟩
      · exact .inl ⟨source, otherSource, origin, otherOrigin, flag, found, alsoFound⟩
      · exact absurd (kept.inside source _ found) (Nat.lt_irrefl _)
    · rcases performed.handed there with ⟨otherSource, -, found⟩ | ⟨alsoReceives, -⟩
      · exact absurd (kept.inside otherSource _ found) (Nat.lt_irrefl _)
      · exact .inr ⟨Option.some.inj (receives.symm.trans alsoReceives), by simp [here]⟩
  · rintro (⟨source, otherSource, origin, otherOrigin, flag, found, alsoFound⟩ | ⟨rfl, has⟩)
    · exact ⟨flag, performed.keeps origin found, performed.keeps otherOrigin alsoFound⟩
    · obtain ⟨flag, found⟩ := Option.isSome_iff_exists.mp has
      exact ⟨flag, found, found⟩

/-! ### Looking at flags -/

theorem reads_of_shares (shares : registry.Shares one other) :
    registry.reads? one = registry.reads? other := by
  obtain ⟨flag, found, alsoFound⟩ := shares
  rw [reads?, reads?, found, alsoFound]

/-- Nobody is handed a flag that is raised or lowered. -/
theorem own_of_touch (touches : action.touch? = some (target, up)) :
    (∀ holder, action.origin? holder = some holder) ∧ action.receiver? = none := by
  cases action <;> first | exact ⟨fun _ => rfl, rfl⟩ | contradiction

/-- A raise or a lowering shows with everybody who has the flag, and with nobody else. -/
theorem reads_of_touch (kept : registry.Kept) (performed : Performed registry action next)
    (touches : action.touch? = some (target, up)) (holder : Holder) :
    (registry.Shares target holder → next.reads? holder = some up) ∧
      (¬registry.Shares target holder → next.reads? holder = registry.reads? holder) := by
  obtain ⟨own, nobody⟩ := own_of_touch touches
  have same : next.flagOf? holder = registry.flagOf? holder := by
    rw [performed.flags, own, nobody]
    simp
  have raised : ∀ flag, next.isRaised flag =
      if registry.meant target = flag then up else registry.isRaised flag := by
    intro flag
    rw [performed.raised, touched?, touches, Option.bind_some]
    dsimp only
    split <;> rfl
  constructor
  · rintro ⟨flag, aimed, found⟩
    have hit : registry.meant target = flag := by rw [meant, aimed, Option.getD_some]
    rw [reads?, same, found, Option.map_some, raised, if_pos hit]
  · intro apart
    rw [reads?, reads?, same]
    cases found : registry.flagOf? holder with
    | none => rfl
    | some flag =>
      have missed : registry.meant target ≠ flag := by
        rintro rfl
        cases aimed : registry.flagOf? target with
        | none =>
          rw [meant, aimed] at found
          exact absurd (kept.inside holder _ found) (Nat.lt_irrefl _)
        | some flag =>
          rw [meant, aimed] at found
          exact apart ⟨flag, aimed, found⟩
      rw [Option.map_some, Option.map_some, raised, if_neg missed]

/-- It makes a difference exactly for those who have the flag, if it makes any. -/
theorem reads_ne_iff (kept : registry.Kept) (performed : Performed registry action next)
    (touches : action.touch? = some (target, up)) (holder : Holder) :
    next.reads? holder ≠ registry.reads? holder ↔
      registry.Shares target holder ∧ next.reads? target ≠ registry.reads? target := by
  obtain ⟨shared, apart⟩ := reads_of_touch kept performed touches holder
  have both : registry.Shares target holder →
      next.reads? target = next.reads? holder ∧
        registry.reads? target = registry.reads? holder := by
    intro shares
    have own : registry.Shares target target := by
      obtain ⟨flag, found, -⟩ := shares
      exact ⟨flag, found, found⟩
    rw [shared shares, (reads_of_touch kept performed touches target).1 own]
    exact ⟨rfl, reads_of_shares shares⟩
  constructor
  · intro differs
    have shares : registry.Shares target holder := by
      by_contra alone
      exact differs (apart alone)
    obtain ⟨after, before⟩ := both shares
    exact ⟨shares, by rwa [after, before]⟩
  · rintro ⟨shares, differs⟩
    obtain ⟨after, before⟩ := both shares
    rwa [after, before] at differs

/-- No other action shows: whoever has a flag sees what was seen where it comes from, and a new flag
is lowered. -/
theorem reads_of_others (performed : Performed registry action next)
    (nothing : action.touch? = none) (holder : Holder) :
    next.reads? holder =
      ((action.origin? holder).bind registry.reads?).or
        (if action.receiver? = some holder then some false else none) := by
  have same : next.isRaised = registry.isRaised := by
    funext flag
    rw [performed.raised, touched?_of_none nothing, Option.getD_none]
  have fresh : registry.isRaised registry.flags.length = false := by
    rw [isRaised, List.getElem?_eq_none le_rfl]
    rfl
  rw [reads?, performed.flags, same, Option.map_or, Option.map_bind]
  congr 1
  split
  · exact congrArg some fresh
  · rfl

theorem isRaised_performAll (kept : registry.Kept) (flag : FlagId) (script : List FlagAction) :
    (registry.performAll script).2.isRaised flag =
      (registry.lastTouch? flag script).getD (registry.isRaised flag) := by
  induction script generalizing registry with
  | nil => rfl
  | cons action rest ih =>
    have first := performed kept action
    have later := ih first.kept
    rw [first.raised] at later
    rw [lastTouch?, Option.getD_or]
    exact later

theorem kept_performAll (kept : registry.Kept) (script : List FlagAction) :
    (registry.performAll script).2.Kept := by
  induction script generalizing registry with
  | nil => exact kept
  | cons action rest ih => exact ih (performed kept action).kept

theorem kept_start : ({} : FlagRegistry).Kept where
  inside holder flag found := by
    cases holder with
    | name name => contradiction
    | thread =>
      cases found
      exact Nat.one_pos
  free := List.forall_mem_singleton.mpr rfl

/-! ### Sharing -/

/-- How flags are shared at some moment, and what becomes of it. -/
structure Aliasing (registry : FlagRegistry) : Prop where
  /-- Among the names that have a flag, being aliases is an equivalence. -/
  equivalence : Equivalence
    fun one other : { name // (registry.flagOf? (.name name)).isSome = true } =>
      registry.sameAs one.val other.val = true
  /-- Names are aliases if they share a flag. -/
  sameAs_iff : ∀ name other,
    registry.sameAs name other = true ↔ registry.Shares (.name name) (.name other)
  /-- Flags are shared by those they are handed on to, and new ones by nobody. -/
  handsOn : ∀ action one other, (registry.perform action).2.Shares one other ↔
    (∃ source otherSource, FlagAction.origin? action one = some source ∧
      action.origin? other = some otherSource ∧ registry.Shares source otherSource) ∨
    (one = other ∧ ((registry.perform action).2.flagOf? one).isSome)
  /-- A flag that is raised or lowered is so for all who share it, and nobody else sees a
  difference. -/
  touches : ∀ action target up, FlagAction.touch? action = some (target, up) → ∀ holder,
    (registry.Shares target holder → (registry.perform action).2.reads? holder = some up) ∧
    ((registry.perform action).2.reads? holder ≠ registry.reads? holder ↔
      registry.Shares target holder ∧
        (registry.perform action).2.reads? target ≠ registry.reads? target)
  /-- Nothing else raises or lowers a flag, and new ones are lowered. -/
  others : ∀ action, FlagAction.touch? action = none → ∀ holder,
    (registry.perform action).2.reads? holder =
      ((action.origin? holder).bind registry.reads?).or
        (if action.receiver? = some holder then some false else none)
  /-- A flag that is installed is the thread's from then on, and the thread's is given back. -/
  exchange : ∀ name previous flag, registry.flagOf? (.name name) = some flag →
    (registry.perform (.install name previous)).2.flagOf? .thread = some flag ∧
    (registry.perform (.install name previous)).2.flagOf? (.name previous) =
      registry.flagOf? .thread ∧
    (name ≠ previous →
      (registry.perform (.install name previous)).2.Shares .thread (.name name)) ∧
    ∀ other, (registry.perform (.install name previous)).2.isRaised other =
      registry.isRaised other

theorem sameAs_iff (registry : FlagRegistry) (name other : String) :
    registry.sameAs name other = true ↔ registry.Shares (.name name) (.name other) := by
  unfold sameAs Shares flagOf?
  dsimp only
  split
  · rename_i flag otherFlag here there
    simp [here, there, eq_comm]
  · rename_i missing
    simp only [Bool.false_eq_true, false_iff]
    rintro ⟨flag, here, there⟩
    exact missing flag flag here there

theorem aliasing (kept : registry.Kept) : registry.Aliasing where
  equivalence := by
    refine ⟨fun ⟨name, has⟩ => ?_, fun {one other} same => ?_,
      fun {one other third} first second => ?_⟩
    · obtain ⟨flag, found⟩ := Option.isSome_iff_exists.mp has
      exact (registry.sameAs_iff _ _).mpr ⟨flag, found, found⟩
    · obtain ⟨flag, found, alsoFound⟩ := (registry.sameAs_iff _ _).mp same
      exact (registry.sameAs_iff _ _).mpr ⟨flag, alsoFound, found⟩
    · obtain ⟨flag, found, between⟩ := (registry.sameAs_iff _ _).mp first
      obtain ⟨same, alsoBetween, last⟩ := (registry.sameAs_iff _ _).mp second
      cases between.symm.trans alsoBetween
      exact (registry.sameAs_iff _ _).mpr ⟨flag, found, last⟩
  sameAs_iff := registry.sameAs_iff
  handsOn action _ _ := shares_iff kept (performed kept action)
  touches action _ _ touches holder :=
    ⟨(reads_of_touch kept (performed kept action) touches holder).1,
      reads_ne_iff kept (performed kept action) touches holder⟩
  others action nothing holder := reads_of_others (performed kept action) nothing holder
  exchange name previous flag found := by
    have done := performed kept (.install name previous)
    have installed : (registry.perform (.install name previous)).2.flagOf? .thread = some flag :=
      done.keeps rfl found
    have former : (FlagAction.install name previous).origin? (.name previous) = some .thread := by
      simp [FlagAction.origin?]
    refine ⟨installed, done.keeps former rfl,
      fun apart => ⟨flag, installed, done.keeps ?_ found⟩, fun other => ?_⟩
    · simp [FlagAction.origin?, apart]
    · rw [done.raised, touched?_of_none rfl, Option.getD_none]

/-- Flags are shared exactly by their clones.  Whatever a script has done, the names that have a
flag fall into classes of aliases; an action hands a flag on or makes one that nobody shares; a
raise or a lowering makes a difference to those who share the flag and to nobody else; and
installing a flag moves it to the thread, and the thread's to a name, with neither raised nor
lowered.  And a flag shows what was last done to it, by whichever of its aliases. -/
theorem shared_by_clones (script : List FlagAction) :
    (({} : FlagRegistry).performAll script).2.Aliasing ∧
    ∀ holder flag, (({} : FlagRegistry).performAll script).2.flagOf? holder = some flag →
      (({} : FlagRegistry).performAll script).2.reads? holder =
        some ((({} : FlagRegistry).lastTouch? flag script).getD false) := by
  have kept := kept_performAll kept_start script
  have raised := fun flag => isRaised_performAll kept_start flag script
  generalize (({} : FlagRegistry).performAll script).2 = registry at kept raised ⊢
  refine ⟨aliasing kept, fun holder flag found => ?_⟩
  have lowered : ({} : FlagRegistry).isRaised flag = false := by
    cases flag <;> rfl
  rw [reads?, found, Option.map_some, raised, lowered]

/-- A raise through a clone reaches the thread that the flag is installed in. -/
example :
    let registry := (({} : FlagRegistry).performAll [.make "worker", .clone "controller" "worker",
      .make "other", .install "worker" "former", .interrupt "controller"]).2
    registry.reads? .thread = some true ∧ registry.reads? (.name "other") = some false ∧
      registry.reads? (.name "former") = some false := by
  decide +kernel

end FlagRegistry

end BoundedIngest

import Mathlib.Logic.Function.Basic
import CyberRT.Croutine.Routine

namespace CyberRT.Croutine

/-- What a processor does next with the routine: `NextRoutine`, then `Resume` and `Release` in `Processor::Run`; it is
    `inside` while the code of the routine runs. -/
inductive ProcessorPoint where
  | acquire | checkSleep | testUpdated | awaken | compare | resume | inside | release
  deriving DecidableEq, Repr

/-- A routine and the processors that take it in turns. -/
structure Hosting (Processor : Type) where
  routine : CRoutine := {}
  processor : Processor → ProcessorPoint := fun _ => .acquire

namespace Hosting

variable {Processor : Type} [DecidableEq Processor] (host : Hosting Processor)

def toPoint (processor : Processor) (point : ProcessorPoint) : Hosting Processor :=
  { host with processor := Function.update host.processor processor point }

def setState (state : RoutineState) : Hosting Processor := { host with routine := host.routine.setState state }

def setUpdateFlag : Hosting Processor := { host with routine := host.routine.setUpdateFlag }

/-- The next access of a processor. What it does `inside` is up to the routine, which comes back by `leave`. -/
def step (processor : Processor) (elapsed : Bool) : Option (Hosting Processor) :=
  match host.processor processor with
  | .acquire =>
    if host.routine.acquire.1 then some { host.toPoint processor .checkSleep with routine := host.routine.acquire.2 }
    else some { host with routine := host.routine.acquire.2 }
  | .checkSleep =>
    if host.routine.sleepOver elapsed then some ((host.toPoint processor .compare).setState .ready)
    else some (host.toPoint processor .testUpdated)
  | .testUpdated =>
    some { host.toPoint processor (if host.routine.takeUpdate.1 then .awaken else .compare) with
      routine := host.routine.takeUpdate.2 }
  | .awaken => some { host.toPoint processor .compare with routine := host.routine.awaken }
  | .compare => some (host.toPoint processor (if host.routine.state = .ready then .resume else .release))
  | .resume =>
    if host.routine.forceStop then some ((host.toPoint processor .release).setState .finished)
    else if host.routine.state ≠ .ready then some (host.toPoint processor .release)
    else some (host.toPoint processor .inside)
  | .inside => none
  | .release => some { host.toPoint processor .acquire with routine := host.routine.release }

/-- The switch from the routine back to the processor. -/
def leave (processor : Processor) : Hosting Processor := host.toPoint processor .release

def Suspended (host : Hosting Processor) : Prop := ∀ processor, host.processor processor ≠ .inside

/-- The routine waits and nobody is about to wake it. A flag that a processor has taken within `UpdateState` is pending
    until it has acted on it. -/
structure Asleep (host : Hosting Processor) (state : RoutineState) : Prop where
  state : host.routine.state = state
  noUpdate : host.routine.updated = true
  noAwaken : ∀ processor, host.processor processor ≠ .awaken

/-- Only the processor that holds the lock is at work on the routine. -/
structure Held (host : Hosting Processor) : Prop where
  locked : ∀ processor, host.processor processor ≠ .acquire → host.routine.lock = true
  alone : ∀ processor other, host.processor processor ≠ .acquire → host.processor other ≠ .acquire → processor = other

variable {host} {next : Hosting Processor} {processor other : Processor} {elapsed : Bool} {state : RoutineState}

omit [DecidableEq Processor] in
theorem held_start : ({} : Hosting Processor).Held :=
  ⟨fun _ busy => absurd rfl busy, fun _ _ busy => absurd rfl busy⟩

omit [DecidableEq Processor] in
theorem Held.withRoutine (held : host.Held) {routine : CRoutine} (lock : routine.lock = host.routine.lock) :
    Held { host with routine := routine } :=
  ⟨fun processor busy => lock.trans (held.locked processor busy), held.alone⟩

/-- A processor that has the lock moves on. -/
theorem Held.move (held : host.Held) (working : host.processor processor ≠ .acquire) (point : ProcessorPoint)
    {routine : CRoutine} (lock : routine.lock = host.routine.lock) :
    Held { host.toPoint processor point with routine := routine } := by
  have others : ∀ other, Function.update host.processor processor point other ≠ .acquire →
      host.processor other ≠ .acquire := by
    intro other busy
    rw [Function.update_apply] at busy
    split at busy
    · rename_i same
      rw [same]
      exact working
    · exact busy
  constructor
  · intro other busy
    exact lock.trans (held.locked other (others other busy))
  · intro first second busy busy'
    exact held.alone first second (others first busy) (others second busy')

theorem Held.acquired (held : host.Held) (processor : Processor) (lock : host.routine.lock = false) :
    Held { host.toPoint processor .checkSleep with routine := host.routine.acquire.2 } := by
  have only : ∀ other, Function.update host.processor processor .checkSleep other ≠ .acquire → other = processor := by
    intro other busy
    by_contra differs
    rw [Function.update_of_ne differs] at busy
    cases (held.locked other busy).symm.trans lock
  constructor
  · exact fun _ _ => rfl
  · exact fun first second busy busy' => (only first busy).trans (only second busy').symm

theorem Held.released (held : host.Held) (working : host.processor processor ≠ .acquire) :
    Held { host.toPoint processor .acquire with routine := host.routine.release } := by
  have idle : ∀ other, Function.update host.processor processor .acquire other = .acquire := by
    intro other
    by_cases same : other = processor
    · rw [same, Function.update_self]
    · rw [Function.update_of_ne same]
      by_contra busy
      exact same (held.alone other processor busy working)
  constructor
  · exact fun other busy => absurd (idle other) busy
  · exact fun first _ busy _ => absurd (idle first) busy

theorem Held.step (held : host.Held) (taken : host.step processor elapsed = some next) : next.Held := by
  unfold Hosting.step at taken
  split at taken
  next here =>
    split at taken
    next open_ =>
      obtain rfl := Option.some.inj taken
      exact held.acquired processor (by simpa [CRoutine.acquire] using open_)
    next =>
      obtain rfl := Option.some.inj taken
      exact ⟨fun _ _ => rfl, held.alone⟩
  next here =>
    split at taken
    all_goals
      obtain rfl := Option.some.inj taken
      apply held.move (by rw [here]; decide)
      rfl
  next here =>
    obtain rfl := Option.some.inj taken
    apply held.move (by rw [here]; decide)
    rfl
  next here =>
    obtain rfl := Option.some.inj taken
    apply held.move (by rw [here]; decide)
    rw [CRoutine.awaken]
    split <;> rfl
  next here =>
    obtain rfl := Option.some.inj taken
    apply held.move (by rw [here]; decide)
    rfl
  next here =>
    split at taken
    · obtain rfl := Option.some.inj taken
      apply held.move (by rw [here]; decide)
      rfl
    · split at taken
      all_goals
        obtain rfl := Option.some.inj taken
        apply held.move (by rw [here]; decide)
        rfl
  next => cases taken
  next here =>
    obtain rfl := Option.some.inj taken
    exact held.released (by rw [here]; decide)

/-- While the code of the routine runs the processors outside can do nothing but fail to acquire the lock. -/
theorem Held.step_inside (held : host.Held) (inside : host.processor other = .inside)
    (taken : host.step processor elapsed = some next) : next = host := by
  have locked := held.locked other (by rw [inside]; decide)
  have outside : host.processor processor = .acquire := by
    by_contra busy
    have same := held.alone processor other busy (by rw [inside]; decide)
    subst same
    simp [Hosting.step, inside] at taken
  simp only [Hosting.step, outside, CRoutine.acquire, locked, Bool.not_true, Bool.false_eq_true, if_false] at taken
  obtain rfl := Option.some.inj taken
  simp [← locked]

/-- A processor that was not about to awaken the routine leaves it as it found it. -/
theorem Asleep.before {point : ProcessorPoint} {routine : CRoutine}
    (asleep : Asleep { host.toPoint processor point with routine := routine } state)
    (elsewhere : host.processor processor ≠ .awaken) (same : routine.state = host.routine.state)
    (updated : routine.updated = host.routine.updated) : host.Asleep state := by
  refine ⟨same.symm.trans asleep.state, updated.symm.trans asleep.noUpdate, ?_⟩
  intro other
  by_cases here : other = processor
  · rw [here]
    exact elsewhere
  · have kept := asleep.noAwaken other
    simp only [toPoint, Function.update_of_ne here] at kept
    exact kept

/-- A routine that is asleep after the step of a processor was asleep before. -/
theorem asleep_step (taken : host.step processor elapsed = some next) (waits : state = .dataWait ∨ state = .ioWait)
    (asleep : next.Asleep state) : host.Asleep state := by
  have awake : ∀ {routine : CRoutine}, routine.isWaiting = false → routine.state ≠ state := by
    intro routine notWaiting same
    rcases waits with rfl | rfl <;> simp [CRoutine.isWaiting, same] at notWaiting
  unfold Hosting.step at taken
  split at taken
  next here =>
    split at taken
    all_goals obtain rfl := Option.some.inj taken
    · exact asleep.before (by rw [here]; decide) rfl rfl
    · exact ⟨asleep.state, asleep.noUpdate, asleep.noAwaken⟩
  next here =>
    split at taken
    all_goals obtain rfl := Option.some.inj taken
    · exact absurd asleep.state (awake rfl)
    · exact asleep.before (by rw [here]; decide) rfl rfl
  next here =>
    obtain rfl := Option.some.inj taken
    cases pending : host.routine.updated with
    | false =>
      have awakens := asleep.noAwaken processor
      simp [CRoutine.takeUpdate, pending, toPoint] at awakens
    | true => exact asleep.before (by rw [here]; decide) rfl (by simp [CRoutine.takeUpdate, pending])
  next here =>
    obtain rfl := Option.some.inj taken
    have reached := asleep.state
    simp only [CRoutine.awaken] at reached
    split at reached
    · exact absurd reached (awake rfl)
    · rename_i notWaiting
      exact absurd reached (awake (Bool.eq_false_iff.mpr notWaiting))
  next here =>
    obtain rfl := Option.some.inj taken
    exact asleep.before (by rw [here]; decide) rfl rfl
  next here =>
    split at taken
    · obtain rfl := Option.some.inj taken
      exact absurd asleep.state (awake rfl)
    · split at taken
      all_goals
        obtain rfl := Option.some.inj taken
        exact asleep.before (by rw [here]; decide) rfl rfl
  next => cases taken
  next here =>
    obtain rfl := Option.some.inj taken
    exact asleep.before (by rw [here]; decide) rfl rfl

/-- A processor enters a routine that is ready. -/
theorem enters (taken : host.step processor elapsed = some next) (inside : next.processor other = .inside) :
    host.processor other = .inside ∨ next.routine.state = .ready := by
  have aside : ∀ {point : ProcessorPoint}, point ≠ .inside →
      Function.update host.processor processor point other = .inside → host.processor other = .inside := by
    intro point outside updated
    by_cases same : other = processor
    · rw [same, Function.update_self] at updated
      exact absurd updated outside
    · rwa [Function.update_of_ne same] at updated
  unfold Hosting.step at taken
  split at taken
  next =>
    split at taken
    all_goals obtain rfl := Option.some.inj taken
    · exact Or.inl (aside (by decide) inside)
    · exact Or.inl inside
  next =>
    split at taken
    all_goals
      obtain rfl := Option.some.inj taken
      exact Or.inl (aside (by decide) inside)
  next =>
    obtain rfl := Option.some.inj taken
    exact Or.inl (aside (by split <;> decide) inside)
  next =>
    obtain rfl := Option.some.inj taken
    exact Or.inl (aside (by decide) inside)
  next =>
    obtain rfl := Option.some.inj taken
    exact Or.inl (aside (by split <;> decide) inside)
  next =>
    split at taken
    · obtain rfl := Option.some.inj taken
      exact Or.inl (aside (by decide) inside)
    · split at taken
      · obtain rfl := Option.some.inj taken
        exact Or.inl (aside (by decide) inside)
      · rename_i ready
        obtain rfl := Option.some.inj taken
        exact Or.inr (not_not.mp ready)
  next => cases taken
  next =>
    obtain rfl := Option.some.inj taken
    exact Or.inl (aside (by decide) inside)

/-- A processor changes the state of a routine that does not sleep only by awakening or finishing it. -/
theorem step_state (taken : host.step processor elapsed = some next) (noSleep : host.routine.state ≠ .sleep) :
    next.routine.state = host.routine.state ∨ next.routine.state = .finished ∨ host.processor processor = .awaken := by
  unfold Hosting.step at taken
  split at taken
  next =>
    split at taken
    all_goals
      obtain rfl := Option.some.inj taken
      exact Or.inl rfl
  next =>
    split at taken
    · rename_i elapsed'
      simp [CRoutine.sleepOver, noSleep] at elapsed'
    · obtain rfl := Option.some.inj taken
      exact Or.inl rfl
  next =>
    obtain rfl := Option.some.inj taken
    exact Or.inl rfl
  next here => exact Or.inr (Or.inr here)
  next =>
    obtain rfl := Option.some.inj taken
    exact Or.inl rfl
  next =>
    split at taken
    · obtain rfl := Option.some.inj taken
      exact Or.inr (Or.inl rfl)
    · split at taken
      all_goals
        obtain rfl := Option.some.inj taken
        exact Or.inl rfl
  next => cases taken
  next =>
    obtain rfl := Option.some.inj taken
    exact Or.inl rfl

/-- The code of the routine stands where its state says, and runs inside the one processor that holds the lock: `within`
    when it is not suspended, and `waits` when it has set the state it is to wait in. -/
structure Carries (host : Hosting Processor) (within waits : Prop) : Prop where
  held : host.Held
  inside : within → ∃ processor, host.processor processor = .inside
  resumed : ¬waits → ∀ processor, host.processor processor = .inside → host.routine.state = .ready

variable {within waits : Prop}

theorem Carries.step (carries : host.Carries within waits) (taken : host.step processor elapsed = some next) :
    next.Carries within waits := by
  constructor
  · exact carries.held.step taken
  · intro past
    obtain ⟨other, inside⟩ := carries.inside past
    exact ⟨other, carries.held.step_inside inside taken ▸ inside⟩
  · intro outside other inside
    rcases enters taken inside with before | ready
    · rw [carries.held.step_inside before taken]
      exact carries.resumed outside other before
    · exact ready

omit [DecidableEq Processor] in
/-- The code goes on inside its processor. -/
theorem Carries.inside_to (carries : host.Carries within waits) (inside : host.processor processor = .inside)
    {routine : CRoutine} (lock : routine.lock = host.routine.lock) {within' waits' : Prop}
    (ready : ¬waits' → routine.state = .ready) : Carries { host with routine := routine } within' waits' :=
  ⟨carries.held.withRoutine lock, fun _ => ⟨processor, inside⟩, fun outside _ _ => ready outside⟩

theorem Carries.leave (carries : host.Carries within waits) (inside : host.processor processor = .inside)
    {within' waits' : Prop} (suspended : ¬within') : (host.leave processor).Carries within' waits' := by
  have working : host.processor processor ≠ .acquire := by rw [inside]; decide
  constructor
  · exact carries.held.move working .release rfl
  · exact fun past => absurd past suspended
  · intro _ other again
    unfold Hosting.leave Hosting.toPoint at again
    dsimp only at again
    by_cases same : other = processor
    · rw [same, Function.update_self] at again
      cases again
    · rw [Function.update_of_ne same] at again
      exact absurd (carries.held.alone other processor (by rw [again]; decide) working) same

omit [DecidableEq Processor] in
theorem Carries.setUpdateFlag (carries : host.Carries within waits) : host.setUpdateFlag.Carries within waits :=
  ⟨carries.held.withRoutine rfl, carries.inside, carries.resumed⟩

end Hosting

end CyberRT.Croutine

import CyberRT.Execution.Tally

namespace Execution

variable {Thread Point : Type*} {point : Thread → Point}

/-- A thread is inside the critical section exactly when it owns the mutex. -/
def Guarded (inside : Point → Prop) (point : Thread → Point) (owner : Option Thread) : Prop :=
  ∀ thread, inside (point thread) ↔ owner = some thread

/-- While a thread sleeps, there are as many threads astir as there are tokens: each of them is about to look for a token
    or to wake a sleeper. -/
def Attended (asleep astir : Point → Prop) (point : Thread → Point) (tokens : Nat) : Prop :=
  (∃ thread, asleep (point thread)) →
    ∃ threads : Finset Thread, tokens ≤ threads.card ∧ ∀ thread ∈ threads, astir (point thread)

section Guarded

variable {inside : Point → Prop} {owner : Option Thread} {thread : Thread} {next : Point}

theorem Guarded.only (guarded : Guarded inside point owner) {other : Thread} (here : inside (point thread))
    (there : inside (point other)) : thread = other :=
  Option.some.inj (((guarded thread).mp here).symm.trans ((guarded other).mp there))

theorem Guarded.free (guarded : Guarded inside point none) (thread : Thread) : ¬inside (point thread) := by
  intro here
  cases (guarded thread).mp here

theorem guarded_none (outside : ∀ thread, ¬inside (point thread)) : Guarded inside point none := by
  intro thread
  simp [outside thread]

variable [DecidableEq Thread]

theorem Guarded.stay (guarded : Guarded inside point owner) (same : inside next ↔ inside (point thread)) :
    Guarded inside (Function.update point thread next) owner := by
  intro other
  rw [apply_update_same inside (propext same)]
  exact guarded other

theorem Guarded.lock (guarded : Guarded inside point none) (enters : inside next) :
    Guarded inside (Function.update point thread next) (some thread) := by
  intro other
  by_cases here : other = thread
  · simp [here, enters]
  · simp [here, guarded.free other, Ne.symm here]

theorem Guarded.unlock (guarded : Guarded inside point owner) (here : inside (point thread)) (leaves : ¬inside next) :
    Guarded inside (Function.update point thread next) none := by
  apply guarded_none
  intro other
  by_cases own : other = thread
  · simpa [own] using leaves
  · rw [Function.update_of_ne own]
    exact fun there => own (guarded.only there here)

end Guarded

section Attended

variable {asleep astir : Point → Prop} {tokens : Nat} {thread : Thread} {next : Point}

theorem Attended.of_awake (awake : ∀ thread, ¬asleep (point thread)) : Attended asleep astir point tokens :=
  fun ⟨thread, sleeps⟩ => absurd sleeps (awake thread)

theorem attended_zero : Attended asleep astir point 0 := fun _ => ⟨∅, by simp, by simp⟩

/-- Nobody sleeps while there is a token, unless somebody is astir. -/
theorem Attended.exists_astir (attended : Attended asleep astir point tokens) (sleeps : asleep (point thread))
    (some_token : 0 < tokens) : ∃ other, astir (point other) := by
  obtain ⟨threads, enough, stir⟩ := attended ⟨thread, sleeps⟩
  obtain ⟨other, member⟩ := Finset.card_pos.mp (some_token.trans_le enough)
  exact ⟨other, stir other member⟩

variable [DecidableEq Thread]

theorem asleep_of_update (falls : asleep next → asleep (point thread))
    (sleeps : ∃ other, asleep (Function.update point thread next other)) : ∃ other, asleep (point other) := by
  obtain ⟨other, sleeps⟩ := sleeps
  by_cases here : other = thread
  · rw [here, Function.update_self] at sleeps
    exact ⟨thread, falls sleeps⟩
  · rw [Function.update_of_ne here] at sleeps
    exact ⟨other, sleeps⟩

theorem Attended.stay (attended : Attended asleep astir point tokens) (falls : asleep next → asleep (point thread))
    (stays : astir (point thread) → astir next) : Attended asleep astir (Function.update point thread next) tokens := by
  intro sleeps
  obtain ⟨threads, enough, stir⟩ := attended (asleep_of_update falls sleeps)
  refine ⟨threads, enough, ?_⟩
  intro other member
  by_cases here : other = thread
  · rw [here, Function.update_self]
    exact stays (here ▸ stir other member)
  · rw [Function.update_of_ne here]
    exact stir other member

/-- The thread that adds a token becomes astir itself. -/
theorem Attended.post (attended : Attended asleep astir point tokens) (falls : asleep next → asleep (point thread))
    (still : ¬astir (point thread)) (stirs : astir next) :
    Attended asleep astir (Function.update point thread next) (tokens + 1) := by
  intro sleeps
  obtain ⟨threads, enough, stir⟩ := attended (asleep_of_update falls sleeps)
  have absent : thread ∉ threads := fun member => still (stir thread member)
  refine ⟨insert thread threads, ?_, ?_⟩
  · rw [Finset.card_insert_of_notMem absent]
    exact Nat.succ_le_succ enough
  · intro other member
    by_cases here : other = thread
    · rw [here, Function.update_self]
      exact stirs
    · rw [Function.update_of_ne here]
      exact stir other (Finset.mem_of_mem_insert_of_ne member here)

/-- A thread that takes a token may settle down. -/
theorem Attended.take (attended : Attended asleep astir point (tokens + 1))
    (falls : asleep next → asleep (point thread)) :
    Attended asleep astir (Function.update point thread next) tokens := by
  intro sleeps
  obtain ⟨threads, enough, stir⟩ := attended (asleep_of_update falls sleeps)
  refine ⟨threads.erase thread, ?_, ?_⟩
  · have pred := Finset.pred_card_le_card_erase (s := threads) (a := thread)
    omega
  · intro other member
    rw [Function.update_of_ne (Finset.ne_of_mem_erase member)]
    exact stir other (Finset.mem_of_mem_erase member)

/-- A thread that is astir settles down and wakes a sleeper, which is astir instead. -/
theorem Attended.wake (attended : Attended asleep astir point tokens) {sleeper : Thread} {woken : Point}
    (sleeps : asleep (point sleeper)) (still : ¬astir (point sleeper)) (stirs : astir woken) :
    Attended asleep astir (Function.update (Function.update point thread next) sleeper woken) tokens := by
  intro _
  obtain ⟨threads, enough, stir⟩ := attended ⟨sleeper, sleeps⟩
  have absent : sleeper ∉ threads.erase thread := fun member => still (stir sleeper (Finset.mem_of_mem_erase member))
  refine ⟨insert sleeper (threads.erase thread), ?_, ?_⟩
  · have pred := Finset.pred_card_le_card_erase (s := threads) (a := thread)
    rw [Finset.card_insert_of_notMem absent]
    omega
  · intro other member
    by_cases here : other = sleeper
    · rw [here, Function.update_self]
      exact stirs
    · rw [Function.update_of_ne here]
      have kept := Finset.mem_of_mem_insert_of_ne member here
      rw [Function.update_of_ne (Finset.ne_of_mem_erase kept)]
      exact stir other (Finset.mem_of_mem_erase kept)

end Attended

/-- What the points of a program mean to a monitor: where a thread is blocked in `wait`, where it is awake again and needs
    the mutex, and where it holds the mutex. A thread that is astir is about to look for a token or to wake a sleeper. -/
class Waits (Point : Type*) where
  asleep : Point
  relock : Point
  inside : Point → Bool
  astir : Point → Bool
  asleep_outside : inside asleep = false
  relock_outside : inside relock = false
  asleep_still : astir asleep = false
  relock_astir : astir relock = true

open Waits

theorem relock_ne_asleep [Waits Point] : (relock : Point) ≠ asleep := by
  intro same
  have stirs := @relock_astir Point _
  rw [same, asleep_still] at stirs
  cases stirs

/-- A mutex with a condition variable, and the points of the threads that use them. -/
structure Monitor (Thread Point : Type*) where
  owner : Option Thread := none
  point : Thread → Point

namespace Monitor

variable [DecidableEq Thread] (monitor : Monitor Thread Point)

def moveTo (thread : Thread) (target : Point) : Monitor Thread Point :=
  { monitor with point := Function.update monitor.point thread target }

def acquire (thread : Thread) (target : Point) : Option (Monitor Thread Point) :=
  if monitor.owner = none then some { monitor.moveTo thread target with owner := some thread } else none

def release (thread : Thread) (target : Point) : Monitor Thread Point :=
  { monitor.moveTo thread target with owner := none }

variable [Waits Point] [DecidableEq Point]

/-- `notify_one`: it wakes one of the threads that sleep, if there are any. -/
def notifyOne [Fintype Thread] (thread : Thread) (target : Point) : Option Thread → Option (Monitor Thread Point)
  | none => if ∀ other, monitor.point other ≠ asleep then some (monitor.moveTo thread target) else none
  | some sleeper =>
    if monitor.point sleeper = asleep then some ((monitor.moveTo thread target).moveTo sleeper relock) else none

/-- `notify_all`. -/
def notifyAll (thread : Thread) (target : Point) : Monitor Thread Point :=
  let woken := fun other => if monitor.point other = asleep then relock else monitor.point other
  { monitor with point := Function.update woken thread target }

/-- A wait that times out or ends without a reason. -/
def wakes (thread : Thread) : Option (Monitor Thread Point) :=
  if monitor.point thread = asleep then some (monitor.moveTo thread relock) else none

variable {monitor} {next : Monitor Thread Point} {thread : Thread} {target : Point}

section Related

variable (Relation : Point → Point → Prop) (reflexive : ∀ point, Relation point point)

omit [Waits Point] [DecidableEq Point] in
include reflexive in
/-- A relation between the points of one thread before and after its own step holds of all threads. -/
theorem related_moveTo (own : Relation (monitor.point thread) target) (other : Thread) :
    Relation (monitor.point other) ((monitor.moveTo thread target).point other) := by
  show Relation _ (Function.update monitor.point thread target other)
  by_cases here : other = thread
  · rw [here, Function.update_self]
    exact own
  · rw [Function.update_of_ne here]
    exact reflexive _

omit [Waits Point] [DecidableEq Point] in
include reflexive in
theorem related_acquire (taken : monitor.acquire thread target = some next)
    (own : Relation (monitor.point thread) target) (other : Thread) :
    Relation (monitor.point other) (next.point other) := by
  unfold acquire at taken
  split at taken
  · obtain rfl := Option.some.inj taken
    exact related_moveTo Relation reflexive own other
  · cases taken

include reflexive in
theorem related_notifyOne [Fintype Thread] (wakes : Relation asleep relock) {woken : Option Thread}
    (taken : monitor.notifyOne thread target woken = some next) (own : Relation (monitor.point thread) target)
    (other : Thread) : Relation (monitor.point other) (next.point other) := by
  unfold notifyOne at taken
  cases woken with
  | none =>
    simp only [Option.ite_none_right_eq_some, Option.some.injEq] at taken
    obtain ⟨_, rfl⟩ := taken
    exact related_moveTo Relation reflexive own other
  | some sleeper =>
    simp only [Option.ite_none_right_eq_some, Option.some.injEq] at taken
    obtain ⟨sleeps, rfl⟩ := taken
    show Relation _ (Function.update (Function.update monitor.point thread target) sleeper relock other)
    by_cases here : other = sleeper
    · rw [here, Function.update_self, sleeps]
      exact wakes
    · rw [Function.update_of_ne here]
      exact related_moveTo Relation reflexive own other

include reflexive in
theorem related_notifyAll (wakes : Relation asleep relock) (own : Relation (monitor.point thread) target)
    (other : Thread) : Relation (monitor.point other) ((monitor.notifyAll thread target).point other) := by
  let woken := fun other => if monitor.point other = asleep then relock else monitor.point other
  show Relation _ (Function.update woken thread target other)
  by_cases here : other = thread
  · rw [here, Function.update_self]
    exact own
  · rw [Function.update_of_ne here]
    show Relation _ (if monitor.point other = asleep then relock else monitor.point other)
    split
    · rename_i sleeps
      rw [sleeps]
      exact wakes
    · exact reflexive _

include reflexive in
theorem related_wakes (wakes : Relation asleep relock) (taken : monitor.wakes thread = some next) (other : Thread) :
    Relation (monitor.point other) (next.point other) := by
  unfold Monitor.wakes at taken
  simp only [Option.ite_none_right_eq_some, Option.some.injEq] at taken
  obtain ⟨sleeps, rfl⟩ := taken
  exact related_moveTo Relation reflexive (sleeps ▸ wakes) other

end Related

def Exclusive (monitor : Monitor Thread Point) : Prop :=
  Guarded (fun point => inside point = true) monitor.point monitor.owner

def Attends (monitor : Monitor Thread Point) (tokens : Nat) : Prop :=
  Attended (fun point => point = asleep) (fun point => astir point = true) monitor.point tokens

section Exclusive

variable (exclusive : monitor.Exclusive)

include exclusive

omit [DecidableEq Thread] [DecidableEq Point] in
theorem Exclusive.congr (same : ∀ other, inside (next.point other) = inside (monitor.point other))
    (owned : next.owner = monitor.owner) : next.Exclusive := by
  intro other
  show inside (next.point other) = true ↔ _
  rw [same other, owned]
  exact exclusive other

omit [DecidableEq Point] in
theorem Exclusive.moveTo (same : inside target = inside (monitor.point thread)) :
    (monitor.moveTo thread target).Exclusive := by
  refine exclusive.congr (fun other => ?_) rfl
  exact related_moveTo (fun point next => inside next = inside point) (fun _ => rfl) same other

omit [DecidableEq Point] in
theorem Exclusive.acquire (taken : monitor.acquire thread target = some next) (enters : inside target = true) :
    next.Exclusive := by
  unfold Monitor.acquire at taken
  split at taken
  · rename_i free
    obtain rfl := Option.some.inj taken
    unfold Exclusive at exclusive
    rw [free] at exclusive
    exact exclusive.lock enters
  · cases taken

omit [DecidableEq Point] in
theorem Exclusive.release (here : inside (monitor.point thread) = true) (leaves : inside target = false) :
    (monitor.release thread target).Exclusive :=
  Guarded.unlock exclusive here (by simp [leaves])

theorem Exclusive.notifyOne [Fintype Thread] {woken : Option Thread}
    (taken : monitor.notifyOne thread target woken = some next) (same : inside target = inside (monitor.point thread)) :
    next.Exclusive := by
  refine exclusive.congr (fun other => ?_) ?_
  · refine related_notifyOne (fun point next => inside next = inside point) (fun _ => rfl) ?_ taken same other
    rw [asleep_outside, relock_outside]
  · unfold Monitor.notifyOne at taken
    cases woken <;> simp only [Option.ite_none_right_eq_some, Option.some.injEq] at taken <;>
      exact taken.2 ▸ rfl

theorem Exclusive.notifyAll (same : inside target = inside (monitor.point thread)) :
    (monitor.notifyAll thread target).Exclusive := by
  refine exclusive.congr (fun other => ?_) rfl
  refine related_notifyAll (fun point next => inside next = inside point) (fun _ => rfl) ?_ same other
  rw [asleep_outside, relock_outside]

theorem Exclusive.wakes (taken : monitor.wakes thread = some next) : next.Exclusive := by
  unfold Monitor.wakes at taken
  simp only [Option.ite_none_right_eq_some, Option.some.injEq] at taken
  obtain ⟨sleeps, rfl⟩ := taken
  exact exclusive.moveTo (by rw [sleeps, asleep_outside, relock_outside])

end Exclusive

section Attends

variable {tokens : Nat} (attends : monitor.Attends tokens)

omit [DecidableEq Thread] [DecidableEq Point] in
theorem attends_zero : monitor.Attends 0 := attended_zero

include attends

omit [DecidableEq Point] in
theorem Attends.moveTo (awake : target ≠ asleep) (stays : astir (monitor.point thread) = true → astir target = true) :
    (monitor.moveTo thread target).Attends tokens :=
  Attended.stay attends (fun sleeps => absurd sleeps awake) stays

omit [DecidableEq Point] in
theorem Attends.acquire (taken : monitor.acquire thread target = some next) (awake : target ≠ asleep)
    (stays : astir (monitor.point thread) = true → astir target = true) : next.Attends tokens := by
  unfold Monitor.acquire at taken
  split at taken
  · obtain rfl := Option.some.inj taken
    exact attends.moveTo awake stays
  · cases taken

omit [DecidableEq Point] in
theorem Attends.release (awake : target ≠ asleep) (stays : astir (monitor.point thread) = true → astir target = true) :
    (monitor.release thread target).Attends tokens :=
  attends.moveTo awake stays

omit [DecidableEq Point] in
theorem Attends.post (awake : target ≠ asleep) (still : astir (monitor.point thread) = false)
    (stirs : astir target = true) : (monitor.moveTo thread target).Attends (tokens + 1) :=
  Attended.post attends (fun sleeps => absurd sleeps awake) (by simp [still]) stirs

theorem Attends.notifyOne [Fintype Thread] {woken : Option Thread} (awake : target ≠ asleep)
    (taken : monitor.notifyOne thread target woken = some next) : next.Attends tokens := by
  unfold Monitor.notifyOne at taken
  cases woken with
  | none =>
    simp only [Option.ite_none_right_eq_some, Option.some.injEq] at taken
    obtain ⟨nobody, rfl⟩ := taken
    refine Attended.of_awake ?_
    intro other sleeps
    refine nobody other (related_moveTo (fun point next => next = asleep → point = asleep) (fun _ => id) ?_ other sleeps)
    exact fun falls => absurd falls awake
  | some sleeper =>
    simp only [Option.ite_none_right_eq_some, Option.some.injEq] at taken
    obtain ⟨sleeps, rfl⟩ := taken
    refine Attended.wake attends sleeps ?_ relock_astir
    rw [sleeps, asleep_still]
    simp

theorem Attends.wakes (taken : monitor.wakes thread = some next) :
    next.Attends tokens := by
  unfold Monitor.wakes at taken
  simp only [Option.ite_none_right_eq_some, Option.some.injEq] at taken
  obtain ⟨sleeps, rfl⟩ := taken
  exact attends.moveTo relock_ne_asleep fun _ => relock_astir

end Attends

omit [DecidableEq Point] in
theorem Attends.take {tokens : Nat} (attends : monitor.Attends (tokens + 1)) (awake : target ≠ asleep) :
    (monitor.moveTo thread target).Attends tokens :=
  Attended.take attends fun sleeps => absurd sleeps awake

/-- Nobody sleeps behind `notify_all`. -/
theorem awake_notifyAll (awake : target ≠ asleep) (other : Thread) :
    (monitor.notifyAll thread target).point other ≠ asleep := by
  let woken := fun other => if monitor.point other = asleep then relock else monitor.point other
  show Function.update woken thread target other ≠ asleep
  by_cases here : other = thread
  · rw [here, Function.update_self]
    exact awake
  · rw [Function.update_of_ne here]
    show (if monitor.point other = asleep then relock else monitor.point other) ≠ asleep
    split
    · exact relock_ne_asleep
    · assumption

theorem attends_notifyAll {tokens : Nat} (awake : target ≠ asleep) :
    (monitor.notifyAll thread target).Attends tokens :=
  Attended.of_awake (awake_notifyAll awake)

end Monitor

end Execution

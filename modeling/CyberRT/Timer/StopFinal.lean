import Mathlib.Data.Fintype.Basic
import CyberRT.Timer.Timer

namespace CyberRT.Timer

open Execution

/-- The task whose callback is about to be started, the closure having been taken. -/
def FiringPoint.flight : FiringPoint → Option Nat
  | .testRunning task | .call task | .lock task | .takeMutex task | .callback task => some task
  | _ => none

theorem FiringPoint.flight_of_queued {point : FiringPoint} {task : Nat} (queued : point.queued = some task) :
    point.flight = some task := by
  cases point with
  | testRunning _ | call _ | lock _ => exact queued
  | idle | takeMutex _ | callback _ | addTask _ | unlock _ | letGo _ => cases queued

/-- A timer whose `started_` is clear has no task but the one that its `Stop` is going to reset. -/
def TimerState.Coherent (timer : TimerState) : Prop :=
  match timer.stop with
  | .idle => timer.started = false → timer.task = none
  | .copy => timer.started = false
  | .takeMutex task | .reset task => timer.started = false ∧ timer.task = some task
  | .unlock _ | .letGo _ => timer.started = false ∧ timer.task = none

namespace Timers

variable {TimerId Worker : Type} {system next : Timers TimerId Worker}

/-- A firing of the task is on its way to the start of the callback. -/
def InFlight (system : Timers TimerId Worker) (task : Nat) : Prop :=
  system.tick = .async task ∨ task ∈ system.queue ∨ ∃ worker, (system.worker worker).flight = some task

instance [Fintype Worker] (system : Timers TimerId Worker) (task : Nat) : Decidable (system.InFlight task) :=
  inferInstanceAs (Decidable (_ ∨ _ ∨ _))

theorem Queued.inFlight {task : Nat} (queued : system.Queued task) : system.InFlight task := by
  rcases queued with waits | ⟨worker, taken⟩
  · exact Or.inr (Or.inl waits)
  · exact Or.inr (Or.inr ⟨worker, FiringPoint.flight_of_queued taken⟩)

/-- The task of which a call of `Stop` returns with this step. -/
def returning (system : Timers TimerId Worker) : TimerEvent TimerId Worker → Option Nat
  | .stop id => if (system.timer id).started then none else (system.timer id).stopping
  | .stopStep id => match (system.timer id).stop with
    | .letGo task => some task
    | _ => none
  | _ => none

/-- The task that `Tick` locks with this step. -/
def locking (system : Timers TimerId Worker) : TimerEvent TimerId Worker → Option Nat
  | .tick _ => match system.tick, system.currentBucket with
    | .lock, task :: _ => if system.tasks.released task then none else some task
    | _, _ => none
  | _ => none

/-- No `Stop` returns while a firing of its task is in flight, and `Tick` does not lock a task of which a `Stop` has
    returned. -/
def Quiet (system : Timers TimerId Worker) (event : TimerEvent TimerId Worker) : Prop :=
  (∀ task ∈ system.returning event, ¬system.InFlight task) ∧
    ∀ task ∈ system.locking event, system.stopped task = false

instance [Fintype Worker] (system : Timers TimerId Worker) (event : TimerEvent TimerId Worker) :
    Decidable (system.Quiet event) :=
  inferInstanceAs (Decidable (_ ∧ _))

/-- Every task is held by its timer until it is stopped, and only a task that is not stopped is in flight. -/
structure Sound (system : Timers TimerId Worker) : Prop where
  known : ∀ holder task, system.tasks.Holds holder task → task < system.made
  timers : ∀ id task, (system.timer id).task = some task → system.tasks.Holds (.timer id) task
  stops : ∀ id task, (system.timer id).stop.task = some task → system.tasks.Holds (.stop id) task
  coherent : ∀ id, (system.timer id).Coherent
  accounted : ∀ task < system.made, system.stopped task = true ∨
    ∃ id, (system.timer id).task = some task ∨ (system.timer id).stop.task = some task
  flights : ∀ task, system.InFlight task → task < system.made ∧ system.stopped task = false
  onTime : system.lateStarts = []

theorem sound_start : ({} : Timers TimerId Worker).Sound := by
  constructor
  · exact fun _ _ holds => absurd holds List.not_mem_nil
  · exact fun _ _ none => nomatch none
  · exact fun _ _ none => nomatch none
  · exact fun _ _ => rfl
  · exact fun task below => absurd below (Nat.not_lt_zero task)
  · rintro task (handed | queued | ⟨worker, taken⟩)
    · cases handed
    · cases queued
    · cases taken
  · rfl

/-- The task of a firing in flight has not been stopped, so its timer or the `Stop` of the timer still holds it. -/
theorem Sound.final (sound : system.Sound) : system.Final := by
  constructor
  · exact sound.onTime
  · intro task queued
    obtain ⟨below, notStopped⟩ := sound.flights task queued.inFlight
    rcases sound.accounted task below with stopped | ⟨id, owned | stopping⟩
    · rw [notStopped] at stopped
      cases stopped
    · exact (sound.timers id task owned).alive
    · exact (sound.stops id task stopping).alive

theorem Sound.known_of_alive (sound : system.Sound) {task : Nat} (alive : system.tasks.released task ≠ true) :
    task < system.made := by
  obtain ⟨holder, holds⟩ := Memory.Sharing.released_eq_false_iff.mp (Bool.eq_false_iff.mpr alive)
  exact sound.known holder task holds

theorem Sound.at_wheel (sound : system.Sound) (wheel : TimingWheel Nat) : { system with wheel := wheel }.Sound :=
  ⟨sound.known, sound.timers, sound.stops, sound.coherent, sound.accounted, sound.flights, sound.onTime⟩

theorem Sound.addTask (sound : system.Sound) {task nextFireDurationMs : Nat}
    (taken : system.addTask task nextFireDurationMs = some next) : next.Sound := by
  obtain ⟨wheel, -, rfl⟩ := Option.map_eq_some_iff.mp taken
  exact sound.at_wheel wheel

theorem Sound.turn (sound : system.Sound) {event : WheelEvent Nat} (taken : system.turn event = some next) :
    next.Sound := by
  unfold Timers.turn at taken
  split at taken
  · cases taken
  · cases taken
  · cases taken
  · obtain ⟨wheel, -, rfl⟩ := Option.map_eq_some_iff.mp taken
    exact sound.at_wheel wheel

theorem Sound.setMutex (sound : system.Sound) (task : Nat) (locked : Bool) : (system.setMutex task locked).Sound :=
  ⟨sound.known, sound.timers, sound.stops, sound.coherent, sound.accounted, sound.flights, sound.onTime⟩

/-- A firing of a task that is not stopped goes on. -/
theorem Sound.at_flights (sound : system.Sound) {tick : TickPoint} {queue : List Nat} {worker : Worker → FiringPoint}
    (flights : ∀ task, InFlight { system with tick := tick, queue := queue, worker := worker } task →
      task < system.made ∧ system.stopped task = false) :
    Sound { system with tick := tick, queue := queue, worker := worker } :=
  ⟨sound.known, sound.timers, sound.stops, sound.coherent, sound.accounted, flights, sound.onTime⟩

theorem Sound.toTick (sound : system.Sound) {point : TickPoint}
    (flight : ∀ task, point = .async task → task < system.made ∧ system.stopped task = false) :
    { system with tick := point }.Sound := by
  apply sound.at_flights
  intro task flies
  rcases flies with handed | later
  · exact flight task handed
  · exact sound.flights task (Or.inr later)

/-- `Stop` has returned for tasks of which no firing is in flight. -/
theorem Sound.at_stopped (sound : system.Sound) {stopped : Nat → Bool}
    (kept : ∀ task, system.stopped task = true → stopped task = true)
    (quiet : ∀ task, stopped task = true → system.stopped task = false → ¬system.InFlight task) :
    { system with stopped := stopped }.Sound := by
  refine ⟨sound.known, sound.timers, sound.stops, sound.coherent, ?_, ?_, sound.onTime⟩
  · intro task below
    exact (sound.accounted task below).imp_left (kept task)
  · intro task flies
    obtain ⟨below, notStopped⟩ := sound.flights task flies
    refine ⟨below, Bool.eq_false_iff.mpr ?_⟩
    exact fun now => quiet task now notStopped flies

variable [DecidableEq TimerId]

/-- The timer lets a task go from `task_` and from its `Stop` once it has been stopped. -/
theorem Sound.toTimer (sound : system.Sound) {id : TimerId} {timer : TimerState}
    (task : ∀ task, timer.task = some task → system.tasks.Holds (.timer id) task)
    (stop : ∀ task, timer.stop.task = some task → system.tasks.Holds (.stop id) task) (coherent : timer.Coherent)
    (kept : ∀ task, (system.timer id).task = some task ∨ (system.timer id).stop.task = some task →
      system.stopped task = true ∨ timer.task = some task ∨ timer.stop.task = some task) :
    (system.toTimer id timer).Sound := by
  have at_id : (system.toTimer id timer).timer id = timer := Function.update_self _ _ _
  have elsewhere : ∀ other, other ≠ id → (system.toTimer id timer).timer other = system.timer other :=
    fun other differs => Function.update_of_ne differs _ _
  refine ⟨sound.known, ?_, ?_, ?_, ?_, sound.flights, sound.onTime⟩
  · intro other held owned
    by_cases same : other = id
    · subst same
      rw [at_id] at owned
      exact task held owned
    · rw [elsewhere other same] at owned
      exact sound.timers other held owned
  · intro other held stopping
    by_cases same : other = id
    · subst same
      rw [at_id] at stopping
      exact stop held stopping
    · rw [elsewhere other same] at stopping
      exact sound.stops other held stopping
  · intro other
    by_cases same : other = id
    · subst same
      rw [at_id]
      exact coherent
    · rw [elsewhere other same]
      exact sound.coherent other
  · intro held below
    rcases sound.accounted held below with stopped | ⟨other, owned⟩
    · exact Or.inl stopped
    · by_cases same : other = id
      · subst same
        refine (kept held owned).imp_right fun still => ⟨other, ?_⟩
        rw [at_id]
        exact still
      · right
        refine ⟨other, ?_⟩
        rw [elsewhere other same]
        exact owned

theorem Sound.stop (sound : system.Sound) {id : TimerId} (quiet : system.Quiet (.stop id)) : (system.stop id).Sound := by
  have coherent := sound.coherent id
  unfold Timers.stop
  split
  · rename_i started
    have idle : (system.timer id).stop = .idle := by
      cases point : (system.timer id).stop <;> simp_all [TimerState.Coherent]
    apply sound.toTimer
    · exact sound.timers id
    · intro task stopping
      dsimp only at stopping
      split at stopping <;> cases stopping
    · cases owned : (system.timer id).task with
      | none => exact fun _ => owned
      | some task => rfl
    · intro task held
      rw [idle] at held
      exact Or.inr (Or.inl (held.resolve_right nofun))
  · rename_i notStarted
    apply sound.at_stopped
    · exact fun task already => by simp [already]
    · intro task now before
      apply quiet.1
      simpa [returning, notStarted, before] using now

variable [DecidableEq Worker]

omit [DecidableEq TimerId] [DecidableEq Worker] in
theorem Sound.hold (sound : system.Sound) {task : Nat} (below : task < system.made) (holder : Holder TimerId Worker) :
    (system.hold holder task).Sound := by
  refine ⟨?_, ?_, ?_, sound.coherent, sound.accounted, sound.flights, sound.onTime⟩
  · intro other held holds
    rcases Memory.Sharing.holds_hold_iff.mp holds with before | ⟨-, same⟩
    · exact sound.known other held before
    · rw [same]
      exact below
  · exact fun id held owned => (sound.timers id held owned).hold
  · exact fun id held stopping => (sound.stops id held stopping).hold

/-- Whoever lets go of a task is not a timer or a `Stop` that needs it. -/
theorem Sound.letGo (sound : system.Sound) {holder : Holder TimerId Worker} {task : Nat}
    (timers : ∀ id, holder = .timer id → (system.timer id).task ≠ some task)
    (stops : ∀ id, holder = .stop id → (system.timer id).stop.task ≠ some task) :
    (system.letGo holder task).Sound := by
  refine ⟨?_, ?_, ?_, sound.coherent, sound.accounted, sound.flights, sound.onTime⟩
  · exact fun other held holds => sound.known other held holds.of_letGo
  · intro id held owned
    apply (sound.timers id held owned).letGo
    intro here same
    rw [same] at owned
    exact timers id here.symm owned
  · intro id held stopping
    apply (sound.stops id held stopping).letGo
    intro here same
    rw [same] at stopping
    exact stops id here.symm stopping

theorem Sound.tickStep (sound : system.Sound) {accepted : Bool} (quiet : system.Quiet (.tick accepted))
    (taken : system.tickStep accepted = some next) : next.Sound := by
  unfold Timers.tickStep at taken
  split at taken
  · split at taken
    · obtain rfl := Option.some.inj taken
      exact sound.toTick nofun
    · cases taken
  · rename_i here
    split at taken
    · obtain rfl := Option.some.inj taken
      exact (sound.at_wheel _).toTick nofun
    · rename_i task rest bucket
      split at taken
      · obtain rfl := Option.some.inj taken
        exact sound.at_wheel _
      · rename_i alive
        obtain rfl := Option.some.inj taken
        have below := sound.known_of_alive alive
        apply (sound.hold below .tick).toTick
        intro other handed
        obtain rfl := TickPoint.async.inj handed
        refine ⟨below, quiet.2 task ?_⟩
        simp [locking, here, bucket, alive]
  · rename_i task here
    obtain rfl := Option.some.inj taken
    apply sound.at_flights
    intro other flies
    rcases flies with handed | queued | running
    · cases handed
    · dsimp only at queued
      split at queued
      · rcases List.mem_append.mp queued with before | new
        · exact sound.flights other (Or.inr (Or.inl before))
        · rw [List.mem_singleton.mp new]
          exact sound.flights task (Or.inl here)
      · exact sound.flights other (Or.inr (Or.inl queued))
    · exact sound.flights other (Or.inr (Or.inr running))
  · obtain rfl := Option.some.inj taken
    have erased : system.eraseFirst.Sound := sound.at_wheel _
    refine (erased.letGo ?_ ?_).toTick nofun
    · exact fun _ other => nomatch other
    · exact fun _ other => nomatch other

omit [DecidableEq TimerId] in
theorem Sound.toWorker (sound : system.Sound) {worker : Worker} {point : FiringPoint}
    (goes : ∀ task, point.flight = some task → (system.worker worker).flight = some task) :
    (system.toWorker worker point).Sound := by
  apply sound.at_flights
  intro task flies
  apply sound.flights
  rcases flies with handed | queued | ⟨other, running⟩
  · exact Or.inl handed
  · exact Or.inr (Or.inl queued)
  · right
    right
    have moved : (Function.update system.worker worker point other).flight = some task := running
    by_cases same : other = worker
    · rw [same, Function.update_self] at moved
      exact ⟨worker, goes task moved⟩
    · rw [Function.update_of_ne same] at moved
      exact ⟨other, moved⟩

omit [DecidableEq TimerId] in
theorem Sound.take (sound : system.Sound) {worker : Worker} (taken : system.take worker = some next) : next.Sound := by
  unfold Timers.take at taken
  split at taken
  · rename_i task rest here queue
    obtain rfl := Option.some.inj taken
    apply sound.at_flights
    intro other flies
    apply sound.flights
    rcases flies with handed | queued | ⟨runner, running⟩
    · exact Or.inl handed
    · right
      left
      rw [queue]
      exact List.mem_cons_of_mem task queued
    · right
      have moved : (Function.update system.worker worker (.testRunning task) runner).flight = some other := running
      by_cases same : runner = worker
      · rw [same, Function.update_self] at moved
        obtain rfl := Option.some.inj moved
        left
        rw [queue]
        exact List.mem_cons_self
      · rw [Function.update_of_ne same] at moved
        exact Or.inr ⟨runner, moved⟩
  · cases taken

theorem Sound.workerStep (sound : system.Sound) {worker : Worker} {nextFireDurationMs : Nat}
    (taken : system.workerStep worker nextFireDurationMs = some next) : next.Sound := by
  unfold Timers.workerStep at taken
  split at taken
  · cases taken
  · rename_i here
    obtain rfl := Option.some.inj taken
    apply sound.toWorker
    rw [here]
    split
    · exact fun _ => id
    · exact nofun
  · rename_i here
    obtain rfl := Option.some.inj taken
    apply sound.toWorker
    rw [here]
    exact fun _ => id
  · rename_i task here
    split at taken
    · obtain rfl := Option.some.inj taken
      exact sound.toWorker nofun
    · rename_i alive
      obtain rfl := Option.some.inj taken
      apply (sound.hold (sound.known_of_alive alive) (.worker worker)).toWorker
      show ∀ _, _ → (system.worker worker).flight = _
      rw [here]
      exact fun _ => id
  · rename_i task here
    split at taken
    · cases taken
    · obtain rfl := Option.some.inj taken
      apply (sound.setMutex task true).toWorker
      show ∀ _, _ → (system.worker worker).flight = _
      rw [here]
      exact fun _ => id
  · rename_i task here
    obtain rfl := Option.some.inj taken
    have flies : system.InFlight task := Or.inr (Or.inr ⟨worker, by rw [here]; rfl⟩)
    rw [(sound.flights task flies).2]
    exact sound.toWorker nofun
  · split at taken
    · obtain rfl := Option.some.inj taken
      exact sound.toWorker nofun
    · obtain ⟨added, armed, rfl⟩ := Option.map_eq_some_iff.mp taken
      exact (sound.addTask armed).toWorker nofun
  · rename_i task here
    obtain rfl := Option.some.inj taken
    exact (sound.setMutex task false).toWorker nofun
  · obtain rfl := Option.some.inj taken
    refine (sound.letGo ?_ ?_).toWorker nofun
    · exact fun _ other => nomatch other
    · exact fun _ other => nomatch other

omit [DecidableEq Worker] in
/-- `Stop` takes or gives back the mutex of its task and goes on with it. -/
theorem Sound.stopMutex (sound : system.Sound) {id : TimerId} {point : StopPoint} (locked : Bool) {task : Nat}
    (here : (system.timer id).stop.task = some task) (there : point.task = some task)
    (coherent : { system.timer id with stop := point }.Coherent) :
    ((system.setMutex task locked).toTimer id { system.timer id with stop := point }).Sound := by
  apply (sound.setMutex task locked).toTimer
  · exact sound.timers id
  · intro other stopping
    have same : point.task = some other := stopping
    rw [there, ← here] at same
    exact sound.stops id other same
  · exact coherent
  · intro other before
    have before : (system.timer id).task = some other ∨ (system.timer id).stop.task = some other := before
    rw [here, ← there] at before
    exact Or.inr before

theorem Sound.stopStep (sound : system.Sound) {id : TimerId} (quiet : system.Quiet (.stopStep id))
    (taken : system.stopStep id = some next) : next.Sound := by
  have coherent := sound.coherent id
  have timers := sound.timers id
  have stops := sound.stops id
  unfold Timers.stopStep at taken
  split at taken
  · cases taken
  · rename_i here
    obtain ⟨task, owned, rfl⟩ := Option.map_eq_some_iff.mp taken
    simp only [TimerState.Coherent, here] at coherent
    have held := sound.hold (sound.known _ task (timers task owned)) (.stop id)
    apply held.toTimer
    · exact fun other owned => (timers other owned).hold
    · intro other stopping
      obtain rfl := Option.some.inj stopping
      exact Memory.Sharing.holds_hold
    · exact ⟨coherent, owned⟩
    · intro other before
      have before : (system.timer id).task = some other ∨ (system.timer id).stop.task = some other := before
      rw [here] at before
      exact Or.inr (Or.inl (before.resolve_right nofun))
  · rename_i task here
    split at taken
    · cases taken
    · obtain rfl := Option.some.inj taken
      simp only [TimerState.Coherent, here] at coherent
      exact sound.stopMutex true (by rw [here]; rfl) rfl coherent
  · rename_i task here
    obtain rfl := Option.some.inj taken
    simp only [TimerState.Coherent, here] at coherent
    rw [here] at stops
    have reset : (system.toTimer id { system.timer id with task := none, stop := .unlock task }).Sound := by
      apply sound.toTimer
      · exact nofun
      · exact stops
      · exact ⟨coherent.1, rfl⟩
      · intro other before
        right
        right
        rcases before with owned | stopping
        · exact coherent.2.symm.trans owned
        · rw [here] at stopping
          exact stopping
    have same : (system.resetTask id).toTimer id { (system.resetTask id).timer id with stop := .unlock task } =
        (system.toTimer id { system.timer id with task := none, stop := .unlock task }).letGo (.timer id) task := by
      simp [resetTask, coherent.2, Timers.toTimer, Timers.letGo]
    rw [same]
    apply reset.letGo
    · intro other here
      obtain rfl := Holder.timer.inj here
      simp [Timers.toTimer]
    · exact fun _ other => nomatch other
  · rename_i task here
    obtain rfl := Option.some.inj taken
    simp only [TimerState.Coherent, here] at coherent
    exact sound.stopMutex false (by rw [here]; rfl) rfl coherent
  · rename_i task here
    obtain rfl := Option.some.inj taken
    simp only [TimerState.Coherent, here] at coherent
    have returned : { system with stopped := Function.update system.stopped task true }.Sound := by
      apply sound.at_stopped
      · intro other already
        by_cases same : other = task
        · rw [same, Function.update_self]
        · rw [Function.update_of_ne same]
          exact already
      · intro other now before
        by_cases same : other = task
        · apply quiet.1
          simp [returning, here, same]
        · rw [Function.update_of_ne same, before] at now
          cases now
    have idle : (Timers.toTimer { system with stopped := Function.update system.stopped task true } id
        { system.timer id with stop := .idle }).Sound := by
      apply returned.toTimer
      · exact timers
      · exact nofun
      · exact fun _ => coherent.2
      · intro other before
        left
        dsimp only at before
        rw [coherent.2, here] at before
        obtain rfl := Option.some.inj (before.resolve_left nofun)
        exact Function.update_self _ _ _
    apply idle.letGo
    · exact fun _ other => nomatch other
    · intro other here
      obtain rfl := Holder.stop.inj here
      simp [Timers.toTimer, StopPoint.task]

omit [DecidableEq Worker] in
/-- A new task, which the timer holds. -/
theorem Sound.make (sound : system.Sound) {id : TimerId} {timer : TimerState} {oneshot : Nat → Bool}
    (idle : (system.timer id).stop = .idle) (free : (system.timer id).task = none) (coherent : timer.Coherent)
    (stop : timer.stop = .idle) (task : timer.task = some system.made) :
    Sound { (system.hold (.timer id) system.made).toTimer id timer with made := system.made + 1, oneshot := oneshot } := by
  have at_id : Function.update system.timer id timer id = timer := Function.update_self _ _ _
  have elsewhere : ∀ other, other ≠ id → Function.update system.timer id timer other = system.timer other :=
    fun other differs => Function.update_of_ne differs _ _
  constructor
  · intro other held holds
    rcases Memory.Sharing.holds_hold_iff.mp holds with before | ⟨-, same⟩
    · exact Nat.lt_succ_of_lt (sound.known other held before)
    · rw [same]
      exact Nat.lt_succ_self _
  · intro other held owned
    have owned : (Function.update system.timer id timer other).task = some held := owned
    by_cases same : other = id
    · rw [same, at_id, task] at owned
      obtain rfl := Option.some.inj owned
      rw [same]
      exact Memory.Sharing.holds_hold
    · rw [elsewhere other same] at owned
      exact (sound.timers other held owned).hold
  · intro other held stopping
    have stopping : (Function.update system.timer id timer other).stop.task = some held := stopping
    by_cases same : other = id
    · rw [same, at_id, stop] at stopping
      cases stopping
    · rw [elsewhere other same] at stopping
      exact (sound.stops other held stopping).hold
  · intro other
    show (Function.update system.timer id timer other).Coherent
    by_cases same : other = id
    · rw [same, at_id]
      exact coherent
    · rw [elsewhere other same]
      exact sound.coherent other
  · intro held below
    have placed : ∀ other, (system.timer other).task = some held ∨ (system.timer other).stop.task = some held →
        (Function.update system.timer id timer other).task = some held ∨
          (Function.update system.timer id timer other).stop.task = some held := by
      intro other before
      by_cases same : other = id
      · rw [same, idle, free] at before
        rcases before with none | none <;> cases none
      · rw [elsewhere other same]
        exact before
    rcases Nat.lt_succ_iff_lt_or_eq.mp below with before | new
    · exact (sound.accounted held before).imp_right fun ⟨other, owned⟩ => ⟨other, placed other owned⟩
    · right
      refine ⟨id, Or.inl ?_⟩
      show (Function.update system.timer id timer id).task = some held
      rw [at_id, task, new]
  · intro held flies
    obtain ⟨below, notStopped⟩ := sound.flights held flies
    exact ⟨Nat.lt_succ_of_lt below, notStopped⟩
  · exact sound.onTime

theorem Sound.start (sound : system.Sound) {id : TimerId} {option : TimerOption}
    (taken : system.start id option = some next) : next.Sound := by
  unfold Timers.start at taken
  split at taken
  · cases taken
  · rename_i still
    have idle := not_not.mp still
    split at taken
    · obtain rfl := Option.some.inj taken
      exact sound
    · rename_i notStarted
      have free : (system.timer id).task = none := by
        have coherent := sound.coherent id
        simp only [TimerState.Coherent, idle] at coherent
        exact coherent (Bool.eq_false_iff.mpr notStarted)
      have started : (system.toTimer id { system.timer id with started := true }).Sound := by
        apply sound.toTimer
        · exact sound.timers id
        · exact sound.stops id
        · simp [TimerState.Coherent, idle]
        · exact fun _ before => Or.inr before
      dsimp only at taken
      split at taken
      · obtain rfl := Option.some.inj taken
        exact started
      · refine Sound.addTask ?_ taken
        have at_id : (system.toTimer id { system.timer id with started := true }).timer id =
            { system.timer id with started := true } := Function.update_self _ _ _
        have nothing : (system.toTimer id { system.timer id with started := true }).resetTask id =
            system.toTimer id { system.timer id with started := true } := by
          rw [resetTask, at_id]
          simp only [free]
        unfold initTimerTask
        dsimp only
        rw [nothing, at_id]
        apply started.make
        · rw [at_id]
          exact idle
        · rw [at_id]
          exact free
        · simp [TimerState.Coherent, idle]
        · exact idle
        · rfl

theorem Sound.step (sound : system.Sound) {event : TimerEvent TimerId Worker} (quiet : system.Quiet event)
    (taken : system.step event = some next) : next.Sound := by
  cases event with
  | start id option => exact sound.start taken
  | stop id =>
    obtain rfl := Option.some.inj taken
    exact sound.stop quiet
  | stopStep id => exact sound.stopStep quiet taken
  | tick accepted => exact sound.tickStep quiet taken
  | turn event => exact sound.turn taken
  | take worker => exact sound.take taken
  | worker worker nextFireDurationMs => exact sound.workerStep taken

/-- In every run whose calls of `Stop` return while no firing of their task is in flight, and in which `Tick` does not lock
    a task afterwards, `Stop` is final. -/
theorem stop_final {events : List (TimerEvent TimerId Worker)} (meets : Meets step Quiet {} events)
    (ran : run step {} events = some system) : system.Final := by
  have reached : system.Sound := by
    apply Meets.preserves Sound _ sound_start meets ran
    exact fun system event next quiet taken sound => sound.step quiet taken
  exact reached.final

def ticking (steps : Nat) : List (TimerEvent Unit Unit) := List.replicate steps (.tick true)

def working (steps : Nat) : List (TimerEvent Unit Unit) := List.replicate steps (.worker () 1)

/-- A periodic timer fires for the first time and `Async` queues the closure. -/
def fired : List (TimerEvent Unit Unit) :=
  [.start () ⟨1, false⟩] ++ ticking 2 ++ [.turn .advanceWork] ++ ticking 5

def callsStop : List (TimerEvent Unit Unit) := .stop () :: List.replicate 5 (.stopStep ())

/-- The timer is stopped after the callback has come to its end, and `Tick` finds its task released. -/
def stoppedBetween : List (TimerEvent Unit Unit) :=
  fired ++ [.take ()] ++ working 8 ++ callsStop ++ [.turn .advanceWork] ++ ticking 3

theorem stoppedBetween_final :
    ∃ system, run step {} stoppedBetween = some system ∧ system.stopped 0 = true ∧ system.Final := by
  have reached : (run step {} stoppedBetween).any (fun system => decide (system.stopped 0 = true)) = true := by
    decide +kernel
  obtain ⟨system, ran, returned⟩ := (Option.any_eq_true _ _).mp reached
  have quiet : Meets step Quiet {} stoppedBetween := by decide +kernel
  exact ⟨system, ran, of_decide_eq_true returned, stop_final quiet ran⟩

/-- The timer is stopped while the wrapper holds its task and waits to take the mutex. The wrapper goes on and adds the task
    to the wheel once more, and `Tick` hands out another closure before the wrapper lets the task go. -/
def stoppedWithin : List (TimerEvent Unit Unit) :=
  fired ++ [.take ()] ++ working 3 ++ callsStop ++ working 3 ++ [.turn .advanceWork] ++ ticking 4 ++ working 2

theorem stoppedWithin_not_final :
    ∃ system, run step {} stoppedWithin = some system ∧ system.lateStarts = [0] ∧
      (system.Queued 0 ∧ system.tasks.released 0 = true) ∧ ¬system.Final := by
  have reached : (run step {} stoppedWithin).any (fun system =>
      decide (system.lateStarts = [0] ∧ 0 ∈ system.queue ∧ system.tasks.released 0 = true)) = true := by decide +kernel
  obtain ⟨system, ran, holds⟩ := (Option.any_eq_true _ _).mp reached
  obtain ⟨late, queued, released⟩ := of_decide_eq_true holds
  refine ⟨system, ran, late, ⟨Or.inl queued, released⟩, fun final => ?_⟩
  have onTime := final.onTime
  rw [late] at onTime
  cases onTime

end Timers

end CyberRT.Timer

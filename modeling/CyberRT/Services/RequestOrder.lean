import CyberRT.Services.Destroy

namespace CyberRT.Services

open Execution

namespace Worker

variable {Thread Request : Type} [DecidableEq Thread] {service next : Worker Thread Request} {thread : Thread}
  {target : WorkerPoint Request}

/-- The requests are taken in the order of the calls of `Enqueue`, and none any more once `destroy` has cleared the
    queue. Only the thread of the service is in `Process`. -/
structure Ordered (service : Worker Thread Request) : Prop where
  kept : service.cleared = false → service.handled ++ service.tasks = service.enqueued
  taken : service.handled <+: service.enqueued
  unset : service.cleared = true → service.inited = false
  last : service.cleared = true → ∀ thread, service.point thread ≠ .popFront
  alone : ∀ thread, (service.point thread).processes = true → thread = service.worker

theorem start_ordered (worker : Thread) (tasks : List Request) : (start worker tasks).Ordered where
  kept _ := rfl
  taken := List.nil_prefix
  unset := nofun
  last := nofun
  alone thread processes := by
    simp only [start, point] at processes
    split at processes
    · assumption
    · cases processes

/-- A thread neither comes to take a request nor into `Process`. -/
structure Apart (point next : WorkerPoint Request) : Prop where
  popFront : next = .popFront → point = .popFront
  processes : next.processes = true → point.processes = true

theorem Apart.refl (point : WorkerPoint Request) : Apart point point := ⟨id, id⟩

theorem apart_wakes : Apart (.asleep : WorkerPoint Request) .relock := ⟨nofun, fun _ => rfl⟩

omit [DecidableEq Thread] in
theorem Ordered.frame (ordered : service.Ordered) (apart : ∀ other, Apart (service.point other) (next.point other))
    (worker : next.worker = service.worker) (tasks : next.tasks = service.tasks)
    (enqueued : next.enqueued = service.enqueued) (handled : next.handled = service.handled)
    (cleared : next.cleared = service.cleared) (inited : service.inited = false → next.inited = false) :
    next.Ordered where
  kept unclear := by
    rw [cleared] at unclear
    rw [handled, tasks, enqueued]
    exact ordered.kept unclear
  taken := by
    rw [handled, enqueued]
    exact ordered.taken
  unset clear := by
    rw [cleared] at clear
    exact inited (ordered.unset clear)
  last clear other here := by
    rw [cleared] at clear
    exact ordered.last clear other ((apart other).popFront here)
  alone other here := by
    rw [worker]
    exact ordered.alone other ((apart other).processes here)

theorem apart_moveTo {point : WorkerPoint Request} (here : service.point thread = point) (apart : Apart point target)
    (other : Thread) : Apart (service.point other) ((service.moveTo thread target).point other) :=
  Monitor.related_moveTo Apart Apart.refl (show Apart (service.point thread) target by rw [here]; exact apart) other

theorem Ordered.moveTo (ordered : service.Ordered) {point : WorkerPoint Request} (here : service.point thread = point)
    (apart : Apart point target) : (service.moveTo thread target).Ordered :=
  ordered.frame (apart_moveTo here apart) rfl rfl rfl rfl rfl id

theorem Ordered.release (ordered : service.Ordered) {point : WorkerPoint Request} (here : service.point thread = point)
    (apart : Apart point target) : (service.release thread target).Ordered :=
  ordered.frame (apart_moveTo here apart) rfl rfl rfl rfl rfl id

theorem Ordered.acquire (ordered : service.Ordered) {point : WorkerPoint Request} (here : service.point thread = point)
    (taken : service.acquire thread target = some next) (apart : Apart point target) : next.Ordered := by
  obtain ⟨monitor, locked, rfl⟩ := Option.map_eq_some_iff.mp taken
  have related : Apart (service.point thread) target := by
    rw [here]
    exact apart
  exact ordered.frame (Monitor.related_acquire Apart Apart.refl locked related) rfl rfl rfl rfl rfl id

/-- `Process` tests `inited_` and takes the request in one critical section, which `destroy` cannot enter. -/
theorem Ordered.testInited (ordered : service.Ordered) (here : service.point thread = .testInited) :
    (service.moveTo thread (if service.inited then .popFront else .leave)).Ordered := by
  split
  · rename_i inited
    have unclear : service.cleared ≠ true := by
      intro clear
      rw [ordered.unset clear] at inited
      cases inited
    refine ⟨ordered.kept, ordered.taken, ordered.unset, fun clear => absurd clear unclear, fun other processes => ?_⟩
    exact ordered.alone other (Monitor.related_moveTo
      (fun before after : WorkerPoint Request => after.processes = true → before.processes = true) (fun _ => id)
      (fun _ => congrArg WorkerPoint.processes here) other processes)
  · exact ordered.moveTo here ⟨nofun, fun _ => rfl⟩

theorem Ordered.popFront (ordered : service.Ordered) (here : service.point thread = .popFront) {task : Request}
    {tasks : List Request} (front : service.tasks = task :: tasks) :
    { service.moveTo thread (.unlock task) with tasks := tasks, handled := service.handled ++ [task] }.Ordered := by
  have apart : ∀ other, Apart (service.point other) ((service.moveTo thread (.unlock task)).point other) :=
    apart_moveTo here ⟨nofun, fun _ => rfl⟩
  have unclear : service.cleared = false := by
    cases clear : service.cleared with
    | false => rfl
    | true => exact absurd here (ordered.last clear thread)
  have kept := ordered.kept unclear
  rw [front, List.append_cons] at kept
  exact ⟨fun _ => kept, ⟨tasks, kept⟩, ordered.unset, fun clear other at_front =>
    ordered.last clear other ((apart other).popFront at_front),
    fun other processes => ordered.alone other ((apart other).processes processes)⟩

theorem Ordered.emplaceBack (ordered : service.Ordered) {task : Request} (here : service.point thread = .emplaceBack task) :
    { service.moveTo thread .notifyOne with
      tasks := service.tasks ++ [task], enqueued := service.enqueued ++ [task] }.Ordered := by
  have apart : ∀ other, Apart (service.point other) ((service.moveTo thread .notifyOne).point other) :=
    apart_moveTo here ⟨nofun, nofun⟩
  refine ⟨fun unclear => ?_, ordered.taken.trans (List.prefix_append _ _), ordered.unset, fun clear other at_front =>
    ordered.last clear other ((apart other).popFront at_front),
    fun other processes => ordered.alone other ((apart other).processes processes)⟩
  show service.handled ++ (service.tasks ++ [task]) = service.enqueued ++ [task]
  rw [← List.append_assoc, ordered.kept unclear]

theorem Ordered.clear (ordered : service.Ordered) (sound : service.Sound) (here : service.point thread = .clear) :
    { service.moveTo thread .clearUnlock with tasks := [], cleared := true }.Ordered := by
  have apart : ∀ other, Apart (service.point other) ((service.moveTo thread .clearUnlock).point other) :=
    apart_moveTo here ⟨nofun, nofun⟩
  refine ⟨nofun, ordered.taken, fun _ => sound.unset thread (congrArg WorkerPoint.unset here), fun _ other at_front => ?_,
    fun other processes => ordered.alone other ((apart other).processes processes)⟩
  have there := (apart other).popFront at_front
  have same := Guarded.only sound.exclusive (congrArg WorkerPoint.inside there) (congrArg WorkerPoint.inside here)
  rw [same, here] at there
  cases there

theorem Ordered.threadStep [Fintype Thread] [DecidableEq Request] (ordered : service.Ordered) (sound : service.Sound)
    {isShutdown : Bool} {woken : Option Thread} (taken : service.threadStep thread isShutdown woken = some next) :
    next.Ordered := by
  unfold Worker.threadStep at taken
  cases here : service.point thread <;> simp only [here, Option.some.injEq] at taken
  case idle | asleep | exited => cases taken
  case looping =>
    subst taken
    split <;> exact ordered.moveTo here ⟨nofun, fun _ => rfl⟩
  case lock | relock => exact ordered.acquire here taken ⟨nofun, fun _ => rfl⟩
  case check =>
    subst taken
    split <;> exact ordered.moveTo here ⟨nofun, fun _ => rfl⟩
  case testInited =>
    subst taken
    exact ordered.testInited here
  case popFront =>
    split at taken
    · obtain rfl := Option.some.inj taken
      exact ordered.release here ⟨nofun, fun _ => rfl⟩
    · rename_i task tasks front
      obtain rfl := Option.some.inj taken
      exact ordered.popFront here front
  case handle task =>
    subst taken
    exact ordered.moveTo here ⟨nofun, fun _ => rfl⟩
  case block | unlock | leave =>
    subst taken
    exact ordered.release here ⟨nofun, fun _ => rfl⟩
  case enqueueLock task => exact ordered.acquire here taken ⟨nofun, nofun⟩
  case emplaceBack task =>
    subst taken
    exact ordered.emplaceBack here
  case notifyOne =>
    obtain ⟨monitor, notified, rfl⟩ := Option.map_eq_some_iff.mp taken
    have apart : Apart (service.point thread) .enqueueUnlock := by
      rw [here]
      exact ⟨nofun, nofun⟩
    exact ordered.frame (Monitor.related_notifyOne Apart Apart.refl apart_wakes notified apart) rfl rfl rfl rfl rfl id
  case unsetInited =>
    subst taken
    exact ordered.frame (apart_moveTo here ⟨nofun, nofun⟩) rfl rfl rfl rfl rfl fun _ => rfl
  case clearLock => exact ordered.acquire here taken ⟨nofun, nofun⟩
  case clear =>
    subst taken
    exact ordered.clear sound here
  case enqueueUnlock | clearUnlock =>
    subst taken
    exact ordered.release here ⟨nofun, nofun⟩
  case notifyAll =>
    subst taken
    have apart : Apart (service.point thread) .threadJoinable := by
      rw [here]
      exact ⟨nofun, nofun⟩
    exact ordered.frame (Monitor.related_notifyAll Apart Apart.refl apart_wakes apart) rfl rfl rfl rfl rfl id
  case threadJoinable =>
    subst taken
    split <;> exact ordered.moveTo here ⟨nofun, nofun⟩
  case join =>
    simp only [Option.ite_none_right_eq_some, Option.some.injEq] at taken
    obtain ⟨_, rfl⟩ := taken
    exact ordered.frame (apart_moveTo here ⟨nofun, nofun⟩) rfl rfl rfl rfl rfl id

theorem Ordered.step [Fintype Thread] [DecidableEq Request] (ordered : service.Ordered) (sound : service.Sound)
    {event : WorkerEvent Thread Request} (taken : service.step event = some next) : next.Ordered := by
  cases event with
  | enqueue thread task | destroy thread =>
    simp only [Worker.step, Option.ite_none_right_eq_some, Option.some.injEq] at taken
    obtain ⟨here, rfl⟩ := taken
    exact ordered.moveTo here ⟨fun same => (by cases same), fun processes => (by cases processes)⟩
  | wakes thread =>
    obtain ⟨monitor, woke, rfl⟩ := Option.map_eq_some_iff.mp taken
    exact ordered.frame (Monitor.related_wakes Apart Apart.refl apart_wakes woke) rfl rfl rfl rfl rfl id
  | step thread isShutdown woken => exact ordered.threadStep sound taken

/-- Once the queue has been cleared, no request is taken any more. -/
theorem handled_step [Fintype Thread] [DecidableEq Request] (ordered : service.Ordered) (clear : service.cleared = true)
    {event : WorkerEvent Thread Request} (taken : service.step event = some next) :
    next.cleared = true ∧ next.handled = service.handled := by
  have kept : ∀ {monitor : Option (Monitor Thread (WorkerPoint Request))},
      monitor.map service.withMonitor = some next → next.cleared = true ∧ next.handled = service.handled := by
    intro monitor moved
    obtain ⟨monitor, _, rfl⟩ := Option.map_eq_some_iff.mp moved
    exact ⟨clear, rfl⟩
  cases event with
  | enqueue thread task | destroy thread =>
    simp only [Worker.step, Option.ite_none_right_eq_some, Option.some.injEq] at taken
    obtain ⟨_, rfl⟩ := taken
    exact ⟨clear, rfl⟩
  | wakes thread => exact kept taken
  | step thread isShutdown woken =>
    change service.threadStep thread isShutdown woken = some next at taken
    unfold Worker.threadStep at taken
    cases here : service.point thread <;> simp only [here, Option.some.injEq] at taken
    case idle | asleep | exited => cases taken
    case lock | relock | enqueueLock | clearLock | notifyOne => exact kept taken
    case popFront => exact absurd here (ordered.last clear thread)
    case clear =>
      subst taken
      exact ⟨rfl, rfl⟩
    case join =>
      simp only [Option.ite_none_right_eq_some, Option.some.injEq] at taken
      obtain ⟨_, rfl⟩ := taken
      exact ⟨clear, rfl⟩
    all_goals
      subst taken
      exact ⟨clear, rfl⟩

variable [Fintype Thread] [DecidableEq Request] {worker : Thread} {tasks : List Request}
  {events : List (WorkerEvent Thread Request)}

theorem reached (ran : run step (start worker tasks) events = some service) : service.Sound ∧ service.Ordered := by
  refine run_invariant (fun service _ => service.Sound ∧ service.Ordered) ?_
    ⟨start_sound worker tasks, start_ordered worker tasks⟩ ran
  intro service _ event next taken ⟨sound, ordered⟩
  exact ⟨sound.step taken, ordered.step sound taken⟩

omit [DecidableEq Thread] [Fintype Thread] [DecidableEq Request] in
/-- A thread that is astir while the worker sleeps holds the mutex. -/
theorem inside_of_astir (ordered : service.Ordered) (asleep : service.point service.worker = .asleep)
    (astir : (service.point thread).astir = true) : (service.point thread).inside = true := by
  cases here : service.point thread
  case relock =>
    have same := ordered.alone thread (congrArg WorkerPoint.processes here)
    rw [same, asleep] at here
    cases here
  all_goals
    rw [here] at astir
    first
    | rfl
    | cases astir

/-- While `destroy` waits in `join` the worker does not sleep, so that it comes to see that `inited_` is false. While the
    worker sleeps, nobody holds the mutex and the service is initialised, no request waits. -/
theorem worker_not_missed (ran : run step (start worker tasks) events = some service) :
    (∀ thread, service.point thread = .join → service.point service.worker ≠ .asleep) ∧
    (service.point service.worker = .asleep → service.monitor.owner = none → service.inited = true →
      service.tasks = []) := by
  obtain ⟨sound, ordered⟩ := reached ran
  constructor
  · intro thread joins asleep
    have quiet := sound.joins service.worker thread asleep
    rw [joins] at quiet
    cases quiet
  · intro asleep free inited
    by_contra waits
    obtain ⟨other, astir⟩ := Attended.exists_astir (sound.attends inited) asleep (List.length_pos_iff.mpr waits)
    have owned := (sound.exclusive other).mp (inside_of_astir ordered asleep astir)
    rw [free] at owned
    cases owned

def steps (thread : Bool) (count : Nat) : List (WorkerEvent Bool Nat) :=
  List.replicate count (.step thread false (some true))

/-- The worker sleeps, takes a request, and sleeps again until `destroy` wakes it. -/
def oneRequest : List (WorkerEvent Bool Nat) :=
  steps true 4 ++ .enqueue false 7 :: steps false 4 ++ steps true 10

theorem oneRequest_not_missed : ∃ service, run step (start true []) oneRequest = some service ∧
    service.handled = [7] ∧ service.point true = .asleep ∧ service.tasks = [] := by
  have reached : (run step (start true []) oneRequest).any (fun service => decide (service.worker = true ∧
      service.handled = [7] ∧ service.point true = .asleep ∧ service.monitor.owner = none ∧ service.inited = true)) =
      true := by
    decide +kernel
  obtain ⟨service, ran, holds⟩ := (Option.any_eq_true _ _).mp reached
  obtain ⟨same, handled, asleep, free, inited⟩ := of_decide_eq_true holds
  exact ⟨service, ran, handled, asleep, (worker_not_missed ran).2 (same ▸ asleep) free inited⟩

/-- Requests are handled in the order in which they came, each at most once, and none but those that `destroy` has found
    in the queue, or that came later, is left out. -/
theorem requests_in_order (ran : run step (start worker tasks) events = some service) :
    service.handled <+: service.enqueued ∧
    (service.inited = true → service.handled ++ service.tasks = service.enqueued) ∧
    (service.cleared = true → ∀ later final, run step service later = some final → final.handled = service.handled) := by
  obtain ⟨sound, ordered⟩ := reached ran
  refine ⟨ordered.taken, fun inited => ordered.kept ?_, fun clear later final continued => ?_⟩
  · cases clear : service.cleared with
    | false => rfl
    | true =>
      rw [ordered.unset clear] at inited
      cases inited
  · have kept : final.Sound ∧ final.Ordered ∧ final.cleared = true ∧ final.handled = service.handled := by
      refine run_invariant (fun reached _ => reached.Sound ∧ reached.Ordered ∧ reached.cleared = true ∧
        reached.handled = service.handled) ?_ ⟨sound, ordered, clear, rfl⟩ continued
      intro middle _ event next taken ⟨sound, ordered, clear, same⟩
      obtain ⟨clear', same'⟩ := handled_step ordered clear taken
      exact ⟨sound.step taken, ordered.step sound taken, clear', same'.trans same⟩
    exact kept.2.2.2

/-- `destroy` clears the second request while the first one is handled. -/
def destroyed : List (WorkerEvent Bool Nat) :=
  steps true 4 ++ .enqueue false 7 :: steps false 4 ++ .enqueue false 8 :: steps false 2 ++
    .step false false none :: steps false 1 ++ steps true 5 ++ .destroy false :: steps false 5 ++ steps true 6 ++
    steps false 2

theorem destroyed_in_order : ∃ service, run step (start true []) destroyed = some service ∧ service.enqueued = [7, 8] ∧
    service.handled = [7] ∧ service.handled <+: service.enqueued := by
  have reached : (run step (start true []) destroyed).any (fun service =>
      decide (service.enqueued = [7, 8] ∧ service.handled = [7])) = true := by
    decide +kernel
  obtain ⟨service, ran, holds⟩ := (Option.any_eq_true _ _).mp reached
  obtain ⟨enqueued, handled⟩ := of_decide_eq_true holds
  exact ⟨service, ran, enqueued, handled, (requests_in_order ran).1⟩

end Worker

end CyberRT.Services

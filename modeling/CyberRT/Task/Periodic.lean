import CyberRT.Task.Handover

namespace CyberRT.Task

open CyberRT.Base CyberRT.Croutine Execution

variable {Enqueuer Processor Job Timer : Type} {numThreads : Nat}

namespace TaskManager

variable {manager next : TaskManager Enqueuer Processor Job numThreads} [DecidableEq Enqueuer]

/-- `Enqueue` has begun with the task and no worker has executed it. -/
def Underway (manager : TaskManager Enqueuer Processor Job numThreads) (task : Closure Job) : Prop :=
  task ∉ manager.executed ∧
    (task ∈ manager.queue.enqueued ∨ ∃ enqueuer, manager.enqueuer enqueuer = .enqueue task)

/-- `Enqueue` has begun with the task and has not won a slot for it. -/
def Handing (manager : TaskManager Enqueuer Processor Job numThreads) (task : Closure Job) : Prop :=
  ∃ enqueuer, manager.enqueuer enqueuer = .enqueue task ∧ task ∉ manager.queue.enqueued

omit [DecidableEq Enqueuer] in
theorem Accounts.place (accounts : manager.Accounts) {task : Closure Job} (underway : manager.Underway task) :
    manager.Handing task ∨ manager.InQueue task ∨ manager.Running task := by
  obtain ⟨notDone, begun⟩ := underway
  by_cases handed : task ∈ manager.queue.enqueued
  · by_cases taken : task ∈ manager.queue.dequeued
    · exact Or.inr (Or.inr (((accounts.taken task).mp taken).resolve_left notDone))
    · exact Or.inr (Or.inl ((accounts.inQueue_iff task).mpr ⟨handed, taken⟩))
  · obtain ⟨enqueuer, here⟩ := begun.resolve_left handed
    exact Or.inl ⟨enqueuer, here, handed⟩

/-- A call that has begun goes on to hand its task over. -/
theorem Accounts.enqueuer_goes (accounts : next.Accounts) {enqueuer other : Enqueuer} {spurious : Bool}
    {task : Closure Job} (taken : manager.enqueuerStep enqueuer spurious = some next)
    (here : manager.enqueuer other = .enqueue task) :
    task ∈ next.queue.enqueued ∨ next.enqueuer other = .enqueue task := by
  by_cases same : other = enqueuer
  · subst same
    simp only [TaskManager.enqueuerStep, here] at taken
    obtain ⟨queue, moved, rfl⟩ := Option.map_eq_some_iff.mp taken
    have fits := accounts.calls other
    cases point : queue.producer other with
    | idle =>
      left
      have stands : ((manager.setQueue queue).toEnqueuer other (.after task (queue.producer other))).enqueuer other =
          .readState task (List.finRange numThreads) := by
        show Function.update manager.enqueuer other _ other = _
        rw [Function.update_self, point]
        rfl
      rw [stands] at fits
      exact fits.2
    | loadTail _ | checkHead _ _ | exchangeTail _ _ | write _ _ | exchangeCommit _ =>
      right
      show Function.update manager.enqueuer other _ other = _
      rw [Function.update_self]
      rfl
  · right
    have kept : ∀ point, Function.update manager.enqueuer enqueuer point other = manager.enqueuer other :=
      fun point => Function.update_of_ne same _ _
    unfold TaskManager.enqueuerStep at taken
    split at taken
    · cases taken
    · obtain ⟨queue, moved, rfl⟩ := Option.map_eq_some_iff.mp taken
      exact (kept _).trans here
    all_goals
      obtain rfl := Option.some.inj taken
      exact (kept _).trans here

theorem enqueued_enqueuerStep {enqueuer : Enqueuer} {spurious : Bool}
    (taken : manager.enqueuerStep enqueuer spurious = some next) (room : full manager.queue enqueuer = false) :
    manager.queue.enqueued ⊆ next.queue.enqueued ∧ next.executed = manager.executed := by
  unfold TaskManager.enqueuerStep at taken
  split at taken
  · cases taken
  · obtain ⟨queue, moved, rfl⟩ := Option.map_eq_some_iff.mp taken
    refine ⟨?_, rfl⟩
    show manager.queue.enqueued ⊆ queue.enqueued
    rcases producerStep_cases moved room with ⟨element, -, ⟨-, same⟩ | ⟨-, wins⟩⟩ | ⟨-, same, -⟩
    · rw [same]
      exact List.Subset.refl _
    · rw [wins]
      exact List.subset_append_left _ _
    · rw [same]
      exact List.Subset.refl _
  all_goals
    obtain rfl := Option.some.inj taken
    exact ⟨List.Subset.refl _, rfl⟩

/-- A worker that takes a step has executed at most the task that it had taken. -/
theorem workerStep_frame [DecidableEq Processor] {worker : Fin numThreads} {processor : Processor} {spurious : Bool}
    (taken : manager.workerStep worker processor spurious = some next) :
    next.queue.enqueued = manager.queue.enqueued ∧ next.enqueuer = manager.enqueuer ∧
      (next.executed = manager.executed ∨
        ∃ task, manager.loop worker = .run task ∧ next.executed = manager.executed ++ [task]) := by
  unfold TaskManager.workerStep at taken
  split at taken
  · cases taken
  · split at taken
    · obtain ⟨queue, moved, rfl⟩ := Option.map_eq_some_iff.mp taken
      exact ⟨(dequeueStep_cases moved).1, rfl, Or.inl rfl⟩
    · obtain rfl := Option.some.inj taken
      exact ⟨rfl, rfl, Or.inl rfl⟩
    · obtain rfl := Option.some.inj taken
      exact ⟨rfl, rfl, Or.inl rfl⟩
    · rename_i task here
      obtain rfl := Option.some.inj taken
      exact ⟨rfl, rfl, Or.inr ⟨task, here, rfl⟩⟩

/-- The event is the execution of the task by the worker that has taken it. -/
def Executes (manager : TaskManager Enqueuer Processor Job numThreads) (task : Closure Job) :
    TaskEvent Enqueuer Processor Job numThreads → Prop
  | .worker worker _ _ => manager.loop worker = .run task
  | _ => False

theorem Accounts.underway_step [DecidableEq Processor] (accounts : next.Accounts)
    {event : TaskEvent Enqueuer Processor Job numThreads} (room : manager.hasRoom event = true)
    (taken : manager.step event = some next) {task : Closure Job} (underway : manager.Underway task)
    (waits : ¬manager.Executes task event) : next.Underway task := by
  obtain ⟨notDone, begun⟩ := underway
  cases event with
  | enqueue enqueuer job =>
    simp only [TaskManager.step, TaskManager.enqueue] at taken
    split at taken
    · rename_i idle
      obtain ⟨queue, moved, rfl⟩ := Option.map_eq_some_iff.mp taken
      refine ⟨notDone, ?_⟩
      rcases begun with handed | ⟨other, here⟩
      · left
        simp only [BoundedQueue.step] at moved
        split at moved
        · obtain rfl := Option.some.inj moved
          exact handed
        · cases moved
      · right
        refine ⟨other, ?_⟩
        have differs : other ≠ enqueuer := by
          intro same
          rw [same, idle] at here
          cases here
        exact (Function.update_of_ne differs _ _).trans here
    · cases taken
  | enqueuer enqueuer spurious =>
    obtain ⟨more, executed⟩ := enqueued_enqueuerStep taken ((Bool.not_eq_true' _).mp room)
    rw [Underway, executed]
    refine ⟨notDone, ?_⟩
    rcases begun with handed | ⟨other, here⟩
    · exact Or.inl (more handed)
    · rcases accounts.enqueuer_goes taken here with handed | stays
      · exact Or.inl handed
      · exact Or.inr ⟨other, stays⟩
  | processor worker processor elapsed =>
    obtain ⟨host, moved, rfl⟩ := Option.map_eq_some_iff.mp taken
    exact ⟨notDone, begun⟩
  | worker worker processor spurious =>
    obtain ⟨enqueued, enqueuers, executed⟩ := workerStep_frame taken
    rw [Underway, enqueued, enqueuers]
    refine ⟨?_, begun⟩
    rcases executed with same | ⟨other, here, more⟩
    · rw [same]
      exact notDone
    · rw [more, List.mem_append, List.mem_singleton, not_or]
      refine ⟨notDone, ?_⟩
      intro same
      rw [← same] at here
      exact waits here

end TaskManager

/-- A periodic timer is in a bucket of the timing wheel while it is armed; `Tick` takes it from there, and its own callback
    puts it back. -/
inductive TimerPoint where
  | idle | armed | fired | stopped
  deriving DecidableEq, Repr

/-- The tasks of a process with the timers whose closures are among them. -/
structure TimedTasks (Enqueuer Processor Timer : Type) (numThreads : Nat) where
  manager : TaskManager Enqueuer Processor (Option Timer) numThreads
  timer : Timer → TimerPoint := fun _ => .idle

/-- `tick` is the call of `Async` for a timer that `Tick` has found in its bucket. -/
inductive TimedEvent (Enqueuer Processor Timer : Type) (numThreads : Nat) where
  | start (timer : Timer)
  | tick (enqueuer : Enqueuer) (timer : Timer)
  | stop (timer : Timer)
  | task (event : TaskEvent Enqueuer Processor (Option Timer) numThreads)

namespace TimedTasks

variable [DecidableEq Timer]

def start (size : Nat) (pool : Nat → Closure (Option Timer)) : TimedTasks Enqueuer Processor Timer numThreads where
  manager := .start size pool

variable (tasks : TimedTasks Enqueuer Processor Timer numThreads)

def toPoint (timer : Timer) (point : TimerPoint) : TimedTasks Enqueuer Processor Timer numThreads :=
  { tasks with timer := Function.update tasks.timer timer point }

/-- The callback of a timer that has not been stopped arms it again. -/
def rearm (timer : Timer) : Timer → TimerPoint :=
  if tasks.timer timer = .fired then Function.update tasks.timer timer .armed else tasks.timer

def executed : TaskEvent Enqueuer Processor (Option Timer) numThreads → Timer → TimerPoint
  | .worker worker _ _ =>
    match tasks.manager.loop worker with
    | .run task => task.job.elim tasks.timer tasks.rearm
    | _ => tasks.timer
  | _ => tasks.timer

variable [DecidableEq Enqueuer] [DecidableEq Processor]

def step (tasks : TimedTasks Enqueuer Processor Timer numThreads) :
    TimedEvent Enqueuer Processor Timer numThreads → Option (TimedTasks Enqueuer Processor Timer numThreads)
  | .start timer => if tasks.timer timer = .idle then some (tasks.toPoint timer .armed) else none
  | .tick enqueuer timer =>
    if tasks.timer timer = .armed then
      (tasks.manager.enqueue enqueuer (some timer)).map fun manager => { tasks.toPoint timer .fired with manager }
    else none
  | .stop timer => if tasks.timer timer = .idle then none else some (tasks.toPoint timer .stopped)
  | .task (.enqueue _ (some _)) => none
  | .task event =>
    (tasks.manager.step event).map fun manager => { manager := manager, timer := tasks.executed event }

/-- No `Enqueue` finds the queue full. -/
def hasRoom (tasks : TimedTasks Enqueuer Processor Timer numThreads) :
    TimedEvent Enqueuer Processor Timer numThreads → Bool
  | .task event => tasks.manager.hasRoom event
  | _ => true

/-- The closure of a timer that has fired is on its way to arm it again. -/
structure Kept (tasks : TimedTasks Enqueuer Processor Timer numThreads) : Prop where
  accounts : tasks.manager.Accounts
  fired : ∀ timer, tasks.timer timer = .fired → ∃ task, task.job = some timer ∧ tasks.manager.Underway task

variable {tasks} {next : TimedTasks Enqueuer Processor Timer numThreads}

omit [DecidableEq Enqueuer] [DecidableEq Processor] in
theorem Kept.toPoint (kept : tasks.Kept) (timer : Timer) {point : TimerPoint} (notFired : point ≠ .fired) :
    (tasks.toPoint timer point).Kept := by
  refine ⟨kept.accounts, ?_⟩
  intro other fired
  have before : Function.update tasks.timer timer point other = .fired := fired
  by_cases same : other = timer
  · rw [same, Function.update_self] at before
    exact absurd before notFired
  · rw [Function.update_of_ne same] at before
    exact kept.fired other before

theorem Kept.tick (kept : tasks.Kept) {enqueuer : Enqueuer} {timer : Timer}
    {manager : TaskManager Enqueuer Processor (Option Timer) numThreads}
    (taken : tasks.manager.enqueue enqueuer (some timer) = some manager) :
    Kept { tasks.toPoint timer .fired with manager } := by
  have accounts := kept.accounts.enqueue taken
  refine ⟨accounts, ?_⟩
  intro other fired
  have before : Function.update tasks.timer timer .fired other = .fired := fired
  by_cases same : other = timer
  · subst same
    refine ⟨⟨tasks.manager.made, some other⟩, rfl, ?_⟩
    unfold TaskManager.enqueue at taken
    split at taken
    · obtain ⟨queue, moved, rfl⟩ := Option.map_eq_some_iff.mp taken
      constructor
      · intro done
        have handed : (⟨tasks.manager.made, some other⟩ : Closure (Option Timer)) ∈ tasks.manager.queue.dequeued :=
          (kept.accounts.taken _).mpr (Or.inl done)
        rw [kept.accounts.ordered.taken] at handed
        have below := kept.accounts.made _ (List.mem_of_mem_take handed)
        exact Nat.lt_irrefl _ below
      · exact Or.inr ⟨enqueuer, Function.update_self _ _ _⟩
    · cases taken
  · rw [Function.update_of_ne same] at before
    obtain ⟨task, job, underway⟩ := kept.fired other before
    have event : tasks.manager.step (.enqueue enqueuer (some timer)) = some manager := taken
    have room : tasks.manager.hasRoom (.enqueue enqueuer (some timer)) = true := rfl
    exact ⟨task, job, accounts.underway_step room event underway id⟩

omit [DecidableEq Enqueuer] [DecidableEq Processor] in
/-- A timer that is still to be armed by its closure has not had it executed. -/
theorem executed_fired {event : TaskEvent Enqueuer Processor (Option Timer) numThreads} {timer : Timer}
    (fired : tasks.executed event timer = .fired) :
    tasks.timer timer = .fired ∧ ∀ task, task.job = some timer → ¬tasks.manager.Executes task event := by
  have rearmed : ∀ other, tasks.rearm other timer = .fired → tasks.timer timer = .fired ∧ timer ≠ other := by
    intro other still
    unfold rearm at still
    split at still
    · by_cases same : timer = other
      · rw [same, Function.update_self] at still
        cases still
      · rw [Function.update_of_ne same] at still
        exact ⟨still, same⟩
    · rename_i notFired
      refine ⟨still, ?_⟩
      rintro rfl
      exact notFired still
  cases event with
  | worker worker processor spurious =>
    cases here : tasks.manager.loop worker with
    | run done =>
      have same : ∀ task, tasks.manager.Executes task (.worker worker processor spurious) → task = done := by
        intro task executes
        exact WorkerPoint.run.inj (executes.symm.trans here)
      cases owner : done.job with
      | none =>
        simp only [executed, here, owner, Option.elim_none] at fired
        refine ⟨fired, ?_⟩
        intro task job executes
        rw [same task executes, owner] at job
        cases job
      | some other =>
        simp only [executed, here, owner, Option.elim_some] at fired
        obtain ⟨before, differs⟩ := rearmed other fired
        refine ⟨before, ?_⟩
        intro task job executes
        rw [same task executes, owner] at job
        exact differs (Option.some.inj job).symm
    | dequeue | hangUp | swap =>
      simp only [executed, here] at fired
      refine ⟨fired, ?_⟩
      intro task _ executes
      cases here.symm.trans executes
  | enqueue _ _ | enqueuer _ _ | processor _ _ _ => exact ⟨fired, fun _ _ => id⟩

theorem Kept.step (kept : tasks.Kept) {event : TimedEvent Enqueuer Processor Timer numThreads}
    (room : tasks.hasRoom event = true) (taken : tasks.step event = some next) : next.Kept := by
  have goes : ∀ {event : TaskEvent Enqueuer Processor (Option Timer) numThreads}, tasks.manager.hasRoom event = true →
      (tasks.manager.step event).map (fun manager =>
        ({ manager := manager, timer := tasks.executed event } : TimedTasks Enqueuer Processor Timer numThreads)) =
          some next → next.Kept := by
    intro event room taken
    obtain ⟨manager, moved, rfl⟩ := Option.map_eq_some_iff.mp taken
    have accounts := kept.accounts.step room moved
    refine ⟨accounts, ?_⟩
    intro timer fired
    obtain ⟨before, waits⟩ := executed_fired fired
    obtain ⟨task, job, underway⟩ := kept.fired timer before
    exact ⟨task, job, accounts.underway_step room moved underway (waits task job)⟩
  unfold TimedTasks.step at taken
  split at taken
  · split at taken
    · obtain rfl := Option.some.inj taken
      exact kept.toPoint _ (by decide)
    · cases taken
  · split at taken
    · obtain ⟨manager, moved, rfl⟩ := Option.map_eq_some_iff.mp taken
      exact kept.tick moved
    · cases taken
  · split at taken
    · cases taken
    · obtain rfl := Option.some.inj taken
      exact kept.toPoint _ (by decide)
  · cases taken
  · exact goes room taken

/-- While no `Enqueue` finds the queue full, every task that `Enqueue` has returned from is in the queue, with one worker
    or executed once, and a timer that was started stays armed or its closure stays on its way until it is stopped. -/
theorem tasks_conserved {size : Nat} {pool : Nat → Closure (Option Timer)}
    {events : List (TimedEvent Enqueuer Processor Timer numThreads)}
    (meets : Meets step (fun tasks event => tasks.hasRoom event = true) (start size pool) events)
    (ran : run step (start size pool) events = some tasks) :
    tasks.manager.Conserved ∧ ∀ timer, tasks.timer timer ≠ .idle → tasks.timer timer ≠ .stopped →
      tasks.timer timer = .armed ∨ ∃ task, task.job = some timer ∧
        (tasks.manager.Handing task ∨ tasks.manager.InQueue task ∨ tasks.manager.Running task) := by
  have kept : tasks.Kept := by
    apply Meets.preserves Kept _ _ meets ran
    · exact fun _ _ _ room taken kept => kept.step room taken
    · exact ⟨TaskManager.accounts_start size pool, fun _ fired => nomatch fired⟩
  refine ⟨kept.accounts.conserved, ?_⟩
  intro timer started running
  cases point : tasks.timer timer with
  | idle => exact absurd point started
  | stopped => exact absurd point running
  | armed => exact Or.inl rfl
  | fired =>
    obtain ⟨task, job, underway⟩ := kept.fired timer point
    exact Or.inr ⟨task, job, kept.accounts.place underway⟩

def noTask (_ : Nat) : Closure (Option Unit) := ⟨0, none⟩

def enqueueOnce : List (TimedEvent Unit Unit Unit 1) :=
  .task (.enqueue () none) :: List.replicate 7 (.task (.enqueuer () false))

/-- A timer fires. -/
def fireOnce : List (TimedEvent Unit Unit Unit 1) :=
  .start () :: .tick () () :: List.replicate 7 (.task (.enqueuer () false))

/-- The sole worker gets a processor and goes through its loop once. -/
def workOnce : List (TimedEvent Unit Unit Unit 1) :=
  List.replicate 5 (.task (.processor soleWorker () false)) ++ List.replicate 6 (.task (.worker soleWorker () false))

/-- The closure of a timer and another task wait in the queue; a worker takes the closure and executes it. -/
def firesOnce : List (TimedEvent Unit Unit Unit 1) := fireOnce ++ enqueueOnce ++ workOnce

theorem firesOnce_conserved :
    ∃ tasks, run step (start 2 noTask) firesOnce = some tasks ∧ tasks.timer () = .armed ∧
      tasks.manager.executed = [⟨0, some ()⟩] ∧ tasks.manager.returned = [⟨0, some ()⟩, ⟨1, none⟩] ∧
      tasks.manager.Conserved := by
  have reached : (run step (start 2 noTask) firesOnce).any (fun tasks =>
      decide (tasks.timer () = .armed ∧ tasks.manager.executed = [⟨0, some ()⟩] ∧
        tasks.manager.returned = [⟨0, some ()⟩, ⟨1, none⟩])) = true := by decide +kernel
  obtain ⟨tasks, ran, holds⟩ := (Option.any_eq_true _ _).mp reached
  obtain ⟨armed, executed, returned⟩ := of_decide_eq_true holds
  have room : Meets step (fun tasks event => tasks.hasRoom event = true) (start 2 noTask) firesOnce := by
    decide +kernel
  exact ⟨tasks, ran, armed, executed, returned, (tasks_conserved room ran).1⟩

/-- `count` tasks are in the queue, no worker has taken any, no thread is in `Enqueue`, and the timer is armed. -/
structure Filled (size count : Nat) (tasks : TimedTasks Unit Unit Unit 1) : Prop where
  poolSize : tasks.manager.queue.poolSize = size + 2
  head : tasks.manager.queue.head = 0
  tail : tasks.manager.queue.tail = count + 1
  commit : tasks.manager.queue.commit = count + 1
  producer : tasks.manager.queue.producer () = .idle
  enqueuer : tasks.manager.enqueuer () = .idle
  made : tasks.manager.made = count
  ready : (tasks.manager.host 0).routine.state = .ready
  loop : tasks.manager.loop 0 = .dequeue
  others : ∀ task ∈ tasks.manager.queue.enqueued, task.address < count ∧ task.job = none
  executed : tasks.manager.executed = []
  armed : tasks.timer () = .armed

theorem Filled.enqueueOnce {size count : Nat} {tasks : TimedTasks Unit Unit Unit 1} (filled : Filled size count tasks)
    (room : count < size) :
    ∃ next, run step tasks enqueueOnce = some next ∧ Filled size (count + 1) next := by
  have index : (count + 1 + 1) % (size + 2) = count + 1 + 1 := Nat.mod_eq_of_lt (by omega)
  have workers : List.finRange 1 = [0] := by decide
  obtain ⟨poolSize, head, tail, commit, producer, enqueuer, made, ready, loop, others, executed, armed⟩ := filled
  -- The call wins the slot behind the tail, commits it, and finds the only worker ready.
  simp [TimedTasks.enqueueOnce, List.replicate, run_cons, step, TaskManager.step, TaskManager.enqueue,
    TaskManager.enqueuerStep, TaskManager.setQueue, TaskManager.toEnqueuer, BoundedQueue.step,
    BoundedQueue.producerStep, BoundedQueue.toProducer, BoundedQueue.getIndex_eq_mod, EnqueuePoint.after,
    CRoutine.isWaiting, TimedTasks.executed, index, workers, poolSize, head, tail, commit, producer, enqueuer, made,
    ready]
  constructor <;> simp [ready, loop, executed, armed]
  intro task among
  rcases among with before | rfl
  · have earlier := (others task before).1
    exact ⟨by omega, (others task before).2⟩
  · exact ⟨by simp, rfl⟩

theorem filled_run (size count : Nat) (room : count ≤ size) :
    ∃ tasks, run step (start size noTask) (.start () :: (List.replicate count enqueueOnce).flatten) = some tasks ∧
      Filled size count tasks := by
  induction count with
  | zero =>
    refine ⟨(start size noTask).toPoint () .armed, rfl, ?_⟩
    constructor <;> simp [start, toPoint, TaskManager.start, BoundedQueue.init]
  | succ count ih =>
    obtain ⟨tasks, ran, filled⟩ := ih (Nat.le_of_succ_le room)
    obtain ⟨next, ran', filled'⟩ := filled.enqueueOnce room
    refine ⟨next, ?_, filled'⟩
    rw [List.replicate_succ', List.flatten_concat, ← List.cons_append, run_append, ran]
    exact ran'

/-- The timer fires while the queue is full. -/
theorem Filled.tick {size : Nat} {tasks : TimedTasks Unit Unit Unit 1} (filled : Filled size size tasks) :
    ∃ next, run step tasks (.tick () () :: List.replicate 4 (.task (.enqueuer () false))) = some next ∧
      next.timer () = .fired ∧ ⟨size, some ()⟩ ∈ next.manager.returned ∧ next.manager.executed = [] ∧
      next.manager.loop 0 = .dequeue ∧ next.manager.enqueuer () = .idle ∧
      ∀ task ∈ next.manager.queue.enqueued, task.address < size ∧ task.job = none := by
  have workers : List.finRange 1 = [0] := by decide
  obtain ⟨poolSize, head, tail, commit, producer, enqueuer, made, ready, loop, others, executed, armed⟩ := filled
  simp [List.replicate, run_cons, step, TaskManager.step, TaskManager.enqueue, TaskManager.enqueuerStep,
    TaskManager.setQueue, TaskManager.toEnqueuer, BoundedQueue.step, BoundedQueue.producerStep,
    BoundedQueue.toProducer, BoundedQueue.getIndex_eq_mod, EnqueuePoint.after, CRoutine.isWaiting,
    TimedTasks.executed, toPoint, workers, poolSize, head, tail, producer, enqueuer, made, ready, armed, loop, executed]
  exact others

/-- As many tasks as the queue holds, and then the timer. -/
def burst : List (TimedEvent Unit Unit Unit 1) :=
  (.start () :: (List.replicate taskQueueSize enqueueOnce).flatten) ++
    .tick () () :: List.replicate 4 (.task (.enqueuer () false))

/-- The closure of the timer is dropped, and nothing arms the timer any more. -/
theorem burst_drops :
    ∃ tasks, run step (start taskQueueSize noTask) burst = some tasks ∧
      ⟨taskQueueSize, some ()⟩ ∈ tasks.manager.returned ∧ ¬tasks.manager.Conserved ∧ tasks.timer () = .fired ∧
      ∀ task, task.job = some () →
        ¬(tasks.manager.Handing task ∨ tasks.manager.InQueue task ∨ tasks.manager.Running task) := by
  obtain ⟨tasks, ran, filled⟩ := filled_run taskQueueSize taskQueueSize Nat.le.refl
  obtain ⟨next, ran', fired, returned, executed, loop, idle, others⟩ := filled.tick
  have whole : run step (start taskQueueSize noTask) burst = some next := by
    rw [burst, run_append, ran]
    exact ran'
  have notRunning : ∀ task, ¬next.manager.Running task := by
    intro task running
    obtain ⟨worker, runs⟩ := running
    rw [Fin.fin_one_eq_zero worker, loop] at runs
    cases runs
  refine ⟨next, whole, returned, ?_, fired, ?_⟩
  · intro conserved
    rcases conserved.kept _ returned with queued | running | done
    · have below := (others _ (List.mem_of_mem_drop queued)).1
      exact Nat.lt_irrefl _ below
    · exact notRunning _ running
    · rw [executed] at done
      cases done
  · intro task job place
    rcases place with ⟨enqueuer, here, -⟩ | queued | running
    · cases idle.symm.trans here
    · have other := (others task (List.mem_of_mem_drop queued)).2
      rw [job] at other
      cases other
    · exact notRunning task running

end TimedTasks

end CyberRT.Task

import CyberRT.Memory.Sharing
import CyberRT.Timer.TimingWheel

namespace CyberRT.Timer

open Memory

structure TimerOption where
  period : UInt32
  oneshot : Bool
  deriving DecidableEq, Repr

/-- Who holds a task: `task_` of a timer, `tmp_task` of its `Stop`, `Tick`, or the wrapper of the callback that a worker
    executes. -/
inductive Holder (TimerId Worker : Type) where
  | timer (id : TimerId)
  | stop (id : TimerId)
  | tick
  | worker (worker : Worker)
  deriving DecidableEq, Repr

/-- What `Tick` does next: it looks at the first task of the bucket, hands its closure to `Async`, or erases it and lets go
    of it. -/
inductive TickPoint where
  | idle
  | lock
  | async (task : Nat)
  | erase (task : Nat)
  deriving DecidableEq, Repr

/-- What a worker does next with the closure of a task: it tests `running_` and calls the callback of the task, which is the
    wrapper. This locks the weak pointer that it captured, takes the mutex, calls the callback of the user, adds the task to
    the wheel again and gives everything back. -/
inductive FiringPoint where
  | idle
  | testRunning (task : Nat)
  | call (task : Nat)
  | lock (task : Nat)
  | takeMutex (task : Nat)
  | callback (task : Nat)
  | addTask (task : Nat)
  | unlock (task : Nat)
  | letGo (task : Nat)
  deriving DecidableEq, Repr

/-- The task of the closure that has been taken and has yet to use the task. -/
def FiringPoint.queued : FiringPoint → Option Nat
  | .testRunning task | .call task | .lock task => some task
  | _ => none

/-- What the `Stop` that has found `started_` set does next. -/
inductive StopPoint where
  | idle
  | copy
  | takeMutex (task : Nat)
  | reset (task : Nat)
  | unlock (task : Nat)
  | letGo (task : Nat)
  deriving DecidableEq, Repr

def StopPoint.task : StopPoint → Option Nat
  | .idle | .copy => none
  | .takeMutex task | .reset task | .unlock task | .letGo task => some task

structure TimerState where
  started : Bool := false
  task : Option Nat := none
  stop : StopPoint := .idle

/-- The task that a `Stop` in progress stops. -/
def TimerState.stopping (timer : TimerState) : Option Nat := if timer.stop = .copy then timer.task else timer.stop.task

/-- The timers with the wheel and the queue of `Async`. The tasks are numbered in the order in which they are made.
    `stopped` tells the tasks of which a call of `Stop` has returned, and `lateStarts` has those whose callback was started
    after that. -/
structure Timers (TimerId Worker : Type) where
  wheel : TimingWheel Nat := {}
  tick : TickPoint := .idle
  queue : List Nat := []
  worker : Worker → FiringPoint := fun _ => .idle
  timer : TimerId → TimerState := fun _ => {}
  made : Nat := 0
  tasks : Sharing Nat (Holder TimerId Worker) := {}
  oneshot : Nat → Bool := fun _ => false
  mutex : Nat → Bool := fun _ => false
  stopped : Nat → Bool := fun _ => false
  lateStarts : List Nat := []

/-- `start` and `stop` are calls, the others the next access of a `Stop`, of `Tick` or of a worker. `accepted` tells whether
    the queue has room, and `turn` is what else the wheel does. -/
inductive TimerEvent (TimerId Worker : Type) where
  | start (id : TimerId) (option : TimerOption)
  | stop (id : TimerId)
  | stopStep (id : TimerId)
  | tick (accepted : Bool)
  | turn (event : WheelEvent Nat)
  | take (worker : Worker)
  | worker (worker : Worker) (nextFireDurationMs : Nat)

namespace Timers

variable {TimerId Worker : Type} (system : Timers TimerId Worker)

def setMutex (task : Nat) (locked : Bool) : Timers TimerId Worker :=
  { system with mutex := Function.update system.mutex task locked }

/-- The wheel as its weak pointers see it. -/
def view : TimingWheel Nat := { system.wheel with expired := system.tasks.released }

/-- `AddTask`. -/
def addTask (task nextFireDurationMs : Nat) : Option (Timers TimerId Worker) :=
  (system.view.step (.addTask task nextFireDurationMs)).map fun wheel => { system with wheel }

def currentBucket : List Nat := system.wheel.workWheel system.wheel.currentWorkWheelIndex

def eraseFirst : Timers TimerId Worker :=
  { system with wheel := { system.wheel with
      workWheel := Function.update system.wheel.workWheel system.wheel.currentWorkWheelIndex system.currentBucket.tail } }

def turn : WheelEvent Nat → Option (Timers TimerId Worker)
  | .addTask _ _ | .release _ | .tick => none
  | event => (system.view.step event).map fun wheel => { system with wheel }

variable [DecidableEq TimerId]

def toTimer (id : TimerId) (timer : TimerState) : Timers TimerId Worker :=
  { system with timer := Function.update system.timer id timer }

/-- The call with the test of `started_`. A second one returns while the first is still in progress. -/
def stop (id : TimerId) : Timers TimerId Worker :=
  if (system.timer id).started then
    system.toTimer id { system.timer id with
      started := false, stop := if (system.timer id).task.isSome then .copy else .idle }
  else { system with stopped := fun task => system.stopped task || (system.timer id).stopping = some task }

variable [DecidableEq Worker]

def toWorker (worker : Worker) (point : FiringPoint) : Timers TimerId Worker :=
  { system with worker := Function.update system.worker worker point }

def hold (holder : Holder TimerId Worker) (task : Nat) : Timers TimerId Worker :=
  { system with tasks := system.tasks.hold holder task }

def letGo (holder : Holder TimerId Worker) (task : Nat) : Timers TimerId Worker :=
  { system with tasks := system.tasks.letGo holder task }

/-- The timer lets go of what `task_` points to. -/
def resetTask (id : TimerId) : Timers TimerId Worker :=
  match (system.timer id).task with
  | none => system
  | some task => (system.letGo (.timer id) task).toTimer id { system.timer id with task := none }

def initTimerTask (id : TimerId) (option : TimerOption) : Timers TimerId Worker :=
  let reset := system.resetTask id
  { (reset.hold (.timer id) system.made).toTimer id { reset.timer id with task := some system.made } with
    made := system.made + 1
    oneshot := Function.update system.oneshot system.made option.oneshot }

/-- `Start` in reality mode. It is not called while a `Stop` of the timer is in progress, as both use `task_`. -/
def start (id : TimerId) (option : TimerOption) : Option (Timers TimerId Worker) :=
  if (system.timer id).stop ≠ .idle then none
  else if (system.timer id).started then some system
  else
    let started := system.toTimer id { system.timer id with started := true }
    if option.period = 0 ∨ timerMaxIntervalMs ≤ option.period.toNat then some started
    else (started.initTimerTask id option).addTask system.made option.period.toNat

def stopStep (id : TimerId) : Option (Timers TimerId Worker) :=
  match (system.timer id).stop with
  | .idle => none
  | .copy => (system.timer id).task.map fun task =>
      (system.hold (.stop id) task).toTimer id { system.timer id with stop := .takeMutex task }
  | .takeMutex task =>
    if system.mutex task then none
    else some ((system.setMutex task true).toTimer id { system.timer id with stop := .reset task })
  | .reset task =>
    let reset := system.resetTask id
    some (reset.toTimer id { reset.timer id with stop := .unlock task })
  | .unlock task => some ((system.setMutex task false).toTimer id { system.timer id with stop := .letGo task })
  | .letGo task =>
    some { (system.letGo (.stop id) task).toTimer id { system.timer id with stop := .idle } with
      stopped := Function.update system.stopped task true }

def tickStep (accepted : Bool) : Option (Timers TimerId Worker) :=
  match system.tick with
  | .idle => if system.wheel.Enabled .tick then some { system with tick := .lock } else none
  | .lock => match system.currentBucket with
    | [] => some { system with
        wheel := { system.wheel with tickCount := system.wheel.tickCount + 1, phase := .sleeping }, tick := .idle }
    | task :: _ =>
      if system.tasks.released task then some system.eraseFirst
      else some { system.hold .tick task with tick := .async task }
  | .async task =>
    some { system with queue := if accepted then system.queue ++ [task] else system.queue, tick := .erase task }
  | .erase task => some { system.eraseFirst.letGo .tick task with tick := .lock }

def take (worker : Worker) : Option (Timers TimerId Worker) :=
  match system.worker worker, system.queue with
  | .idle, task :: rest => some { system.toWorker worker (.testRunning task) with queue := rest }
  | _, _ => none

/-- The step of a worker. Where it reads the callback or the weak pointer of a task that has been released, it goes on as if
    the memory still held them. -/
def workerStep (worker : Worker) (nextFireDurationMs : Nat) : Option (Timers TimerId Worker) :=
  match system.worker worker with
  | .idle => none
  | .testRunning task => some (system.toWorker worker (if system.wheel.running then .call task else .idle))
  | .call task => some (system.toWorker worker (.lock task))
  | .lock task =>
    if system.tasks.released task then some (system.toWorker worker .idle)
    else some ((system.hold (.worker worker) task).toWorker worker (.takeMutex task))
  | .takeMutex task =>
    if system.mutex task then none else some ((system.setMutex task true).toWorker worker (.callback task))
  | .callback task =>
    some { system.toWorker worker (.addTask task) with
      lateStarts := if system.stopped task then system.lateStarts ++ [task] else system.lateStarts }
  | .addTask task =>
    if system.oneshot task then some (system.toWorker worker (.unlock task))
    else (system.addTask task nextFireDurationMs).map fun added => added.toWorker worker (.unlock task)
  | .unlock task => some ((system.setMutex task false).toWorker worker (.letGo task))
  | .letGo task => some ((system.letGo (.worker worker) task).toWorker worker .idle)

def step (system : Timers TimerId Worker) : TimerEvent TimerId Worker → Option (Timers TimerId Worker)
  | .start id option => system.start id option
  | .stop id => some (system.stop id)
  | .stopStep id => system.stopStep id
  | .tick accepted => system.tickStep accepted
  | .turn event => system.turn event
  | .take worker => system.take worker
  | .worker worker nextFireDurationMs => system.workerStep worker nextFireDurationMs

/-- The closure of the task is queued or has been taken, and has yet to use the task. -/
def Queued (task : Nat) : Prop := task ∈ system.queue ∨ ∃ worker, (system.worker worker).queued = some task

/-- `Stop` is final: no callback has been started after it has returned, and the task of a queued closure is still there. -/
structure Final (system : Timers TimerId Worker) : Prop where
  onTime : system.lateStarts = []
  alive : ∀ task, system.Queued task → system.tasks.released task = false

end Timers

end CyberRT.Timer

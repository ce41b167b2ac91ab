import Mathlib.Data.List.FinRange
import CyberRT.Base.BoundedQueue
import CyberRT.Croutine.Hosting

namespace CyberRT.Task

open CyberRT.Base CyberRT.Croutine

def taskQueueSize : Nat := 1000

/-- The closure over the packaged task that `Enqueue` has made. -/
structure Closure (Job : Type) where
  address : Nat
  job : Job
  deriving DecidableEq, Repr

/-- What the loop of a worker does next; `hangUp` and `swap` are the two halves of `HangUp`. -/
inductive WorkerPoint (Job : Type) where
  | dequeue | hangUp | swap
  | run (task : Closure Job)
  deriving DecidableEq, Repr

/-- What a thread does next in `Enqueue`. `readState` and `setUpdateFlag` are the accesses of `NotifyTask`, the workers
    still to be notified being in the list. -/
inductive EnqueuePoint (Job : Type) (numThreads : Nat) where
  | idle
  | enqueue (task : Closure Job)
  | readState (task : Closure Job) (workers : List (Fin numThreads))
  | setUpdateFlag (task : Closure Job) (worker : Fin numThreads) (workers : List (Fin numThreads))
  deriving DecidableEq, Repr

/-- The worker of a task manager with one thread. -/
def soleWorker : Fin 1 := 0

/-- The task manager between its construction and `Shutdown`. `made` is the number of the closures made. -/
structure TaskManager (Enqueuer Processor Job : Type) (numThreads : Nat) where
  queue : BoundedQueue Enqueuer (Fin numThreads) (Closure Job)
  host : Fin numThreads → Hosting Processor := fun _ => {}
  loop : Fin numThreads → WorkerPoint Job := fun _ => .dequeue
  enqueuer : Enqueuer → EnqueuePoint Job numThreads := fun _ => .idle
  made : Nat := 0
  returned : List (Closure Job) := []
  executed : List (Closure Job) := []

/-- `enqueuer`, `processor` and `worker` are the next access of that thread, a worker being inside a processor. -/
inductive TaskEvent (Enqueuer Processor Job : Type) (numThreads : Nat) where
  | enqueue (enqueuer : Enqueuer) (job : Job)
  | enqueuer (enqueuer : Enqueuer) (spurious : Bool)
  | processor (worker : Fin numThreads) (processor : Processor) (elapsed : Bool)
  | worker (worker : Fin numThreads) (processor : Processor) (spurious : Bool)

/-- Where `Dequeue` leaves the worker: with the task that it has taken, with none, or still within it. -/
def WorkerPoint.after {Job : Type} : ConsumerPoint (Closure Job) → ConsumerPoint (Closure Job) → WorkerPoint Job
  | .exchangeHead _ task, .idle => .run task
  | _, .idle => .hangUp
  | _, _ => .dequeue

/-- Where the call of the queue leaves `Enqueue`, which does not look at what it returns. -/
def EnqueuePoint.after {Job : Type} {numThreads : Nat} (task : Closure Job) :
    ProducerPoint (Closure Job) → EnqueuePoint Job numThreads
  | .idle => .readState task (List.finRange numThreads)
  | _ => .enqueue task

namespace TaskManager

variable {Enqueuer Processor Job : Type} {numThreads : Nat} [DecidableEq Enqueuer] [DecidableEq Processor]

def start (size : Nat) (pool : Nat → Closure Job) : TaskManager Enqueuer Processor Job numThreads where
  queue := .init size pool

variable (manager : TaskManager Enqueuer Processor Job numThreads)

def toEnqueuer (enqueuer : Enqueuer) (point : EnqueuePoint Job numThreads) :
    TaskManager Enqueuer Processor Job numThreads :=
  { manager with enqueuer := Function.update manager.enqueuer enqueuer point }

def toLoop (worker : Fin numThreads) (point : WorkerPoint Job) : TaskManager Enqueuer Processor Job numThreads :=
  { manager with loop := Function.update manager.loop worker point }

def setHost (worker : Fin numThreads) (host : Hosting Processor) : TaskManager Enqueuer Processor Job numThreads :=
  { manager with host := Function.update manager.host worker host }

def setQueue (queue : BoundedQueue Enqueuer (Fin numThreads) (Closure Job)) :
    TaskManager Enqueuer Processor Job numThreads :=
  { manager with queue }

def enqueue (enqueuer : Enqueuer) (job : Job) : Option (TaskManager Enqueuer Processor Job numThreads) :=
  match manager.enqueuer enqueuer with
  | .idle =>
    (manager.queue.step (.enqueue enqueuer ⟨manager.made, job⟩)).map fun queue =>
      { (manager.setQueue queue).toEnqueuer enqueuer (.enqueue ⟨manager.made, job⟩) with made := manager.made + 1 }
  | _ => none

def enqueuerStep (enqueuer : Enqueuer) (spurious : Bool) : Option (TaskManager Enqueuer Processor Job numThreads) :=
  match manager.enqueuer enqueuer with
  | .idle => none
  | .enqueue task =>
    (manager.queue.producerStep enqueuer spurious).map fun queue =>
      (manager.setQueue queue).toEnqueuer enqueuer (.after task (queue.producer enqueuer))
  | .readState task (worker :: workers) =>
    some (manager.toEnqueuer enqueuer
      (if (manager.host worker).routine.isWaiting then .setUpdateFlag task worker workers else .readState task workers))
  | .setUpdateFlag task worker workers =>
    some ((manager.setHost worker (manager.host worker).setUpdateFlag).toEnqueuer enqueuer (.readState task workers))
  | .readState task [] => some { manager.toEnqueuer enqueuer .idle with returned := manager.returned ++ [task] }

def dequeueStep (worker : Fin numThreads) (spurious : Bool) :
    Option (BoundedQueue Enqueuer (Fin numThreads) (Closure Job)) :=
  match manager.queue.consumer worker with
  | .idle => manager.queue.step (.dequeue worker)
  | _ => manager.queue.consumerStep worker spurious

def workerStep (worker : Fin numThreads) (processor : Processor) (spurious : Bool) :
    Option (TaskManager Enqueuer Processor Job numThreads) :=
  if (manager.host worker).processor processor ≠ .inside then none
  else match manager.loop worker with
    | .dequeue =>
      (manager.dequeueStep worker spurious).map fun queue =>
        (manager.setQueue queue).toLoop worker (.after (manager.queue.consumer worker) (queue.consumer worker))
    | .hangUp => some ((manager.setHost worker ((manager.host worker).setState .dataWait)).toLoop worker .swap)
    | .swap => some ((manager.setHost worker ((manager.host worker).leave processor)).toLoop worker .dequeue)
    | .run task => some { manager.toLoop worker .dequeue with executed := manager.executed ++ [task] }

def step (manager : TaskManager Enqueuer Processor Job numThreads) :
    TaskEvent Enqueuer Processor Job numThreads → Option (TaskManager Enqueuer Processor Job numThreads)
  | .enqueue enqueuer job => manager.enqueue enqueuer job
  | .enqueuer enqueuer spurious => manager.enqueuerStep enqueuer spurious
  | .processor worker processor elapsed => ((manager.host worker).step processor elapsed).map (manager.setHost worker)
  | .worker worker processor spurious => manager.workerStep worker processor spurious

/-- A `Dequeue` would find a task. -/
def Queued (manager : TaskManager Enqueuer Processor Job numThreads) : Prop :=
  manager.queue.head + 1 ≠ manager.queue.commit

/-- A task is in the queue and nobody is going to wake a worker for it. -/
structure Stranded (manager : TaskManager Enqueuer Processor Job numThreads) : Prop where
  queued : manager.Queued
  asleep : ∀ worker, (manager.host worker).Asleep .dataWait
  suspended : ∀ worker, (manager.host worker).Suspended
  noEnqueue : ∀ enqueuer, manager.enqueuer enqueuer = .idle

end TaskManager

end CyberRT.Task

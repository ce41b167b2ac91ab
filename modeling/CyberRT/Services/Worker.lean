import Mathlib.Data.Fintype.Basic
import CyberRT.Execution.Monitor
import CyberRT.Execution.Run

namespace CyberRT.Services

open Execution

/-- What a thread does next: `Process` from `looping` to `exited`, then `Enqueue`, then `destroy`. -/
inductive WorkerPoint (Request : Type) where
  | idle
  | looping
  | lock
  | check
  /-- The predicate was false; the thread is about to block and to release the mutex. -/
  | block
  | asleep
  | relock
  | testInited
  | popFront
  | unlock (task : Request)
  | handle (task : Request)
  /-- Behind the `break`, with the mutex still held. -/
  | leave
  | exited
  | enqueueLock (task : Request)
  | emplaceBack (task : Request)
  | notifyOne
  | enqueueUnlock
  | unsetInited
  | clearLock
  | clear
  | clearUnlock
  | notifyAll
  | threadJoinable
  | join
  deriving DecidableEq

namespace WorkerPoint

variable {Request : Type}

def inside : WorkerPoint Request → Bool
  | .check | .block | .testInited | .popFront | .unlock _ | .leave | .emplaceBack _ | .notifyOne | .enqueueUnlock |
    .clear | .clearUnlock => true
  | _ => false

/-- About to look at the tasks or to wake a thread that sleeps. -/
def astir : WorkerPoint Request → Bool
  | .relock | .check | .testInited | .popFront | .notifyOne => true
  | _ => false

/-- In `destroy`, behind the store to `inited_`. -/
def unset : WorkerPoint Request → Bool
  | .clearLock | .clear | .clearUnlock | .notifyAll | .threadJoinable | .join => true
  | _ => false

/-- In `destroy`, where it has entered the critical section. -/
def entered : WorkerPoint Request → Bool
  | .clear | .clearUnlock | .notifyAll | .threadJoinable | .join => true
  | _ => false

/-- In `destroy`, behind `notify_all`. -/
def joins : WorkerPoint Request → Bool
  | .threadJoinable | .join => true
  | _ => false

/-- In `Process`. -/
def processes : WorkerPoint Request → Bool
  | .looping | .lock | .check | .block | .asleep | .relock | .testInited | .popFront | .unlock _ | .handle _ | .leave |
    .exited => true
  | _ => false

instance : Waits (WorkerPoint Request) where
  asleep := .asleep
  relock := .relock
  inside := inside
  astir := astir
  asleep_outside := rfl
  relock_outside := rfl
  asleep_still := rfl
  relock_astir := rfl

end WorkerPoint

/-- The queue of a service and its threads; `worker` runs `Process`. `enqueued` holds the requests of all calls of
    `Enqueue`, `handled` those that `Process` has taken; `cleared` says that `destroy` has emptied the queue. -/
structure Worker (Thread Request : Type) where
  worker : Thread
  inited : Bool := true
  tasks : List Request := []
  joinable : Bool := true
  monitor : Monitor Thread (WorkerPoint Request)
  enqueued : List Request := []
  handled : List Request := []
  cleared : Bool := false

/-- `wakes` is the worker whose wait ends without a reason. -/
inductive WorkerEvent (Thread Request : Type) where
  | enqueue (thread : Thread) (task : Request)
  | destroy (thread : Thread)
  | wakes (thread : Thread)
  | step (thread : Thread) (isShutdown : Bool) (woken : Option Thread)

namespace Worker

variable {Thread Request : Type} [DecidableEq Thread]

/-- `Init` has started the thread; its receiver may have put requests into the queue before. -/
def start (worker : Thread) (tasks : List Request) : Worker Thread Request where
  worker := worker
  tasks := tasks
  monitor := { point := fun thread => if thread = worker then .looping else .idle }
  enqueued := tasks

variable (service : Worker Thread Request)

def point (thread : Thread) : WorkerPoint Request := service.monitor.point thread

def withMonitor (monitor : Monitor Thread (WorkerPoint Request)) : Worker Thread Request := { service with monitor }

def moveTo (thread : Thread) (target : WorkerPoint Request) : Worker Thread Request :=
  service.withMonitor (service.monitor.moveTo thread target)

def acquire (thread : Thread) (target : WorkerPoint Request) : Option (Worker Thread Request) :=
  (service.monitor.acquire thread target).map service.withMonitor

def release (thread : Thread) (target : WorkerPoint Request) : Worker Thread Request :=
  service.withMonitor (service.monitor.release thread target)

/-- The step of a thread; `isShutdown` is what `IsShutdown` says and `woken` whom `notify_one` wakes. -/
def threadStep [Fintype Thread] [DecidableEq Request] (thread : Thread) (isShutdown : Bool) (woken : Option Thread) :
    Option (Worker Thread Request) :=
  match service.point thread with
  | .idle | .asleep | .exited => none
  | .looping => some (service.moveTo thread (if isShutdown then .exited else .lock))
  | .lock | .relock => service.acquire thread .check
  | .check =>
    some (service.moveTo thread (if !service.inited || !service.tasks.isEmpty then .testInited else .block))
  | .block => some (service.release thread .asleep)
  | .testInited => some (service.moveTo thread (if service.inited then .popFront else .leave))
  | .popFront =>
    match service.tasks with
    | [] => some (service.release thread .looping)
    | task :: tasks =>
      some { service.moveTo thread (.unlock task) with tasks := tasks, handled := service.handled ++ [task] }
  | .unlock task => some (service.release thread (.handle task))
  | .handle _ => some (service.moveTo thread .looping)
  | .leave => some (service.release thread .exited)
  | .enqueueLock task => service.acquire thread (.emplaceBack task)
  | .emplaceBack task =>
    some { service.moveTo thread .notifyOne with
      tasks := service.tasks ++ [task], enqueued := service.enqueued ++ [task] }
  | .notifyOne => (service.monitor.notifyOne thread .enqueueUnlock woken).map service.withMonitor
  | .enqueueUnlock => some (service.release thread .idle)
  | .unsetInited => some { service.moveTo thread .clearLock with inited := false }
  | .clearLock => service.acquire thread .clear
  | .clear => some { service.moveTo thread .clearUnlock with tasks := [], cleared := true }
  | .clearUnlock => some (service.release thread .notifyAll)
  | .notifyAll => some (service.withMonitor (service.monitor.notifyAll thread .threadJoinable))
  | .threadJoinable => some (service.moveTo thread (if service.joinable then .join else .idle))
  | .join =>
    if service.point service.worker = .exited then some { service.moveTo thread .idle with joinable := false }
    else none

def step [Fintype Thread] [DecidableEq Request] (service : Worker Thread Request) :
    WorkerEvent Thread Request → Option (Worker Thread Request)
  | .enqueue thread task =>
    if service.point thread = .idle then some (service.moveTo thread (.enqueueLock task)) else none
  | .destroy thread => if service.point thread = .idle then some (service.moveTo thread .unsetInited) else none
  | .wakes thread => (service.monitor.wakes thread).map service.withMonitor
  | .step thread isShutdown woken => service.threadStep thread isShutdown woken

end Worker

end CyberRT.Services

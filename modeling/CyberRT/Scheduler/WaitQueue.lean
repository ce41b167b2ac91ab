import Mathlib.Data.Fintype.Basic
import CyberRT.Execution.Monitor
import CyberRT.Execution.Run

namespace CyberRT.Scheduler

open Execution

/-- Who has called `Notify`: a thread that runs no routine of the group, or the code of a routine that a processor of the
    group is resuming. -/
inductive Notifier where
  | outside
  | routine
  deriving DecidableEq, Repr

/-- What a thread does next. From `lock` to `unlock` it is in `Wait`; a thread that calls `Shutdown` may do so in the
    `Stop` of that processor, which then joins it. -/
inductive WaitPoint (Thread : Type) where
  | idle
  | running
  | nextRoutine
  | scan
  | resume
  | ended
  | lock
  | check
  /-- The predicate was false; the thread is about to block and to release the mutex. -/
  | block
  | asleep
  | relock
  | take
  | unlock
  | notifyLock (notifier : Notifier)
  | increment (notifier : Notifier)
  | notifyUnlock (notifier : Notifier)
  | notifyOne (notifier : Notifier)
  | exchange (processor : Thread)
  | setStop (processor : Thread) (joins : Bool)
  | shutdownLock (processor : Thread) (joins : Bool)
  | setMax (processor : Thread) (joins : Bool)
  | shutdownUnlock (processor : Thread) (joins : Bool)
  | notifyAll (processor : Thread) (joins : Bool)
  | join (processor : Thread)
  deriving DecidableEq

def Notifier.point {Thread : Type} : Notifier → WaitPoint Thread
  | .outside => .idle
  | .routine => .resume

namespace WaitPoint

variable {Thread : Type}

def inside : WaitPoint Thread → Bool
  | .check | .block | .take | .unlock | .increment _ | .notifyUnlock _ | .setMax _ _ | .shutdownUnlock _ _ => true
  | _ => false

/-- About to look at the count or to wake a thread that sleeps. -/
def astir : WaitPoint Thread → Bool
  | .check | .relock | .take | .notifyUnlock _ | .notifyOne _ => true
  | _ => false

/-- About to wake every thread that sleeps. -/
def alerts : WaitPoint Thread → Bool
  | .shutdownUnlock _ _ | .notifyAll _ _ => true
  | _ => false

/-- On the way to the queues. -/
def heads : WaitPoint Thread → Bool
  | .unlock | .running | .nextRoutine => true
  | _ => false

/-- In `Shutdown`, behind the store to `stop_` and before the count is set. -/
def resets : WaitPoint Thread → Bool
  | .shutdownLock _ _ | .setMax _ _ => true
  | _ => false

instance : Waits (WaitPoint Thread) where
  asleep := .asleep
  relock := .relock
  inside := inside
  astir := astir
  asleep_outside := rfl
  relock_outside := rfl
  asleep_still := rfl
  relock_astir := rfl

end WaitPoint

/-- The wait queue of a group of a `ClassicContext`, which all processors of the group share, or of a
    `ChoreographyContext`, which has one processor. `posted` counts the increments of `Notify` and `taken` the decrements
    of `Wait`; `seen` is `posted` as it was when the processor last began to go through the queues. -/
structure WaitQueue (Thread : Type) where
  notify : Int := 0
  running : Thread → Bool := fun _ => true
  stop : Thread → Bool := fun _ => false
  monitor : Monitor Thread (WaitPoint Thread)
  posted : Nat := 0
  taken : Nat := 0
  seen : Thread → Nat := fun _ => 0

/-- `wakes` is a thread whose wait times out or ends without a reason. -/
inductive WaitEvent (Thread : Type) where
  | notify (thread : Thread)
  | shutdown (thread processor : Thread)
  | stop (thread processor : Thread)
  | wakes (thread : Thread)
  | step (thread : Thread) (found expired : Bool) (woken : Option Thread)

namespace WaitQueue

variable {Thread : Type} [DecidableEq Thread]

def start (processors : Thread → Bool) : WaitQueue Thread where
  monitor := { point := fun thread => if processors thread then .running else .idle }

variable (queue : WaitQueue Thread)

def point (thread : Thread) : WaitPoint Thread := queue.monitor.point thread

def withMonitor (monitor : Monitor Thread (WaitPoint Thread)) : WaitQueue Thread := { queue with monitor }

def moveTo (thread : Thread) (target : WaitPoint Thread) : WaitQueue Thread :=
  queue.withMonitor (queue.monitor.moveTo thread target)

def acquire (thread : Thread) (target : WaitPoint Thread) : Option (WaitQueue Thread) :=
  (queue.monitor.acquire thread target).map queue.withMonitor

def release (thread : Thread) (target : WaitPoint Thread) : WaitQueue Thread :=
  queue.withMonitor (queue.monitor.release thread target)

/-- The step of a thread; `found` says whether `NextRoutine` has found a routine, `expired` whether the deadline of
    `wait_for` has passed, and `woken` whom `notify_one` wakes. -/
def threadStep [Fintype Thread] (thread : Thread) (found expired : Bool) (woken : Option Thread) :
    Option (WaitQueue Thread) :=
  match queue.point thread with
  | .idle | .asleep | .ended => none
  | .running => some (queue.moveTo thread (if queue.running thread then .nextRoutine else .ended))
  | .nextRoutine =>
    if queue.stop thread then some (queue.moveTo thread .lock)
    else some { queue.moveTo thread .scan with seen := Function.update queue.seen thread queue.posted }
  | .scan => some (queue.moveTo thread (if found then .resume else .lock))
  | .resume => some (queue.moveTo thread .running)
  | .lock => queue.acquire thread .check
  | .check => some (queue.moveTo thread (if 0 < queue.notify then .take else .block))
  | .block => some (queue.release thread .asleep)
  | .relock => queue.acquire thread (if expired then .take else .check)
  | .take =>
    if 0 < queue.notify then
      some { queue.moveTo thread .unlock with notify := queue.notify - 1, taken := queue.taken + 1 }
    else some (queue.moveTo thread .unlock)
  | .unlock => some (queue.release thread .running)
  | .notifyLock notifier => queue.acquire thread (.increment notifier)
  | .increment notifier =>
    some { queue.moveTo thread (.notifyUnlock notifier) with notify := queue.notify + 1, posted := queue.posted + 1 }
  | .notifyUnlock notifier => some (queue.release thread (.notifyOne notifier))
  | .notifyOne notifier => (queue.monitor.notifyOne thread notifier.point woken).map queue.withMonitor
  | .exchange processor =>
    some { queue.moveTo thread (if queue.running processor then .setStop processor true else .idle) with
      running := Function.update queue.running processor false }
  | .setStop processor joins =>
    some { queue.moveTo thread (.shutdownLock processor joins) with stop := Function.update queue.stop processor true }
  | .shutdownLock processor joins => queue.acquire thread (.setMax processor joins)
  | .setMax processor joins => some { queue.moveTo thread (.shutdownUnlock processor joins) with notify := 255 }
  | .shutdownUnlock processor joins => some (queue.release thread (.notifyAll processor joins))
  | .notifyAll processor joins =>
    some (queue.withMonitor (queue.monitor.notifyAll thread (if joins then .join processor else .idle)))
  | .join processor => if queue.point processor = .ended then some (queue.moveTo thread .idle) else none

def step [Fintype Thread] (queue : WaitQueue Thread) : WaitEvent Thread → Option (WaitQueue Thread)
  | .notify thread =>
    match queue.point thread with
    | .idle => some (queue.moveTo thread (.notifyLock .outside))
    | .resume => some (queue.moveTo thread (.notifyLock .routine))
    | _ => none
  | .shutdown thread processor =>
    if queue.point thread = .idle then some (queue.moveTo thread (.setStop processor false)) else none
  | .stop thread processor =>
    if queue.point thread = .idle then some (queue.moveTo thread (.exchange processor)) else none
  | .wakes thread => (queue.monitor.wakes thread).map queue.withMonitor
  | .step thread found expired woken => queue.threadStep thread found expired woken

end WaitQueue

end CyberRT.Scheduler

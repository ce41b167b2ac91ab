import Mathlib.Logic.Function.Basic
import CyberRT.Execution.Run
import CyberRT.Scheduler.RunQueues

namespace CyberRT.Scheduler

open CyberRT.Croutine (CRoutine RoutineState)

inductive Context where
  | classic (groupName : String)
  | choreography (pid : Nat)
  deriving DecidableEq, Repr

/-- The queues that `NextRoutine` goes through, in its order. -/
def Context.queues : Context → List QueueName
  | .classic groupName => (List.range maxPrio).reverse.map (.level groupName)
  | .choreography pid => [.own pid]

/-- What a processor does next: `NextRoutine` with the queues it has still to go through, then `Resume` and `Release` in
    `Processor::Run`. It is `inside` while the code of the routine runs; `skip` releases a routine that is not ready. -/
inductive ProcessorPoint (Object : Type) where
  | readLock (queues : List QueueName)
  | scan (queue : QueueName) (rest : List QueueName) (index : Nat)
  | updateState (queue : QueueName) (rest : List QueueName) (index : Nat) (cr : Object)
  | skip (queue : QueueName) (rest : List QueueName) (index : Nat) (cr : Object)
  | readUnlock (queue : QueueName) (cr : Object)
  | resume (cr : Object)
  | compare (cr : Object)
  | inside (cr : Object)
  | release (cr : Object)
  deriving DecidableEq

/-- What a thread does next in the `RemoveCRoutine` of a context. -/
inductive RemoverPoint (Object : Type) where
  | idle
  | writeLock (queue : QueueName) (crid : UInt64)
  | search (queue : QueueName) (crid : UInt64)
  | stop (queue : QueueName) (cr : Object)
  | acquire (queue : QueueName) (cr : Object)
  | erase (queue : QueueName) (cr : Object)
  | release (queue : QueueName) (cr : Object)
  | writeUnlock (queue : QueueName) (found : Option Object)
  deriving DecidableEq

structure Processor (Object : Type) where
  context : Context
  point : ProcessorPoint Object := .readLock context.queues

/-- `removed` holds what the calls of `RemoveCRoutine` that have returned true have removed. -/
structure Contexts (Object : Type) where
  processors : List (Processor Object)
  removers : List (RemoverPoint Object)
  queue : QueueName → CroutineQueue Object := fun _ => []
  lockNum : QueueName → Int := fun _ => 0
  routine : Object → CRoutine
  removed : List Object := []

/-- `processor` and `remover` are the next step of that thread; `leaves` is the state in which the code of the routine
    yields. -/
inductive ContextsEvent (Object : Type) where
  | enqueue (queue : QueueName) (cr : Object)
  | setUpdateFlag (cr : Object)
  | stop (cr : Object)
  | processor (index : Nat) (elapsed : Bool) (leaves : RoutineState)
  | remove (index : Nat) (queue : QueueName) (crid : UInt64)
  | remover (index : Nat)

namespace Contexts

variable {Object : Type} [DecidableEq Object]

/-- Any number of processors and of threads that may call `RemoveCRoutine`. The routines are as they were made. -/
def start (contexts : List Context) (removers : Nat) (routine : Object → CRoutine) : Contexts Object where
  processors := contexts.map fun context => { context }
  removers := List.replicate removers .idle
  routine := fun cr => (routine cr).release

variable (state : Contexts Object)

def setRoutine (cr : Object) (routine : CRoutine) : Contexts Object :=
  { state with routine := Function.update state.routine cr routine }

def setLockNum (queue : QueueName) (lockNum : Int) : Contexts Object :=
  { state with lockNum := Function.update state.lockNum queue lockNum }

/-- `AtomicRWLock`: the compare-exchange that takes the lock. -/
def readLock (queue : QueueName) : Option (Contexts Object) :=
  if 0 ≤ state.lockNum queue then some (state.setLockNum queue (state.lockNum queue + 1)) else none

def readUnlock (queue : QueueName) : Contexts Object := state.setLockNum queue (state.lockNum queue - 1)

def writeLock (queue : QueueName) : Option (Contexts Object) :=
  if state.lockNum queue = 0 then some (state.setLockNum queue (-1)) else none

def writeUnlock (queue : QueueName) : Contexts Object := state.setLockNum queue (state.lockNum queue + 1)

def toPoint (index : Nat) (processor : Processor Object) (point : ProcessorPoint Object) : Contexts Object :=
  { state with processors := state.processors.set index { processor with point } }

def processorStep (index : Nat) (processor : Processor Object) (elapsed : Bool) (leaves : RoutineState) :
    Option (Contexts Object) :=
  match processor.point with
  | .readLock [] => some (state.toPoint index processor (.readLock processor.context.queues))
  | .readLock (queue :: rest) =>
    (state.readLock queue).map fun locked => locked.toPoint index processor (.scan queue rest 0)
  | .scan queue rest place =>
    match (state.queue queue).objects[place]? with
    | none => some ((state.readUnlock queue).toPoint index processor (.readLock rest))
    | some cr =>
      some <| (state.setRoutine cr (state.routine cr).acquire.2).toPoint index processor
        (if (state.routine cr).acquire.1 then .updateState queue rest place cr else .scan queue rest (place + 1))
  | .updateState queue rest place cr =>
    some <| (state.setRoutine cr ((state.routine cr).updateState elapsed)).toPoint index processor
      (if ((state.routine cr).updateState elapsed).state = .ready then .readUnlock queue cr
        else .skip queue rest place cr)
  | .skip queue rest place cr =>
    some ((state.setRoutine cr (state.routine cr).release).toPoint index processor (.scan queue rest (place + 1)))
  | .readUnlock queue cr => some ((state.readUnlock queue).toPoint index processor (.resume cr))
  | .resume cr =>
    if (state.routine cr).forceStop then
      some ((state.setRoutine cr ((state.routine cr).setState .finished)).toPoint index processor (.release cr))
    else some (state.toPoint index processor (.compare cr))
  | .compare cr =>
    some (state.toPoint index processor (if (state.routine cr).state = .ready then .inside cr else .release cr))
  | .inside cr =>
    some ((state.setRoutine cr ((state.routine cr).setState leaves)).toPoint index processor (.release cr))
  | .release cr =>
    some ((state.setRoutine cr (state.routine cr).release).toPoint index processor
      (.readLock processor.context.queues))

def toRemoverPoint (index : Nat) (point : RemoverPoint Object) : Contexts Object :=
  { state with removers := state.removers.set index point }

def removerStep (index : Nat) : RemoverPoint Object → Option (Contexts Object)
  | .idle => none
  | .writeLock queue crid =>
    (state.writeLock queue).map fun locked => locked.toRemoverPoint index (.search queue crid)
  | .search queue crid =>
    match (state.queue queue).findId (fun cr => (state.routine cr).id) crid with
    | none => some (state.toRemoverPoint index (.writeUnlock queue none))
    | some cr => some (state.toRemoverPoint index (.stop queue cr))
  | .stop queue cr =>
    some ((state.setRoutine cr (state.routine cr).stop).toRemoverPoint index (.acquire queue cr))
  | .acquire queue cr =>
    some <| (state.setRoutine cr (state.routine cr).acquire.2).toRemoverPoint index
      (if (state.routine cr).acquire.1 then .erase queue cr else .acquire queue cr)
  | .erase queue cr =>
    some ({ state with queue := Function.update state.queue queue ((state.queue queue).erase cr) }.toRemoverPoint index
      (.release queue cr))
  | .release queue cr =>
    some ((state.setRoutine cr (state.routine cr).release).toRemoverPoint index (.writeUnlock queue (some cr)))
  | .writeUnlock queue found =>
    some { (state.writeUnlock queue).toRemoverPoint index .idle with removed := found.toList ++ state.removed }

/-- The scheduler enqueues under the write lock, so that nobody is between the lock and the unlock of the queue. -/
def enqueue (queue : QueueName) (cr : Object) : Option (Contexts Object) :=
  if state.lockNum queue = 0 then
    some { state with
      queue := Function.update state.queue queue ((state.queue queue).emplace (queue.key (state.routine cr)) cr) }
  else none

def step (state : Contexts Object) : ContextsEvent Object → Option (Contexts Object)
  | .enqueue queue cr => state.enqueue queue cr
  | .setUpdateFlag cr => some (state.setRoutine cr (state.routine cr).setUpdateFlag)
  | .stop cr => some (state.setRoutine cr (state.routine cr).stop)
  | .processor index elapsed leaves =>
    state.processors[index]?.bind fun processor => state.processorStep index processor elapsed leaves
  | .remove index queue crid =>
    if state.removers[index]? = some .idle then some (state.toRemoverPoint index (.writeLock queue crid)) else none
  | .remover index => state.removers[index]?.bind (state.removerStep index)

end Contexts

end CyberRT.Scheduler

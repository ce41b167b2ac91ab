import CyberRT.Croutine.Hosting
import CyberRT.Data.CacheBuffer
import CyberRT.Execution.Run

namespace CyberRT.Croutine

open CyberRT.Data

/-- What the loop of `CreateRoutineFactory` does next. -/
inductive LoopPoint where
  | setDataWait | tryFetch | handle | yield
  deriving DecidableEq, Repr

/-- Where a thread is in `Dispatch`: after the fill it reads the callback, then the state, then sets the flag. -/
inductive DispatcherPoint where
  | idle | readCallback | readState | setUpdateFlag
  deriving DecidableEq, Repr

/-- What `CreateTask` does next. -/
inductive CreatorPoint where
  | dispatchTask | registerNotifyCallback | leave | returned
  deriving DecidableEq, Repr

/-- A data-driven task from the construction of its visitor on, with the threads that touch it. -/
structure DataTask (Processor Dispatcher Message : Type) where
  routine : CRoutine := {}
  loop : LoopPoint := .setDataWait
  buffer : CacheBuffer Message
  nextMsgIndex : Nat := 0
  creator : CreatorPoint := .dispatchTask
  processor : Processor → ProcessorPoint := fun _ => .acquire
  dispatcher : Dispatcher → DispatcherPoint := fun _ => .idle

/-- `processor` and `dispatcher` are the next access of that thread. `fused` tells of a fill whether there is no fusion
    callback, or it has found a message on every other channel. -/
inductive DataTaskEvent (Processor Dispatcher Message : Type) where
  | create
  | processor (processor : Processor) (elapsed : Bool)
  | fill (dispatcher : Dispatcher) (msg : Message) (fused : Bool)
  | dispatcher (dispatcher : Dispatcher)

namespace DataTask

variable {Processor Dispatcher Message : Type} [DecidableEq Processor] [DecidableEq Dispatcher]

def start (queueSize : Nat) : DataTask Processor Dispatcher Message := { buffer := .ofSize queueSize }

variable (task : DataTask Processor Dispatcher Message)

def isRegistered : Bool := task.creator = .leave || task.creator = .returned

def create : Option (DataTask Processor Dispatcher Message) :=
  match task.creator with
  | .dispatchTask => some { task with creator := .registerNotifyCallback }
  | .registerNotifyCallback => some { task with creator := .leave }
  | .leave => some { task with creator := .returned }
  | .returned => none

def toPoint (processor : Processor) (point : ProcessorPoint) : DataTask Processor Dispatcher Message :=
  { task with processor := Function.update task.processor processor point }

/-- The next access of the loop, in which `yield` is the switch back to the processor. -/
def loopStep (processor : Processor) : DataTask Processor Dispatcher Message :=
  match task.loop with
  | .setDataWait => { task with routine := task.routine.setState .dataWait, loop := .tryFetch }
  | .tryFetch =>
    match task.buffer.tryFetch task.nextMsgIndex with
    | some (index, _) => { task with nextMsgIndex := index, loop := .handle }
    | none => { task with loop := .yield }
  | .handle => { task with routine := task.routine.setState .ready, loop := .yield }
  | .yield => { task.toPoint processor .release with loop := .setDataWait }

def processorStep (processor : Processor) (elapsed : Bool) : Option (DataTask Processor Dispatcher Message) :=
  match task.processor processor with
  | .acquire =>
    if task.creator = .dispatchTask then none
    else if task.routine.acquire.1 then
      some { task.toPoint processor .checkSleep with routine := task.routine.acquire.2 }
    else some { task with routine := task.routine.acquire.2 }
  | .checkSleep =>
    if task.routine.sleepOver elapsed then
      some { task.toPoint processor .compare with routine := task.routine.setState .ready }
    else some (task.toPoint processor .testUpdated)
  | .testUpdated =>
    some { task.toPoint processor (if task.routine.takeUpdate.1 then .awaken else .compare) with
      routine := task.routine.takeUpdate.2 }
  | .awaken => some { task.toPoint processor .compare with routine := task.routine.awaken }
  | .compare => some (task.toPoint processor (if task.routine.state = .ready then .resume else .release))
  | .resume =>
    if task.routine.forceStop then
      some { task.toPoint processor .release with routine := task.routine.setState .finished }
    else if task.routine.state ≠ .ready then some (task.toPoint processor .release)
    else some (task.toPoint processor .inside)
  | .inside => some (task.loopStep processor)
  | .release => some { task.toPoint processor .acquire with routine := task.routine.release }

def fill (dispatcher : Dispatcher) (msg : Message) (fused : Bool) :
    Option (DataTask Processor Dispatcher Message) :=
  match task.dispatcher dispatcher with
  | .idle => some { task with
      buffer := if fused then task.buffer.fill msg else task.buffer
      dispatcher := Function.update task.dispatcher dispatcher .readCallback }
  | _ => none

/-- `DataNotifier::Notify` and, through the callback, `NotifyProcessor`. -/
def dispatcherStep (dispatcher : Dispatcher) : Option (DataTask Processor Dispatcher Message) :=
  match task.dispatcher dispatcher with
  | .idle => none
  | .readCallback => some { task with
      dispatcher := Function.update task.dispatcher dispatcher (if task.isRegistered then .readState else .idle) }
  | .readState => some { task with
      dispatcher := Function.update task.dispatcher dispatcher
        (if task.routine.isWaiting then .setUpdateFlag else .idle) }
  | .setUpdateFlag => some { task with
      routine := task.routine.setUpdateFlag
      dispatcher := Function.update task.dispatcher dispatcher .idle }

def step (task : DataTask Processor Dispatcher Message) :
    DataTaskEvent Processor Dispatcher Message → Option (DataTask Processor Dispatcher Message)
  | .create => task.create
  | .processor processor elapsed => task.processorStep processor elapsed
  | .fill dispatcher msg fused => task.fill dispatcher msg fused
  | .dispatcher dispatcher => task.dispatcherStep dispatcher

/-- The next `TryFetch` would get a message. -/
def Unfetched (task : DataTask Processor Dispatcher Message) : Prop :=
  (task.buffer.tryFetch task.nextMsgIndex).isSome

/-- A message waits for the next one: nobody is going to wake the suspended routine for it. A flag that a processor
    has taken within `UpdateState` is pending until it has acted on it. -/
structure Stranded (task : DataTask Processor Dispatcher Message) : Prop where
  unfetched : task.Unfetched
  dataWait : task.routine.state = .dataWait
  suspended : ∀ processor, task.processor processor ≠ .inside
  noUpdate : task.routine.updated = true
  noAwaken : ∀ processor, task.processor processor ≠ .awaken
  noDispatch : ∀ dispatcher, task.dispatcher dispatcher = .idle

end DataTask

end CyberRT.Croutine

import Mathlib.Logic.Function.Basic
import CyberRT.Scheduler.RunQueues

namespace CyberRT

open CyberRT.Croutine (CRoutine)

/-- What the schedulers of both policies share: the routines, the registry and the run queues. -/
structure Scheduler (Object : Type) where
  routine : Object → CRoutine
  idCr : UInt64 → Option Object := fun _ => none
  queue : Scheduler.QueueName → Scheduler.CroutineQueue Object := fun _ => []

namespace Scheduler

/-- The priority of a task that does not set it is 1 in both configurations. -/
structure ClassicTask where
  prio : Nat := 1
  groupName : String := ""
  deriving DecidableEq, Repr

structure ClassicConf where
  crConfs : String → Option ClassicTask
  groups : List String

structure ChoreographyTask where
  processor : Option Int := none
  prio : Nat := 1
  deriving DecidableEq, Repr

structure ChoreographyConf where
  crConfs : String → Option ChoreographyTask
  procNum : Nat

/-- `uint32_t pid = cr->processor_id()`. -/
def pid (cr : CRoutine) : Nat := (cr.processorId % 4294967296).toNat

def clampPriority (cr : CRoutine) : CRoutine := if maxPrio ≤ cr.priority then { cr with priority := maxPrio - 1 } else cr

def toPool (cr : CRoutine) : CRoutine := { clampPriority cr with groupName := defaultGroupName }

/-- `groups(0)` of an empty list ends the process. -/
def ClassicConf.configure (conf : ClassicConf) (cr : CRoutine) : Option CRoutine :=
  match conf.crConfs cr.name with
  | some task => some { cr with priority := task.prio, groupName := task.groupName }
  | none => conf.groups.head?.map fun group => { cr with groupName := group }

def ChoreographyConf.configure (conf : ChoreographyConf) (cr : CRoutine) : CRoutine :=
  match conf.crConfs cr.name with
  | some task => { cr with priority := task.prio, processorId := task.processor.getD cr.processorId }
  | none => cr

inductive Policy where
  | classic (conf : ClassicConf)
  | choreography (conf : ChoreographyConf)

inductive Operation (Object : Type) where
  | dispatchTask (cr : Object)
  | removeCRoutine (crid : UInt64)
  | removeTask (name : String)

variable {Object : Type} [DecidableEq Object] (state : Scheduler Object)

def setRoutine (cr : Object) (routine : CRoutine) : Scheduler Object :=
  { state with routine := Function.update state.routine cr routine }

def register (crid : UInt64) (cr : Option Object) : Scheduler Object :=
  { state with idCr := Function.update state.idCr crid cr }

def enqueue (queue : QueueName) (cr : Object) : Scheduler Object :=
  { state with queue :=
      Function.update state.queue queue ((state.queue queue).emplace (queue.key (state.routine cr)) cr) }

def dispatchClassic (conf : ClassicConf) (cr : Object) : Option (Bool × Scheduler Object) :=
  if (state.idCr (state.routine cr).id).isSome then some (false, state)
  else
    (conf.configure (state.routine cr)).map fun configured =>
      (true, ((state.register (state.routine cr).id (some cr)).setRoutine cr (clampPriority configured)).enqueue
        (.level (clampPriority configured).groupName (clampPriority configured).priority) cr)

def dispatchChoreography (conf : ChoreographyConf) (cr : Object) : Bool × Scheduler Object :=
  let configured := conf.configure (state.routine cr)
  let assigned := state.setRoutine cr configured
  if (assigned.idCr configured.id).isSome then (false, assigned)
  else
    let registered := assigned.register configured.id (some cr)
    if pid configured < conf.procNum then (true, registered.enqueue (.own (pid configured)) cr)
    else
      (true, (registered.setRoutine cr (toPool configured)).enqueue
        (.level (toPool configured).groupName (toPool configured).priority) cr)

def dispatchTask (cr : Object) : Policy → Option (Bool × Scheduler Object)
  | .classic conf => state.dispatchClassic conf cr
  | .choreography conf => some (state.dispatchChoreography conf cr)

/-- The `RemoveCRoutine` of a context. It waits until no processor holds the routine. -/
def removeFrom (queue : QueueName) (crid : UInt64) : Bool × Scheduler Object :=
  match (state.queue queue).findId (fun cr => (state.routine cr).id) crid with
  | none => (false, state)
  | some cr =>
    (true, { state.setRoutine cr (state.routine cr).stop.release with
      queue := Function.update state.queue queue ((state.queue queue).erase cr) })

/-- `at(prio)` throws when there is no such level. -/
def removeClassic (cr : CRoutine) : Option (Bool × Scheduler Object) :=
  if cr.priority < maxPrio then some (state.removeFrom (.level cr.groupName cr.priority) cr.id) else none

def removeCRoutine (crid : UInt64) (policy : Policy) : Option (Bool × Scheduler Object) :=
  match state.idCr crid with
  | none => some (false, state)
  | some cr =>
    let stopped := (state.setRoutine cr (state.routine cr).stop).register crid none
    match policy with
    | .classic _ => stopped.removeClassic (stopped.routine cr)
    | .choreography conf =>
      if pid (state.routine cr) < conf.procNum then some (stopped.removeFrom (.own (pid (state.routine cr))) crid)
      else stopped.removeClassic (stopped.routine cr)

def removeTask (hash : String → UInt64) (name : String) (policy : Policy) : Option (Bool × Scheduler Object) :=
  state.removeCRoutine (hash name) policy

/-- The answer of the operation and the state it leaves, or `none` where it ends the process. -/
def apply (policy : Policy) (hash : String → UInt64) : Operation Object → Option (Bool × Scheduler Object)
  | .dispatchTask cr => state.dispatchTask cr policy
  | .removeCRoutine crid => state.removeCRoutine crid policy
  | .removeTask name => state.removeTask hash name policy

def step (policy : Policy) (hash : String → UInt64) (state : Scheduler Object) (operation : Operation Object) :
    Option (Scheduler Object) := (state.apply policy hash operation).map Prod.snd

end Scheduler

end CyberRT

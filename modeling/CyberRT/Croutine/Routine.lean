import Mathlib.Data.Int.Notation

namespace CyberRT.Croutine

inductive RoutineState where
  | ready | finished | sleep | ioWait | dataWait
  deriving DecidableEq, Repr

/-- The two atomic flags hold what `test_and_set` finds; an update is pending while `updated` is clear. -/
structure CRoutine where
  name : String := ""
  state : RoutineState := .ready
  lock : Bool := false
  updated : Bool := true
  forceStop : Bool := false
  processorId : Int := -1
  priority : Nat := 0
  id : UInt64 := 0
  groupName : String := ""
  deriving DecidableEq, Repr

namespace CRoutine

variable (routine : CRoutine)

def setState (state : RoutineState) : CRoutine := { routine with state }

def acquire : Bool × CRoutine := (!routine.lock, { routine with lock := true })

def release : CRoutine := { routine with lock := false }

def setUpdateFlag : CRoutine := { routine with updated := false }

def stop : CRoutine := { routine with forceStop := true }

def isWaiting : Bool := routine.state = .dataWait || routine.state = .ioWait

/-- The three accesses of `UpdateState`: a sleep that is over, the `test_and_set` of the update flag, and what the routine
    that has taken the flag does to the state. -/
def sleepOver (elapsed : Bool) : Bool := routine.state = .sleep && elapsed

def takeUpdate : Bool × CRoutine := (!routine.updated, { routine with updated := true })

def awaken : CRoutine := if routine.isWaiting then routine.setState .ready else routine

def updateState (elapsed : Bool) : CRoutine :=
  if routine.sleepOver elapsed then routine.setState .ready
  else if routine.takeUpdate.1 then routine.takeUpdate.2.awaken
  else routine.takeUpdate.2

end CRoutine

end CyberRT.Croutine

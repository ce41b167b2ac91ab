import Mathlib.Logic.Function.Basic
import CyberRT.Execution.Run

namespace CyberRT.Startup

open Execution

/-- `State` of `state.h`. -/
inductive ProcessState where
  | uninitialized | initialized | shuttingDown | shutdown
  deriving DecidableEq, Repr

namespace ProcessState

def isShutdown (state : ProcessState) : Bool := state = .shuttingDown ∨ state = .shutdown

end ProcessState

/-- Where the thread that has `g_mutex` stands in `Init` or in `Clear`. `registers` is what `std::atexit` answers. -/
inductive Section where
  | checkState (registers : Bool)
  | initLogger (registers : Bool)
  | installHandler (registers : Bool)
  | registerExit (registers : Bool)
  | setInitialized
  | readFirst
  | readSecond
  | cleanUp
  | setShutdown
  deriving DecidableEq, Repr

namespace Section

/-- `Init` has found the state uninitialised and goes on. -/
def initialises : Section → Bool
  | .initLogger _ | .installHandler _ | .registerExit _ | .setInitialized => true
  | _ => false

end Section

/-- The variables of `init.cc` and the state of the process. The loggers are known by number, `deleted` has the pointers
    that `StopLogger` was called with, and `succeeded` counts the calls of `Init` that have set the state. A thread is in
    `inHandler` when its signal handler has read the state and not written it. -/
structure Process (Thread : Type) where
  state : ProcessState := .uninitialized
  mutex : Option (Thread × Section) := none
  atexitRegistered : Bool := false
  handlerInstalled : Bool := false
  asyncLogger : Option Nat := none
  made : Nat := 0
  deleted : List Nat := []
  succeeded : Nat := 0
  inHandler : Thread → Bool := fun _ => false

/-- A thread calls `Init` or `Clear` and goes on in it. SIGINT is delivered to a thread, whose handler reads the state and
    then writes it. -/
inductive ProcessEvent (Thread : Type) where
  | init (thread : Thread) (registers : Bool)
  | clear (thread : Thread)
  | goOn (thread : Thread)
  | sigint (thread : Thread)
  | handlerStores (thread : Thread)
  deriving DecidableEq, Repr

namespace Process

variable {Thread : Type} (process : Process Thread)

def goTo (thread : Thread) (point : Section) : Process Thread := { process with mutex := some (thread, point) }

def leave : Process Thread := { process with mutex := none }

def sectionStep (thread : Thread) : Section → Process Thread
  | .checkState registers =>
    if process.state ≠ .uninitialized then process.leave else process.goTo thread (.initLogger registers)
  | .initLogger registers =>
    { process with asyncLogger := some process.made, made := process.made + 1 }.goTo thread (.installHandler registers)
  | .installHandler registers => { process with handlerInstalled := true }.goTo thread (.registerExit registers)
  | .registerExit registers =>
    if process.atexitRegistered then process.goTo thread .setInitialized
    else if registers then { process with atexitRegistered := true }.goTo thread .setInitialized
    else process.leave
  | .setInitialized => { process with state := .initialized, succeeded := process.succeeded + 1 }.leave
  | .readFirst => if process.state = .shutdown then process.leave else process.goTo thread .readSecond
  | .readSecond => if process.state = .uninitialized then process.leave else process.goTo thread .cleanUp
  | .cleanUp => { process with deleted := process.deleted ++ process.asyncLogger.toList }.goTo thread .setShutdown
  | .setShutdown => { process with state := .shutdown }.leave

variable [DecidableEq Thread]

/-- A thread does nothing else while its handler runs. -/
def step (process : Process Thread) : ProcessEvent Thread → Option (Process Thread)
  | .init thread registers =>
    if process.mutex = none ∧ process.inHandler thread = false then some (process.goTo thread (.checkState registers))
    else none
  | .clear thread =>
    if process.mutex = none ∧ process.inHandler thread = false then some (process.goTo thread .readFirst) else none
  | .goOn thread =>
    match process.mutex with
    | some (holder, point) =>
      if holder = thread ∧ process.inHandler thread = false then some (process.sectionStep thread point) else none
    | none => none
  | .sigint thread =>
    if process.handlerInstalled = true ∧ process.inHandler thread = false then
      some { process with inHandler := Function.update process.inHandler thread (decide (process.state ≠ .shutdown)) }
    else none
  | .handlerStores thread =>
    if process.inHandler thread = true then
      some { process with state := .shuttingDown, inHandler := Function.update process.inHandler thread false }
    else none

end Process

end CyberRT.Startup

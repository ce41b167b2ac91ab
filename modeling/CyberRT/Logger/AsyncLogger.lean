import Mathlib.Data.List.Defs
import Mathlib.Logic.Function.Basic

namespace CyberRT.Logger

/-- The characters of a `std::string`. -/
abbrev Text := List Char

/-- `std::string::find` from a position on. -/
def find (text : Text) (character : Char) (pos : Nat) : Option Nat :=
  ((text.drop pos).findIdx? (· == character)).map (pos + ·)

/-- The name in the first bracket pair, and the message without the pair. -/
def cutModuleName (logMessage : Text) : Option (Text × Text) :=
  (find logMessage '[' 0).bind fun lpos => (find logMessage ']' lpos).map fun rpos =>
    ((logMessage.drop (lpos + 1)).take (rpos - lpos - 1), logMessage.take lpos ++ logMessage.drop (rpos + 1))

/-- Gives the message and the module name that it leaves behind. -/
def findModuleName (processGroup logMessage moduleName : Text) : Text × Text :=
  let (moduleName, logMessage) := (cutModuleName logMessage).getD (moduleName, logMessage)
  (logMessage, if moduleName.isEmpty then processGroup else moduleName)

/-- `log_level_map.at(message[0])`, which throws for any other character. -/
def logLevel : Text → Option Nat
  | 'F' :: _ => some 3
  | 'E' :: _ => some 2
  | 'W' :: _ => some 1
  | 'I' :: _ => some 0
  | _ => none

/-- `writer` is the thread that has appended the message. -/
structure Msg (Thread : Type) where
  writer : Thread
  ts : Int
  message : Text
  level : Nat
  deriving DecidableEq, Repr

structure LogFileObject where
  fileName : Text
  symlinkBasename : Text
  deriving DecidableEq, Repr

structure WriteCall where
  forceFlush : Bool
  ts : Int
  message : Text
  deriving DecidableEq, Repr

/-- A call of `LogFileObject::Write` for the file of a module. `msg` is the message as it was in the buffer. -/
structure Forwarded (Thread : Type) where
  msg : Msg Thread
  moduleName : Text
  call : WriteCall
  deriving DecidableEq, Repr

structure LogSettings where
  logDir : Text
  processGroup : Text

namespace LogSettings

variable (settings : LogSettings)

def fileName (moduleName : Text) : Text :=
  let fileName := moduleName ++ ".log.INFO.".toList
  if settings.logDir.isEmpty then fileName else settings.logDir ++ '/' :: fileName

def openLogFile (moduleName : Text) : LogFileObject where
  fileName := settings.fileName moduleName
  symlinkBasename := moduleName

/-- One turn of the loop of `FlushBuffer`, which goes on with the module name of the call. -/
def forward {Thread : Type} (moduleName : Text) (msg : Msg Thread) : Forwarded Thread :=
  let (message, moduleName) := findModuleName settings.processGroup msg.message moduleName
  ⟨msg, moduleName, ⟨decide (msg.level > 0), msg.ts, message⟩⟩

end LogSettings

inductive LoggerState where
  | initted | running | stopped
  deriving DecidableEq, Repr

/-- What a thread does next in `Write`. -/
inductive WritePoint where
  | idle
  | loadState (forceFlush : Bool) (timestamp : Int) (message : Text)
  | testAndSet (timestamp : Int) (message : Text)
  | emplaceBack (timestamp : Int) (message : Text)
  | clearFlag
  deriving DecidableEq, Repr

/-- What the log thread does next in `RunThread`; `flush` carries the module name of `FlushBuffer`. -/
inductive RunPoint where
  | unstarted | loadState | testAndSet | swap | clearFlag
  | flush (moduleName : Text)
  | measure | sleep | returned
  deriving DecidableEq, Repr

/-- What the caller of `Stop` does next. -/
inductive StopPoint where
  | idle | storeState | join
  | flush (moduleName : Text)
  | returned
  deriving DecidableEq, Repr

structure AsyncLogger (Thread : Type) where
  state : LoggerState := .initted
  flag : Bool := false
  activeBuf : List (Msg Thread) := []
  flushingBuf : List (Msg Thread) := []
  moduleLoggerMap : Text → Option LogFileObject := fun _ => none
  logThread : RunPoint := .unstarted
  stopper : StopPoint := .idle
  writer : Thread → WritePoint := fun _ => .idle
  appended : List (Msg Thread) := []
  forwarded : List (Forwarded Thread) := []

/-- `writer`, `logThread` and `stopper` are the next access of that thread. -/
inductive LoggerEvent (Thread : Type) where
  | start | stop
  | write (thread : Thread) (forceFlush : Bool) (timestamp : Int) (message : Text)
  | writer (thread : Thread)
  | logThread
  | stopper
  deriving DecidableEq

namespace AsyncLogger

variable {Thread : Type} [DecidableEq Thread] (settings : LogSettings) (logger : AsyncLogger Thread)

def toWriter (thread : Thread) (point : WritePoint) : AsyncLogger Thread :=
  { logger with writer := Function.update logger.writer thread point }

def start : Option (AsyncLogger Thread) :=
  if logger.state = .initted then some { logger with state := .running, logThread := .loadState } else none

/-- Calls of `Stop` do not overlap. -/
def stop : Option (AsyncLogger Thread) :=
  if logger.stopper = .idle ∨ logger.stopper = .returned then some { logger with stopper := .storeState } else none

def write (thread : Thread) (forceFlush : Bool) (timestamp : Int) (message : Text) : Option (AsyncLogger Thread) :=
  if logger.writer thread = .idle then some (logger.toWriter thread (.loadState forceFlush timestamp message))
  else none

/-- Files the message away and gives the name that the next message of the buffer starts from. -/
def record (forwarded : Forwarded Thread) : AsyncLogger Thread :=
  { logger with
    forwarded := logger.forwarded ++ [forwarded]
    moduleLoggerMap := match logger.moduleLoggerMap forwarded.moduleName with
      | some _ => logger.moduleLoggerMap
      | none => Function.update logger.moduleLoggerMap forwarded.moduleName
          (some (settings.openLogFile forwarded.moduleName)) }

def writerStep (thread : Thread) : Option (AsyncLogger Thread) :=
  match logger.writer thread with
  | .idle => none
  | .loadState forceFlush timestamp message =>
    if logger.state ≠ .running then some (logger.toWriter thread .idle)
    else if message ≠ [] then some (logger.toWriter thread (.testAndSet timestamp message))
    else if forceFlush ∧ timestamp = 0 then (logger.toWriter thread .idle).stop
    else some (logger.toWriter thread .idle)
  | .testAndSet timestamp message =>
    if logger.flag then some logger
    else some { logger.toWriter thread (.emplaceBack timestamp message) with flag := true }
  | .emplaceBack timestamp message =>
    (logLevel message).map fun level =>
      { logger.toWriter thread .clearFlag with
        activeBuf := logger.activeBuf ++ [⟨thread, timestamp, message, level⟩]
        appended := logger.appended ++ [⟨thread, timestamp, message, level⟩] }
  | .clearFlag => some { logger.toWriter thread .idle with flag := false }

def logThreadStep : Option (AsyncLogger Thread) :=
  match logger.logThread with
  | .unstarted | .returned => none
  | .loadState => some { logger with logThread := if logger.state = .running then .testAndSet else .returned }
  | .testAndSet => if logger.flag then some logger else some { logger with flag := true, logThread := .swap }
  | .swap => some { logger with
      activeBuf := logger.flushingBuf, flushingBuf := logger.activeBuf, logThread := .clearFlag }
  | .clearFlag => some { logger with flag := false, logThread := .flush [] }
  | .flush moduleName =>
    match logger.flushingBuf with
    | [] => some { logger with logThread := .measure }
    | msg :: rest => some { logger.record settings (settings.forward moduleName msg) with
        flushingBuf := rest, logThread := .flush (settings.forward moduleName msg).moduleName }
  | .measure => some { logger with logThread := if logger.activeBuf.length < 800 then .sleep else .loadState }
  | .sleep => some { logger with logThread := .loadState }

def stopperStep : Option (AsyncLogger Thread) :=
  match logger.stopper with
  | .idle | .returned => none
  | .storeState => some { logger with state := .stopped, stopper := .join }
  | .join =>
    if logger.logThread = .returned ∨ logger.logThread = .unstarted then some { logger with stopper := .flush [] }
    else none
  | .flush moduleName =>
    match logger.activeBuf with
    | [] => some { logger with stopper := .returned }
    | msg :: rest => some { logger.record settings (settings.forward moduleName msg) with
        activeBuf := rest, stopper := .flush (settings.forward moduleName msg).moduleName }

def step (settings : LogSettings) (logger : AsyncLogger Thread) : LoggerEvent Thread → Option (AsyncLogger Thread)
  | .start => logger.start
  | .stop => logger.stop
  | .write thread forceFlush timestamp message => logger.write thread forceFlush timestamp message
  | .writer thread => logger.writerStep thread
  | .logThread => logger.logThreadStep settings
  | .stopper => logger.stopperStep settings

/-- The next access of the thread is the one that takes `Write` into `Stop`. -/
def CallsStop (thread : Thread) : Prop :=
  logger.state = .running ∧ logger.writer thread = .loadState true 0 []

/-- `Write` is called after `Start`, and has returned in every thread when `Stop` is called. -/
def InOrder (logger : AsyncLogger Thread) : LoggerEvent Thread → Prop
  | .write _ _ _ _ => logger.state = .running ∧ logger.stopper = .idle
  | .stop => ∀ thread, logger.writer thread = .idle
  | .writer thread => logger.CallsStop thread → ∀ other, other ≠ thread → logger.writer other = .idle
  | _ => True

end AsyncLogger

end CyberRT.Logger

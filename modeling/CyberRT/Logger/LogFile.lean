import Mathlib.Data.List.Defs
import Mathlib.Logic.Function.Basic
import CyberRT.Logger.AsyncLogger

namespace CyberRT.Logger

/-- The fields of a `struct tm` that go into the name and the header of a log file. -/
structure Tm where
  year : Int
  mon : Nat
  mday : Nat
  hour : Nat
  min : Nat
  sec : Nat

/-- `localtime` is `localtime_r` in the time zone of the process, and `nodename` what `uname` gives. -/
structure FileSettings extends LogSettings where
  flagsMaxLogSize : Int
  logbufsecs : Int
  stopLoggingIfFullDisk : Bool
  nodename : Text
  localtime : Int → Tm

def decimal : Int → Text
  | .ofNat n => Nat.toDigits 10 n
  | .negSucc n => '-' :: Nat.toDigits 10 (n + 1)

/-- A number after `setw(2)`, with `'0'` for the fill character. -/
def setw2 (n : Nat) : Text := List.replicate (2 - (Nat.toDigits 10 n).length) '0' ++ Nat.toDigits 10 n

namespace FileSettings

variable (settings : FileSettings)

def maxLogSize : Int := if settings.flagsMaxLogSize > 0 then settings.flagsMaxLogSize else 1

def hostname : Text := if settings.nodename.isEmpty then "(unknown)".toList else settings.nodename

def timePidString (timestamp mainThreadPid : Int) : Text :=
  let tm := settings.localtime timestamp
  decimal (1900 + tm.year) ++ setw2 (1 + tm.mon) ++ setw2 tm.mday ++ '-' :: setw2 tm.hour ++ setw2 tm.min ++
    setw2 tm.sec ++ '.' :: decimal mainThreadPid

def fileHeader (timestamp : Int) : Text :=
  let tm := settings.localtime timestamp
  "Log file created at: ".toList ++ decimal (1900 + tm.year) ++ '/' :: setw2 (1 + tm.mon) ++ '/' :: setw2 tm.mday ++
    ' ' :: setw2 tm.hour ++ ':' :: setw2 tm.min ++ ':' :: setw2 tm.sec ++ "\nRunning on machine: ".toList ++
    settings.hostname ++ "\nLog line format: [IWEF]mmdd hh:mm:ss.uuuuuu threadid file:line] msg\n".toList

end FileSettings

/-- What the stream of a log file has taken. -/
structure LogContents where
  name : Text
  header : Text
  calls : List WriteCall
  deriving DecidableEq, Repr

/-- What all the log files of a process share, and the files that exist. -/
structure LogGlobals where
  mainThreadPid : Int
  stopWriting : Bool := false
  fileNames : List Text := []
  deriving DecidableEq, Repr

/-- `isOpen` tells whether there is a `file_`; it is then the stream of the last one of `files`, which the object has
    created. -/
structure LogFile where
  baseFilenameSelected : Bool
  baseFilename : Text
  filenameExtension : Text := []
  isOpen : Bool := false
  bytesSinceFlush : UInt32 := 0
  fileLength : UInt32 := 0
  rolloverAttempt : UInt32 := 31
  nextFlushTime : Int := 0
  files : List LogContents := []
  deriving DecidableEq, Repr

/-- What the system answers to the calls that one `Write` makes of it: `opened` stands for `open` and `fdopen`, the
    `fwrite` of the header succeeds with `headerTaken`, and that of the message sets `ENOSPC` with `diskFull`. -/
structure WriteOutcome where
  pid : Int
  opened : Bool := true
  headerTaken : Bool := true
  diskFull : Bool := false
  cycles : Int := 0
  flushCycles : Int := 0
  deriving DecidableEq, Repr

namespace LogFile

variable (settings : FileSettings) (globals : LogGlobals) (file : LogFile) (call : WriteCall) (outcome : WriteOutcome)

def ofBasename (baseFilename : Option Text) : LogFile where
  baseFilenameSelected := baseFilename.isSome
  baseFilename := if (baseFilename.getD []).isEmpty then "UNKNOWN".toList else baseFilename.getD []

def reachesMaxLogSize : Prop := ((file.fileLength >>> 20).toNat : Int) ≥ settings.maxLogSize

instance : Decidable (file.reachesMaxLogSize settings) := inferInstanceAs (Decidable (_ ≥ _))

def close : LogFile :=
  { file with isOpen := false, fileLength := 0, bytesSinceFlush := 0, rolloverAttempt := 31 }

/-- `PidHasChanged` is asked, and takes note of the process, only about a file that has room. -/
def rollOver : LogGlobals × LogFile :=
  if file.reachesMaxLogSize settings then (globals, file.close)
  else if globals.mainThreadPid = outcome.pid then (globals, file)
  else ({ globals with mainThreadPid := outcome.pid }, file.close)

def flushUnlocked (cycles : Int) : LogFile :=
  { file with
    bytesSinceFlush := if file.isOpen then 0 else file.bytesSinceFlush
    nextFlushTime := cycles + settings.logbufsecs * 1000000 }

def newFilename : Text :=
  file.baseFilename ++ file.filenameExtension ++ settings.timePidString call.ts globals.mainThreadPid

/-- `O_EXCL` refuses a name that exists. -/
def Creates : Prop :=
  file.baseFilenameSelected = true ∧ outcome.opened = true ∧ file.newFilename settings globals call ∉ globals.fileNames

instance : Decidable (file.Creates settings globals call outcome) := inferInstanceAs (Decidable (_ ∧ _ ∧ _))

/-- If a file is to be created, it can be. -/
def CanOutput : Prop :=
  file.isOpen = false → file.rolloverAttempt + 1 = 32 → file.Creates settings globals call outcome

instance : Decidable (file.CanOutput settings globals call outcome) := inferInstanceAs (Decidable (_ → _ → _))

/-- The new file, which its header stands in. -/
def created : LogFile :=
  { file with
    isOpen := true
    rolloverAttempt := 0
    fileLength := file.fileLength + (settings.fileHeader call.ts).length.toUInt32
    bytesSinceFlush := file.bytesSinceFlush + (settings.fileHeader call.ts).length.toUInt32
    files := file.files ++ [⟨file.newFilename settings globals call,
      if outcome.headerTaken then settings.fileHeader call.ts else [], []⟩] }

/-- The stream takes the message. -/
def take : List LogContents → List LogContents
  | [] => []
  | [contents] => [{ contents with calls := contents.calls ++ [call] }]
  | contents :: rest => contents :: take rest

/-- The message is counted as well where `fwrite` has failed and the flag says to go on. -/
def taken : LogFile :=
  { file with
    fileLength := file.fileLength + call.message.length.toUInt32
    bytesSinceFlush := file.bytesSinceFlush + call.message.length.toUInt32
    files := if outcome.diskFull then file.files else take call file.files }

/-- `Write` from the check of `stop_writing` on. -/
def append : LogGlobals × LogFile :=
  if globals.stopWriting then
    ({ globals with stopWriting := decide (outcome.cycles < file.nextFlushTime) }, file)
  else if settings.stopLoggingIfFullDisk ∧ outcome.diskFull then ({ globals with stopWriting := true }, file)
  else if call.forceFlush ∨ (file.taken call outcome).bytesSinceFlush ≥ 1000000 ∨
      outcome.cycles ≥ file.nextFlushTime then
    (globals, (file.taken call outcome).flushUnlocked settings outcome.flushCycles)
  else (globals, file.taken call outcome)

/-- `Write` once a file without room is closed. -/
def output : LogGlobals × LogFile :=
  if file.isOpen then file.append settings globals call outcome
  else if file.rolloverAttempt + 1 ≠ 32 then
    (globals, { file with rolloverAttempt := file.rolloverAttempt + 1 })
  else if file.Creates settings globals call outcome then
    (file.created settings globals call outcome).append settings
      { globals with fileNames := file.newFilename settings globals call :: globals.fileNames } call outcome
  else (globals, { file with rolloverAttempt := 0 })

def write : LogGlobals × LogFile :=
  if file.baseFilenameSelected ∧ file.baseFilename = [] then (globals, file)
  else (file.rollOver settings globals outcome).2.output settings (file.rollOver settings globals outcome).1 call outcome

end LogFile

/-- The objects of `module_logger_map_`. -/
structure LogFiles where
  globals : LogGlobals
  moduleLoggerMap : Text → Option LogFile := fun _ => none

/-- `flush` is the `Flush` of the logger, with the clock that each object reads. -/
inductive FileEvent where
  | write (moduleName : Text) (call : WriteCall) (outcome : WriteOutcome)
  | flush (cycles : Text → Int)

namespace LogFiles

variable (settings : FileSettings) (logFiles : LogFiles)

/-- The object that the module's messages go to; the first one makes it. -/
def object (moduleName : Text) : LogFile :=
  (logFiles.moduleLoggerMap moduleName).getD (.ofBasename (some (settings.fileName moduleName)))

def write (moduleName : Text) (call : WriteCall) (outcome : WriteOutcome) : LogFiles :=
  let (globals, file) := (logFiles.object settings moduleName).write settings logFiles.globals call outcome
  ⟨globals, Function.update logFiles.moduleLoggerMap moduleName (some file)⟩

def flush (cycles : Text → Int) : LogFiles :=
  { logFiles with
    moduleLoggerMap := fun moduleName =>
      (logFiles.moduleLoggerMap moduleName).map fun file => file.flushUnlocked settings (cycles moduleName) }

def handle : FileEvent → LogFiles
  | .write moduleName call outcome => logFiles.write settings moduleName call outcome
  | .flush cycles => logFiles.flush settings cycles

end LogFiles

end CyberRT.Logger

import CyberRT.Logger.Forwarding
import CyberRT.Logger.LogContents

namespace CyberRT.Logger

open Execution

/-- The logger of a process with the log files that it writes. -/
structure LoggingProcess (Thread : Type) where
  logger : AsyncLogger Thread := {}
  logFiles : LogFiles

/-- An access of a thread, with what the system answers if it is one to the files. -/
structure ProcessEvent (Thread : Type) where
  access : LoggerEvent Thread
  outcome : WriteOutcome := { pid := 0 }
  cycles : Text → Int := fun _ => 0

namespace AsyncLogger

variable {Thread : Type}

/-- What one turn of the loop of `FlushBuffer` does with the files. -/
def turn (settings : LogSettings) (event : ProcessEvent Thread) (moduleName : Text) : List (Msg Thread) → FileEvent
  | [] => .flush event.cycles
  | msg :: _ => .write (settings.forward moduleName msg).moduleName (settings.forward moduleName msg).call event.outcome

def fileEvent (settings : LogSettings) (logger : AsyncLogger Thread) (event : ProcessEvent Thread) : Option FileEvent :=
  match event.access with
  | .logThread => match logger.logThread with
    | .flush moduleName => some (turn settings event moduleName logger.flushingBuf)
    | _ => none
  | .stopper => match logger.stopper with
    | .flush moduleName => some (turn settings event moduleName logger.activeBuf)
    | _ => none
  | _ => none

end AsyncLogger

namespace LoggingProcess

variable {Thread : Type} {settings : FileSettings}

/-- The messages that have gone to the file of a module. -/
def routed (logger : AsyncLogger Thread) (moduleName : Text) : List WriteCall :=
  (logger.forwarded.filter fun forwarded => decide (forwarded.moduleName = moduleName)).map Forwarded.call

theorem routed_quiet {logger next : AsyncLogger Thread} {event : ProcessEvent Thread}
    (quiet : logger.fileEvent settings.toLogSettings event = none) (same : next.forwarded = logger.forwarded)
    (moduleName : Text) : routed next moduleName = routed logger moduleName ++
      LogFiles.writes moduleName (logger.fileEvent settings.toLogSettings event).toList := by
  unfold routed
  rw [quiet, same]
  exact (List.append_nil _).symm

/-- One turn of the loop of `FlushBuffer`. -/
theorem routed_turn {logger next : AsyncLogger Thread} {event : ProcessEvent Thread} {name : Text}
    {buffer : List (Msg Thread)}
    (turns : logger.fileEvent settings.toLogSettings event = some (AsyncLogger.turn settings.toLogSettings event name buffer))
    (empty : buffer = [] → next.forwarded = logger.forwarded)
    (taken : ∀ msg rest, buffer = msg :: rest →
      next.forwarded = logger.forwarded ++ [settings.forward name msg]) (moduleName : Text) :
    routed next moduleName = routed logger moduleName ++
      LogFiles.writes moduleName (logger.fileEvent settings.toLogSettings event).toList := by
  unfold routed
  rw [turns]
  cases buffer with
  | nil =>
    rw [empty rfl]
    exact (List.append_nil _).symm
  | cons msg rest =>
    rw [taken msg rest rfl, List.filter_append, List.map_append]
    by_cases same : (settings.forward name msg).moduleName = moduleName <;>
      simp [same, AsyncLogger.turn, LogFiles.writes]

variable [DecidableEq Thread] {process next : LoggingProcess Thread}

def step (settings : FileSettings) (process : LoggingProcess Thread) (event : ProcessEvent Thread) :
    Option (LoggingProcess Thread) :=
  (AsyncLogger.step settings.toLogSettings process.logger event.access).map fun logger =>
    ⟨logger, ((process.logger.fileEvent settings.toLogSettings event).map
      (process.logFiles.handle settings)).getD process.logFiles⟩

/-- `Write` and `Stop` are called in order, and the files can be created and written. -/
def Smooth (settings : FileSettings) (process : LoggingProcess Thread) (event : ProcessEvent Thread) : Prop :=
  process.logger.InOrder event.access ∧
    ∀ fileEvent ∈ process.logger.fileEvent settings.toLogSettings event, process.logFiles.Smooth settings fileEvent

instance [Fintype Thread] (process : LoggingProcess Thread) (event : ProcessEvent Thread) :
    Decidable (process.Smooth settings event) := inferInstanceAs (Decidable (_ ∧ _))

/-- The accesses of the writers leave the files alone. -/
theorem writerStep_forwarded {logger next : AsyncLogger Thread} {thread : Thread}
    (taken : logger.writerStep thread = some next) : next.forwarded = logger.forwarded := by
  unfold AsyncLogger.writerStep at taken
  cases here : logger.writer thread with
  | idle => simp [here] at taken
  | loadState forceFlush timestamp message =>
    simp only [here] at taken
    split at taken
    · exact Option.some.inj taken ▸ rfl
    · split at taken
      · exact Option.some.inj taken ▸ rfl
      · split at taken
        · obtain ⟨-, same⟩ := Option.ite_none_right_eq_some.mp taken
          exact Option.some.inj same ▸ rfl
        · exact Option.some.inj taken ▸ rfl
  | testAndSet timestamp message =>
    simp only [here] at taken
    split at taken <;> exact Option.some.inj taken ▸ rfl
  | emplaceBack timestamp message =>
    simp only [here] at taken
    obtain ⟨level, -, rfl⟩ := Option.map_eq_some_iff.mp taken
    rfl
  | clearFlag =>
    simp only [here] at taken
    exact Option.some.inj taken ▸ rfl

/-- A message goes to the file of its module as it leaves the buffer. -/
theorem routed_step {logger next : AsyncLogger Thread} {event : ProcessEvent Thread}
    (taken : AsyncLogger.step settings.toLogSettings logger event.access = some next) (moduleName : Text) :
    routed next moduleName = routed logger moduleName ++
      LogFiles.writes moduleName (logger.fileEvent settings.toLogSettings event).toList := by
  obtain ⟨access, outcome, cycles⟩ := event
  cases access with
  | start | stop | write _ _ _ _ =>
    obtain ⟨-, same⟩ := Option.ite_none_right_eq_some.mp taken
    exact routed_quiet rfl (Option.some.inj same ▸ rfl) moduleName
  | writer thread => exact routed_quiet rfl (writerStep_forwarded taken) moduleName
  | logThread =>
    simp only [AsyncLogger.step, AsyncLogger.logThreadStep] at taken
    cases here : logger.logThread with
    | unstarted | returned => simp [here] at taken
    | loadState | swap | clearFlag | measure | sleep =>
      simp only [here] at taken
      exact routed_quiet (by simp [AsyncLogger.fileEvent, here]) (Option.some.inj taken ▸ rfl) moduleName
    | testAndSet =>
      simp only [here] at taken
      refine routed_quiet (by simp [AsyncLogger.fileEvent, here]) ?_ moduleName
      split at taken <;> exact Option.some.inj taken ▸ rfl
    | flush name =>
      simp only [here] at taken
      have turns : logger.fileEvent settings.toLogSettings ⟨.logThread, outcome, cycles⟩ =
          some (AsyncLogger.turn settings.toLogSettings ⟨.logThread, outcome, cycles⟩ name logger.flushingBuf) := by
        simp only [AsyncLogger.fileEvent, here]
      refine routed_turn turns ?_ ?_ moduleName
      · intro buffer
        simp only [buffer] at taken
        exact Option.some.inj taken ▸ rfl
      · intro msg rest buffer
        simp only [buffer] at taken
        exact Option.some.inj taken ▸ rfl
  | stopper =>
    simp only [AsyncLogger.step, AsyncLogger.stopperStep] at taken
    cases here : logger.stopper with
    | idle | returned => simp [here] at taken
    | storeState =>
      simp only [here] at taken
      exact routed_quiet (by simp [AsyncLogger.fileEvent, here]) (Option.some.inj taken ▸ rfl) moduleName
    | join =>
      simp only [here] at taken
      obtain ⟨-, same⟩ := Option.ite_none_right_eq_some.mp taken
      exact routed_quiet (by simp [AsyncLogger.fileEvent, here]) (Option.some.inj same ▸ rfl) moduleName
    | flush name =>
      simp only [here] at taken
      have turns : logger.fileEvent settings.toLogSettings ⟨.stopper, outcome, cycles⟩ =
          some (AsyncLogger.turn settings.toLogSettings ⟨.stopper, outcome, cycles⟩ name logger.activeBuf) := by
        simp only [AsyncLogger.fileEvent, here]
      refine routed_turn turns ?_ ?_ moduleName
      · intro buffer
        simp only [buffer] at taken
        exact Option.some.inj taken ▸ rfl
      · intro msg rest buffer
        simp only [buffer] at taken
        exact Option.some.inj taken ▸ rfl

/-- Everything that has left the buffers stands in the files. -/
structure Filed (settings : FileSettings) (process : LoggingProcess Thread) (past : List (ProcessEvent Thread)) : Prop where
  kept : process.logger.Kept settings.toLogSettings (past.map ProcessEvent.access)
  ready : process.logFiles.Ready settings
  room : process.logFiles.globals.stopWriting = false
  current : ∀ moduleName, (process.logFiles.object settings moduleName).backlog = 0
  stored : ∀ moduleName, process.logFiles.stored settings moduleName = routed process.logger moduleName

theorem filed_start {globals : LogGlobals} (room : globals.stopWriting = false) :
    Filed settings (⟨{}, ⟨globals, fun _ => none⟩⟩ : LoggingProcess Thread) [] where
  kept := AsyncLogger.kept_start
  ready := LogFiles.ready_start settings globals
  room := room
  current := fun _ => rfl
  stored := fun _ => rfl

theorem Filed.step {past : List (ProcessEvent Thread)} {event : ProcessEvent Thread}
    (smooth : process.Smooth settings event) (taken : step settings process event = some next)
    (filed : process.Filed settings past) : next.Filed settings (past ++ [event]) := by
  obtain ⟨logger, access, rfl⟩ := Option.map_eq_some_iff.mp taken
  have kept : logger.Kept settings.toLogSettings ((past ++ [event]).map ProcessEvent.access) := by
    rw [List.map_append]
    exact filed.kept.step smooth.1 access
  have routed := routed_step access
  cases found : process.logger.fileEvent settings.toLogSettings event with
  | none =>
    refine ⟨kept, filed.ready, filed.room, filed.current, fun moduleName => ?_⟩
    rw [routed moduleName, found]
    exact (filed.stored moduleName).trans (List.append_nil _).symm
  | some fileEvent =>
    have one := fun moduleName => filed.ready.handle_room filed.room (smooth.2 fileEvent found) moduleName
    have current : ∀ moduleName, ((process.logFiles.handle settings fileEvent).object settings moduleName).backlog = 0 ∧
        (process.logFiles.handle settings fileEvent).stored settings moduleName =
          process.logFiles.stored settings moduleName ++ LogFiles.writes moduleName [fileEvent] := by
      intro moduleName
      rcases (one moduleName).2 with stored | ⟨waits, same⟩
      · exact stored
      · rw [filed.current moduleName] at waits
        have nothing := List.eq_nil_of_length_eq_zero (Nat.eq_zero_of_le_zero (Nat.le_trans (Nat.le_add_left _ _) waits))
        exact ⟨by omega, by rw [same, nothing, List.append_nil]⟩
    refine ⟨kept, filed.ready.handle fileEvent, (one []).1, fun moduleName => (current moduleName).1, fun moduleName => ?_⟩
    rw [routed moduleName, found, ← filed.stored moduleName]
    exact (current moduleName).2

/-- Nothing is left in the buffers once `Stop` has returned. -/
theorem forwarded_stopped {logger : AsyncLogger Thread} {past : List (LoggerEvent Thread)}
    (kept : logger.Kept settings.toLogSettings past) (stopped : logger.stopper = .returned) (thread : Thread) :
    (logger.forwarded.filter fun forwarded => decide (forwarded.msg.writer = thread)).map Forwarded.call =
      (AsyncLogger.written thread past).map Msg.call := by
  obtain ⟨stored, accounted⟩ := kept
  have flushing : logger.flushingBuf = [] := by
    rcases stored.joined (Or.inl stopped) with returned | unstarted
    · simpa [returned] using stored.drained
    · simpa [unstarted] using stored.drained
  have all : logger.forwarded.map Forwarded.msg = logger.appended := by
    simpa [stored.emptied stopped, flushing] using stored.conserved
  have own := accounted.inOrder thread
  rw [accounted.quiet (by simp [stopped]) thread, ← all, List.filter_map] at own
  rw [← own, WritePoint.pending, List.append_nil, List.map_map]
  exact List.map_congr_left fun forwarded member => stored.calls forwarded (List.mem_filter.mp member).1

/-- After `Stop` the files of each module hold the messages that went to it, file after file and in order, and these
    are, thread by thread, all that was written. -/
theorem stopped_filed {globals : LogGlobals} {events : List (ProcessEvent Thread)} (room : globals.stopWriting = false)
    (smooth : Meets (step settings) (Smooth settings) ⟨{}, ⟨globals, fun _ => none⟩⟩ events)
    (ran : run (step settings) ⟨{}, ⟨globals, fun _ => none⟩⟩ events = some process)
    (stopped : process.logger.stopper = .returned) :
    (∀ moduleName, process.logFiles.stored settings moduleName = routed process.logger moduleName) ∧
      ∀ thread, (process.logger.forwarded.filter fun forwarded => decide (forwarded.msg.writer = thread)).map Forwarded.call =
        (AsyncLogger.written thread (events.map ProcessEvent.access)).map Msg.call := by
  have filed : process.Filed settings events := by
    simpa using Meets.invariant (Filed settings) [] (fun _ _ _ _ => Filed.step) (filed_start room) smooth ran
  exact ⟨filed.stored, forwarded_stopped filed.kept stopped⟩

/-- The run `twoWriters` in a process that can create its files. -/
def filedWriters : List (ProcessEvent Bool) :=
  AsyncLogger.twoWriters.map fun access => { access := access, outcome := { pid := 7 } }

theorem filedWriters_filed : ∃ process, run (step LogFiles.defaultSettings) ⟨{}, ⟨{ mainThreadPid := 7 }, fun _ => none⟩⟩ filedWriters =
      some process ∧
    (∀ moduleName, process.logFiles.stored LogFiles.defaultSettings moduleName = routed process.logger moduleName) ∧
    ∀ thread, (process.logger.forwarded.filter fun forwarded => decide (forwarded.msg.writer = thread)).map Forwarded.call =
      (AsyncLogger.written thread (filedWriters.map ProcessEvent.access)).map Msg.call := by
  have reached : (run (step LogFiles.defaultSettings) ⟨{}, ⟨{ mainThreadPid := 7 }, fun _ => none⟩⟩ filedWriters).any
      (fun process => decide (process.logger.stopper = .returned)) = true := by
    decide +kernel
  obtain ⟨process, ran, stopped⟩ := (Option.any_eq_true _ _).mp reached
  have smooth : Meets (step LogFiles.defaultSettings) (Smooth LogFiles.defaultSettings)
      (⟨{}, ⟨{ mainThreadPid := 7 }, fun _ => none⟩⟩ : LoggingProcess Bool) filedWriters := by decide +kernel
  exact ⟨process, ran, stopped_filed rfl smooth ran (of_decide_eq_true stopped)⟩

end LoggingProcess

end CyberRT.Logger

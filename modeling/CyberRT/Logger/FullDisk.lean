import CyberRT.Logger.LogContents

namespace CyberRT.Logger

open Execution

namespace LogFile

variable {settings : FileSettings} {globals : LogGlobals} {file : LogFile} {call : WriteCall} {outcome : WriteOutcome}

theorem append_stopped (full : globals.stopWriting = true) (early : outcome.cycles < file.nextFlushTime) :
    file.append settings globals call outcome = (globals, file) := by
  unfold append
  rw [if_pos full, decide_eq_true early, ← full]

/-- While writing is stopped, a message that comes before the next flush is due is lost, and the check is not made. -/
theorem Ready.write_stopped (ready : file.Ready) (settings : FileSettings) (call : WriteCall) (full : globals.stopWriting = true)
    (early : outcome.cycles < file.nextFlushTime) :
    (file.write settings globals call outcome).1.stopWriting = true ∧
      (file.write settings globals call outcome).2.nextFlushTime = file.nextFlushTime ∧
      (file.write settings globals call outcome).2.stored = file.stored := by
  have stopped := (rollOver_globals settings globals file outcome).1.trans full
  have due : (file.rollOver settings globals outcome).2.nextFlushTime = file.nextFlushTime := by
    rcases rollOver_file settings globals file outcome with same | ⟨-, same⟩
    · rw [same]
      rfl
    · rw [same]
  have stored := rollOver_stored settings globals file outcome
  rw [ready.write_eq, ← due]
  rw [← due] at early
  rcases output_cases settings (file.rollOver settings globals outcome).1 (file.rollOver settings globals outcome).2 call
    outcome with ⟨-, same⟩ | ⟨-, -, same⟩ | ⟨-, -, -, same⟩ | ⟨-, -, -, same⟩
  · rw [same.trans (append_stopped stopped early)]
    exact ⟨stopped, rfl, stored⟩
  · rw [same]
    exact ⟨stopped, rfl, stored⟩
  · rw [same.trans (append_stopped stopped early)]
    exact ⟨stopped, rfl, created_stored.trans stored⟩
  · rw [same]
    exact ⟨stopped, rfl, stored⟩

end LogFile

namespace LogFiles

variable {settings : FileSettings} {before after logFiles : LogFiles}

/-- Every message comes less than `logbufsecs` after the last flush of its file, the first one of which was at
    `flushed`. -/
def Prompt (settings : FileSettings) : (Text → Int) → List FileEvent → Prop
  | _, [] => True
  | flushed, .write moduleName _ outcome :: rest =>
    outcome.cycles < flushed moduleName + settings.logbufsecs * 1000000 ∧ Prompt settings flushed rest
  | _, .flush cycles :: rest => Prompt settings cycles rest

instance decidablePrompt (settings : FileSettings) :
    (flushed : Text → Int) → (events : List FileEvent) → Decidable (Prompt settings flushed events)
  | _, [] => inferInstanceAs (Decidable True)
  | flushed, .write moduleName _ outcome :: rest =>
    have := decidablePrompt settings flushed rest
    inferInstanceAs (Decidable (outcome.cycles < flushed moduleName + settings.logbufsecs * 1000000 ∧
      Prompt settings flushed rest))
  | _, .flush cycles :: rest => decidablePrompt settings cycles rest

/-- The module has a file object. -/
def Known (logFiles : LogFiles) : FileEvent → Prop
  | .write moduleName _ _ => (logFiles.moduleLoggerMap moduleName).isSome
  | .flush _ => True

instance (logFiles : LogFiles) : (event : FileEvent) → Decidable (logFiles.Known event)
  | .write moduleName _ _ => inferInstanceAs (Decidable ((logFiles.moduleLoggerMap moduleName).isSome = true))
  | .flush _ => inferInstanceAs (Decidable True)

/-- Writing is stopped, and every file is due for a flush `logbufsecs` after its last one. -/
structure Stopped (settings : FileSettings) (flushed : Text → Int) (logFiles : LogFiles) : Prop where
  ready : logFiles.Ready settings
  full : logFiles.globals.stopWriting = true
  due : ∀ moduleName file, logFiles.moduleLoggerMap moduleName = some file →
    file.nextFlushTime = flushed moduleName + settings.logbufsecs * 1000000

theorem Stopped.flush {flushed : Text → Int} (ready : logFiles.Ready settings)
    (full : logFiles.globals.stopWriting = true) : (logFiles.flush settings flushed).Stopped settings flushed where
  ready := ready.handle (.flush flushed)
  full := full
  due := by
    intro moduleName file found
    obtain ⟨_, -, rfl⟩ := Option.map_eq_some_iff.mp found
    rfl

theorem flush_known (cycles : Text → Int) (event : FileEvent) (known : logFiles.Known event) :
    (logFiles.flush settings cycles).Known event := by
  cases event with
  | write moduleName call outcome => exact Option.isSome_map.trans known
  | flush cycles => trivial

theorem flush_stored (logFiles : LogFiles) (cycles : Text → Int) (moduleName : Text) :
    (logFiles.flush settings cycles).stored settings moduleName = logFiles.stored settings moduleName := by
  rcases object_flush settings logFiles cycles moduleName with same | flushed
  · exact congrArg LogFile.stored same
  · exact (congrArg LogFile.stored flushed).trans rfl

theorem Stopped.write {flushed : Text → Int} {moduleName : Text} {outcome : WriteOutcome}
    (stopped : logFiles.Stopped settings flushed) (call : WriteCall) (known : (logFiles.moduleLoggerMap moduleName).isSome)
    (early : outcome.cycles < flushed moduleName + settings.logbufsecs * 1000000) :
    (logFiles.write settings moduleName call outcome).Stopped settings flushed ∧
      ∀ other, (logFiles.write settings moduleName call outcome).stored settings other = logFiles.stored settings other := by
  obtain ⟨file, found⟩ := Option.isSome_iff_exists.mp known
  have object : logFiles.object settings moduleName = file := by
    unfold LogFiles.object
    rw [found]
    rfl
  have due := stopped.due moduleName file found
  have ready : file.Ready := object ▸ stopped.ready moduleName
  obtain ⟨full, kept, lost⟩ := ready.write_stopped settings call stopped.full (due ▸ early)
  refine ⟨⟨stopped.ready.handle (.write moduleName call outcome), ?_, ?_⟩, ?_⟩
  · simpa [LogFiles.write, object] using full
  · intro other file' found'
    by_cases same : other = moduleName
    · subst same
      simp only [LogFiles.write, Function.update_self, Option.some.injEq, object] at found'
      rw [← found', kept]
      exact due
    · simp only [LogFiles.write, Function.update_of_ne same] at found'
      exact stopped.due other file' found'
  · intro other
    unfold stored
    rw [object_write]
    by_cases same : other = moduleName
    · subst same
      rw [Function.update_self, object]
      exact lost
    · rw [Function.update_of_ne same]

theorem write_known (moduleName : Text) (call : WriteCall) (outcome : WriteOutcome) (event : FileEvent)
    (known : logFiles.Known event) : (logFiles.write settings moduleName call outcome).Known event := by
  cases event with
  | write other call' outcome' =>
    by_cases same : other = moduleName
    · subst same
      simp [Known, LogFiles.write]
    · simpa [Known, LogFiles.write, same] using known
  | flush cycles => trivial

/-- A file that is flushed more often than every `logbufsecs` never finds out that the disk has room again. -/
theorem Stopped.run {flushed : Text → Int} {events : List FileEvent} (stopped : before.Stopped settings flushed)
    (known : ∀ event ∈ events, before.Known event) (prompt : Prompt settings flushed events)
    (ran : run (step settings) before events = some after) :
    after.globals.stopWriting = true ∧ ∀ moduleName, after.stored settings moduleName = before.stored settings moduleName := by
  induction events generalizing before flushed with
  | nil =>
    obtain rfl := Option.some.inj ran
    exact ⟨stopped.full, fun _ => rfl⟩
  | cons event events ih =>
    obtain ⟨next, taken, ran⟩ := run_cons_some ran
    obtain rfl := Option.some.inj taken
    have later := fun event' member => known event' (List.mem_cons_of_mem _ member)
    cases event with
    | write moduleName call outcome =>
      obtain ⟨kept, same⟩ := stopped.write call (known _ List.mem_cons_self) prompt.1
      obtain ⟨full, stored⟩ := ih kept (fun event' member => write_known _ _ _ event' (later event' member)) prompt.2 ran
      exact ⟨full, fun other => (stored other).trans (same other)⟩
    | flush cycles =>
      obtain ⟨full, stored⟩ := ih (Stopped.flush stopped.ready stopped.full)
        (fun event' member => flush_known cycles event' (later event' member)) prompt ran
      exact ⟨full, fun other => (stored other).trans (flush_stored before cycles other)⟩

/-- Once the disk was full, the files that are flushed more often than every `logbufsecs` take no message any more. -/
theorem full_disk_stays {existing : LogGlobals} {past events : List FileEvent} {flushed : Text → Int}
    (ran : run (step settings) ⟨existing, fun _ => none⟩ (past ++ [.flush flushed]) = some before)
    (full : before.globals.stopWriting = true) (known : ∀ event ∈ events, before.Known event)
    (prompt : Prompt settings flushed events) (goes : run (step settings) before events = some after) :
    after.globals.stopWriting = true ∧ ∀ moduleName, after.stored settings moduleName = before.stored settings moduleName := by
  rw [run_append] at ran
  obtain ⟨middle, first, last⟩ := Option.bind_eq_some_iff.mp ran
  obtain rfl : middle.flush settings flushed = before := Option.some.inj last
  exact (Stopped.flush (ready_run first) full).run known prompt goes

/-- The disk is full for the second message. -/
def filledDisk : List FileEvent :=
  [.write "a".toList ⟨false, 1, "x".toList⟩ { pid := 7 }, .flush fun _ => 10,
    .write "a".toList ⟨false, 1, "y".toList⟩ { pid := 7, diskFull := true, cycles := 20 }]

/-- A minute of messages and flushes, with room on the disk again. -/
def afterwards : List FileEvent :=
  (List.range 60).flatMap fun second : Nat =>
    [.write "a".toList ⟨true, second, "z".toList⟩ { pid := 7, cycles := second * 1000000 }, .flush fun _ => second * 1000000]

theorem afterwards_lost : ∃ before after, run (step defaultSettings) ⟨{ mainThreadPid := 7 }, fun _ => none⟩
      (filledDisk ++ [.flush fun _ => 30]) = some before ∧
    run (step defaultSettings) before afterwards = some after ∧ after.globals.stopWriting = true ∧
    ∀ moduleName, after.stored defaultSettings moduleName = before.stored defaultSettings moduleName := by
  have reached : (run (step defaultSettings) ⟨{ mainThreadPid := 7 }, fun _ => none⟩
      (filledDisk ++ [.flush fun _ => 30])).any (fun before =>
        decide (before.globals.stopWriting = true ∧ ∀ event ∈ afterwards, before.Known event)) = true := by
    decide +kernel
  obtain ⟨before, ran, met⟩ := (Option.any_eq_true _ _).mp reached
  obtain ⟨full, known⟩ := of_decide_eq_true met
  obtain ⟨after, goes⟩ := LogFiles.exists_run defaultSettings before afterwards
  have prompt : Prompt defaultSettings (fun _ => 30) afterwards := by decide +kernel
  exact ⟨before, after, ran, goes, full_disk_stays ran full known prompt goes⟩

end LogFiles

end CyberRT.Logger

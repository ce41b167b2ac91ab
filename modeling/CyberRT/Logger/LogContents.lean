import CyberRT.Execution.Run
import CyberRT.Logger.LogFile

namespace CyberRT.Logger

open Execution

namespace LogFile

variable {settings : FileSettings} {globals : LogGlobals} {file : LogFile} {call : WriteCall} {outcome : WriteOutcome}

/-- The messages that the object's files hold, file after file. -/
def stored (file : LogFile) : List WriteCall := file.files.flatMap LogContents.calls

theorem take_concat (call : WriteCall) (earlier : List LogContents) (last : LogContents) :
    take call (earlier ++ [last]) = earlier ++ [{ last with calls := last.calls ++ [call] }] := by
  induction earlier with
  | nil => rfl
  | cons contents rest ih =>
    cases rest with
    | nil => rfl
    | cons next rest =>
      simp only [List.cons_append] at ih ⊢
      rw [take, ih]
      simp

theorem flatMap_take {files : List LogContents} (created : files ≠ []) (call : WriteCall) :
    (take call files).flatMap LogContents.calls = files.flatMap LogContents.calls ++ [call] := by
  obtain ⟨earlier, last, rfl⟩ := files.eq_nil_or_concat.resolve_left created
  rw [List.concat_eq_append, take_concat]
  simp

/-- What holds of every log file of a logger between two calls. -/
structure Ready (file : LogFile) : Prop where
  selected : file.baseFilenameSelected = true
  named : file.baseFilename ≠ []
  attempt : file.rolloverAttempt < 32
  opened : file.isOpen = true → file.files ≠ []
  closed : file.isOpen = false → file.fileLength = 0

theorem Ready.ofBasename {baseFilename : Text} (named : baseFilename ≠ []) : (ofBasename (some baseFilename)).Ready where
  selected := rfl
  named := by simp [LogFile.ofBasename, named]
  attempt := (by decide : (31 : UInt32) < 32)
  opened := fun isOpen => absurd isOpen Bool.false_ne_true
  closed := fun _ => rfl

@[simp] theorem files_ofBasename (baseFilename : Option Text) : (ofBasename baseFilename).files = [] := rfl

theorem Ready.close (ready : file.Ready) : file.close.Ready :=
  ⟨ready.selected, ready.named, (by decide : (31 : UInt32) < 32), by simp [LogFile.close], fun _ => rfl⟩

theorem rollOver_file (settings : FileSettings) (globals : LogGlobals) (file : LogFile) (outcome : WriteOutcome) :
    (file.rollOver settings globals outcome).2 = file.close ∨
      ¬ file.reachesMaxLogSize settings ∧ (file.rollOver settings globals outcome).2 = file := by
  unfold rollOver
  split
  · exact Or.inl rfl
  · rename_i room
    split
    · exact Or.inr ⟨room, rfl⟩
    · exact Or.inl rfl

theorem rollOver_globals (settings : FileSettings) (globals : LogGlobals) (file : LogFile) (outcome : WriteOutcome) :
    (file.rollOver settings globals outcome).1.stopWriting = globals.stopWriting ∧
      (file.rollOver settings globals outcome).1.fileNames = globals.fileNames := by
  unfold rollOver
  split
  · exact ⟨rfl, rfl⟩
  · split <;> exact ⟨rfl, rfl⟩

theorem Ready.rollOver (ready : file.Ready) (settings : FileSettings) (globals : LogGlobals) (outcome : WriteOutcome) :
    (file.rollOver settings globals outcome).2.Ready := by
  rcases rollOver_file settings globals file outcome with closed | ⟨-, same⟩
  · rw [closed]
    exact ready.close
  · rw [same]
    exact ready

theorem rollOver_stored (settings : FileSettings) (globals : LogGlobals) (file : LogFile) (outcome : WriteOutcome) :
    (file.rollOver settings globals outcome).2.stored = file.stored := by
  rcases rollOver_file settings globals file outcome with closed | ⟨-, same⟩
  · rw [closed]
    rfl
  · rw [same]

theorem Ready.flushUnlocked (ready : file.Ready) (cycles : Int) : (file.flushUnlocked settings cycles).Ready :=
  ⟨ready.selected, ready.named, ready.attempt, ready.opened, ready.closed⟩

theorem Ready.created (ready : file.Ready) : (file.created settings globals call outcome).Ready where
  selected := ready.selected
  named := ready.named
  attempt := by simp [LogFile.created]
  opened := by simp [LogFile.created]
  closed := by simp [LogFile.created]

theorem created_stored : (file.created settings globals call outcome).stored = file.stored := by
  simp [stored, created]

theorem Ready.taken (ready : file.Ready) (isOpen : file.isOpen = true) : (file.taken call outcome).Ready where
  selected := ready.selected
  named := ready.named
  attempt := ready.attempt
  opened := by
    intro opened
    have created := ready.opened opened
    obtain ⟨earlier, last, same⟩ := file.files.eq_nil_or_concat.resolve_left created
    simp only [LogFile.taken]
    split
    · exact created
    · rw [same, List.concat_eq_append, take_concat]
      simp
  closed := by simp [LogFile.taken, isOpen]

/-- What `append` leaves of the file: as it was, or with the message counted and maybe flushed. -/
theorem append_file (settings : FileSettings) (globals : LogGlobals) (file : LogFile) (call : WriteCall)
    (outcome : WriteOutcome) :
    (file.append settings globals call outcome).2 = file ∨
      (file.append settings globals call outcome).2 = file.taken call outcome ∨
      (file.append settings globals call outcome).2 = (file.taken call outcome).flushUnlocked settings outcome.flushCycles := by
  unfold append
  split
  · exact Or.inl rfl
  · split
    · exact Or.inl rfl
    · split
      · exact Or.inr (Or.inr rfl)
      · exact Or.inr (Or.inl rfl)

theorem Ready.append (ready : file.Ready) (isOpen : file.isOpen = true) :
    (file.append settings globals call outcome).2.Ready := by
  rcases append_file settings globals file call outcome with same | same | same
  · rw [same]
    exact ready
  · rw [same]
    exact ready.taken isOpen
  · rw [same]
    exact (ready.taken isOpen).flushUnlocked outcome.flushCycles

/-- What `output` leaves of the file, where a creation has failed or is not tried, and where there is a stream. -/
theorem output_cases (settings : FileSettings) (globals : LogGlobals) (file : LogFile) (call : WriteCall)
    (outcome : WriteOutcome) :
    file.isOpen = true ∧ file.output settings globals call outcome = file.append settings globals call outcome ∨
    file.isOpen = false ∧ file.rolloverAttempt + 1 ≠ 32 ∧ file.output settings globals call outcome =
      (globals, { file with rolloverAttempt := file.rolloverAttempt + 1 }) ∨
    file.isOpen = false ∧ file.rolloverAttempt + 1 = 32 ∧ file.Creates settings globals call outcome ∧
      file.output settings globals call outcome = (file.created settings globals call outcome).append settings
        { globals with fileNames := file.newFilename settings globals call :: globals.fileNames } call outcome ∨
    file.isOpen = false ∧ file.rolloverAttempt + 1 = 32 ∧ ¬ file.Creates settings globals call outcome ∧
      file.output settings globals call outcome = (globals, { file with rolloverAttempt := 0 }) := by
  unfold output
  cases isOpen : file.isOpen
  · by_cases waits : file.rolloverAttempt + 1 = 32
    · by_cases creates : file.Creates settings globals call outcome <;> simp [waits, creates]
    · simp [waits]
  · simp

theorem attempt_succ {attempt : UInt32} (few : attempt < 32) (waits : attempt + 1 ≠ 32) :
    (attempt + 1).toNat = attempt.toNat + 1 ∧ attempt.toNat < 31 := by
  have few : attempt.toNat < 32 := UInt32.lt_iff_toNat_lt.mp few
  have next : (attempt + 1).toNat = attempt.toNat + 1 := by
    rw [UInt32.toNat_add, show (1 : UInt32).toNat = 1 from rfl, Nat.mod_eq_of_lt (by omega)]
  have waits : (attempt + 1).toNat ≠ 32 := fun same => waits (UInt32.toNat_inj.mp same)
  omega

theorem Ready.output (ready : file.Ready) : (file.output settings globals call outcome).2.Ready := by
  rcases output_cases settings globals file call outcome with
    ⟨isOpen, same⟩ | ⟨closed, waits, same⟩ | ⟨-, -, -, same⟩ | ⟨closed, -, -, same⟩
  · rw [same]
    exact ready.append isOpen
  · rw [same]
    have later : file.rolloverAttempt + 1 < 32 := by
      rw [UInt32.lt_iff_toNat_lt]
      obtain ⟨next, last⟩ := attempt_succ ready.attempt waits
      exact next ▸ Nat.succ_lt_succ last
    exact ⟨ready.selected, ready.named, later, ready.opened, ready.closed⟩
  · rw [same]
    exact ready.created.append rfl
  · rw [same]
    exact ⟨ready.selected, ready.named, (by decide : (0 : UInt32) < 32), ready.opened, ready.closed⟩

theorem Ready.write_eq (ready : file.Ready) : file.write settings globals call outcome =
    (file.rollOver settings globals outcome).2.output settings (file.rollOver settings globals outcome).1 call outcome := by
  unfold LogFile.write
  rw [if_neg]
  exact fun unnamed => ready.named unnamed.2

theorem Ready.write (ready : file.Ready) : (file.write settings globals call outcome).2.Ready := by
  rw [ready.write_eq]
  exact (ready.rollOver settings globals outcome).output

/-- The messages that are lost before a file that is not open is created. -/
def backlog (file : LogFile) : Nat := if file.isOpen then 0 else 31 - file.rolloverAttempt.toNat

theorem backlog_open (isOpen : file.isOpen = true) : file.backlog = 0 := if_pos isOpen

theorem Ready.backlog_le (_ : file.Ready) : file.backlog ≤ 31 := by
  unfold backlog
  split <;> omega

theorem rollOver_backlog (settings : FileSettings) (globals : LogGlobals) (file : LogFile) (outcome : WriteOutcome) :
    (file.rollOver settings globals outcome).2.backlog ≤ file.backlog := by
  rcases rollOver_file settings globals file outcome with closed | ⟨-, same⟩
  · rw [closed]
    exact Nat.zero_le _
  · exact Nat.le_of_eq (congrArg backlog same)

theorem append_room (settings : FileSettings) (globals : LogGlobals) (call : WriteCall) (room : globals.stopWriting = false) (free : outcome.diskFull = false) (files : file.files ≠ []) :
    (file.append settings globals call outcome).1 = globals ∧
      (file.append settings globals call outcome).2.isOpen = file.isOpen ∧
      (file.append settings globals call outcome).2.stored = file.stored ++ [call] := by
  have grown : (file.taken call outcome).stored = file.stored ++ [call] := by
    simp only [stored, taken, free, Bool.false_eq_true, if_false]
    exact flatMap_take files call
  unfold append
  simp only [room, free, Bool.false_eq_true, and_false, if_false]
  split
  · exact ⟨rfl, rfl, grown⟩
  · exact ⟨rfl, rfl, grown⟩

/-- With room on the disk a message is lost only while the file waits for the next try. -/
theorem Ready.output_room (ready : file.Ready) (room : globals.stopWriting = false) (free : outcome.diskFull = false)
    (able : file.CanOutput settings globals call outcome) :
    (file.output settings globals call outcome).1.stopWriting = false ∧
      ((file.output settings globals call outcome).2.backlog = 0 ∧
          (file.output settings globals call outcome).2.stored = file.stored ++ [call] ∨
        (file.output settings globals call outcome).2.backlog + 1 = file.backlog ∧
          (file.output settings globals call outcome).2.stored = file.stored) := by
  rcases output_cases settings globals file call outcome with
    ⟨isOpen, same⟩ | ⟨closed, waits, same⟩ | ⟨-, -, -, same⟩ | ⟨closed, last, refused, -⟩
  · obtain ⟨kept, stays, grown⟩ := append_room settings globals call room free (ready.opened isOpen)
    rw [same, kept]
    exact ⟨room, Or.inl ⟨backlog_open (stays.trans isOpen), grown⟩⟩
  · rw [same]
    refine ⟨room, Or.inr ⟨?_, rfl⟩⟩
    obtain ⟨later, last⟩ := attempt_succ ready.attempt waits
    simp only [backlog, closed, Bool.false_eq_true, if_false, later]
    omega
  · have files : (file.created settings globals call outcome).files ≠ [] := by simp [LogFile.created]
    obtain ⟨kept, stays, grown⟩ := append_room settings
      { globals with fileNames := file.newFilename settings globals call :: globals.fileNames } call room free files
    rw [same, kept]
    exact ⟨room, Or.inl ⟨backlog_open stays, by rw [grown, created_stored]⟩⟩
  · exact absurd (able closed last) refused

theorem Ready.write_room (ready : file.Ready) (room : globals.stopWriting = false) (free : outcome.diskFull = false)
    (able : (file.rollOver settings globals outcome).2.CanOutput settings
      (file.rollOver settings globals outcome).1 call outcome) :
    (file.write settings globals call outcome).1.stopWriting = false ∧
      ((file.write settings globals call outcome).2.backlog = 0 ∧
          (file.write settings globals call outcome).2.stored = file.stored ++ [call] ∨
        (file.write settings globals call outcome).2.backlog < file.backlog ∧
          (file.write settings globals call outcome).2.stored = file.stored) := by
  have fewer := rollOver_backlog settings globals file outcome
  rw [ready.write_eq]
  obtain ⟨kept, stored | lost⟩ :=
    (ready.rollOver settings globals outcome).output_room ((rollOver_globals settings globals file outcome).1.trans room) free able
  · rw [rollOver_stored] at stored
    exact ⟨kept, Or.inl stored⟩
  · rw [rollOver_stored] at lost
    exact ⟨kept, Or.inr ⟨by omega, lost.2⟩⟩

end LogFile

namespace LogFiles

variable {settings : FileSettings} {start before after logFiles next : LogFiles}

def step (settings : FileSettings) (logFiles : LogFiles) (event : FileEvent) : Option LogFiles :=
  some (logFiles.handle settings event)

/-- No call is refused. -/
theorem exists_run (settings : FileSettings) (start : LogFiles) (events : List FileEvent) :
    ∃ after, run (step settings) start events = some after := by
  induction events generalizing start with
  | nil => exact ⟨start, rfl⟩
  | cons event events ih => exact ih (start.handle settings event)

/-- The messages that the files of a module hold. -/
def stored (settings : FileSettings) (logFiles : LogFiles) (moduleName : Text) : List WriteCall :=
  (logFiles.object settings moduleName).stored

/-- The messages that were to go to the files of a module. -/
def writes (moduleName : Text) (events : List FileEvent) : List WriteCall :=
  events.flatMap fun
    | .write other call _ => if other = moduleName then [call] else []
    | .flush _ => []

theorem object_write (logFiles : LogFiles) (moduleName : Text) (call : WriteCall) (outcome : WriteOutcome) :
    (logFiles.write settings moduleName call outcome).object settings =
      Function.update (logFiles.object settings) moduleName
        ((logFiles.object settings moduleName).write settings logFiles.globals call outcome).2 := by
  funext other
  by_cases same : other = moduleName
  · subst same
    simp [write, object]
  · simp [write, object, same]

theorem object_flush (settings : FileSettings) (logFiles : LogFiles) (cycles : Text → Int) (moduleName : Text) :
    (logFiles.flush settings cycles).object settings moduleName = logFiles.object settings moduleName ∨
      (logFiles.flush settings cycles).object settings moduleName =
        (logFiles.object settings moduleName).flushUnlocked settings (cycles moduleName) := by
  simp only [flush, object]
  cases logFiles.moduleLoggerMap moduleName with
  | none => exact Or.inl rfl
  | some file => exact Or.inr rfl

theorem fileName_ne_nil (settings : LogSettings) (moduleName : Text) : settings.fileName moduleName ≠ [] := by
  simp only [LogSettings.fileName]
  split <;> simp

/-- What holds of all log files of a process between two calls. -/
def Ready (settings : FileSettings) (logFiles : LogFiles) : Prop := ∀ moduleName, (logFiles.object settings moduleName).Ready

theorem ready_start (settings : FileSettings) (globals : LogGlobals) : Ready settings ⟨globals, fun _ => none⟩ :=
  fun moduleName => LogFile.Ready.ofBasename (fileName_ne_nil settings.toLogSettings moduleName)

theorem Ready.handle (ready : logFiles.Ready settings) (event : FileEvent) : (logFiles.handle settings event).Ready settings := by
  intro moduleName
  cases event with
  | write other call outcome =>
    rw [LogFiles.handle, object_write]
    by_cases same : moduleName = other
    · subst same
      rw [Function.update_self]
      exact (ready moduleName).write
    · rw [Function.update_of_ne same]
      exact ready moduleName
  | flush cycles =>
    rcases object_flush settings logFiles cycles moduleName with same | flushed
    · exact (congrArg LogFile.Ready same).mpr (ready moduleName)
    · exact (congrArg LogFile.Ready flushed).mpr ((ready moduleName).flushUnlocked _)

/-- If the call creates a file, the system lets it, and the disk has room for the message. -/
def Smooth (settings : FileSettings) (logFiles : LogFiles) : FileEvent → Prop
  | .write moduleName call outcome => outcome.diskFull = false ∧
    ((logFiles.object settings moduleName).rollOver settings logFiles.globals outcome).2.CanOutput settings
      ((logFiles.object settings moduleName).rollOver settings logFiles.globals outcome).1 call outcome
  | .flush _ => True

instance (logFiles : LogFiles) : (event : FileEvent) → Decidable (logFiles.Smooth settings event)
  | .write _ _ _ => inferInstanceAs (Decidable (_ ∧ _))
  | .flush _ => inferInstanceAs (Decidable True)

/-- One smooth step: what a module writes is stored, or it shortens the backlog of the module. -/
theorem Ready.handle_room (ready : logFiles.Ready settings) (room : logFiles.globals.stopWriting = false)
    {event : FileEvent} (smooth : logFiles.Smooth settings event) (moduleName : Text) :
    (logFiles.handle settings event).globals.stopWriting = false ∧
      (((logFiles.handle settings event).object settings moduleName).backlog = 0 ∧
        (logFiles.handle settings event).stored settings moduleName =
          logFiles.stored settings moduleName ++ writes moduleName [event] ∨
      ((logFiles.handle settings event).object settings moduleName).backlog + (writes moduleName [event]).length ≤
          (logFiles.object settings moduleName).backlog ∧
        (logFiles.handle settings event).stored settings moduleName = logFiles.stored settings moduleName) := by
  cases event with
  | write other call outcome =>
    obtain ⟨free, able⟩ := smooth
    obtain ⟨kept, outcomes⟩ := (ready other).write_room room free able
    apply And.intro kept
    simp only [LogFiles.handle, stored, object_write]
    by_cases same : moduleName = other
    · subst same
      rw [Function.update_self]
      rcases outcomes with ⟨ready, grown⟩ | ⟨waits, lost⟩
      · exact Or.inl ⟨ready, by simpa [writes] using grown⟩
      · exact Or.inr ⟨by simpa [writes] using Nat.succ_le_of_lt waits, lost⟩
    · rw [Function.update_of_ne same]
      exact Or.inr ⟨by simp [writes, Ne.symm same], rfl⟩
  | flush cycles =>
    refine ⟨room, Or.inr ?_⟩
    simp only [LogFiles.handle, stored, writes, List.flatMap_cons, List.flatMap_nil, List.append_nil]
    rcases object_flush settings logFiles cycles moduleName with same | flushed
    · rw [same]
      exact ⟨Nat.le_refl _, rfl⟩
    · rw [flushed]
      exact ⟨Nat.le_refl _, rfl⟩

theorem writes_cons (moduleName : Text) (event : FileEvent) (events : List FileEvent) :
    writes moduleName (event :: events) = writes moduleName [event] ++ writes moduleName events := by
  simp [writes]

/-- Over smooth steps a module loses its backlog at most. -/
theorem Ready.run_room {events : List FileEvent} (ready : before.Ready settings)
    (room : before.globals.stopWriting = false) (smooth : Meets (step settings) (Smooth settings) before events)
    (ran : run (step settings) before events = some after) (moduleName : Text) :
    ∃ lost ≤ (before.object settings moduleName).backlog,
      after.stored settings moduleName = before.stored settings moduleName ++ (writes moduleName events).drop lost := by
  induction events generalizing before with
  | nil =>
    obtain rfl := Option.some.inj ran
    exact ⟨0, Nat.zero_le _, by simp [writes]⟩
  | cons event events ih =>
    obtain ⟨next, rfl, ran⟩ : ∃ next, before.handle settings event = next ∧ run (step settings) next events = some after := by
      simpa [step] using run_cons_some ran
    obtain ⟨kept, steps⟩ := ready.handle_room room smooth.1 moduleName
    obtain ⟨lost, few, rest⟩ := ih (ready.handle event) kept (smooth.2 _ rfl) ran
    rw [writes_cons]
    rcases steps with ⟨none, grown⟩ | ⟨waits, same⟩
    · obtain rfl : lost = 0 := by omega
      exact ⟨0, Nat.zero_le _, by simpa [grown] using rest⟩
    · refine ⟨(writes moduleName [event]).length + lost, by omega, ?_⟩
      rw [rest, same, List.drop_length_add_append]

theorem ready_run {existing : LogGlobals} {events : List FileEvent}
    (ran : run (step settings) ⟨existing, fun _ => none⟩ events = some logFiles) : logFiles.Ready settings := by
  apply run_invariant (fun logFiles _ => logFiles.Ready settings) _ (ready_start settings existing) ran
  intro logFiles past event next taken ready
  obtain rfl := Option.some.inj taken
  exact ready.handle event

/-- After any failures, each module loses at most its next 31 messages once files can be created and the disk has
    room; all others are stored in order. -/
theorem recovers {existing : LogGlobals} {past events : List FileEvent}
    (ran : run (step settings) ⟨existing, fun _ => none⟩ past = some before)
    (room : before.globals.stopWriting = false) (smooth : Meets (step settings) (Smooth settings) before events)
    (goes : run (step settings) before events = some after) (moduleName : Text) :
    ∃ lost ≤ 31, after.stored settings moduleName =
      before.stored settings moduleName ++ (writes moduleName events).drop lost := by
  obtain ⟨lost, few, stored⟩ := (ready_run ran).run_room room smooth goes moduleName
  exact ⟨lost, Nat.le_trans few (ready_run ran moduleName).backlog_le, stored⟩

def defaultSettings : FileSettings where
  logDir := []
  processGroup := "mainboard".toList
  flagsMaxLogSize := 1800
  logbufsecs := 30
  stopLoggingIfFullDisk := true
  nodename := "host".toList
  localtime := fun timestamp => ⟨126, 0, 1, 0, 0, timestamp.toNat⟩

/-- The first file cannot be created. -/
def missingDir : List FileEvent := [.write "a".toList ⟨false, 1, "x".toList⟩ { pid := 7, opened := false }]

def createdLater : List FileEvent :=
  List.replicate 30 (.write "a".toList ⟨false, 2, "y".toList⟩ { pid := 7 }) ++
    [.write "b".toList ⟨false, 3, "z".toList⟩ { pid := 7 }, .flush fun _ => 5] ++
    List.replicate 3 (.write "a".toList ⟨false, 4, "u".toList⟩ { pid := 7 })

theorem createdLater_recovers : ∃ before after, run (step defaultSettings) ⟨{ mainThreadPid := 7 }, fun _ => none⟩ missingDir =
      some before ∧ run (step defaultSettings) before createdLater = some after ∧
    ∃ lost ≤ 31, after.stored defaultSettings "a".toList =
      before.stored defaultSettings "a".toList ++ (writes "a".toList createdLater).drop lost := by
  have reached : (run (step defaultSettings) ⟨{ mainThreadPid := 7 }, fun _ => none⟩ missingDir).any (fun before =>
      decide (before.globals.stopWriting = false ∧ Meets (step defaultSettings) (Smooth defaultSettings) before createdLater) &&
        (run (step defaultSettings) before createdLater).isSome) = true := by
    decide +kernel
  obtain ⟨before, ran, met⟩ := (Option.any_eq_true _ _).mp reached
  obtain ⟨met, goes⟩ := (Bool.and_eq_true _ _).mp met
  obtain ⟨room, smooth⟩ := of_decide_eq_true met
  obtain ⟨after, goes⟩ := Option.isSome_iff_exists.mp goes
  exact ⟨before, after, ran, goes, recovers ran room smooth goes "a".toList⟩

end LogFiles

end CyberRT.Logger

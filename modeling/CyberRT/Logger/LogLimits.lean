import Mathlib.Algebra.Order.Group.Nat
import Mathlib.Algebra.Ring.Nat
import CyberRT.Logger.LogContents

namespace CyberRT.Logger

open Execution

/-- The length from which on a file is closed before the next message. -/
def FileSettings.limit (settings : FileSettings) : Nat := settings.maxLogSize.toNat * 2 ^ 20

/-- The bytes that the stream of the file has taken. -/
def LogContents.size (contents : LogContents) : Nat :=
  contents.header.length + (contents.calls.map fun call => call.message.length).sum

/-- The file as it was before its last message. -/
def LogContents.beforeLast (contents : LogContents) : LogContents :=
  { contents with calls := contents.calls.dropLast }

theorem LogContents.size_concat (contents : LogContents) (call : WriteCall) :
    { contents with calls := contents.calls ++ [call] }.size = contents.size + call.message.length := by
  simp [size, Nat.add_assoc]

theorem LogContents.beforeLast_concat (contents : LogContents) (call : WriteCall) :
    { contents with calls := contents.calls ++ [call] }.beforeLast = contents := by
  simp [beforeLast]

namespace LogFile

variable {settings : FileSettings} {globals : LogGlobals} {file : LogFile} {call : WriteCall} {outcome : WriteOutcome}

theorem not_reachesMaxLogSize : ¬ file.reachesMaxLogSize settings ↔ file.fileLength.toNat < settings.limit := by
  have positive : 0 < settings.maxLogSize := by
    unfold FileSettings.maxLogSize
    split <;> omega
  have blocks : (file.fileLength >>> 20).toNat = file.fileLength.toNat / 2 ^ 20 := by
    rw [UInt32.toNat_shiftRight, Nat.shiftRight_eq_div_pow]
    rfl
  unfold reachesMaxLogSize FileSettings.limit
  rw [blocks]
  omega

/-- No file had reached the limit before its last message, and the length counts all that the stream has taken. -/
structure Sized (settings : FileSettings) (file : LogFile) : Prop where
  below : ∀ contents ∈ file.files, contents.beforeLast.size < settings.limit
  counted : file.isOpen = true → ∃ earlier last, file.files = earlier ++ [last] ∧ last.size ≤ file.fileLength.toNat

theorem Sized.close (sized : file.Sized settings) : file.close.Sized settings :=
  ⟨sized.below, fun isOpen => absurd isOpen Bool.false_ne_true⟩

/-- A call that finds a stream finds one with room. -/
theorem Sized.rollOver (sized : file.Sized settings) (globals : LogGlobals) (outcome : WriteOutcome) :
    (file.rollOver settings globals outcome).2.Sized settings ∧
    ((file.rollOver settings globals outcome).2.isOpen = true →
      (file.rollOver settings globals outcome).2.fileLength.toNat < settings.limit) := by
  rcases rollOver_file settings globals file outcome with closed | ⟨room, same⟩
  · rw [closed]
    exact ⟨sized.close, fun isOpen => absurd isOpen Bool.false_ne_true⟩
  · rw [same]
    exact ⟨sized, fun _ => not_reachesMaxLogSize.mp room⟩

theorem Sized.flushUnlocked (sized : file.Sized settings) (cycles : Int) :
    (file.flushUnlocked settings cycles).Sized settings := ⟨sized.below, sized.counted⟩

theorem Sized.taken (sized : file.Sized settings) (isOpen : file.isOpen = true)
    (room : file.fileLength.toNat < settings.limit) (small : settings.limit + call.message.length ≤ 2 ^ 32) :
    (file.taken call outcome).Sized settings := by
  obtain ⟨earlier, last, files, counted⟩ := sized.counted isOpen
  have length : (file.taken call outcome).fileLength.toNat = file.fileLength.toNat + call.message.length := by
    have fits : call.message.length.toUInt32.toNat = call.message.length := by
      simp only [Nat.toUInt32, UInt32.toNat_ofNat']
      omega
    simp only [LogFile.taken, UInt32.toNat_add, fits]
    omega
  by_cases full : outcome.diskFull = true
  · have same : (file.taken call outcome).files = file.files := if_pos full
    exact ⟨same ▸ sized.below, fun _ => ⟨earlier, last, same.trans files, by omega⟩⟩
  · have grown : (file.taken call outcome).files = earlier ++ [{ last with calls := last.calls ++ [call] }] := by
      simp only [LogFile.taken, if_neg full, files, take_concat]
    apply Sized.mk
    · intro contents member
      rw [grown, List.mem_append, List.mem_singleton] at member
      rcases member with before | rfl
      · exact sized.below contents (files ▸ List.mem_append_left _ before)
      · rw [LogContents.beforeLast_concat]
        omega
    · intro _
      refine ⟨earlier, _, grown, ?_⟩
      rw [LogContents.size_concat]
      omega

theorem Sized.append (sized : file.Sized settings) (isOpen : file.isOpen = true)
    (room : file.fileLength.toNat < settings.limit) (small : settings.limit + call.message.length ≤ 2 ^ 32) :
    (file.append settings globals call outcome).2.Sized settings := by
  rcases append_file settings globals file call outcome with same | same | same
  · rw [same]
    exact sized
  · rw [same]
    exact sized.taken isOpen room small
  · rw [same]
    exact (sized.taken isOpen room small).flushUnlocked outcome.flushCycles

/-- A new file has nothing but its header. -/
theorem Sized.created (sized : file.Sized settings) (empty : file.fileLength = 0)
    (short : (settings.fileHeader call.ts).length < settings.limit) (limited : settings.limit ≤ 2 ^ 32) :
    (file.created settings globals call outcome).Sized settings ∧
      (file.created settings globals call outcome).fileLength.toNat < settings.limit := by
  have length : (file.created settings globals call outcome).fileLength.toNat = (settings.fileHeader call.ts).length := by
    simp only [LogFile.created, empty, UInt32.zero_add, Nat.toUInt32, UInt32.toNat_ofNat']
    omega
  have header : (if outcome.headerTaken then settings.fileHeader call.ts else []).length ≤
      (settings.fileHeader call.ts).length := by
    split
    · exact Nat.le_refl _
    · exact Nat.zero_le _
  refine ⟨⟨?_, fun _ => ⟨_, _, rfl, ?_⟩⟩, length ▸ short⟩
  · intro contents member
    rcases List.mem_append.mp member with before | last
    · exact sized.below contents before
    · obtain rfl := List.mem_singleton.mp last
      exact Nat.lt_of_le_of_lt header short
  · rw [length]
    exact header

theorem Sized.write (sized : file.Sized settings) (ready : file.Ready)
    (short : (settings.fileHeader call.ts).length < settings.limit)
    (small : settings.limit + call.message.length ≤ 2 ^ 32) :
    (file.write settings globals call outcome).2.Sized settings := by
  obtain ⟨sized, room⟩ := sized.rollOver globals outcome
  rw [ready.write_eq]
  have closed := (ready.rollOver settings globals outcome).closed
  rcases output_cases settings (file.rollOver settings globals outcome).1 (file.rollOver settings globals outcome).2 call
    outcome with ⟨isOpen, same⟩ | ⟨-, -, same⟩ | ⟨none, -, -, same⟩ | ⟨-, -, -, same⟩
  · rw [same]
    exact sized.append isOpen (room isOpen) small
  · rw [same]
    exact ⟨sized.below, sized.counted⟩
  · rw [same]
    obtain ⟨made, room⟩ := sized.created (closed none) short (by omega)
    exact made.append rfl room small
  · rw [same]
    exact ⟨sized.below, sized.counted⟩

/-- Every file that is closed has reached the limit. -/
structure Filled (settings : FileSettings) (file : LogFile) : Prop where
  closed : file.isOpen = false → ∀ contents ∈ file.files, settings.limit ≤ contents.size
  opened : file.isOpen = true → ∃ earlier last, file.files = earlier ++ [last] ∧
    (∀ contents ∈ earlier, settings.limit ≤ contents.size) ∧ file.fileLength.toNat ≤ last.size

theorem Filled.dropLast (filled : file.Filled settings) :
    ∀ contents ∈ file.files.dropLast, settings.limit ≤ contents.size := by
  intro contents member
  cases isOpen : file.isOpen with
  | false => exact filled.closed isOpen contents (List.dropLast_subset _ member)
  | true =>
    obtain ⟨earlier, last, files, full, -⟩ := filled.opened isOpen
    rw [files, List.dropLast_concat] at member
    exact full contents member

theorem Filled.rollOver (filled : file.Filled settings) (same : globals.mainThreadPid = outcome.pid) :
    (file.rollOver settings globals outcome).2.Filled settings ∧
      (file.rollOver settings globals outcome).1.mainThreadPid = globals.mainThreadPid := by
  unfold LogFile.rollOver
  split
  · rename_i reached
    refine ⟨⟨fun _ => ?_, fun isOpen => absurd isOpen Bool.false_ne_true⟩, rfl⟩
    cases isOpen : file.isOpen with
    | false => exact filled.closed isOpen
    | true =>
      obtain ⟨earlier, last, files, full, counted⟩ := filled.opened isOpen
      have limit := not_lt.mp (mt not_reachesMaxLogSize.mpr (not_not.mpr reached))
      intro contents member
      have member : contents ∈ earlier ++ [last] := files ▸ member
      rcases List.mem_append.mp member with before | here
      · exact full contents before
      · obtain rfl := List.mem_singleton.mp here
        exact limit.trans counted
  · exact ⟨filled, rfl⟩

theorem Filled.flushUnlocked (filled : file.Filled settings) (cycles : Int) :
    (file.flushUnlocked settings cycles).Filled settings := ⟨filled.closed, filled.opened⟩

theorem Filled.taken (filled : file.Filled settings) (isOpen : file.isOpen = true) (free : outcome.diskFull = false) :
    (file.taken call outcome).Filled settings := by
  obtain ⟨earlier, last, files, full, counted⟩ := filled.opened isOpen
  have grown : (file.taken call outcome).files = earlier ++ [{ last with calls := last.calls ++ [call] }] := by
    simp [LogFile.taken, free, files, take_concat]
  refine ⟨fun closed => absurd isOpen (by rw [show file.isOpen = false from closed]; simp), fun _ => ?_⟩
  refine ⟨earlier, _, grown, full, ?_⟩
  rw [LogContents.size_concat]
  have sum : (file.taken call outcome).fileLength.toNat ≤ file.fileLength.toNat + call.message.length := by
    simp only [LogFile.taken, UInt32.toNat_add, Nat.toUInt32, UInt32.toNat_ofNat']
    omega
  omega

theorem Filled.append (filled : file.Filled settings) (isOpen : file.isOpen = true) (free : outcome.diskFull = false) :
    (file.append settings globals call outcome).2.Filled settings := by
  rcases append_file settings globals file call outcome with same | same | same
  · rw [same]
    exact filled
  · rw [same]
    exact filled.taken isOpen free
  · rw [same]
    exact (filled.taken isOpen free).flushUnlocked outcome.flushCycles

theorem Filled.created (filled : file.Filled settings) (closed : file.isOpen = false) (empty : file.fileLength = 0)
    (header : outcome.headerTaken = true) : (file.created settings globals call outcome).Filled settings := by
  refine ⟨fun never => absurd never.symm Bool.false_ne_true, fun _ => ?_⟩
  refine ⟨file.files, _, rfl, filled.closed closed, ?_⟩
  simp only [LogFile.created, empty, header, if_true, LogContents.size, UInt32.zero_add, Nat.toUInt32,
    UInt32.toNat_ofNat', List.map_nil, List.sum_nil, Nat.add_zero]
  omega

theorem append_pid : (file.append settings globals call outcome).1.mainThreadPid = globals.mainThreadPid := by
  unfold append
  split
  · rfl
  · split
    · rfl
    · split <;> rfl

theorem Filled.write (filled : file.Filled settings) (call : WriteCall) (ready : file.Ready) (same : globals.mainThreadPid = outcome.pid)
    (free : outcome.diskFull = false) (header : outcome.headerTaken = true) :
    (file.write settings globals call outcome).2.Filled settings ∧
      (file.write settings globals call outcome).1.mainThreadPid = globals.mainThreadPid := by
  obtain ⟨filled, pid⟩ := filled.rollOver same
  have empty := (ready.rollOver settings globals outcome).closed
  rw [ready.write_eq]
  rcases output_cases settings (file.rollOver settings globals outcome).1 (file.rollOver settings globals outcome).2 call
    outcome with ⟨isOpen, same⟩ | ⟨closed, -, same⟩ | ⟨closed, -, -, same⟩ | ⟨closed, -, -, same⟩
  · rw [same, append_pid]
    exact ⟨filled.append isOpen free, pid⟩
  · rw [same]
    exact ⟨⟨filled.closed, filled.opened⟩, pid⟩
  · rw [same, append_pid]
    exact ⟨(filled.created closed (empty closed) header).append rfl free, pid⟩
  · rw [same]
    exact ⟨⟨filled.closed, filled.opened⟩, pid⟩

end LogFile

namespace LogFiles

variable {settings : FileSettings} {before after logFiles : LogFiles}

/-- The header and the message fit into a file of the greatest length, and its length into 32 bits. -/
def Fits (settings : FileSettings) : FileEvent → Prop
  | .write _ call _ => (settings.fileHeader call.ts).length < settings.limit ∧
      settings.limit + call.message.length ≤ 2 ^ 32
  | .flush _ => True

instance (settings : FileSettings) : (event : FileEvent) → Decidable (Fits settings event)
  | .write _ _ _ => inferInstanceAs (Decidable (_ ∧ _))
  | .flush _ => inferInstanceAs (Decidable True)

def smallFiles : FileSettings := { defaultSettings with flagsMaxLogSize := 1 }

/-- The first message takes the file of its module to the limit. -/
def fullFile : List FileEvent :=
  [.write "a".toList ⟨false, 1, List.replicate (2 ^ 20) 'x'⟩ { pid := 7 },
    .write "b".toList ⟨true, 1, "y".toList⟩ { pid := 7 }, .flush fun _ => 50,
    .write "a".toList ⟨false, 2, "z".toList⟩ { pid := 7, cycles := 60 }]

/-- The process stays the same, and the streams take what they are given. -/
def Steady (mainThreadPid : Int) : FileEvent → Prop
  | .write _ _ outcome => mainThreadPid = outcome.pid ∧ outcome.diskFull = false ∧ outcome.headerTaken = true
  | .flush _ => True

instance (mainThreadPid : Int) : (event : FileEvent) → Decidable (Steady mainThreadPid event)
  | .write _ _ _ => inferInstanceAs (Decidable (_ ∧ _ ∧ _))
  | .flush _ => inferInstanceAs (Decidable True)

theorem filled_handle (ready : logFiles.Ready settings)
    (filled : ∀ moduleName, (logFiles.object settings moduleName).Filled settings) {event : FileEvent}
    (steady : Steady logFiles.globals.mainThreadPid event) :
    (logFiles.handle settings event).globals.mainThreadPid = logFiles.globals.mainThreadPid ∧
      ∀ moduleName, ((logFiles.handle settings event).object settings moduleName).Filled settings := by
  cases event with
  | write other call outcome =>
    obtain ⟨same, free, header⟩ := steady
    obtain ⟨written, pid⟩ := (filled other).write call (ready other) same free header
    apply And.intro pid
    intro moduleName
    rw [LogFiles.handle, object_write]
    by_cases same : moduleName = other
    · subst same
      rw [Function.update_self]
      exact written
    · rw [Function.update_of_ne same]
      exact filled moduleName
  | flush cycles =>
    apply And.intro rfl
    intro moduleName
    rcases object_flush settings logFiles cycles moduleName with same | flushed
    · exact (congrArg (LogFile.Filled settings) same).mpr (filled moduleName)
    · exact (congrArg (LogFile.Filled settings) flushed).mpr ((filled moduleName).flushUnlocked _)

/-- A log file is left for another one only when it has reached the limit. -/
theorem files_filled {existing : LogGlobals} {events : List FileEvent}
    (steady : ∀ event ∈ events, Steady existing.mainThreadPid event)
    (ran : run (step settings) ⟨existing, fun _ => none⟩ events = some after) (moduleName : Text) :
    ∀ contents ∈ (after.object settings moduleName).files.dropLast, settings.limit ≤ contents.size := by
  have invariant : after.Ready settings ∧ after.globals.mainThreadPid = existing.mainThreadPid ∧
      ∀ moduleName, (after.object settings moduleName).Filled settings := by
    have met : Meets (step settings) (fun _ event => Steady existing.mainThreadPid event) ⟨existing, fun _ => none⟩ events :=
      meets_of_forall (fun event member _ => steady event member) _
    apply Meets.preserves (fun logFiles => logFiles.Ready settings ∧
      logFiles.globals.mainThreadPid = existing.mainThreadPid ∧
      ∀ moduleName, (logFiles.object settings moduleName).Filled settings) _ ⟨ready_start settings existing, rfl, _⟩ met ran
    · intro logFiles event next steady taken ⟨ready, pid, filled⟩
      obtain rfl := Option.some.inj taken
      obtain ⟨same, filled⟩ := filled_handle ready filled (pid ▸ steady)
      exact ⟨ready.handle event, same.trans pid, filled⟩
    · intro moduleName
      exact ⟨fun _ => by simp [object], fun isOpen => absurd isOpen Bool.false_ne_true⟩
  exact (invariant.2.2 moduleName).dropLast

theorem fullFile_filled : ∃ after, run (step smallFiles) ⟨{ mainThreadPid := 7 }, fun _ => none⟩ fullFile = some after ∧
    ∀ contents ∈ (after.object smallFiles "a".toList).files.dropLast, smallFiles.limit ≤ contents.size := by
  have steady : ∀ event ∈ fullFile, Steady 7 event := by
    simp only [fullFile, List.forall_mem_cons, Steady, true_and, List.not_mem_nil, false_implies, implies_true]
  obtain ⟨after, ran⟩ := exists_run smallFiles ⟨{ mainThreadPid := 7 }, fun _ => none⟩ fullFile
  exact ⟨after, ran, files_filled steady ran "a".toList⟩

end LogFiles

end CyberRT.Logger

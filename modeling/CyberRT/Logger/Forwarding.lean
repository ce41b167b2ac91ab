import Mathlib.Data.Fintype.Basic
import Mathlib.Data.List.Count
import CyberRT.Execution.Run
import CyberRT.Logger.AsyncLogger

namespace CyberRT.Logger

open Execution

variable {Thread : Type}

/-- What a call of `Write` has to append; an empty message is none. -/
def newMsgs (thread : Thread) (timestamp : Int) (message : Text) : List (Msg Thread) :=
  if message = [] then [] else [⟨thread, timestamp, message, (logLevel message).getD 0⟩]

/-- What the thread has yet to append. -/
def WritePoint.pending (thread : Thread) : WritePoint → List (Msg Thread)
  | .loadState _ timestamp message | .testAndSet timestamp message | .emplaceBack timestamp message =>
    newMsgs thread timestamp message
  | .idle | .clearFlag => []

/-- What `LogFileObject::Write` is to get for a message. -/
def Msg.call (msg : Msg Thread) : WriteCall :=
  ⟨decide (msg.level > 0), msg.ts, ((cutModuleName msg.message).map Prod.snd).getD msg.message⟩

theorem forward_call (settings : LogSettings) (moduleName : Text) (msg : Msg Thread) :
    (settings.forward moduleName msg).call = msg.call := by
  simp only [LogSettings.forward, findModuleName, Msg.call]
  cases cutModuleName msg.message <;> rfl

namespace AsyncLogger

variable {settings : LogSettings} {logger next : AsyncLogger Thread}

/-- Every message that was appended is with a file or in one of the two buffers. -/
structure Stored (settings : LogSettings) (logger : AsyncLogger Thread) : Prop where
  conserved : logger.forwarded.map Forwarded.msg ++ logger.flushingBuf ++ logger.activeBuf = logger.appended
  calls : ∀ forwarded ∈ logger.forwarded, forwarded.call = forwarded.msg.call
  files : ∀ name, logger.moduleLoggerMap name =
    if name ∈ logger.forwarded.map Forwarded.moduleName then some (settings.openLogFile name) else none
  drained : logger.flushingBuf = [] ∨ logger.logThread = .clearFlag ∨ ∃ name, logger.logThread = .flush name
  unstarted : logger.state = .initted → logger.logThread = .unstarted
  halted : logger.stopper = .idle ∨ logger.stopper = .storeState ∨ logger.state = .stopped
  joined : logger.stopper = .returned ∨ (∃ name, logger.stopper = .flush name) →
    logger.logThread = .returned ∨ logger.logThread = .unstarted
  emptied : logger.stopper = .returned → logger.activeBuf = []

theorem Stored.calls_record (stored : logger.Stored settings) (moduleName : Text) (msg : Msg Thread) :
    ∀ forwarded ∈ (logger.record settings (settings.forward moduleName msg)).forwarded,
      forwarded.call = forwarded.msg.call := by
  intro forwarded member
  rcases List.mem_append.mp member with earlier | last
  · exact stored.calls forwarded earlier
  · obtain rfl := List.mem_singleton.mp last
    exact forward_call settings moduleName msg

/-- A file is opened for the first message of its module. -/
theorem Stored.files_record (stored : logger.Stored settings) (forwarded : Forwarded Thread) (name : Text) :
    (logger.record settings forwarded).moduleLoggerMap name =
      if name ∈ (logger.record settings forwarded).forwarded.map Forwarded.moduleName then
        some (settings.openLogFile name) else none := by
  have files := stored.files
  unfold AsyncLogger.record
  dsimp only
  rw [List.map_append, List.map_singleton]
  by_cases known : forwarded.moduleName ∈ logger.forwarded.map Forwarded.moduleName
  · have absorbed : name ∈ logger.forwarded.map Forwarded.moduleName ++ [forwarded.moduleName] ↔
        name ∈ logger.forwarded.map Forwarded.moduleName := by
      rw [List.mem_append, List.mem_singleton]
      exact or_iff_left_of_imp fun same => same ▸ known
    rw [files forwarded.moduleName, if_pos known, if_congr absorbed rfl rfl]
    exact files name
  · rw [files forwarded.moduleName, if_neg known]
    by_cases same : name = forwarded.moduleName
    · subst same
      simp
    · simp only [Function.update_of_ne same, files name, List.mem_append, List.mem_singleton, same, or_false]

/-- Changes of the flag and of the places of the threads in `Write`. -/
theorem Stored.elsewhere (stored : logger.Stored settings) (flag : Bool) (writer : Thread → WritePoint) :
    { logger with flag := flag, writer := writer }.Stored settings :=
  ⟨stored.conserved, stored.calls, stored.files, stored.drained, stored.unstarted, stored.halted, stored.joined, stored.emptied⟩

theorem Stored.start (stored : logger.Stored settings) (taken : logger.start = some next) : next.Stored settings := by
  unfold AsyncLogger.start at taken
  split at taken
  · rename_i initted
    obtain rfl := Option.some.inj taken
    have unstarted := stored.unstarted initted
    have drained : logger.flushingBuf = [] := by simpa [unstarted] using stored.drained
    have called : logger.stopper = .idle ∨ logger.stopper = .storeState := by simpa [initted] using stored.halted
    exact {
      conserved := stored.conserved
      calls := stored.calls
      files := stored.files
      drained := Or.inl drained
      unstarted := by simp
      halted := called.imp id Or.inl
      joined := by rcases called with idle | called <;> simp [*]
      emptied := stored.emptied }
  · cases taken

theorem Stored.stop (stored : logger.Stored settings) (taken : logger.stop = some next) : next.Stored settings := by
  unfold AsyncLogger.stop at taken
  split at taken
  · obtain rfl := Option.some.inj taken
    exact {
      conserved := stored.conserved
      calls := stored.calls
      files := stored.files
      drained := stored.drained
      unstarted := stored.unstarted
      halted := Or.inr (Or.inl rfl)
      joined := by simp
      emptied := by simp }
  · cases taken

theorem Stored.logThreadStep (stored : logger.Stored settings) (taken : logger.logThreadStep settings = some next) :
    next.Stored settings := by
  have unjoined : logger.logThread ≠ .returned → logger.logThread ≠ .unstarted →
      ¬(logger.stopper = .returned ∨ ∃ name, logger.stopper = .flush name) := by
    intro notReturned started stopped
    rcases stored.joined stopped with returned | unstarted
    · exact notReturned returned
    · exact started unstarted
  have moved : ∀ (point : RunPoint) (flag : Bool),
      logger.flushingBuf = [] ∨ point = .clearFlag ∨ (∃ name, point = .flush name) →
      logger.logThread ≠ .returned → logger.logThread ≠ .unstarted →
      { logger with flag := flag, logThread := point }.Stored settings := by
    intro point flag drained notReturned started
    exact {
      conserved := stored.conserved
      calls := stored.calls
      files := stored.files
      drained := drained
      unstarted := fun initted => absurd (stored.unstarted initted) started
      halted := stored.halted
      joined := fun stopped => absurd stopped (unjoined notReturned started)
      emptied := stored.emptied }
  have drained := stored.drained
  have running : ∀ point, logger.logThread = point → point ≠ .returned → point ≠ .unstarted →
      logger.logThread ≠ .returned ∧ logger.logThread ≠ .unstarted := by
    intro point here notReturned started
    rw [here]
    exact ⟨notReturned, started⟩
  unfold AsyncLogger.logThreadStep at taken
  cases here : logger.logThread with
  | unstarted => simp [here] at taken
  | returned => simp [here] at taken
  | loadState =>
    simp only [here] at taken
    obtain rfl := Option.some.inj taken
    have empty : logger.flushingBuf = [] := by simpa [here] using drained
    obtain ⟨notReturned, started⟩ := running _ here (by simp) (by simp)
    exact moved _ logger.flag (Or.inl empty) notReturned started
  | testAndSet =>
    simp only [here] at taken
    split at taken
    · obtain rfl := Option.some.inj taken
      exact stored
    · obtain rfl := Option.some.inj taken
      have empty : logger.flushingBuf = [] := by simpa [here] using drained
      obtain ⟨notReturned, started⟩ := running _ here (by simp) (by simp)
      exact moved .swap true (Or.inl empty) notReturned started
  | swap =>
    simp only [here] at taken
    obtain rfl := Option.some.inj taken
    have empty : logger.flushingBuf = [] := by simpa [here] using drained
    have conserved := stored.conserved
    exact {
      conserved := by simpa [empty] using conserved
      calls := stored.calls
      files := stored.files
      drained := by simp
      unstarted := fun initted => absurd (stored.unstarted initted) (by simp [here])
      halted := stored.halted
      joined := fun stopped => absurd stopped (unjoined (by simp [here]) (by simp [here]))
      emptied := fun _ => empty }
  | clearFlag =>
    simp only [here] at taken
    obtain rfl := Option.some.inj taken
    obtain ⟨notReturned, started⟩ := running _ here (by simp) (by simp)
    exact moved (.flush []) false (Or.inr (Or.inr ⟨[], rfl⟩)) notReturned started
  | flush moduleName =>
    simp only [here] at taken
    split at taken
    · rename_i empty
      obtain rfl := Option.some.inj taken
      obtain ⟨notReturned, started⟩ := running _ here (by simp) (by simp)
      exact moved .measure logger.flag (Or.inl empty) notReturned started
    · rename_i msg rest front
      obtain rfl := Option.some.inj taken
      exact {
        conserved := by
          show (logger.forwarded ++ [settings.forward moduleName msg]).map Forwarded.msg ++ rest ++ logger.activeBuf =
            logger.appended
          rw [← stored.conserved, front]
          simp [LogSettings.forward]
        calls := stored.calls_record moduleName msg
        files := stored.files_record _
        drained := by simp
        unstarted := fun initted => absurd (stored.unstarted initted) (by simp [here])
        halted := stored.halted
        joined := fun stopped => absurd stopped (unjoined (by simp [here]) (by simp [here]))
        emptied := stored.emptied }
  | measure | sleep =>
    simp only [here] at taken
    obtain rfl := Option.some.inj taken
    have empty : logger.flushingBuf = [] := by simpa [here] using drained
    obtain ⟨notReturned, started⟩ := running _ here (by simp) (by simp)
    exact moved _ logger.flag (Or.inl empty) notReturned started

theorem Stored.stopperStep (stored : logger.Stored settings) (taken : logger.stopperStep settings = some next) :
    next.Stored settings := by
  unfold AsyncLogger.stopperStep at taken
  cases here : logger.stopper with
  | idle => simp [here] at taken
  | returned => simp [here] at taken
  | storeState =>
    simp only [here] at taken
    obtain rfl := Option.some.inj taken
    exact {
      conserved := stored.conserved
      calls := stored.calls
      files := stored.files
      drained := stored.drained
      unstarted := by simp
      halted := Or.inr (Or.inr rfl)
      joined := by simp
      emptied := by simp }
  | join =>
    simp only [here] at taken
    split at taken
    · rename_i returned
      obtain rfl := Option.some.inj taken
      exact {
        conserved := stored.conserved
        calls := stored.calls
        files := stored.files
        drained := stored.drained
        unstarted := stored.unstarted
        halted := Or.inr (Or.inr (by simpa [here] using stored.halted))
        joined := fun _ => returned
        emptied := by simp }
    · cases taken
  | flush moduleName =>
    have stopped : logger.state = .stopped := by simpa [here] using stored.halted
    have joined := stored.joined (Or.inr ⟨moduleName, here⟩)
    simp only [here] at taken
    split at taken
    · rename_i empty
      obtain rfl := Option.some.inj taken
      exact {
        conserved := stored.conserved
        calls := stored.calls
        files := stored.files
        drained := stored.drained
        unstarted := stored.unstarted
        halted := Or.inr (Or.inr stopped)
        joined := fun _ => joined
        emptied := fun _ => empty }
    · rename_i msg rest front
      obtain rfl := Option.some.inj taken
      have empty : logger.flushingBuf = [] := by
        rcases joined with joined | joined <;> simpa [joined] using stored.drained
      exact {
        conserved := by
          show (logger.forwarded ++ [settings.forward moduleName msg]).map Forwarded.msg ++ logger.flushingBuf ++ rest =
            logger.appended
          rw [← stored.conserved, front, empty]
          simp [LogSettings.forward]
        calls := stored.calls_record moduleName msg
        files := stored.files_record _
        drained := stored.drained
        unstarted := stored.unstarted
        halted := Or.inr (Or.inr stopped)
        joined := fun _ => joined
        emptied := by simp }

theorem logThreadStep_frame (taken : logger.logThreadStep settings = some next) :
    next.appended = logger.appended ∧ next.writer = logger.writer ∧ next.state = logger.state ∧
      next.stopper = logger.stopper := by
  unfold AsyncLogger.logThreadStep at taken
  cases here : logger.logThread with
  | unstarted => simp [here] at taken
  | returned => simp [here] at taken
  | loadState | swap | clearFlag | measure | sleep =>
    simp only [here] at taken
    obtain rfl := Option.some.inj taken
    exact ⟨rfl, rfl, rfl, rfl⟩
  | testAndSet | flush _ =>
    simp only [here] at taken
    split at taken
    all_goals
      obtain rfl := Option.some.inj taken
      exact ⟨rfl, rfl, rfl, rfl⟩

theorem stopperStep_frame (taken : logger.stopperStep settings = some next) :
    next.appended = logger.appended ∧ next.writer = logger.writer ∧ logger.stopper ≠ .idle := by
  unfold AsyncLogger.stopperStep at taken
  cases here : logger.stopper with
  | idle => simp [here] at taken
  | returned => simp [here] at taken
  | storeState =>
    simp only [here] at taken
    obtain rfl := Option.some.inj taken
    simp
  | join =>
    simp only [here] at taken
    split at taken
    · obtain rfl := Option.some.inj taken
      simp
    · cases taken
  | flush moduleName =>
    simp only [here] at taken
    split at taken
    all_goals
      obtain rfl := Option.some.inj taken
      simp [record]

variable [DecidableEq Thread]

theorem Stored.writerStep {thread : Thread} (stored : logger.Stored settings) (notReturned : logger.stopper ≠ .returned)
    (taken : logger.writerStep thread = some next) : next.Stored settings := by
  unfold AsyncLogger.writerStep at taken
  split at taken
  · cases taken
  · split at taken
    · obtain rfl := Option.some.inj taken
      exact stored.elsewhere _ _
    · split at taken
      · obtain rfl := Option.some.inj taken
        exact stored.elsewhere _ _
      · split at taken
        · exact (stored.elsewhere logger.flag (Function.update logger.writer thread .idle)).stop taken
        · obtain rfl := Option.some.inj taken
          exact stored.elsewhere _ _
  · split at taken
    · obtain rfl := Option.some.inj taken
      exact stored
    · obtain rfl := Option.some.inj taken
      exact stored.elsewhere _ _
  · obtain ⟨level, found, rfl⟩ := Option.map_eq_some_iff.mp taken
    exact {
      conserved := by
        show logger.forwarded.map Forwarded.msg ++ logger.flushingBuf ++ (logger.activeBuf ++ _) = logger.appended ++ _
        rw [← List.append_assoc, stored.conserved]
      calls := stored.calls
      files := stored.files
      drained := stored.drained
      unstarted := stored.unstarted
      halted := stored.halted
      joined := stored.joined
      emptied := fun returned => absurd returned notReturned }
  · obtain rfl := Option.some.inj taken
    exact stored.elsewhere _ _

theorem Stored.write {thread : Thread} {forceFlush : Bool} {timestamp : Int} {message : Text}
    (stored : logger.Stored settings) (taken : logger.write thread forceFlush timestamp message = some next) :
    next.Stored settings := by
  unfold AsyncLogger.write at taken
  split at taken
  · obtain rfl := Option.some.inj taken
    exact stored.elsewhere _ _
  · cases taken

/-- The calls of `Write` of the thread, in their order. -/
def written (thread : Thread) (events : List (LoggerEvent Thread)) : List (Msg Thread) :=
  events.flatMap fun
    | .write other _ timestamp message => if other = thread then newMsgs thread timestamp message else []
    | _ => []

theorem written_snoc (thread : Thread) (past : List (LoggerEvent Thread)) (event : LoggerEvent Thread) :
    written thread (past ++ [event]) = written thread past ++ written thread [event] := List.flatMap_append

/-- Every message of a call of `Write` was appended, or will be before the call returns. -/
structure Accounted (logger : AsyncLogger Thread) (past : List (LoggerEvent Thread)) : Prop where
  inOrder : ∀ thread, logger.appended.filter (fun msg => decide (msg.writer = thread)) ++
    (logger.writer thread).pending thread = written thread past
  running : ∀ thread, logger.writer thread ≠ .idle → logger.state = .running
  quiet : logger.stopper ≠ .idle → ∀ thread, logger.writer thread = .idle


theorem Accounted.frame {past : List (LoggerEvent Thread)} {event : LoggerEvent Thread}
    (accounted : logger.Accounted past) (nothing : ∀ thread, written thread [event] = [])
    (appended : next.appended = logger.appended) (writer : next.writer = logger.writer)
    (state : logger.state = .running → (∀ thread, logger.writer thread = .idle) ∨ next.state = .running)
    (stopper : next.stopper ≠ .idle → logger.stopper ≠ .idle ∨ ∀ thread, logger.writer thread = .idle) :
    next.Accounted (past ++ [event]) := by
  apply Accounted.mk
  · intro thread
    rw [written_snoc, nothing, List.append_nil, appended, writer]
    exact accounted.inOrder thread
  · intro thread within
    rw [writer] at within
    rcases state (accounted.running thread within) with idle | running
    · exact absurd (idle thread) within
    · exact running
  · intro called thread
    rw [writer]
    rcases stopper called with called | idle
    · exact accounted.quiet called thread
    · exact idle thread

/-- A step of one thread within `Write`. -/
theorem Accounted.writer {past : List (LoggerEvent Thread)} {event : LoggerEvent Thread} (thread : Thread)
    (point : WritePoint) (new : List (Msg Thread)) (accounted : logger.Accounted past)
    (elsewhere : ∀ other, other ≠ thread → written other [event] = []) (own : ∀ msg ∈ new, msg.writer = thread)
    (kept : new ++ point.pending thread = (logger.writer thread).pending thread ++ written thread [event])
    (appended : next.appended = logger.appended ++ new) (writer : next.writer = Function.update logger.writer thread point)
    (running : point ≠ .idle → logger.state = .running) (state : next.state = logger.state)
    (quiet : next.stopper ≠ .idle → point = .idle ∧ ∀ other, other ≠ thread → logger.writer other = .idle) :
    next.Accounted (past ++ [event]) := by
  apply Accounted.mk
  · intro other
    rw [written_snoc, appended, writer, ← accounted.inOrder other, List.filter_append]
    by_cases same : other = thread
    · subst same
      have mine : new.filter (fun msg => decide (msg.writer = other)) = new :=
        List.filter_eq_self.mpr fun msg member => decide_eq_true (own msg member)
      rw [Function.update_self, mine, List.append_assoc, kept, List.append_assoc]
    · have others : new.filter (fun msg => decide (msg.writer = other)) = [] := by
        apply List.filter_eq_nil_iff.mpr
        intro msg member
        have mine := own msg member
        simpa [mine] using fun same' => same same'.symm
      rw [Function.update_of_ne same, elsewhere other same, others, List.append_nil, List.append_nil]
  · intro other within
    rw [writer] at within
    rw [state]
    by_cases same : other = thread
    · subst same
      rw [Function.update_self] at within
      exact running within
    · rw [Function.update_of_ne same] at within
      exact accounted.running other within
  · intro called other
    obtain ⟨idle, others⟩ := quiet called
    rw [writer]
    by_cases same : other = thread
    · subst same
      rw [Function.update_self, idle]
    · rw [Function.update_of_ne same]
      exact others other same

theorem Accounted.start {past : List (LoggerEvent Thread)} (accounted : logger.Accounted past)
    (taken : logger.start = some next) : next.Accounted (past ++ [.start]) := by
  unfold AsyncLogger.start at taken
  split at taken
  · obtain rfl := Option.some.inj taken
    exact accounted.frame (fun _ => rfl) rfl rfl (fun _ => Or.inr rfl) Or.inl
  · cases taken

theorem Accounted.stop {past : List (LoggerEvent Thread)} (accounted : logger.Accounted past)
    (inOrder : logger.InOrder .stop) (taken : logger.stop = some next) : next.Accounted (past ++ [.stop]) := by
  unfold AsyncLogger.stop at taken
  split at taken
  · obtain rfl := Option.some.inj taken
    exact accounted.frame (fun _ => rfl) rfl rfl Or.inr (fun _ => Or.inr inOrder)
  · cases taken

theorem Accounted.write {past : List (LoggerEvent Thread)} {thread : Thread} {forceFlush : Bool} {timestamp : Int}
    {message : Text} (accounted : logger.Accounted past)
    (inOrder : logger.InOrder (.write thread forceFlush timestamp message))
    (taken : logger.write thread forceFlush timestamp message = some next) :
    next.Accounted (past ++ [.write thread forceFlush timestamp message]) := by
  obtain ⟨running, uncalled⟩ := inOrder
  unfold AsyncLogger.write at taken
  split at taken
  · rename_i idle
    obtain rfl := Option.some.inj taken
    apply Accounted.writer thread (.loadState forceFlush timestamp message) [] accounted
    · intro other differs
      simp [written, differs.symm]
    · simp
    · simp [written, idle, WritePoint.pending]
    · simp [toWriter]
    · rfl
    · exact fun _ => running
    · rfl
    · exact fun called => absurd uncalled called
  · cases taken

theorem Accounted.writerStep {past : List (LoggerEvent Thread)} {thread : Thread} (accounted : logger.Accounted past)
    (inOrder : logger.InOrder (.writer thread)) (taken : logger.writerStep thread = some next) :
    next.Accounted (past ++ [.writer thread]) := by
  have nothing : ∀ other, written other [LoggerEvent.writer thread] = [] := fun _ => rfl
  have running : logger.writer thread ≠ .idle → logger.state = .running := accounted.running thread
  have uncalled : logger.writer thread ≠ .idle → ¬ logger.stopper ≠ .idle :=
    fun within called => within (accounted.quiet called thread)
  have moved : ∀ (point : WritePoint) (flag : Bool), logger.writer thread ≠ .idle →
      point.pending thread = (logger.writer thread).pending thread →
      { logger.toWriter thread point with flag := flag }.Accounted
        (past ++ [LoggerEvent.writer thread]) := by
    intro point flag within pending
    apply Accounted.writer thread point [] accounted (fun other _ => nothing other)
    · simp
    · simpa [nothing] using pending
    · simp [toWriter]
    · rfl
    · exact fun _ => running within
    · rfl
    · exact fun called => absurd called (uncalled within)
  unfold AsyncLogger.writerStep at taken
  cases here : logger.writer thread with
  | idle => simp [here] at taken
  | loadState forceFlush timestamp message =>
    have within : logger.writer thread ≠ .idle := by simp [here]
    simp only [here, running within, ne_eq, not_true_eq_false, if_false] at taken
    split at taken
    · obtain rfl := Option.some.inj taken
      exact moved (.testAndSet timestamp message) logger.flag within (by rw [here]; rfl)
    · rename_i empty
      have none : message = [] := by simpa using empty
      split at taken
      · rename_i forced
        have calls : logger.CallsStop thread := ⟨running within, by simp [here, none, forced]⟩
        unfold AsyncLogger.stop at taken
        split at taken
        · obtain rfl := Option.some.inj taken
          apply Accounted.writer thread .idle [] accounted (fun other _ => nothing other)
          · simp
          · simp [nothing, here, none, WritePoint.pending, newMsgs]
          · simp [toWriter]
          · rfl
          · simp
          · rfl
          · exact fun _ => ⟨rfl, inOrder calls⟩
        · cases taken
      · obtain rfl := Option.some.inj taken
        exact moved .idle logger.flag within (by simp [here, none, WritePoint.pending, newMsgs])
  | testAndSet timestamp message =>
    have within : logger.writer thread ≠ .idle := by simp [here]
    simp only [here] at taken
    split at taken
    · obtain rfl := Option.some.inj taken
      exact accounted.frame nothing rfl rfl Or.inr Or.inl
    · obtain rfl := Option.some.inj taken
      exact moved (.emplaceBack timestamp message) true within (by rw [here]; rfl)
  | emplaceBack timestamp message =>
    have within : logger.writer thread ≠ .idle := by simp [here]
    simp only [here] at taken
    obtain ⟨level, found, rfl⟩ := Option.map_eq_some_iff.mp taken
    have nonempty : message ≠ [] := by
      intro empty
      rw [empty] at found
      cases found
    apply Accounted.writer thread .clearFlag [⟨thread, timestamp, message, level⟩] accounted (fun other _ => nothing other)
    · simp
    · simp [nothing, here, WritePoint.pending, newMsgs, nonempty, found]
    · rfl
    · rfl
    · exact fun _ => running within
    · rfl
    · exact fun called => absurd called (uncalled within)
  | clearFlag =>
    have within : logger.writer thread ≠ .idle := by simp [here]
    simp only [here] at taken
    obtain rfl := Option.some.inj taken
    exact moved .idle false within (by rw [here]; rfl)

structure Kept (settings : LogSettings) (logger : AsyncLogger Thread) (past : List (LoggerEvent Thread)) : Prop where
  stored : logger.Stored settings
  accounted : logger.Accounted past

theorem Kept.step {past : List (LoggerEvent Thread)} {event : LoggerEvent Thread} (inOrder : logger.InOrder event)
    (taken : step settings logger event = some next) (kept : logger.Kept settings past) :
    next.Kept settings (past ++ [event]) := by
  obtain ⟨stored, accounted⟩ := kept
  cases event with
  | start => exact ⟨stored.start taken, accounted.start taken⟩
  | stop => exact ⟨stored.stop taken, accounted.stop inOrder taken⟩
  | write thread forceFlush timestamp message => exact ⟨stored.write taken, accounted.write inOrder taken⟩
  | writer thread =>
    have within : logger.writer thread ≠ .idle := by
      intro idle
      simp [AsyncLogger.step, AsyncLogger.writerStep, idle] at taken
    have unreturned : logger.stopper ≠ .returned := by
      intro returned
      exact within (accounted.quiet (by simp [returned]) thread)
    exact ⟨stored.writerStep unreturned taken, accounted.writerStep inOrder taken⟩
  | logThread =>
    obtain ⟨appended, writer, state, stopper⟩ := logThreadStep_frame taken
    apply Kept.mk (stored.logThreadStep taken)
    apply accounted.frame (fun _ => rfl) appended writer
    · exact fun running => Or.inr (state.trans running)
    · exact fun called => Or.inl (stopper ▸ called)
  | stopper =>
    obtain ⟨appended, writer, called⟩ := stopperStep_frame taken
    apply Kept.mk (stored.stopperStep taken)
    apply accounted.frame (fun _ => rfl) appended writer
    · exact fun _ => Or.inl (accounted.quiet called)
    · exact fun _ => Or.inl called

theorem kept_start : ({} : AsyncLogger Thread).Kept settings [] where
  stored := { conserved := rfl, calls := by simp, files := by simp, drained := Or.inl rfl, unstarted := fun _ => rfl, halted := Or.inl rfl,
              joined := by simp, emptied := by simp }
  accounted := { inOrder := fun _ => rfl, running := by simp, quiet := by simp }

/-- After `Stop` every thread's messages have gone to the files, once each and in the order in which it wrote them, and
    nothing is left in the buffers. -/
theorem stopped_forwarded_all {events : List (LoggerEvent Thread)} {logger : AsyncLogger Thread}
    (inOrder : Meets (step settings) InOrder {} events) (ran : run (step settings) {} events = some logger)
    (stopped : logger.stopper = .returned) :
    logger.activeBuf = [] ∧ logger.flushingBuf = [] ∧
      (∀ name ∈ logger.forwarded.map Forwarded.moduleName,
        logger.moduleLoggerMap name = some (settings.openLogFile name)) ∧
      ∀ thread, (logger.forwarded.filter fun forwarded => decide (forwarded.msg.writer = thread)).map Forwarded.call =
        (written thread events).map Msg.call := by
  have kept : logger.Kept settings events := by
    simpa using Meets.invariant (Kept settings) [] (fun _ _ _ _ => Kept.step) kept_start inOrder ran
  obtain ⟨stored, accounted⟩ := kept
  have active := stored.emptied stopped
  have flushing : logger.flushingBuf = [] := by
    rcases stored.joined (Or.inl stopped) with returned | unstarted
    · simpa [returned] using stored.drained
    · simpa [unstarted] using stored.drained
  have all : logger.forwarded.map Forwarded.msg = logger.appended := by simpa [active, flushing] using stored.conserved
  apply And.intro active (And.intro flushing (And.intro _ _))
  · intro name member
    rw [stored.files, if_pos member]
  · intro thread
    have idle : logger.writer thread = .idle := accounted.quiet (by simp [stopped]) thread
    have own := accounted.inOrder thread
    simp only [idle, WritePoint.pending, List.append_nil] at own
    rw [← own, ← all, List.filter_map, List.map_map]
    apply List.map_congr_left
    intro forwarded member
    exact stored.calls forwarded (List.mem_filter.mp member).1

instance [Fintype Thread] (logger : AsyncLogger Thread) : (event : LoggerEvent Thread) → Decidable (logger.InOrder event)
  | .write _ _ _ _ => inferInstanceAs (Decidable (_ ∧ _))
  | .stop => inferInstanceAs (Decidable (∀ thread, logger.writer thread = .idle))
  | .writer thread => inferInstanceAs (Decidable ((_ ∧ _) → ∀ other, other ≠ thread → logger.writer other = .idle))
  | .start | .logThread | .stopper => inferInstanceAs (Decidable True)

def plainSettings : LogSettings := ⟨[], "mainboard".toList⟩

/-- A thread writes a message, another one appends while the log thread flushes, and `Stop` drains the rest. -/
def twoWriters : List (LoggerEvent Bool) :=
  [.start, .write true false 7 "I1 [a]x".toList, .writer true, .writer true, .writer true, .logThread, .writer true,
    .logThread, .logThread, .logThread, .write false false 8 "W2 y".toList, .logThread, .writer false, .writer false,
    .logThread, .writer false, .writer false, .logThread, .logThread, .stop, .stopper, .logThread,
    .stopper, .stopper, .stopper]

theorem twoWriters_forwarded : ∃ logger, run (step plainSettings) {} twoWriters = some logger ∧
    logger.activeBuf = [] ∧ logger.flushingBuf = [] ∧
    (∀ name ∈ logger.forwarded.map Forwarded.moduleName,
      logger.moduleLoggerMap name = some (plainSettings.openLogFile name)) ∧
    ∀ thread, (logger.forwarded.filter fun forwarded => decide (forwarded.msg.writer = thread)).map Forwarded.call =
      (written thread twoWriters).map Msg.call := by
  have reached : (run (step plainSettings) {} twoWriters).any (fun logger => decide (logger.stopper = .returned)) = true := by
    decide +kernel
  obtain ⟨logger, ran, stopped⟩ := (Option.any_eq_true _ _).mp reached
  have inOrder : Meets (step plainSettings) InOrder ({} : AsyncLogger Bool) twoWriters := by decide +kernel
  exact ⟨logger, ran, stopped_forwarded_all inOrder ran (of_decide_eq_true stopped)⟩

end AsyncLogger
end CyberRT.Logger

import Mathlib.Data.List.Chain
import CyberRT.Logger.Forwarding

namespace CyberRT.Logger

open Execution

namespace LogSettings

variable (settings : LogSettings)

/-- The module whose file a message belongs to by itself. -/
def ownModule (message : Text) : Text := (findModuleName settings.processGroup message []).2

/-- A message without a module name that comes right after `before` is taken for the process group's. -/
def Unmixed (before message : Text) : Prop :=
  cutModuleName message = none → settings.ownModule before = settings.processGroup

instance (before message : Text) : Decidable (settings.Unmixed before message) :=
  inferInstanceAs (Decidable (_ → _))

/-- A call of `FlushBuffer` from some message on. -/
def flushBuffer {Thread : Type} (moduleName : Text) : List (Msg Thread) → List (Forwarded Thread)
  | [] => []
  | msg :: rest => settings.forward moduleName msg :: flushBuffer (settings.forward moduleName msg).moduleName rest

variable {settings} {Thread : Type}

theorem forward_named {msg : Msg Thread} (named : cutModuleName msg.message ≠ none) (moduleName : Text) :
    (settings.forward moduleName msg).moduleName = settings.ownModule msg.message := by
  obtain ⟨cut, found⟩ := Option.ne_none_iff_exists'.mp named
  simp [forward, ownModule, findModuleName, found]

theorem forward_nameless {msg : Msg Thread} (nameless : cutModuleName msg.message = none) (moduleName : Text) :
    (settings.forward moduleName msg).moduleName = if moduleName.isEmpty then settings.processGroup else moduleName := by
  simp [forward, findModuleName, nameless]

theorem ownModule_nameless {message : Text} (nameless : cutModuleName message = none) :
    settings.ownModule message = settings.processGroup := by
  simp [ownModule, findModuleName, nameless]

theorem forward_nil (msg : Msg Thread) : (settings.forward [] msg).moduleName = settings.ownModule msg.message := rfl

/-- After a message that went to its own file the next one does just when the two are not mixed up. -/
theorem forward_after_iff (before : Text) (msg : Msg Thread) :
    (settings.forward (settings.ownModule before) msg).moduleName = settings.ownModule msg.message ↔
      settings.Unmixed before msg.message := by
  unfold Unmixed
  by_cases nameless : cutModuleName msg.message = none
  · rw [forward_nameless nameless, ownModule_nameless nameless]
    cases empty : settings.ownModule before with
    | nil =>
      have group : settings.processGroup = [] := by
        unfold ownModule findModuleName at empty
        revert empty
        simp only
        split
        · exact id
        · rename_i nonempty
          intro empty
          simp [empty] at nonempty
      simp [nameless, group]
    | cons character rest => simp [nameless]
  · simp [forward_named nameless, nameless]

theorem flushBuffer_own_iff (before : Text) (msgs : List (Msg Thread)) :
    (∀ forwarded ∈ settings.flushBuffer (settings.ownModule before) msgs,
      forwarded.moduleName = settings.ownModule forwarded.msg.message) ↔
      (before :: msgs.map Msg.message).IsChain settings.Unmixed := by
  induction msgs generalizing before with
  | nil => simp [flushBuffer]
  | cons msg rest ih =>
    rw [flushBuffer, List.forall_mem_cons, List.map_cons, List.isChain_cons_cons]
    have first := @forward_after_iff settings Thread before msg
    rw [show (settings.forward (settings.ownModule before) msg).msg = msg from rfl, first]
    apply and_congr_right
    intro unmixed
    rw [first.mpr unmixed]
    exact ih msg.message

theorem flushBuffer_nil_own_iff (msgs : List (Msg Thread)) :
    (∀ forwarded ∈ settings.flushBuffer [] msgs, forwarded.moduleName = settings.ownModule forwarded.msg.message) ↔
      (msgs.map Msg.message).IsChain settings.Unmixed := by
  cases msgs with
  | nil => simp [flushBuffer]
  | cons msg rest =>
    rw [flushBuffer, List.forall_mem_cons, forward_nil, List.map_cons, flushBuffer_own_iff]
    exact and_iff_right rfl

end LogSettings

namespace AsyncLogger

variable {Thread : Type} {settings : LogSettings} {logger next : AsyncLogger Thread}

/-- The name that a loop of `FlushBuffer` goes on with. -/
def Continues (logger : AsyncLogger Thread) (moduleName : Text) : Prop :=
  moduleName = [] ∨ ∃ last, logger.forwarded.getLast? = some last ∧ moduleName = last.moduleName

structure Carried (logger : AsyncLogger Thread) : Prop where
  logThread : ∀ name, logger.logThread = .flush name → logger.Continues name
  stopper : ∀ name, logger.stopper = .flush name → logger.Continues name

def Routed (settings : LogSettings) (logger : AsyncLogger Thread) : Prop :=
  (logger.appended.map Msg.message).IsChain settings.Unmixed →
    ∀ forwarded ∈ logger.forwarded, forwarded.moduleName = settings.ownModule forwarded.msg.message

/-- The message that is forwarded is the first one that has not been. -/
theorem Routed.record {moduleName : Text} {msg : Msg Thread} {tail : List (Msg Thread)} (routed : logger.Routed settings)
    (continues : logger.Continues moduleName)
    (split : logger.forwarded.map Forwarded.msg ++ msg :: tail = logger.appended)
    (chain : (logger.appended.map Msg.message).IsChain settings.Unmixed) :
    ∀ forwarded ∈ logger.forwarded ++ [settings.forward moduleName msg],
      forwarded.moduleName = settings.ownModule forwarded.msg.message := by
  intro forwarded member
  rcases List.mem_append.mp member with earlier | new
  · exact routed chain forwarded earlier
  · obtain rfl := List.mem_singleton.mp new
    show (settings.forward moduleName msg).moduleName = settings.ownModule msg.message
    rcases continues with rfl | ⟨last, lastForwarded, rfl⟩
    · exact LogSettings.forward_nil msg
    · have member : last ∈ logger.forwarded := List.mem_of_getLast? lastForwarded
      rw [routed chain last member, LogSettings.forward_after_iff]
      rw [← split, List.map_append, List.map_cons, List.map_map] at chain
      apply (List.isChain_append.mp chain).2.2
      · rw [List.getLast?_map, lastForwarded]
        rfl
      · rfl

theorem logThreadStep_cases (taken : logger.logThreadStep settings = some next) :
    next.appended = logger.appended ∧ next.stopper = logger.stopper ∧
      ((∃ name msg rest, logger.logThread = .flush name ∧ logger.flushingBuf = msg :: rest ∧
          next.forwarded = logger.forwarded ++ [settings.forward name msg] ∧
          next.logThread = .flush (settings.forward name msg).moduleName) ∨
        next.forwarded = logger.forwarded ∧ ∀ name, next.logThread = .flush name → name = []) := by
  obtain ⟨appended, _, _, stopper⟩ := logThreadStep_frame taken
  apply And.intro appended (And.intro stopper _)
  unfold AsyncLogger.logThreadStep at taken
  cases here : logger.logThread with
  | unstarted => simp [here] at taken
  | returned => simp [here] at taken
  | loadState | measure =>
    simp only [here] at taken
    obtain rfl := Option.some.inj taken
    apply Or.inr (And.intro rfl _)
    intro name
    dsimp only
    split <;> simp
  | swap | sleep =>
    simp only [here] at taken
    obtain rfl := Option.some.inj taken
    exact Or.inr ⟨rfl, by simp⟩
  | clearFlag =>
    simp only [here] at taken
    obtain rfl := Option.some.inj taken
    exact Or.inr ⟨rfl, fun name same => by simpa using same.symm⟩
  | testAndSet =>
    simp only [here] at taken
    split at taken
    all_goals
      obtain rfl := Option.some.inj taken
      exact Or.inr ⟨rfl, by simp [here]⟩
  | flush name =>
    simp only [here] at taken
    split at taken
    · obtain rfl := Option.some.inj taken
      exact Or.inr ⟨rfl, by simp⟩
    · rename_i msg rest front
      obtain rfl := Option.some.inj taken
      exact Or.inl ⟨name, msg, rest, rfl, front, rfl, rfl⟩

theorem stopperStep_cases (taken : logger.stopperStep settings = some next) :
    next.appended = logger.appended ∧ next.logThread = logger.logThread ∧
      ((∃ name msg rest, logger.stopper = .flush name ∧ logger.activeBuf = msg :: rest ∧
          next.forwarded = logger.forwarded ++ [settings.forward name msg] ∧
          next.stopper = .flush (settings.forward name msg).moduleName) ∨
        next.forwarded = logger.forwarded ∧ ∀ name, next.stopper = .flush name → name = []) := by
  unfold AsyncLogger.stopperStep at taken
  cases here : logger.stopper with
  | idle => simp [here] at taken
  | returned => simp [here] at taken
  | storeState =>
    simp only [here] at taken
    obtain rfl := Option.some.inj taken
    exact ⟨rfl, rfl, Or.inr ⟨rfl, by simp⟩⟩
  | join =>
    simp only [here] at taken
    split at taken
    · obtain rfl := Option.some.inj taken
      exact ⟨rfl, rfl, Or.inr ⟨rfl, fun name same => by simpa using same.symm⟩⟩
    · cases taken
  | flush name =>
    simp only [here] at taken
    split at taken
    · obtain rfl := Option.some.inj taken
      exact ⟨rfl, rfl, Or.inr ⟨rfl, by simp⟩⟩
    · rename_i msg rest front
      obtain rfl := Option.some.inj taken
      exact ⟨rfl, rfl, Or.inl ⟨name, msg, rest, rfl, front, rfl, rfl⟩⟩

/-- A step that forwards nothing and begins no loop over messages. -/
theorem Routed.frame {new : List (Msg Thread)} (routed : logger.Routed settings)
    (forwarded : next.forwarded = logger.forwarded) (appended : next.appended = logger.appended ++ new) :
    next.Routed settings := by
  intro chain
  rw [forwarded]
  rw [appended, List.map_append] at chain
  exact routed chain.left_of_append

theorem Continues.frame {name : Text} (continues : logger.Continues name)
    (forwarded : next.forwarded = logger.forwarded) : next.Continues name := by
  unfold Continues at continues ⊢
  rw [forwarded]
  exact continues

theorem Continues.record {msg : Msg Thread} {name : Text}
    (forwarded : next.forwarded = logger.forwarded ++ [settings.forward name msg]) :
    next.Continues (settings.forward name msg).moduleName :=
  Or.inr ⟨settings.forward name msg, by rw [forwarded, List.getLast?_concat], rfl⟩

theorem Carried.frame (carried : logger.Carried) (forwarded : next.forwarded = logger.forwarded)
    (logThread : ∀ name, next.logThread = .flush name → name = [] ∨ logger.logThread = .flush name)
    (stopper : ∀ name, next.stopper = .flush name → name = [] ∨ logger.stopper = .flush name) : next.Carried where
  logThread := by
    intro name flushes
    rcases logThread name flushes with fresh | flushing
    · exact Or.inl fresh
    · exact (carried.logThread name flushing).frame forwarded
  stopper := by
    intro name flushes
    rcases stopper name flushes with fresh | flushing
    · exact Or.inl fresh
    · exact (carried.stopper name flushing).frame forwarded

theorem Routed.logThreadStep (stored : logger.Stored settings) (carried : logger.Carried)
    (routed : logger.Routed settings) (taken : logger.logThreadStep settings = some next) :
    next.Carried ∧ next.Routed settings := by
  obtain ⟨appended, stopper, ⟨name, msg, rest, flushes, front, forwarded, logThread⟩ | ⟨forwarded, fresh⟩⟩ :=
    logThreadStep_cases taken
  · have running : ∀ other, logger.stopper ≠ .flush other := by
      intro other draining
      rcases stored.joined (Or.inr ⟨other, draining⟩) with returned | unstarted
      · rw [returned] at flushes
        cases flushes
      · rw [unstarted] at flushes
        cases flushes
    have split : logger.forwarded.map Forwarded.msg ++ msg :: (rest ++ logger.activeBuf) = logger.appended := by
      rw [← stored.conserved, front, List.append_assoc, List.cons_append]
    apply And.intro
    · apply Carried.mk
      · intro other same
        obtain rfl : (settings.forward name msg).moduleName = other := by simpa [logThread] using same
        exact Continues.record forwarded
      · intro other draining
        exact absurd (stopper ▸ draining) (running other)
    · intro chain
      rw [forwarded]
      rw [appended] at chain
      exact routed.record (carried.logThread name flushes) split chain
  · have same : next.appended = logger.appended ++ [] := by rw [appended, List.append_nil]
    apply And.intro _ (routed.frame forwarded same)
    exact carried.frame forwarded (fun name flushes => Or.inl (fresh name flushes))
      (fun name draining => Or.inr (stopper ▸ draining))

theorem Routed.stopperStep (stored : logger.Stored settings) (carried : logger.Carried)
    (routed : logger.Routed settings) (taken : logger.stopperStep settings = some next) :
    next.Carried ∧ next.Routed settings := by
  obtain ⟨appended, logThread, ⟨name, msg, rest, draining, front, forwarded, stopper⟩ | ⟨forwarded, fresh⟩⟩ :=
    stopperStep_cases taken
  · have joined := stored.joined (Or.inr ⟨name, draining⟩)
    have empty : logger.flushingBuf = [] := by
      rcases joined with joined | joined <;> simpa [joined] using stored.drained
    have split : logger.forwarded.map Forwarded.msg ++ msg :: rest = logger.appended := by
      rw [← stored.conserved, front, empty, List.append_nil]
    apply And.intro
    · apply Carried.mk
      · intro other flushes
        rw [logThread] at flushes
        rcases joined with joined | joined <;> simp [joined] at flushes
      · intro other same
        obtain rfl : (settings.forward name msg).moduleName = other := by simpa [stopper] using same
        exact Continues.record forwarded
    · intro chain
      rw [forwarded]
      rw [appended] at chain
      exact routed.record (carried.stopper name draining) split chain
  · have same : next.appended = logger.appended ++ [] := by rw [appended, List.append_nil]
    apply And.intro _ (routed.frame forwarded same)
    exact carried.frame forwarded (fun name flushes => Or.inr (logThread ▸ flushes))
      (fun name flushes => Or.inl (fresh name flushes))

variable [DecidableEq Thread]

theorem writerStep_appended {thread : Thread} (taken : logger.writerStep thread = some next) :
    (∃ new, next.appended = logger.appended ++ new) ∧ next.forwarded = logger.forwarded ∧
      next.logThread = logger.logThread ∧ (next.stopper = logger.stopper ∨ next.stopper = .storeState) := by
  have still : ∃ new, logger.appended = logger.appended ++ new := ⟨[], (List.append_nil _).symm⟩
  unfold AsyncLogger.writerStep at taken
  cases here : logger.writer thread with
  | idle => simp [here] at taken
  | loadState forceFlush timestamp message =>
    simp only [here] at taken
    split at taken
    · obtain rfl := Option.some.inj taken
      exact ⟨still, rfl, rfl, Or.inl rfl⟩
    · split at taken
      · obtain rfl := Option.some.inj taken
        exact ⟨still, rfl, rfl, Or.inl rfl⟩
      · split at taken
        · unfold AsyncLogger.stop at taken
          split at taken
          · obtain rfl := Option.some.inj taken
            exact ⟨still, rfl, rfl, Or.inr rfl⟩
          · cases taken
        · obtain rfl := Option.some.inj taken
          exact ⟨still, rfl, rfl, Or.inl rfl⟩
  | testAndSet timestamp message =>
    simp only [here] at taken
    split at taken
    all_goals
      obtain rfl := Option.some.inj taken
      exact ⟨still, rfl, rfl, Or.inl rfl⟩
  | emplaceBack timestamp message =>
    simp only [here] at taken
    obtain ⟨level, _, rfl⟩ := Option.map_eq_some_iff.mp taken
    exact ⟨⟨_, rfl⟩, rfl, rfl, Or.inl rfl⟩
  | clearFlag =>
    simp only [here] at taken
    obtain rfl := Option.some.inj taken
    exact ⟨still, rfl, rfl, Or.inl rfl⟩

/-- What a run keeps of the names that the loops go on with. -/
structure Followed (settings : LogSettings) (logger : AsyncLogger Thread) (past : List (LoggerEvent Thread)) : Prop where
  kept : logger.Kept settings past
  carried : logger.Carried
  routed : logger.Routed settings

theorem Followed.step {past : List (LoggerEvent Thread)} {event : LoggerEvent Thread} (inOrder : logger.InOrder event)
    (taken : step settings logger event = some next) (followed : logger.Followed settings past) :
    next.Followed settings (past ++ [event]) := by
  obtain ⟨kept, carried, routed⟩ := followed
  have kept' := kept.step inOrder taken
  have still : logger.appended = logger.appended ++ [] := (List.append_nil _).symm
  cases event with
  | start =>
    unfold AsyncLogger.step AsyncLogger.start at taken
    simp only at taken
    split at taken
    · obtain rfl := Option.some.inj taken
      exact ⟨kept', carried.frame rfl (by simp) (fun _ => Or.inr), routed.frame rfl still⟩
    · cases taken
  | stop =>
    unfold AsyncLogger.step AsyncLogger.stop at taken
    simp only at taken
    split at taken
    · obtain rfl := Option.some.inj taken
      exact ⟨kept', carried.frame rfl (fun _ => Or.inr) (by simp), routed.frame rfl still⟩
    · cases taken
  | write thread forceFlush timestamp message =>
    unfold AsyncLogger.step AsyncLogger.write at taken
    simp only at taken
    split at taken
    · obtain rfl := Option.some.inj taken
      exact ⟨kept', carried.frame rfl (fun _ => Or.inr) (fun _ => Or.inr), routed.frame rfl still⟩
    · cases taken
  | writer thread =>
    obtain ⟨⟨new, appended⟩, forwarded, logThread, stopper⟩ := writerStep_appended taken
    apply Followed.mk kept' _ (routed.frame forwarded appended)
    apply carried.frame forwarded (fun name flushes => Or.inr (logThread ▸ flushes))
    intro name draining
    rcases stopper with same | called
    · exact Or.inr (same ▸ draining)
    · rw [called] at draining
      cases draining
  | logThread =>
    obtain ⟨carried', routed'⟩ := Routed.logThreadStep kept.stored carried routed taken
    exact ⟨kept', carried', routed'⟩
  | stopper =>
    obtain ⟨carried', routed'⟩ := Routed.stopperStep kept.stored carried routed taken
    exact ⟨kept', carried', routed'⟩

/-- What a run in which the calls are in order leads to. -/
structure Reaches (settings : LogSettings) (logger : AsyncLogger Thread) (events : List (LoggerEvent Thread))
    (next : AsyncLogger Thread) : Prop where
  inOrder : Meets (step settings) InOrder logger events
  ran : run (step settings) logger events = some next

theorem Reaches.trans {middle : AsyncLogger Thread} {events later : List (LoggerEvent Thread)}
    (first : logger.Reaches settings events middle) (second : middle.Reaches settings later next) :
    logger.Reaches settings (events ++ later) next :=
  ⟨first.inOrder.append first.ran second.inOrder, by rw [run_append, first.ran, Option.bind_some, second.ran]⟩

theorem Reaches.one {event : LoggerEvent Thread} (inOrder : logger.InOrder event)
    (taken : step settings logger event = some next) : logger.Reaches settings [event] next :=
  ⟨⟨inOrder, fun _ _ => trivial⟩, by rw [run_cons, taken]; rfl⟩

theorem Reaches.logThread (taken : logger.logThreadStep settings = some next) :
    logger.Reaches settings [.logThread] next := @Reaches.one _ _ _ _ _ .logThread trivial taken

theorem Reaches.stopper (taken : logger.stopperStep settings = some next) :
    logger.Reaches settings [.stopper] next := @Reaches.one _ _ _ _ _ .stopper trivial taken

/-- The file of a message depends on the message alone, and so does not change from one run to another. -/
structure RoutedAlone (Thread : Type) [DecidableEq Thread] (settings : LogSettings) (messages : List Text) : Prop where
  alone : ∀ events (logger : AsyncLogger Thread), Reaches settings {} events logger →
    logger.appended.map Msg.message = messages →
    ∀ forwarded ∈ logger.forwarded, forwarded.moduleName = settings.ownModule forwarded.msg.message
  same : ∀ events events' (logger logger' : AsyncLogger Thread), Reaches settings {} events logger →
    Reaches settings {} events' logger' → logger.appended.map Msg.message = messages →
    logger'.appended.map Msg.message = messages →
    ∀ (position : Nat) forwarded forwarded', logger.forwarded[position]? = some forwarded →
      logger'.forwarded[position]? = some forwarded' → forwarded.moduleName = forwarded'.moduleName

theorem Reaches.followed {events : List (LoggerEvent Thread)} (reaches : Reaches settings {} events logger) :
    logger.Followed settings events := by
  have start : ({} : AsyncLogger Thread).Followed settings [] :=
    ⟨kept_start, ⟨by simp, by simp⟩, fun _ => by simp⟩
  simpa using Meets.invariant (Followed settings) [] (fun _ _ _ _ => Followed.step) start reaches.inOrder reaches.ran

theorem Followed.message_at {past : List (LoggerEvent Thread)} (followed : logger.Followed settings past)
    {position : Nat} {forwarded : Forwarded Thread} (present : logger.forwarded[position]? = some forwarded) :
    (logger.appended.map Msg.message)[position]? = some forwarded.msg.message := by
  have conserved := followed.kept.stored.conserved
  rw [← conserved, List.append_assoc, List.map_append, List.getElem?_append_left]
  · simp [present]
  · obtain ⟨bound, _⟩ := List.getElem?_eq_some_iff.mp present
    simpa using bound

theorem routedAlone_of_unmixed {messages : List Text} (unmixed : messages.IsChain settings.Unmixed) :
    RoutedAlone Thread settings messages where
  alone := by
    intro events logger reaches appended
    exact reaches.followed.routed (appended ▸ unmixed)
  same := by
    intro events events' logger logger' reaches reaches' appended appended' position forwarded forwarded' here there
    have followed := reaches.followed
    have followed' := reaches'.followed
    have message := followed.message_at here
    have message' := followed'.message_at there
    rw [appended] at message
    rw [appended'] at message'
    have equal : forwarded.msg.message = forwarded'.msg.message := Option.some.inj (message.symm.trans message')
    rw [followed.routed (appended ▸ unmixed) forwarded (List.mem_of_getElem? here),
      followed'.routed (appended' ▸ unmixed) forwarded' (List.mem_of_getElem? there), equal]

/-- Between two calls of `Write`, with the log thread about to look at the state. -/
structure Ready (logger : AsyncLogger Thread) (msgs : List (Msg Thread)) : Prop where
  state : logger.state = .running
  flag : logger.flag = false
  stopper : logger.stopper = .idle
  logThread : logger.logThread = .loadState
  writer : ∀ thread, logger.writer thread = .idle
  activeBuf : logger.activeBuf = msgs
  appended : logger.appended = msgs
  forwarded : logger.forwarded = []

def writeCall (thread : Thread) (message : Text) : List (LoggerEvent Thread) :=
  [.write thread false 1 message, .writer thread, .writer thread, .writer thread, .writer thread]

theorem Ready.writeCall (settings : LogSettings) {msgs : List (Msg Thread)} {message : Text} {level : Nat} (ready : logger.Ready msgs)
    (thread : Thread) (found : logLevel message = some level) :
    ∃ next, logger.Reaches settings (writeCall thread message) next ∧ next.Ready (msgs ++ [⟨thread, 1, message, level⟩]) := by
  have nonempty : message ≠ [] := by
    intro empty
    rw [empty] at found
    cases found
  let msg : Msg Thread := ⟨thread, 1, message, level⟩
  let called := logger.toWriter thread (.loadState false 1 message)
  let loaded := called.toWriter thread (.testAndSet 1 message)
  let held := { loaded.toWriter thread (.emplaceBack 1 message) with flag := true }
  let placed := { held.toWriter thread .clearFlag with
    activeBuf := held.activeBuf ++ [msg], appended := held.appended ++ [msg] }
  let cleared := { placed.toWriter thread .idle with flag := false }
  have call : logger.Reaches settings [.write thread false 1 message] called := by
    apply Reaches.one
    · exact ⟨ready.state, ready.stopper⟩
    · simp [step, AsyncLogger.write, ready.writer thread, called]
  have load : called.Reaches settings [.writer thread] loaded := by
    apply Reaches.one
    · simp [InOrder, CallsStop, called, toWriter]
    · simp [step, AsyncLogger.writerStep, called, loaded, toWriter, ready.state, nonempty]
  have take : loaded.Reaches settings [.writer thread] held := by
    apply Reaches.one
    · simp [InOrder, CallsStop, loaded, toWriter]
    · simp [step, AsyncLogger.writerStep, called, loaded, held, toWriter, ready.flag]
  have place : held.Reaches settings [.writer thread] placed := by
    apply Reaches.one
    · simp [InOrder, CallsStop, held, toWriter]
    · simp [step, AsyncLogger.writerStep, held, placed, toWriter, found, msg]
  have clear : placed.Reaches settings [.writer thread] cleared := by
    apply Reaches.one
    · simp [InOrder, CallsStop, placed, toWriter]
    · simp [step, AsyncLogger.writerStep, placed, cleared, toWriter]
  have reaches := call.trans (load.trans (take.trans (place.trans clear)))
  refine ⟨cleared, reaches, ?_⟩
  exact {
    state := ready.state
    flag := rfl
    stopper := ready.stopper
    logThread := ready.logThread
    writer := by
      intro other
      by_cases same : other = thread
      · simp [cleared, toWriter, same]
      · simp [cleared, placed, held, loaded, called, toWriter, same, ready.writer]
    activeBuf := by simp [cleared, placed, held, loaded, called, toWriter, ready.activeBuf, msg]
    appended := by simp [cleared, placed, held, loaded, called, toWriter, ready.appended, msg]
    forwarded := ready.forwarded }

theorem Ready.writeCalls (settings : LogSettings) (thread : Thread) {messages : List Text}
    (levels : ∀ message ∈ messages, logLevel message ≠ none) {msgs : List (Msg Thread)} (ready : logger.Ready msgs) :
    ∃ next msgs', logger.Reaches settings (messages.flatMap (AsyncLogger.writeCall thread)) next ∧
      next.Ready (msgs ++ msgs') ∧ msgs'.map Msg.message = messages := by
  induction messages generalizing logger msgs with
  | nil => exact ⟨logger, [], ⟨trivial, rfl⟩, by rwa [List.append_nil], rfl⟩
  | cons message rest ih =>
    obtain ⟨level, found⟩ := Option.ne_none_iff_exists'.mp (levels message List.mem_cons_self)
    obtain ⟨middle, first, ready⟩ := ready.writeCall settings thread found
    obtain ⟨next, msgs', later, ready, same⟩ := ih (fun other member => levels other (List.mem_cons_of_mem _ member)) ready
    refine ⟨next, ⟨thread, 1, message, level⟩ :: msgs', first.trans later, ?_, by simp [same]⟩
    simpa using ready

/-- `Stop` forwards what is left as one buffer. -/
theorem reaches_drained (settings : LogSettings) {moduleName : Text} {msgs : List (Msg Thread)} (draining : logger.stopper = .flush moduleName)
    (active : logger.activeBuf = msgs) :
    ∃ next, logger.Reaches settings (List.replicate msgs.length .stopper) next ∧ next.appended = logger.appended ∧
      next.forwarded = logger.forwarded ++ settings.flushBuffer moduleName msgs := by
  induction msgs generalizing logger moduleName with
  | nil => exact ⟨logger, ⟨trivial, rfl⟩, rfl, by rw [LogSettings.flushBuffer, List.append_nil]⟩
  | cons msg rest ih =>
    let popped : AsyncLogger Thread := { logger.record settings (settings.forward moduleName msg) with
      activeBuf := rest, stopper := .flush (settings.forward moduleName msg).moduleName }
    have first : logger.Reaches settings [.stopper] popped := by
      apply Reaches.stopper
      simp [AsyncLogger.stopperStep, draining, active, popped]
    have drains : popped.stopper = .flush (settings.forward moduleName msg).moduleName := rfl
    obtain ⟨next, later, appended, forwarded⟩ := ih drains rfl
    refine ⟨next, first.trans later, appended, ?_⟩
    rw [forwarded, LogSettings.flushBuffer]
    simp [popped, record]

/-- The messages are written one after the other, and `Stop` is called before the log thread has taken one. -/
theorem exists_oneBatch (settings : LogSettings) (thread : Thread) {messages : List Text} (levels : ∀ message ∈ messages, logLevel message ≠ none) :
    ∃ events next, ∃ msgs : List (Msg Thread), Reaches settings {} events next ∧ msgs.map Msg.message = messages ∧
      next.appended = msgs ∧ next.forwarded = settings.flushBuffer [] msgs := by
  let started : AsyncLogger Thread := { state := .running, logThread := .loadState }
  have start : Reaches settings {} [.start] started := @Reaches.one _ _ _ _ _ .start trivial rfl
  have ready : started.Ready [] := ⟨rfl, rfl, rfl, rfl, fun _ => rfl, rfl, rfl, rfl⟩
  obtain ⟨middle, msgs, writes, ready, same⟩ := ready.writeCalls settings thread levels
  rw [List.nil_append] at ready
  let called := { middle with stopper := .storeState }
  let stopped := { called with state := .stopped, stopper := .join }
  let returned := { stopped with logThread := .returned }
  let draining := { returned with stopper := .flush [] }
  have call : middle.Reaches settings [.stop] called := by
    apply Reaches.one
    · exact ready.writer
    · simp [step, AsyncLogger.stop, ready.stopper, called]
  have store : called.Reaches settings [.stopper] stopped := Reaches.stopper rfl
  have leave : stopped.Reaches settings [.logThread] returned := by
    apply Reaches.logThread
    simp [AsyncLogger.logThreadStep, stopped, called, returned, ready.logThread]
  have join : returned.Reaches settings [.stopper] draining := Reaches.stopper rfl
  have drains : draining.stopper = .flush [] := rfl
  obtain ⟨next, drain, appended, forwarded⟩ := reaches_drained settings drains ready.activeBuf
  refine ⟨_, next, msgs, start.trans (writes.trans (call.trans (store.trans (leave.trans (join.trans drain))))), same, ?_, ?_⟩
  · exact appended.trans ready.appended
  · rw [forwarded]
    show middle.forwarded ++ _ = _
    rw [ready.forwarded, List.nil_append]

/-- Every message goes to its own file in every run exactly when no message without a module name comes right after one
    whose module is another than the process group. -/
theorem routedAlone_iff [Inhabited Thread] (messages : List Text)
    (levels : ∀ message ∈ messages, logLevel message ≠ none) :
    RoutedAlone Thread settings messages ↔ messages.IsChain settings.Unmixed := by
  apply Iff.intro _ routedAlone_of_unmixed
  intro routedAlone
  obtain ⟨events, logger, msgs, reaches, same, appended, forwarded⟩ :=
    exists_oneBatch settings (default : Thread) levels
  have own := routedAlone.alone events logger reaches (appended ▸ same)
  rw [forwarded, LogSettings.flushBuffer_nil_own_iff, same] at own
  exact own

theorem named_routedAlone : RoutedAlone Unit plainSettings ["I1 [a]x".toList, "W2 [b]y".toList] :=
  (routedAlone_iff _ (by decide)).mpr (by decide)

def mixedMessages : List Text := ["I1 [a]x".toList, "I2 y".toList]

def flushOnce : List (LoggerEvent Unit) :=
  [.logThread, .logThread, .logThread, .logThread, .logThread, .logThread, .logThread, .logThread]

def oneBatch : List (LoggerEvent Unit) :=
  .start :: mixedMessages.flatMap (writeCall ()) ++ flushOnce

def twoBatches : List (LoggerEvent Unit) :=
  .start :: mixedMessages.flatMap (fun message => writeCall () message ++ flushOnce)

/-- The message without a name goes to the file of the one before it when both are flushed together. -/
theorem mixed_not_routedAlone : ¬RoutedAlone Unit plainSettings mixedMessages := by
  intro routedAlone
  have together : (run (step plainSettings) {} oneBatch).any (fun logger =>
      decide (logger.appended.map Msg.message = mixedMessages ∧
        logger.forwarded.map Forwarded.moduleName = ["a".toList, "a".toList])) = true := by decide +kernel
  have apart : (run (step plainSettings) {} twoBatches).any (fun logger =>
      decide (logger.appended.map Msg.message = mixedMessages ∧
        logger.forwarded.map Forwarded.moduleName = ["a".toList, "mainboard".toList])) = true := by decide +kernel
  obtain ⟨logger, ran, here⟩ := (Option.any_eq_true _ _).mp together
  obtain ⟨logger', ran', there⟩ := (Option.any_eq_true _ _).mp apart
  obtain ⟨appended, modules⟩ := of_decide_eq_true here
  obtain ⟨appended', modules'⟩ := of_decide_eq_true there
  have second : (logger.forwarded.map Forwarded.moduleName)[1]? = some "a".toList := by rw [modules]; rfl
  have second' : (logger'.forwarded.map Forwarded.moduleName)[1]? = some "mainboard".toList := by rw [modules']; rfl
  rw [List.getElem?_map] at second second'
  obtain ⟨forwarded, present, name⟩ := Option.map_eq_some_iff.mp second
  obtain ⟨forwarded', present', name'⟩ := Option.map_eq_some_iff.mp second'
  have equal := routedAlone.same oneBatch twoBatches logger logger' ⟨by decide +kernel, ran⟩ ⟨by decide +kernel, ran'⟩
    appended appended' 1 forwarded forwarded' present present'
  rw [name, name'] at equal
  exact absurd equal (by decide)

end AsyncLogger
end CyberRT.Logger

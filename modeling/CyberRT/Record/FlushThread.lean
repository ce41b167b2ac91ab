import CyberRT.Execution.Run
import CyberRT.Record.Conservation
import CyberRT.Record.Wire

namespace CyberRT.Record

open Execution

/-- Where the thread of `Flush` stands. From `checking` to `writing` it holds `flush_mutex_`, unless it is `waiting`. -/
inductive FlushPoint where
  /-- At the condition of the loop. -/
  | looping
  | locking
  /-- In `wait`, before it evaluates the predicate. -/
  | checking
  /-- In `wait`, where the predicate was false and the thread is about to block and to release the mutex. -/
  | blocking
  | waiting (notified : Bool)
  /-- Behind `wait`, before the test of `is_writing_`. -/
  | testing
  | writing
  | exited
  deriving DecidableEq, Repr

namespace FlushPoint

def holdsMutex : FlushPoint → Bool
  | .checking | .blocking | .testing | .writing => true
  | _ => false

/-- A notification wakes a thread that is blocked, and only that one. -/
def notify : FlushPoint → FlushPoint
  | .waiting _ => .waiting true
  | point => point

end FlushPoint

/-- The thread that calls the writer is about to take `flush_mutex_`, which it gives back in the same step. -/
def Phase.locks : Phase → Bool
  | .swapping | .draining | .lastSwap | .lastDraining => true
  | _ => false

/-- That thread notifies under the mutex. -/
def Phase.notifies : Phase → Bool
  | .swapping | .lastSwap => true
  | _ => false

/-- `Close` has set `is_writing_` to false. -/
def Phase.unset : Phase → Bool
  | .joining | .indexing | .completing | .closed => true
  | _ => false

/-- The recording with every step of the flush thread. `notifyDue` stands between the store to `is_writing_` in `Close`
    and the `notify_all` behind it. -/
structure FlushRun where
  recording : Recording
  point : FlushPoint
  notifyDue : Bool

inductive ThreadEvent where
  /-- The thread that calls the writer starts a call or goes on with it. -/
  | caller (event : RecordEvent)
  | flush
  /-- A wakeup of the blocked thread that nobody has asked for. -/
  | spurious
  deriving DecidableEq, Repr

namespace FlushRun

variable (pb : Protobuf)

def initial (old : List UInt8) (header : Header) : FlushRun := ⟨.initial pb old header, .looping, false⟩

def call (state : FlushRun) (event : RecordEvent) : Option FlushRun :=
  if event = .flush ∨ event = .exit then none
  else if state.notifyDue then
    if event = .proceed then some { state with notifyDue := false, point := state.point.notify } else none
  else if state.recording.phase.locks && state.point.holdsMutex then none
  else
    (Recording.step pb state.recording event).map fun next =>
      { recording := next
        point := if state.recording.phase.notifies then state.point.notify else state.point
        notifyDue := state.recording.phase = .stopping }

def moveTo (state : FlushRun) (point : FlushPoint) : FlushRun := { state with point := point }

def exit (state : FlushRun) : FlushRun :=
  { state with recording := { state.recording with flushThread := false }, point := .exited }

/-- `WriteChunk` and `clear`, and the end of the turn, which releases the mutex. -/
def writeOut (state : FlushRun) : FlushRun :=
  { state with
    recording := { state.recording with writer := state.recording.writer.flushChunk pb }, point := .looping }

def flushStep (state : FlushRun) : Option FlushRun :=
  let w := state.recording.writer
  match state.point with
  | .looping => some (if w.isWriting then state.moveTo .locking else state.exit)
  | .locking => some (state.moveTo .checking)
  | .checking => some (state.moveTo (if !w.chunkFlush.empty || !w.isWriting then .testing else .blocking))
  | .blocking => some (state.moveTo (.waiting false))
  | .waiting notified => if notified then some (state.moveTo .checking) else none
  | .testing =>
    some (if w.isWriting = false then state.exit
      else if w.chunkFlush.empty then state.moveTo .looping else state.moveTo .writing)
  | .writing => some (state.writeOut pb)
  | .exited => none

def step (state : FlushRun) : ThreadEvent → Option FlushRun
  | .caller event => state.call pb event
  | .flush => state.flushStep pb
  | .spurious => if state.point = .waiting false then some (state.moveTo (.waiting true)) else none

/-- `Close` waits in `join` for a thread that is blocked, with `is_writing_` unset and no notification pending. -/
def Hangs (state : FlushRun) : Prop :=
  state.recording.phase = .joining ∧ state.notifyDue = false ∧ state.recording.writer.isWriting = false ∧
  state.point = .waiting false

/-- The `notify_all` of `Close` does not fall between a predicate that was false and the block behind it. -/
def NotifiesAwake (state : FlushRun) (event : ThreadEvent) : Prop :=
  event = .caller .proceed → state.notifyDue = true → state.point ≠ .blocking

instance (state : FlushRun) (event : ThreadEvent) : Decidable (NotifiesAwake state event) :=
  inferInstanceAs (Decidable (_ → _ → _))

variable {pb : Protobuf} {state next : FlushRun}

theorem FlushPoint.notify_eq_iff {point other : FlushPoint} (awake : ∀ notified, other ≠ .waiting notified) :
    point.notify = other ↔ point = other := by
  cases point with
  | waiting notified =>
    have here := awake notified
    have there := awake true
    simp [FlushPoint.notify, Ne.symm here, Ne.symm there]
  | _ => exact Iff.rfl

theorem call_cases {event : RecordEvent} (called : state.call pb event = some next) :
    (event = .proceed ∧ state.notifyDue = true ∧
      next = { state with notifyDue := false, point := state.point.notify }) ∨
    (event ≠ .flush ∧ event ≠ .exit ∧ state.notifyDue = false ∧
      (state.recording.phase.locks = true → state.point.holdsMutex = false) ∧
      Recording.step pb state.recording event = some next.recording ∧
      next.point = (if state.recording.phase.notifies then state.point.notify else state.point) ∧
      next.notifyDue = decide (state.recording.phase = .stopping)) := by
  unfold call at called
  by_cases own : event = .flush ∨ event = .exit
  · rw [if_pos own] at called
    cases called
  rw [if_neg own] at called
  by_cases due : state.notifyDue = true
  · rw [if_pos due] at called
    by_cases proceeds : event = .proceed
    · rw [if_pos proceeds] at called
      cases called
      exact .inl ⟨proceeds, due, rfl⟩
    · rw [if_neg proceeds] at called
      cases called
  · rw [if_neg due] at called
    by_cases blocked : (state.recording.phase.locks && state.point.holdsMutex) = true
    · rw [if_pos blocked] at called
      cases called
    · rw [if_neg blocked] at called
      obtain ⟨after, taken, same⟩ := Option.map_eq_some_iff.mp called
      cases same
      have free : state.recording.phase.locks = true → state.point.holdsMutex = false := by
        intro locks
        simpa [locks] using blocked
      exact .inr ⟨fun flush => own (.inl flush), fun exit => own (.inr exit), by simpa using due, free, taken, rfl, rfl⟩

structure Sound (state : FlushRun) : Prop where
  drains : state.recording.Drains
  unset_iff : state.recording.writer.isWriting = false ↔ state.recording.phase.unset = true
  due : state.notifyDue = true → state.recording.phase = .joining
  exited_iff : state.recording.flushThread = false ↔ state.point = .exited
  full : state.point = .writing → state.recording.writer.chunkFlush.empty = false

theorem initial_sound (pb : Protobuf) (old : List UInt8) (header : Header) : Sound (initial pb old header) where
  drains := Recording.initial_drains pb old header
  unset_iff := by simp [initial, Recording.initial, RecordFileWriter.create, RecordFileWriter.writeHeader,
    RecordFileWriter.writeSection, Phase.unset]
  due := by simp [initial]
  exited_iff := by simp [initial, Recording.initial]
  full := by simp [initial]

/-- A chunk is in the hands of the flush thread only while `is_writing_` is set. -/
theorem Sound.writing (sound : Sound state) (full : state.recording.writer.chunkFlush.empty = false) :
    state.recording.writer.isWriting = true := by
  cases writing : state.recording.writer.isWriting with
  | true => rfl
  | false =>
    have unset := sound.unset_iff.mp writing
    have drained : state.recording.phase.flushDrained = true := by
      cases phase : state.recording.phase <;> simp_all [Phase.unset, Phase.flushDrained]
    have empty := (Chunk.empty_iff _).mpr (sound.drains.flush drained)
    rw [empty] at full
    cases full

/-- What the calls of the recording do with `is_writing_`, with the flush thread and with its chunk. -/
structure Calls (recording after : Recording) : Prop where
  unset : after.writer.isWriting = recording.writer.isWriting ∧ after.phase.unset = recording.phase.unset ∨
    recording.phase = .stopping ∧ after.writer.isWriting = false ∧ after.phase = .joining
  stopping : recording.phase = .stopping → after.phase = .joining
  flushThread : after.flushThread = recording.flushThread
  chunkFlush : recording.phase.locks = false → after.writer.chunkFlush = recording.writer.chunkFlush

theorem moves_calls {recording after : Recording} {event : RecordEvent} (moves : Recording.Moves pb recording event after)
    (other : event ≠ .flush ∧ event ≠ .exit) : Calls recording after := by
  cases moves with
  | flush full => exact absurd rfl other.1
  | exit => exact absurd rfl other.2
  | writeMessage message idle =>
    refine ⟨.inl ⟨rfl, ?_⟩, by simp [idle], rfl, fun _ => rfl⟩
    dsimp only
    split <;> simp [idle, Phase.unset]
  | writeChannel channel idle => exact ⟨.inl ⟨rfl, rfl⟩, by simp [idle], rfl, fun _ => rfl⟩
  | swap phase => exact ⟨.inl ⟨rfl, by simp [phase, Phase.unset]⟩, by simp [phase], rfl, by simp [phase, Phase.locks]⟩
  | close phase => exact ⟨.inl ⟨rfl, by simp [phase, Phase.unset]⟩, by simp [phase], rfl, fun _ => rfl⟩
  | drained phase => exact ⟨.inl ⟨rfl, by simp [phase, Phase.unset]⟩, by simp [phase], rfl, fun _ => rfl⟩
  | lastSwap phase =>
    exact ⟨.inl ⟨rfl, by simp [phase, Phase.unset]⟩, by simp [phase], rfl, by simp [phase, Phase.locks]⟩
  | lastDrained phase => exact ⟨.inl ⟨rfl, by simp [phase, Phase.unset]⟩, by simp [phase], rfl, fun _ => rfl⟩
  | stop phase => exact ⟨.inr ⟨phase, rfl, rfl⟩, fun _ => rfl, rfl, fun _ => rfl⟩
  | join phase => exact ⟨.inl ⟨rfl, by simp [phase, Phase.unset]⟩, by simp [phase], rfl, fun _ => rfl⟩
  | writeIndex phase => exact ⟨.inl ⟨rfl, by simp [phase, Phase.unset]⟩, by simp [phase], rfl, fun _ => rfl⟩
  | complete phase => exact ⟨.inl ⟨rfl, by simp [phase, Phase.unset]⟩, by simp [phase], rfl, fun _ => rfl⟩

theorem Calls.unset_iff {recording after : Recording} (calls : Calls recording after)
    (unset : recording.writer.isWriting = false ↔ recording.phase.unset = true) :
    after.writer.isWriting = false ↔ after.phase.unset = true := by
  rcases calls.unset with ⟨writing, phase⟩ | ⟨_, writing, phase⟩
  · rw [writing, phase]
    exact unset
  · rw [writing, phase]
    decide

theorem called_point {point : FlushPoint} (awake : ∀ notified, point ≠ .waiting notified) :
    (if state.recording.phase.notifies then state.point.notify else state.point) = point ↔ state.point = point := by
  split
  · exact FlushPoint.notify_eq_iff awake
  · exact Iff.rfl

theorem Sound.call (sound : Sound state) {event : RecordEvent} (called : state.call pb event = some next) :
    Sound next := by
  rcases call_cases called with ⟨_, _, same⟩ | ⟨flush, exit, idle, free, taken, point, due⟩
  · cases same
    refine ⟨sound.drains, sound.unset_iff, by simp, ?_, ?_⟩
    · exact sound.exited_iff.trans (FlushPoint.notify_eq_iff (by simp)).symm
    · intro writing
      exact sound.full ((FlushPoint.notify_eq_iff (by simp)).mp writing)
  · have moves := Recording.step_moves pb taken
    have calls := moves_calls moves ⟨flush, exit⟩
    refine ⟨sound.drains.step moves, calls.unset_iff sound.unset_iff, ?_, ?_, ?_⟩
    · intro notify
      rw [due] at notify
      exact calls.stopping (of_decide_eq_true notify)
    · rw [calls.flushThread, sound.exited_iff, point, called_point (by simp)]
    · intro writing
      rw [point, called_point (by simp)] at writing
      have unlocked : state.recording.phase.locks = false := by
        cases locks : state.recording.phase.locks with
        | false => rfl
        | true =>
          have held := free locks
          rw [writing] at held
          cases held
      rw [calls.chunkFlush unlocked]
      exact sound.full writing

structure Reaches (state : FlushRun) (point : FlushPoint) : Prop where
  running : state.point ≠ .exited ∧ point ≠ .exited
  writing : point = .writing → state.recording.writer.chunkFlush.empty = false
  blocking : point = .blocking → state.recording.writer.isWriting = true
  waiting : point = .waiting false → state.point = .blocking

theorem flushStep_cases (taken : state.flushStep pb = some next) :
    (∃ point, next = state.moveTo point ∧ Reaches state point) ∨
    (next = state.exit ∧ state.recording.writer.isWriting = false ∧ state.point ≠ .exited) ∨
    (next = state.writeOut pb ∧ state.point = .writing) := by
  unfold flushStep at taken
  dsimp only at taken
  cases point : state.point with
  | looping =>
    rw [point] at taken
    cases writing : state.recording.writer.isWriting with
    | true =>
      rw [writing] at taken
      cases taken
      exact .inl ⟨.locking, rfl, by simp [point], by simp, by simp, by simp⟩
    | false =>
      rw [writing] at taken
      cases taken
      exact .inr (.inl ⟨rfl, rfl, by simp⟩)
  | locking =>
    rw [point] at taken
    cases taken
    exact .inl ⟨.checking, rfl, by simp [point], by simp, by simp, by simp⟩
  | checking =>
    rw [point] at taken
    cases taken
    apply Or.inl
    split
    · exact ⟨.testing, rfl, by simp [point], by simp, by simp, by simp⟩
    · rename_i holds
      exact ⟨.blocking, rfl, by simp [point], by simp, by simp_all, by simp⟩
  | blocking =>
    rw [point] at taken
    cases taken
    exact .inl ⟨.waiting false, rfl, by simp [point], by simp, by simp, fun _ => point⟩
  | waiting notified =>
    cases notified with
    | true =>
      rw [point] at taken
      cases taken
      exact .inl ⟨.checking, rfl, by simp [point], by simp, by simp, by simp⟩
    | false =>
      rw [point] at taken
      cases taken
  | testing =>
    rw [point] at taken
    cases writing : state.recording.writer.isWriting with
    | false =>
      rw [writing] at taken
      cases taken
      exact .inr (.inl ⟨rfl, rfl, by simp⟩)
    | true =>
      rw [writing] at taken
      cases full : state.recording.writer.chunkFlush.empty with
      | true =>
        rw [full] at taken
        cases taken
        exact .inl ⟨.looping, rfl, by simp [point], by simp, by simp, by simp⟩
      | false =>
        rw [full] at taken
        cases taken
        exact .inl ⟨.writing, rfl, by simp [point], fun _ => full, by simp, by simp⟩
  | writing =>
    rw [point] at taken
    cases taken
    exact .inr (.inr ⟨rfl, rfl⟩)
  | exited =>
    rw [point] at taken
    cases taken

theorem spurious_cases (taken : step pb state .spurious = some next) :
    state.point = .waiting false ∧ next = state.moveTo (.waiting true) := by
  rw [step, Option.ite_none_right_eq_some, Option.some.injEq] at taken
  exact ⟨taken.1, taken.2.symm⟩

theorem Sound.moveTo (sound : Sound state) {point : FlushPoint} (running : state.point ≠ .exited ∧ point ≠ .exited)
    (full : point = .writing → state.recording.writer.chunkFlush.empty = false) : Sound (state.moveTo point) where
  drains := sound.drains
  unset_iff := sound.unset_iff
  due := sound.due
  exited_iff := sound.exited_iff.trans ⟨fun here => absurd here running.1, fun here => absurd here running.2⟩
  full := full

theorem Sound.flushStep (sound : Sound state) (taken : state.flushStep pb = some next) : Sound next := by
  rcases flushStep_cases taken with ⟨point, same, reaches⟩ | ⟨same, _, _⟩ | ⟨same, writing⟩
  · rw [same]
    exact sound.moveTo reaches.running reaches.writing
  · rw [same]
    exact ⟨⟨sound.drains.flush, sound.drains.active⟩, sound.unset_iff, sound.due, by simp [exit], by simp [exit]⟩
  · have full := sound.full writing
    have running : state.recording.flushThread ≠ false := by
      intro ended
      have exited := sound.exited_iff.mp ended
      rw [writing] at exited
      cases exited
    rw [same]
    refine ⟨sound.drains.step (.flush full), sound.unset_iff, sound.due, ?_, by simp [writeOut]⟩
    show state.recording.flushThread = false ↔ FlushPoint.looping = .exited
    simp [running]

theorem Sound.step (sound : Sound state) {event : ThreadEvent} (taken : step pb state event = some next) :
    Sound next := by
  cases event with
  | caller event => exact sound.call taken
  | flush => exact sound.flushStep taken
  | spurious =>
    obtain ⟨waiting, same⟩ := spurious_cases taken
    rw [same]
    exact sound.moveTo (by simp [waiting]) (by simp)

theorem Sound.refines (sound : Sound state) {event : ThreadEvent} (taken : FlushRun.step pb state event = some next) :
    next.recording = state.recording ∨ ∃ event, Recording.step pb state.recording event = some next.recording := by
  cases event with
  | caller event =>
    rcases call_cases taken with ⟨_, _, same⟩ | ⟨_, _, _, _, taken, _⟩
    · rw [same]
      exact .inl rfl
    · exact .inr ⟨event, taken⟩
  | spurious =>
    rw [(spurious_cases taken).2]
    exact .inl rfl
  | flush =>
    rcases flushStep_cases taken with ⟨point, same, _⟩ | ⟨same, writing, running⟩ | ⟨same, writing⟩
    · rw [same]
      exact .inl rfl
    · have thread : state.recording.flushThread = true := by
        simpa using mt sound.exited_iff.mp running
      rw [same]
      apply Or.inr
      apply Exists.intro RecordEvent.exit
      rw [Recording.step, if_pos ⟨thread, writing⟩]
      rfl
    · have full := sound.full writing
      have thread : state.recording.flushThread = true := by
        simpa [writing] using mt sound.exited_iff.mp
      rw [same]
      apply Or.inr
      apply Exists.intro RecordEvent.flush
      rw [Recording.step, if_pos ⟨thread, sound.writing full, full⟩]
      rfl

theorem run_sound {old : List UInt8} {header : Header} {events : List ThreadEvent}
    (ran : run (step pb) (initial pb old header) events = some state) : Sound state :=
  run_invariant (fun state _ => Sound state) (fun _ _ _ _ taken sound => sound.step taken) (initial_sound pb old header)
    ran

/-- Whatever the two threads do, the recording goes through a run of its own. -/
theorem run_refines {old : List UInt8} {header : Header} {events : List ThreadEvent}
    (ran : run (step pb) (initial pb old header) events = some state) :
    ∃ recorded, run (Recording.step pb) (.initial pb old header) recorded = some state.recording := by
  have held : Sound state ∧
      ∃ recorded, run (Recording.step pb) (.initial pb old header) recorded = some state.recording := by
    refine run_invariant (fun state _ => Sound state ∧
      ∃ recorded, run (Recording.step pb) (.initial pb old header) recorded = some state.recording) ?_
      ⟨initial_sound pb old header, [], rfl⟩ ran
    intro state _ event next taken held
    obtain ⟨sound, recorded, reached⟩ := held
    apply And.intro (sound.step taken)
    rcases sound.refines taken with same | ⟨event, moved⟩
    · rw [same]
      exact ⟨recorded, reached⟩
    · exact ⟨recorded ++ [event], run_snoc reached moved⟩
  exact held.2

/-- Once `is_writing_` is unset and notified, the flush thread neither blocks nor is about to. -/
def Awake (state : FlushRun) : Prop :=
  state.recording.writer.isWriting = false → state.notifyDue = false →
    state.point ≠ .blocking ∧ state.point ≠ .waiting false

theorem Awake.call (awake : Awake state) {event : RecordEvent}
    (notifies : NotifiesAwake state (.caller event)) (called : state.call pb event = some next) : Awake next := by
  intro unset notified
  rcases call_cases called with ⟨proceeds, due, same⟩ | ⟨flush, exit, idle, free, taken, point, due⟩
  · have elsewhere := notifies (by rw [proceeds]) due
    rw [same]
    show state.point.notify ≠ .blocking ∧ state.point.notify ≠ .waiting false
    cases point : state.point <;> simp_all [FlushPoint.notify]
  · have calls := moves_calls (Recording.step_moves pb taken) ⟨flush, exit⟩
    rcases calls.unset with ⟨writing, _⟩ | ⟨stopping, _, _⟩
    · rw [writing] at unset
      have here := awake unset idle
      rw [point]
      split
      · cases stands : state.point <;> simp_all [FlushPoint.notify]
      · exact here
    · -- the store to `is_writing_` itself, behind which the notification is due
      rw [due, stopping] at notified
      cases notified

theorem Awake.flushStep (awake : Awake state) (taken : state.flushStep pb = some next) : Awake next := by
  rcases flushStep_cases taken with ⟨point, same, reaches⟩ | ⟨same, _, _⟩ | ⟨same, _⟩
  · rw [same]
    intro unset notified
    have here := awake unset notified
    apply And.intro
    · intro blocking
      have writing := reaches.blocking blocking
      have unset : state.recording.writer.isWriting = false := unset
      rw [unset] at writing
      cases writing
    · intro waiting
      exact here.1 (reaches.waiting waiting)
  · rw [same]
    intro _ _
    simp [exit]
  · rw [same]
    intro _ _
    simp [writeOut]

theorem Awake.step (awake : Awake state) {event : ThreadEvent}
    (notifies : NotifiesAwake state event) (taken : step pb state event = some next) : Awake next := by
  cases event with
  | caller event => exact awake.call notifies taken
  | flush => exact awake.flushStep taken
  | spurious =>
    rw [(spurious_cases taken).2]
    intro _ _
    simp [moveTo]

/-- `Close` waits for no blocked thread, in any run whose `notify_all` finds the flush thread awake or blocked. -/
theorem close_never_hangs {old : List UInt8} {header : Header} {events : List ThreadEvent}
    (notifies : Meets (step pb) NotifiesAwake (initial pb old header) events)
    (ran : run (step pb) (initial pb old header) events = some state) : ¬ state.Hangs := by
  have start : Awake (initial pb old header) := by
    intro _ _
    simp [initial]
  have awake := Meets.preserves Awake (fun _ _ _ met taken held => held.step met taken) start notifies ran
  intro hangs
  obtain ⟨_, notified, unset, waiting⟩ := hangs
  exact (awake unset notified).2 waiting

/-- `Close` of a recording without a message: the flush thread is blocked and returns before `join` does. -/
def promptClose : List ThreadEvent :=
  [.flush, .flush, .flush, .flush, .caller .close, .caller .proceed, .caller .proceed, .caller .proceed,
    .caller .proceed, .caller .proceed, .flush, .flush, .flush, .caller .proceed]

theorem promptClose_joins : ∃ state, run (step Wire.recordProto) (initial Wire.recordProto [] {}) promptClose = some state ∧
    state.recording.phase = .indexing ∧ ¬ state.Hangs := by
  obtain ⟨state, ran⟩ :
      ∃ state, run (step Wire.recordProto) (initial Wire.recordProto [] {}) promptClose = some state := ⟨_, rfl⟩
  have joined : state.recording.phase = .indexing := by
    cases ran
    rfl
  exact ⟨state, ran, joined, close_never_hangs (by decide +kernel) ran⟩

/-- The other way round, a `notify_all` before the block is lost, and `Close` waits for the thread that blocks. -/
theorem lost_notification (sound : Sound state) (due : state.notifyDue = true) (blocking : state.point = .blocking) :
    ∃ next, run (step pb) state [.caller .proceed, .flush] = some next ∧ next.Hangs := by
  have joining := sound.due due
  have unset := sound.unset_iff.mpr (by rw [joining]; rfl)
  have called : state.call pb .proceed = some { state with notifyDue := false, point := .blocking } := by
    unfold call
    rw [if_neg (by simp), if_pos due, if_pos rfl, blocking]
    rfl
  apply Exists.intro { state with notifyDue := false, point := .waiting false }
  apply And.intro
  · rw [run_cons, step, called]
    rfl
  · exact ⟨joining, rfl, unset, rfl⟩

/-- The flush thread evaluates its predicate behind the last store that `Close` makes under the mutex, and blocks only
    when `Close` has unset `is_writing_` and notified. -/
def lateBlock : List ThreadEvent :=
  [.caller .close, .caller .proceed, .caller .proceed, .caller .proceed, .flush, .flush, .flush, .caller .proceed]

theorem lateBlock_hangs : ∃ state, run (step Wire.recordProto) (initial Wire.recordProto [] {})
    (lateBlock ++ [.caller .proceed, .flush]) = some state ∧ state.Hangs := by
  obtain ⟨before, ran⟩ :
      ∃ state, run (step Wire.recordProto) (initial Wire.recordProto [] {}) lateBlock = some state := ⟨_, rfl⟩
  have due : before.notifyDue = true ∧ before.point = .blocking := by
    cases ran
    exact ⟨rfl, rfl⟩
  rw [run_append, ran, Option.bind_some]
  exact lost_notification (run_sound ran) due.1 due.2

end FlushRun

end CyberRT.Record

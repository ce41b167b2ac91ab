import CyberRT.Execution.Run
import CyberRT.Record.Segments
import CyberRT.Record.Stored
import CyberRT.Record.Wire

namespace CyberRT.Record

open Execution

variable (pb : Protobuf)

namespace RecordFileWriter

/-- The file writer that `Open` leaves, before a header is written. -/
def fresh (old : List UInt8) : RecordFileWriter where
  file := ⟨old, 0⟩
  header := {}
  index := ⟨[]⟩
  isWriting := true
  chunkActive := .clear
  chunkFlush := .clear
  channelMessageNumberMap := fun _ => none
  headerSection := {}
  sections := []

theorem create_fresh (old : List UInt8) (header : Header) : create pb old header = (fresh old).writeHeader pb header := rfl

/-- `WriteHeader` that fails when so many bytes have reached the file. -/
def failHeader (w : RecordFileWriter) (header : Header) (written : Nat) : RecordFileWriter :=
  { w with header := header, file := (w.file.seek 0).write ((headerBlock pb header).take written) }

/-- `WriteChannel` that fails when so many bytes have reached the file. -/
def failChannel (w : RecordFileWriter) (channel : Channel) (written : Nat) : RecordFileWriter :=
  { w with file := w.file.write ((sectionBytes pb (.channel channel)).take written) }

/-- `WriteMessage` on a file writer that is closed: the flush thread, which the swap would wake, is gone. -/
def writeClosed (w : RecordFileWriter) (message : SingleMessage) : RecordFileWriter :=
  let w := w.addMessage message
  if w.needFlush message then w.swapChunks else w

end RecordFileWriter

inductive FileWriter where
  | null
  /-- A `RecordFileWriter` whose `Open` has failed: without chunks, without a descriptor, and not writing. -/
  | unopened
  /-- One whose `Open` has succeeded, the header being written or not. It is closed at the end of its `Close`. -/
  | opened (segment : Segment) (headed : Bool)

/-- How the opening of a file and its first sections end. -/
inductive Opening where
  | done
  | openFailed
  | headerFailed (written : Nat)
  | channelFailed (index written : Nat)
  deriving DecidableEq, Repr

/-- What a call finds behind `file_writer_`. -/
inductive Target where
  | nothing
  | notOpened
  | openFile
  | closedFile
  deriving DecidableEq, Repr

/-- What a call has done and returned. -/
inductive Completed where
  | opening (answer : Bool)
  | setting (answer : Bool)
  /-- Without an answer a call has gone through a null pointer. -/
  | writeChannel (target : Target) (answer : Option Bool)
  | writeMessage (target : Target) (answer : Option Bool)
  /-- `WriteMessage` whose split has failed. -/
  | splitFailed (message : SingleMessage) (answer : Bool)
  | close (target : Target) (closes : Bool)

inductive CallStage where
  | idle
  /-- In `WriteMessage`, behind the `add` to the chunk, which found the file `live` or closed. -/
  | writing (message : SingleMessage) (live : Bool)
  /-- In the `Close` of the segment that is full. -/
  | splitting (message : SingleMessage) (live : Bool)
  | closing
  /-- In `Open`, while the file writer before is destroyed. -/
  | reopening (file : String)
  /-- In `Open`, in the `Close` of a file whose header could not be written. -/
  | abandoning
  | crashed
  deriving DecidableEq

def CallStage.carried : CallStage → Option SingleMessage
  | .writing message true => some message
  | .splitting message true => some message
  | _ => none

/-- Whether the file was open at the call of `WriteMessage` that the stage is in. -/
def CallStage.found : CallStage → Option Bool
  | .writing _ live => some live
  | .splitting _ live => some live
  | _ => none

def CallStage.splits : CallStage → Bool
  | .splitting _ _ => true
  | _ => false

/-- `splitFailed` tells that a split has failed before, `late` that it had when the last call began. -/
structure WriterRun where
  writer : RecordWriter
  isOpened : Bool
  fileWriter : FileWriter
  finished : List Segment
  stage : CallStage
  splitFailed : Bool
  late : Bool
  last : Option Completed

inductive RunEvent where
  | openFile (file : String)
  | setSizeOfFileSegmentation (sizeKilobytes : UInt64)
  | setIntervalOfFileSegmentation (timeSec : UInt64)
  | writeChannel (channel : Channel)
  | writeMessage (message : SingleMessage)
  | close
  /-- The calling thread goes on, and an opening ends like this. -/
  | proceed (opening : Opening)
  /-- The two events of the flush thread. -/
  | flush
  | exit
  deriving DecidableEq

def FileWriter.target : FileWriter → Target
  | .null => .nothing
  | .unopened => .notOpened
  | .opened segment _ => if segment.recording.phase = .closed then .closedFile else .openFile

/-- What a call leaves is defined: its message is stored where it has failed to split, and where it comes later than
    that, it has worked on an open file or returns an error. -/
def Completed.Defined (late : Bool) (finished : List Segment) : Completed → Prop
  | .opening _ => True
  | .setting _ => True
  | .writeChannel target answer => late = true → target = .openFile ∨ answer = some false
  | .writeMessage target answer => late = true → target = .openFile ∨ answer = some false
  | .splitFailed message answer =>
    answer = false ∧ ∃ segment ∈ finished.getLast?, segment.recording.phase = .closed ∧
      segment.recording.Stored pb message
  | .close target closes => late = true → closes = true → target = .openFile

def FileWriter.headed : FileWriter → Bool
  | .opened _ headed => headed
  | _ => false

namespace WriterRun

variable (disk : String → List UInt8)

def initial (header : Header) : WriterRun where
  writer := { file := "", header := header, fileIndex := 0, segmentRawSize := 0, segmentBeginTime := 0, channels := [] }
  isOpened := false
  fileWriter := .null
  finished := []
  stage := .idle
  splitFailed := false
  late := false
  last := none

def complete (state : WriterRun) (completed : Completed) : WriterRun :=
  { state with stage := .idle, last := some completed }

def begin (state : WriterRun) : WriterRun := { state with late := state.splitFailed, last := none }

def inner (state : WriterRun) (event : RecordEvent) : Option WriterRun :=
  match state.fileWriter with
  | .opened segment headed =>
    (segment.recording.step pb event).map fun recording =>
      { state with fileWriter := .opened { segment with recording := recording } headed }
  | _ => none

/-- `Open`, `WriteHeader` and the `WriteChannel` calls on a new file writer. -/
def openFile (path : String) (old : List UInt8) (header : Header) (channels : List Channel) :
    Opening → Option FileWriter
  | .done => some (.opened ⟨path, Session.replay pb channels (.initial pb old header)⟩ true)
  | .openFailed => some .unopened
  | .headerFailed written =>
    some (.opened ⟨path, (RecordFileWriter.fresh old).failHeader pb header written, .idle, true⟩ false)
  | .channelFailed index written =>
    channels[index]?.map fun channel =>
      let before := Session.replay pb (channels.take index) (.initial pb old header)
      .opened ⟨path, { before with writer := before.writer.failChannel pb channel written }⟩ true

def retired (state : WriterRun) : List Segment :=
  match state.fileWriter with
  | .opened segment _ => state.finished ++ [segment]
  | _ => state.finished

def found (live : Bool) : Target := if live then .openFile else .closedFile

/-- `SplitOutfile`, and the answer of the `WriteMessage` that has called it. -/
def splitOutfile (state : WriterRun) (message : SingleMessage) (live : Bool) (opening : Opening) : Option WriterRun :=
  let w := state.writer
  let index := if w.fileIndex > 99999 then 0 else w.fileIndex
  let path := w.file ++ segmentSuffix index
  let finished := state.retired
  (openFile pb path (Session.content disk finished path) w.header (w.channels.map Prod.fst) opening).map fun opened =>
    { state with
      writer := { w with fileIndex := index + 1, segmentRawSize := 0, segmentBeginTime := 0 }
      fileWriter := opened
      finished := finished
      stage := .idle
      splitFailed := state.splitFailed || opening ≠ .done
      last := some (if opening = .done then .writeMessage (found live) (some true) else .splitFailed message false) }

/-- `Open` behind the end of the file writer before. -/
def reopen (state : WriterRun) (file : String) (opening : Opening) : Option WriterRun :=
  let w : RecordWriter := { state.writer with file := file, fileIndex := 1 }
  let path :=
    if w.header.segmentInterval > 0 || w.header.segmentRawSize > 0 then file ++ segmentSuffix 0 else file
  let finished := state.retired
  (openFile pb path (Session.content disk finished path) w.header [] opening).bind fun opened =>
    let state := { state with writer := w, fileWriter := opened, finished := finished }
    match opening with
    | .done => some ({ state with isOpened := true }.complete (.opening true))
    | .headerFailed _ => inner pb { state with stage := .abandoning, last := none } .close
    | _ => some (state.complete (.opening false))

def proceed (state : WriterRun) (opening : Opening) : Option WriterRun :=
  match state.stage, state.fileWriter with
  | .writing message live, .opened segment _ =>
    if segment.recording.phase = .idle ∨ segment.recording.phase = .closed then
      let w := state.writer.onWritten message
      let state := { state with writer := w }
      if w.needSplit message then
        if segment.recording.phase = .closed then some { state with stage := .splitting message live }
        else inner pb { state with stage := .splitting message live } .close
      else some (state.complete (.writeMessage (found live) (some true)))
    else inner pb state .proceed
  | .splitting message live, .opened segment _ =>
    if segment.recording.phase = .closed then splitOutfile pb disk state message live opening else inner pb state .proceed
  | .closing, .opened segment _ =>
    if segment.recording.phase = .closed then some ({ state with isOpened := false }.complete (.close .openFile true))
    else inner pb state .proceed
  | .reopening file, .opened segment _ =>
    if segment.recording.phase = .closed then reopen pb disk state file opening else inner pb state .proceed
  | .reopening file, _ => reopen pb disk state file opening
  | .abandoning, .opened segment _ =>
    if segment.recording.phase = .closed then some (state.complete (.opening false)) else inner pb state .proceed
  | _, _ => none

/-- What is called goes through the null pointer that it finds. -/
def crash (state : WriterRun) (completed : Completed) : WriterRun :=
  { state with stage := .crashed, last := some completed }

def writeChannel (state : WriterRun) (channel : Channel) : Option WriterRun :=
  let state := state.begin
  if state.writer.isNewChannel channel.name then
    let state := { state with writer := state.writer.onNewChannel channel }
    match state.fileWriter.target with
    | .nothing => some (state.crash (.writeChannel .nothing none))
    | .openFile =>
      (inner pb state (.writeChannel channel)).map fun state => state.complete (.writeChannel .openFile (some true))
    -- there is no descriptor, or it is closed: no byte can be written
    | target => some (state.complete (.writeChannel target (some false)))
  else some (state.complete (.writeChannel state.fileWriter.target (some true)))

def writeMessage (state : WriterRun) (message : SingleMessage) : Option WriterRun :=
  let state := state.begin
  let state := { state with writer := state.writer.onNewMessage message.channelName }
  match state.fileWriter with
  | .opened segment headed =>
    if segment.recording.phase = .closed then
      let recording := { segment.recording with writer := segment.recording.writer.writeClosed message }
      some { state with
        fileWriter := .opened { segment with recording := recording } headed
        stage := .writing message false }
    else inner pb { state with stage := .writing message true } (.writeMessage message)
  | other => some (state.crash (.writeMessage other.target none))

def close (state : WriterRun) : Option WriterRun :=
  let state := state.begin
  if state.isOpened then
    match state.fileWriter.target with
    | .openFile => inner pb { state with stage := .closing } .close
    -- `RecordFileWriter::Close` returns at once where `is_writing_` is not set
    | target => some ({ state with isOpened := false }.complete (.close target false))
  else some (state.complete (.close state.fileWriter.target false))

def openCall (state : WriterRun) (file : String) : Option WriterRun :=
  let state := { state.begin with stage := .reopening file }
  match state.fileWriter.target with
  | .openFile => inner pb state .close
  | _ => some state

def setHeader (state : WriterRun) (header : Header) : WriterRun :=
  if state.isOpened then state.begin.complete (.setting false)
  else { state.begin with writer := { state.writer with header := header } }.complete (.setting true)

def step (state : WriterRun) : RunEvent → Option WriterRun
  | .openFile file => if state.stage = .idle then state.openCall pb file else none
  | .setSizeOfFileSegmentation sizeKilobytes =>
    if state.stage = .idle then
      some (state.setHeader { state.writer.header with segmentRawSize := sizeKilobytes * 1024 })
    else none
  | .setIntervalOfFileSegmentation timeSec =>
    if state.stage = .idle then
      some (state.setHeader { state.writer.header with segmentInterval := timeSec * 1000000000 })
    else none
  | .writeChannel channel => if state.stage = .idle then state.writeChannel pb channel else none
  | .writeMessage message => if state.stage = .idle then state.writeMessage pb message else none
  | .close => if state.stage = .idle then state.close pb else none
  | .proceed opening => state.proceed pb disk opening
  | .flush => inner pb state .flush
  | .exit => inner pb state .exit

def Defined (state : WriterRun) : Prop :=
  ∀ completed ∈ state.last, completed.Defined pb state.late state.finished

/-- Behind a split that has failed, nothing is written before a file is open again, and a split fails only behind a
    message for a file that was open and has its header. -/
def Allowed (state : WriterRun) : RunEvent → Prop
  | .writeMessage _ => state.splitFailed = true → state.fileWriter.target = .openFile
  | .writeChannel channel =>
    state.splitFailed = true → state.writer.isNewChannel channel.name = false → state.fileWriter.target = .openFile
  | .proceed opening =>
    state.stage.splits = true → opening ≠ .done → state.stage.found = some true ∧ state.fileWriter.headed = true
  | _ => True

instance (state : WriterRun) (event : RunEvent) : Decidable (state.Allowed event) :=
  match event with
  | .writeMessage _ => inferInstanceAs (Decidable (_ → _))
  | .writeChannel _ => inferInstanceAs (Decidable (_ → _ → _))
  | .proceed _ => inferInstanceAs (Decidable (_ → _ → _))
  | .openFile _ | .setSizeOfFileSegmentation _ | .setIntervalOfFileSegmentation _ | .close | .flush | .exit =>
    inferInstanceAs (Decidable True)

variable {pb disk} {state next : WriterRun}

theorem inner_some {event : RecordEvent} (taken : inner pb state event = some next) :
    ∃ segment headed recording, state.fileWriter = .opened segment headed ∧
      segment.recording.step pb event = some recording ∧
      next = { state with fileWriter := .opened { segment with recording := recording } headed } := by
  unfold inner at taken
  cases found : state.fileWriter with
  | null =>
    rw [found] at taken
    cases taken
  | unopened =>
    rw [found] at taken
    cases taken
  | opened segment headed =>
    rw [found] at taken
    obtain ⟨recording, stepped, same⟩ := Option.map_eq_some_iff.mp taken
    exact ⟨segment, headed, recording, rfl, stepped, same.symm⟩

def Ready (pb : Protobuf) (segment : Segment) (headed : Bool) : Prop :=
  segment.recording.Drains ∧ (headed = true → segment.recording.Stands pb)

structure Sound (pb : Protobuf) (state : WriterRun) : Prop where
  nonnull : state.splitFailed = true → state.fileWriter ≠ .null
  ready : ∀ segment headed, state.fileWriter = .opened segment headed →
    (segment.recording.phase = .closed → state.stage.carried ≠ none) → Ready pb segment headed
  held : ∀ segment headed message, state.fileWriter = .opened segment headed →
    state.stage.carried = some message → message ∈ segment.recording.held
  live : state.late = true → ∀ live, state.stage.found = some live → live = true
  defined : Defined pb state

theorem initial_sound (header : Header) : Sound pb (initial header) where
  nonnull := by simp [initial]
  ready := by simp [initial]
  held := by simp [initial]
  live := by simp [initial]
  defined := by simp [Defined, initial]

theorem Sound.goesOn (sound : Sound pb state) (fileWriter : next.fileWriter = state.fileWriter)
    (splitFailed : next.splitFailed = state.splitFailed)
    (carried : next.stage.carried = none ∨ next.stage.carried = state.stage.carried)
    (live : next.late = true → ∀ live, next.stage.found = some live → live = true) (defined : Defined pb next) :
    Sound pb next where
  nonnull := by
    rw [splitFailed, fileWriter]
    exact sound.nonnull
  ready := by
    intro segment headed here closed
    rw [fileWriter] at here
    apply sound.ready segment headed here
    intro ended
    rcases carried with none | same
    · exact absurd none (closed ended)
    · rw [← same]
      exact closed ended
  held := by
    intro segment headed message here carries
    rw [fileWriter] at here
    rcases carried with none | same
    · rw [none] at carries
      cases carries
    · rw [same] at carries
      exact sound.held segment headed message here carries
  live := live
  defined := defined

theorem Sound.inner (sound : Sound pb state) {event : RecordEvent} (taken : inner pb state event = some next) :
    Sound pb next := by
  obtain ⟨segment, headed, recording, here, stepped, same⟩ := inner_some taken
  have moves := Recording.step_moves pb stepped
  have before : (recording.phase = .closed → state.stage.carried ≠ none) →
      segment.recording.phase = .closed → state.stage.carried ≠ none :=
    fun closed ended => closed (Recording.step_closed ended stepped)
  rw [same]
  refine ⟨fun _ => by simp, ?_, ?_, sound.live, sound.defined⟩
  · intro other headed' same' closed
    cases same'
    obtain ⟨drains, stands⟩ := sound.ready segment headed here (before closed)
    exact ⟨drains.step moves, fun header => (stands header).step drains moves⟩
  · intro other headed' message same' carries
    cases same'
    have carries : state.stage.carried = some message := carries
    have ready := sound.ready segment headed here (fun _ => by simp [carries])
    exact Recording.mem_held_step ready.1 moves (sound.held segment headed message here carries)

theorem initial_stands (old : List UInt8) (header : Header) : (Recording.initial pb old header).Stands pb := by
  have start : (RecordFileWriter.fresh old).Stores pb := List.forall_mem_nil _
  exact ⟨start.writeHeader header, fun _ => RecordFileWriter.writeHeader_appends rfl header⟩

theorem replay_ready (path : String) (channels : List Channel) {recording : Recording} (idle : recording.phase = .idle)
    (ready : Ready pb ⟨path, recording⟩ true) :
    Ready pb ⟨path, Session.replay pb channels recording⟩ true ∧ (Session.replay pb channels recording).phase = .idle := by
  induction channels generalizing recording with
  | nil => exact ⟨ready, idle⟩
  | cons channel rest ih =>
    have moves : Recording.Moves pb recording (.writeChannel channel) _ := .writeChannel channel idle
    have stands := (ready.2 rfl).step ready.1 moves
    exact ih idle ⟨ready.1.step moves, fun _ => stands⟩

theorem openFile_ready {path : String} {old : List UInt8} {header : Header} {channels : List Channel}
    {opening : Opening} {opened : FileWriter} (done : openFile pb path old header channels opening = some opened) :
    opened ≠ .null ∧ ∀ segment headed, opened = .opened segment headed → Ready pb segment headed := by
  have start : Ready pb ⟨path, Recording.initial pb old header⟩ true :=
    ⟨Recording.initial_drains pb old header, fun _ => initial_stands old header⟩
  cases opening with
  | done =>
    cases done
    refine ⟨by simp, fun segment headed same => ?_⟩
    cases same
    exact (replay_ready path channels rfl start).1
  | openFailed =>
    cases done
    exact ⟨by simp, by simp⟩
  | headerFailed written =>
    cases done
    refine ⟨by simp, fun segment headed same => ?_⟩
    cases same
    exact ⟨⟨fun _ => rfl, fun _ => rfl⟩, fun header => by cases header⟩
  | channelFailed index written =>
    obtain ⟨channel, _, same⟩ := Option.map_eq_some_iff.mp done
    cases same
    refine ⟨by simp, fun segment headed same => ?_⟩
    cases same
    obtain ⟨ready, idle⟩ := replay_ready path (channels.take index) rfl start
    have stands := ready.2 rfl
    have open' : (Session.replay pb (channels.take index) (Recording.initial pb old header)).phase ≠ .closed := by
      rw [idle]
      decide
    obtain ⟨stores, appends⟩ := @RecordFileWriter.Stores.write pb _
      ((Session.replay pb (channels.take index) (Recording.initial pb old header)).writer.failChannel pb channel written)
      stands.stores (stands.appends open') _ rfl rfl
    exact ⟨⟨ready.1.flush, ready.1.active⟩, fun _ => ⟨stores, fun _ => appends⟩⟩

theorem begin_sound (sound : Sound pb state) (idle : state.stage = .idle) : Sound pb state.begin := by
  have carried : state.begin.stage.carried = none := by
    show state.stage.carried = none
    rw [idle]
    rfl
  have found : state.begin.stage.found = none := by
    show state.stage.found = none
    rw [idle]
    rfl
  exact sound.goesOn rfl rfl (.inl carried) (by simp [found]) (by simp [Defined, begin])

theorem complete_sound (sound : Sound pb state) {completed : Completed}
    (defined : completed.Defined pb state.late state.finished) : Sound pb (state.complete completed) := by
  refine sound.goesOn rfl rfl (.inl rfl) (by simp [complete, CallStage.found]) ?_
  intro other member
  obtain rfl : completed = other := by simpa [complete] using member
  exact defined

theorem opened_sound {path : String} {old : List UInt8} {header : Header} {channels : List Channel}
    {opening : Opening} (done : openFile pb path old header channels opening = some next.fileWriter)
    (carried : next.stage.carried = none) (found : next.stage.found = none) (defined : Defined pb next) :
    Sound pb next := by
  obtain ⟨nonnull, ready⟩ := openFile_ready done
  refine ⟨fun _ => nonnull, fun segment headed here _ => ready segment headed here, ?_, ?_, defined⟩
  · intro segment headed message _ carries
    rw [carried] at carries
    cases carries
  · intro _ live here
    rw [found] at here
    cases here

theorem defined_last {completed : Completed} (last : next.last = some completed)
    (defined : completed.Defined pb next.late next.finished) : Defined pb next := by
  intro other member
  rw [last] at member
  cases member
  exact defined

theorem splitOutfile_sound (sound : Sound pb state) {message : SingleMessage} {live headed : Bool} {opening : Opening}
    {segment : Segment} (stage : state.stage = .splitting message live)
    (here : state.fileWriter = .opened segment headed) (closed : segment.recording.phase = .closed)
    (allowed : opening ≠ .done → live = true ∧ headed = true)
    (taken : splitOutfile pb disk state message live opening = some next) : Sound pb next := by
  obtain ⟨opened, done, same⟩ := Option.map_eq_some_iff.mp taken
  cases same
  apply opened_sound done rfl rfl
  apply defined_last rfl
  by_cases ends : opening = .done
  · rw [if_pos ends]
    intro late
    have was := sound.live late live (by rw [stage]; rfl)
    rw [was]
    exact .inl rfl
  · obtain ⟨was, header⟩ := allowed ends
    rw [was] at stage
    rw [header] at here
    have carried : state.stage.carried = some message := by
      rw [stage]
      rfl
    obtain ⟨drains, stands⟩ := sound.ready segment true here (fun _ => by simp [carried])
    have stored := (stands rfl).stored drains closed (sound.held segment true message here carried)
    have retired : state.retired = state.finished ++ [segment] := by
      unfold WriterRun.retired
      rw [here]
    rw [if_neg ends]
    refine ⟨rfl, segment, ?_, closed, stored⟩
    show segment ∈ state.retired.getLast?
    rw [retired, List.getLast?_append_of_ne_nil _ (by simp)]
    rfl

theorem reopen_sound {file : String} {opening : Opening} (taken : reopen pb disk state file opening = some next) :
    Sound pb next := by
  obtain ⟨opened, done, same⟩ := Option.bind_eq_some_iff.mp taken
  cases opening with
  | done =>
    cases same
    exact opened_sound done rfl rfl (defined_last rfl trivial)
  | openFailed =>
    cases same
    exact opened_sound done rfl rfl (defined_last rfl trivial)
  | headerFailed written => exact (opened_sound done rfl rfl (by simp [Defined])).inner same
  | channelFailed index written =>
    cases same
    exact opened_sound done rfl rfl (defined_last rfl trivial)

theorem writing_sound (sound : Sound pb state) {message : SingleMessage} {live : Bool}
    (stage : state.stage = .writing message live) (writer : RecordWriter) :
    Sound pb { state with writer := writer, stage := .splitting message live } ∧
    Sound pb ({ state with writer := writer }.complete (.writeMessage (found live) (some true))) := by
  have was : state.late = true → live = true := fun late => sound.live late live (by rw [stage]; rfl)
  apply And.intro
  · have carried : CallStage.carried (.splitting message live) = state.stage.carried := by
      rw [stage]
      cases live <;> rfl
    refine sound.goesOn rfl rfl (.inr carried) ?_ sound.defined
    intro late other here
    rw [← Option.some.inj here]
    exact was late
  · refine sound.goesOn rfl rfl (.inl rfl) (by simp [complete, CallStage.found]) (defined_last rfl ?_)
    intro late
    rw [was late]
    exact .inl rfl

theorem proceed_sound (sound : Sound pb state) {opening : Opening} (allowed : state.Allowed (.proceed opening))
    (taken : proceed pb disk state opening = some next) : Sound pb next := by
  obtain ⟨writer, isOpened, fileWriter, finished, stage, splitFailed, late, last⟩ := state
  unfold proceed at taken
  cases stage with
  | idle => cases taken
  | crashed => cases taken
  | reopening file =>
    cases fileWriter with
    | null => exact reopen_sound taken
    | unopened => exact reopen_sound taken
    | opened segment headed =>
      dsimp only at taken
      split at taken
      · exact reopen_sound taken
      · exact sound.inner taken
  | writing message live =>
    cases fileWriter with
    | null => cases taken
    | unopened => cases taken
    | opened segment headed =>
      obtain ⟨splits, returns⟩ := writing_sound sound rfl (writer.onWritten message)
      dsimp only at taken
      split at taken
      · split at taken
        · split at taken
          · cases taken
            exact splits
          · exact splits.inner taken
        · cases taken
          exact returns
      · exact sound.inner taken
  | splitting message live =>
    cases fileWriter with
    | null => cases taken
    | unopened => cases taken
    | opened segment headed =>
      dsimp only at taken
      split at taken
      · rename_i closed
        refine splitOutfile_sound sound rfl rfl closed ?_ taken
        intro fails
        obtain ⟨was, header⟩ := allowed rfl fails
        exact ⟨Option.some.inj was, header⟩
      · exact sound.inner taken
  | closing =>
    cases fileWriter with
    | null => cases taken
    | unopened => cases taken
    | opened segment headed =>
      dsimp only at taken
      split at taken
      · cases taken
        exact sound.goesOn rfl rfl (.inl rfl) (by simp [complete, CallStage.found])
          (defined_last rfl (fun _ _ => rfl))
      · exact sound.inner taken
  | abandoning =>
    cases fileWriter with
    | null => cases taken
    | unopened => cases taken
    | opened segment headed =>
      dsimp only at taken
      split at taken
      · cases taken
        exact sound.goesOn rfl rfl (.inl rfl) (by simp [complete, CallStage.found]) (defined_last rfl trivial)
      · exact sound.inner taken

theorem target_nothing {fileWriter : FileWriter} (nothing : fileWriter.target = .nothing) : fileWriter = .null := by
  cases fileWriter with
  | null => rfl
  | unopened => cases nothing
  | opened segment headed =>
    unfold FileWriter.target at nothing
    dsimp only at nothing
    split at nothing
    · cases nothing
    · cases nothing

theorem writeChannel_sound (sound : Sound pb state) {channel : Channel} (idle : state.stage = .idle)
    (allowed : state.Allowed (.writeChannel channel)) (taken : state.writeChannel pb channel = some next) :
    Sound pb next := by
  have begun := begin_sound sound idle
  have registered : Sound pb { state.begin with writer := state.writer.onNewChannel channel } :=
    begun.goesOn rfl rfl (.inr rfl) begun.live begun.defined
  unfold writeChannel at taken
  dsimp only at taken
  split at taken
  · split at taken
    · rename_i target
      cases taken
      refine begun.goesOn rfl rfl (.inl rfl) (by simp [crash, CallStage.found]) (defined_last rfl ?_)
      intro late
      exact absurd (target_nothing target) (sound.nonnull late)
    · obtain ⟨after, written, same⟩ := Option.map_eq_some_iff.mp taken
      cases same
      exact complete_sound (registered.inner written) (fun _ => .inl rfl)
    · cases taken
      exact complete_sound registered (fun _ => .inr rfl)
  · rename_i known
    cases taken
    refine complete_sound begun ?_
    intro late
    exact .inl (allowed late (by simpa [begin] using known))

theorem writeMessage_sound (sound : Sound pb state) {message : SingleMessage} (idle : state.stage = .idle)
    (allowed : state.Allowed (.writeMessage message)) (taken : state.writeMessage pb message = some next) :
    Sound pb next := by
  have begun := begin_sound sound idle
  obtain ⟨writer, isOpened, fileWriter, finished, stage, splitFailed, late, last⟩ := state
  unfold writeMessage at taken
  cases fileWriter with
  | null =>
    cases taken
    refine begun.goesOn rfl rfl (.inl rfl) (by simp [crash, CallStage.found]) (defined_last rfl ?_)
    intro late
    cases allowed late
  | unopened =>
    cases taken
    refine begun.goesOn rfl rfl (.inl rfl) (by simp [crash, CallStage.found]) (defined_last rfl ?_)
    intro late
    cases allowed late
  | opened segment headed =>
    dsimp only [begin] at taken
    split at taken
    · rename_i closed
      cases taken
      have target : (FileWriter.opened segment headed).target = .closedFile := by
        unfold FileWriter.target
        dsimp only
        rw [if_pos closed]
      refine ⟨fun _ => by simp, ?_, by simp [CallStage.carried], ?_, by simp [Defined]⟩
      · intro other headed' same ended
        cases same
        exact absurd rfl (ended closed)
      · intro late
        have open' := allowed late
        rw [target] at open'
        cases open'
    · rename_i open'
      obtain ⟨_, _, recording, here, stepped, same⟩ := inner_some taken
      cases here
      cases same
      have moves := Recording.step_moves pb stepped
      obtain ⟨drains, stands⟩ := sound.ready segment headed rfl (fun closed => absurd closed open')
      have added : message ∈ recording.held :=
        (Recording.held_step_perm drains moves).mem_iff.mpr (List.mem_append_right _ (by simp [RecordEvent.message?]))
      refine ⟨fun _ => by simp, ?_, ?_, ?_, by simp [Defined]⟩
      · intro other headed' same _
        cases same
        exact ⟨drains.step moves, fun header => (stands header).step drains moves⟩
      · intro other headed' carried same carries
        cases same
        cases carries
        exact added
      · intro _ live found
        exact (Option.some.inj found).symm

theorem close_sound (sound : Sound pb state) (idle : state.stage = .idle) (taken : state.close pb = some next) :
    Sound pb next := by
  have begun := begin_sound sound idle
  unfold close at taken
  dsimp only at taken
  split at taken
  · split at taken
    · have closing : Sound pb { state.begin with stage := .closing } :=
        begun.goesOn rfl rfl (.inl rfl) (by simp [CallStage.found]) begun.defined
      exact closing.inner taken
    · cases taken
      refine begun.goesOn rfl rfl (.inl rfl) (by simp [complete, CallStage.found]) (defined_last rfl ?_)
      intro _ closes
      cases closes
  · cases taken
    refine complete_sound begun ?_
    intro _ closes
    cases closes

theorem openCall_sound (sound : Sound pb state) {file : String} (idle : state.stage = .idle)
    (taken : state.openCall pb file = some next) : Sound pb next := by
  have begun := begin_sound sound idle
  have reopening : Sound pb { state.begin with stage := .reopening file } :=
    begun.goesOn rfl rfl (.inl rfl) (by simp [CallStage.found]) begun.defined
  unfold openCall at taken
  dsimp only at taken
  split at taken
  · exact reopening.inner taken
  · cases taken
    exact reopening

theorem setHeader_sound (sound : Sound pb state) (idle : state.stage = .idle) (header : Header) :
    Sound pb (state.setHeader header) := by
  have begun := begin_sound sound idle
  unfold setHeader
  split
  · exact complete_sound begun trivial
  · have set : Sound pb { state.begin with writer := { state.writer with header := header } } :=
      begun.goesOn rfl rfl (.inr rfl) begun.live begun.defined
    exact complete_sound set trivial

theorem Sound.step (sound : Sound pb state) {event : RunEvent} (allowed : state.Allowed event)
    (taken : step pb disk state event = some next) : Sound pb next := by
  cases event with
  | openFile file =>
    obtain ⟨idle, taken⟩ := Option.ite_none_right_eq_some.mp taken
    exact openCall_sound sound idle taken
  | setSizeOfFileSegmentation sizeKilobytes =>
    obtain ⟨idle, same⟩ := Option.ite_none_right_eq_some.mp taken
    cases same
    exact setHeader_sound sound idle _
  | setIntervalOfFileSegmentation timeSec =>
    obtain ⟨idle, same⟩ := Option.ite_none_right_eq_some.mp taken
    cases same
    exact setHeader_sound sound idle _
  | writeChannel channel =>
    obtain ⟨idle, taken⟩ := Option.ite_none_right_eq_some.mp taken
    exact writeChannel_sound sound idle allowed taken
  | writeMessage message =>
    obtain ⟨idle, taken⟩ := Option.ite_none_right_eq_some.mp taken
    exact writeMessage_sound sound idle allowed taken
  | close =>
    obtain ⟨idle, taken⟩ := Option.ite_none_right_eq_some.mp taken
    exact close_sound sound idle taken
  | proceed opening => exact proceed_sound sound allowed taken
  | flush => exact sound.inner taken
  | exit => exact sound.inner taken

/-- Behind any split that fails the writer stays defined, in every run whose steps are allowed. -/
theorem failed_split_defined {header : Header} {events : List RunEvent}
    (allowed : Meets (step pb disk) Allowed (initial header) events)
    (ran : run (step pb disk) (initial header) events = some state) : Defined pb state := by
  have sound := Meets.preserves (Sound pb) (fun _ _ _ met taken sound => sound.step met taken) (initial_sound header)
    allowed ran
  exact sound.defined

/-- The calling thread goes on in the `Close` of a file with one chunk to flush, up to the end of the call behind it. -/
def closing (opening : Opening) : List RunEvent :=
  [.proceed .done, .proceed .done, .flush, .proceed .done, .proceed .done, .exit, .proceed .done, .proceed .done,
    .proceed .done, .proceed opening]

/-- A message that fills its segment, and a split that cannot open the next one. -/
def splitFails : List RunEvent :=
  [.openFile "record", .proceed .done, .writeMessage ⟨"/chatter", 1, [0, 0]⟩, .proceed .done] ++ closing .openFailed

/-- Behind the split a new file is opened and takes the next message. -/
theorem reopened_writes : ∃ state, run (step Wire.recordProto fun _ => []) (initial { segmentRawSize := 1 })
      (splitFails ++ [.openFile "next", .proceed .done, .writeMessage ⟨"/chatter", 2, [0]⟩, .proceed .done]) = some state ∧
    state.late = true ∧ state.last = some (.writeMessage .openFile (some true)) ∧ Defined Wire.recordProto state := by
  obtain ⟨state, ran⟩ : ∃ state, run (step Wire.recordProto fun _ => []) (initial { segmentRawSize := 1 })
      (splitFails ++ [.openFile "next", .proceed .done, .writeMessage ⟨"/chatter", 2, [0]⟩, .proceed .done]) =
        some state := ⟨_, rfl⟩
  have written : state.late = true ∧ state.last = some (.writeMessage .openFile (some true)) := by
    cases ran
    exact ⟨rfl, rfl⟩
  exact ⟨state, ran, written.1, written.2, failed_split_defined (by decide +kernel) ran⟩

/-- Without that, the next message goes through the chunk that a file writer has only once it has been opened. -/
theorem unopened_crashes : ∃ state, run (step Wire.recordProto fun _ => []) (initial { segmentRawSize := 1 })
      (splitFails ++ [.writeMessage ⟨"/chatter", 2, [0]⟩]) = some state ∧
    state.last = some (.writeMessage .notOpened none) ∧ ¬ Defined Wire.recordProto state := by
  obtain ⟨state, ran⟩ : ∃ state, run (step Wire.recordProto fun _ => []) (initial { segmentRawSize := 1 })
      (splitFails ++ [.writeMessage ⟨"/chatter", 2, [0]⟩]) = some state := ⟨_, rfl⟩
  have crashed : state.late = true ∧ state.last = some (.writeMessage .notOpened none) := by
    cases ran
    exact ⟨rfl, rfl⟩
  refine ⟨state, ran, crashed.2, fun defined => ?_⟩
  have answered := defined (.writeMessage .notOpened none) crashed.2 crashed.1
  simp at answered

end WriterRun

end CyberRT.Record

import CyberRT.Record.Messages

namespace CyberRT.Record

structure Chunk where
  header : ChunkHeader
  messages : List SingleMessage
  counted : header.messageNumber = messages.length

namespace Chunk

def clear : Chunk := ⟨⟨0, 0, 0, 0⟩, [], rfl⟩

def add (chunk : Chunk) (message : SingleMessage) : Chunk where
  header :=
    let begin := if chunk.header.beginTime = 0 then message.time else chunk.header.beginTime
    { beginTime := if begin > message.time then message.time else begin
      endTime := if chunk.header.endTime < message.time then message.time else chunk.header.endTime
      messageNumber := chunk.header.messageNumber + 1
      rawSize := chunk.header.rawSize + message.content.length }
  messages := chunk.messages ++ [message]
  counted := by simp [chunk.counted]

def empty (chunk : Chunk) : Bool := chunk.header.messageNumber = 0

def body (chunk : Chunk) : ChunkBody := ⟨chunk.messages⟩

@[simp] theorem add_messages (chunk : Chunk) (message : SingleMessage) :
    (chunk.add message).messages = chunk.messages ++ [message] := rfl

@[simp] theorem clear_messages : clear.messages = [] := rfl

theorem empty_iff (chunk : Chunk) : chunk.empty = true ↔ chunk.messages = [] := by
  rw [empty, decide_eq_true_eq, chunk.counted, List.length_eq_zero_iff]

end Chunk

structure RecordFileWriter where
  file : Bytes.File
  header : Header
  index : Index
  isWriting : Bool
  chunkActive : Chunk
  chunkFlush : Chunk
  channelMessageNumberMap : String → Option Nat
  /-- The header that stands in the file. -/
  headerSection : Header
  /-- The sections behind it, each with its position. -/
  sections : List (Nat × Payload)

namespace RecordFileWriter

variable (pb : Protobuf)

/-- `WriteSection<T>` where every write of the file succeeds. -/
def writeSection (w : RecordFileWriter) (payload : Payload) : RecordFileWriter :=
  let body := pb.serialize payload
  match payload with
  | .header h =>
    let file := (((w.file.seek 0).write (sectionHead .header body.length)).write body).write
      (blank.take (headerLength - body.length))
    { w with file := file, header := { w.header with size := .ofNat file.pos }, headerSection := h }
  | _ =>
    let file := (w.file.write (sectionHead payload.type body.length)).write body
    { w with
      file := file
      header := { w.header with size := .ofNat file.pos }
      sections := w.sections ++ [(w.file.pos, payload)] }

def writeHeader (w : RecordFileWriter) (header : Header) : RecordFileWriter :=
  writeSection pb { w with header := header } (.header header)

/-- `Open` on a file that may hold an older record (there is no `O_TRUNC`), then `WriteHeader`. -/
def create (old : List UInt8) (header : Header) : RecordFileWriter :=
  writeHeader pb
    { file := ⟨old, 0⟩
      header := {}
      index := ⟨[]⟩
      isWriting := true
      chunkActive := .clear
      chunkFlush := .clear
      channelMessageNumberMap := fun _ => none
      headerSection := {}
      sections := [] } header

def writeChannel (w : RecordFileWriter) (channel : Channel) : RecordFileWriter :=
  let written := writeSection pb w (.channel channel)
  let cache := ⟨0, channel.name, channel.messageType, channel.protoDesc⟩
  { written with
    header := { written.header with channelNumber := written.header.channelNumber + 1 }
    index := ⟨written.index.indexes ++ [⟨.channel, w.file.pos, .channel cache⟩]⟩ }

def writeChunk (w : RecordFileWriter) (chunkHeader : ChunkHeader) (chunkBody : ChunkBody) : RecordFileWriter :=
  let headed := writeSection pb w (.chunkHeader chunkHeader)
  let written := writeSection pb headed (.chunkBody chunkBody)
  { written with
    header := { written.header with
      chunkNumber := written.header.chunkNumber + 1
      beginTime := if written.header.beginTime = 0 then chunkHeader.beginTime else written.header.beginTime
      endTime := chunkHeader.endTime
      messageNumber := written.header.messageNumber + .ofNat chunkHeader.messageNumber }
    index := ⟨written.index.indexes ++ [⟨.chunkHeader, w.file.pos, .chunkHeader chunkHeader⟩,
      ⟨.chunkBody, headed.file.pos, .chunkBody chunkBody.messages.length⟩]⟩ }

def getMessageNumber (w : RecordFileWriter) (channelName : String) : Nat :=
  (w.channelMessageNumberMap channelName).getD 0

def needFlush (w : RecordFileWriter) (message : SingleMessage) : Bool :=
  (w.header.chunkInterval > 0 && message.time - w.chunkActive.header.beginTime > w.header.chunkInterval) ||
    (w.header.chunkRawSize > 0 && w.chunkActive.header.rawSize > w.header.chunkRawSize.toNat)

/-- `WriteMessage` up to the decision to flush, which comes after the message has been added. -/
def addMessage (w : RecordFileWriter) (message : SingleMessage) : RecordFileWriter :=
  { w with
    chunkActive := w.chunkActive.add message
    channelMessageNumberMap := Function.update w.channelMessageNumberMap message.channelName
      (some (w.getMessageNumber message.channelName + 1)) }

/-- What `WriteMessage` and `Close` do under `flush_mutex_`. -/
def swapChunks (w : RecordFileWriter) : RecordFileWriter :=
  { w with chunkActive := w.chunkFlush, chunkFlush := w.chunkActive }

/-- The body of the loop of `Flush` under `flush_mutex_`. -/
def flushChunk (w : RecordFileWriter) : RecordFileWriter :=
  { writeChunk pb w w.chunkFlush.header w.chunkFlush.body with chunkFlush := .clear }

def setMessageNumber (w : RecordFileWriter) (entry : SingleIndex) : SingleIndex :=
  match entry.cache with
  | .channel cache =>
    match w.channelMessageNumberMap cache.name with
    | some number => { entry with cache := .channel { cache with messageNumber := number } }
    | none => entry
  | _ => entry

def writeIndex (w : RecordFileWriter) : RecordFileWriter :=
  let index : Index := ⟨w.index.indexes.map w.setMessageNumber⟩
  writeSection pb
    { w with index := index, header := { w.header with indexPosition := .ofNat w.file.pos } } (.index index)

end RecordFileWriter

/-- Where the thread that calls the writer stands. -/
inductive Phase where
  /-- Between two calls. -/
  | idle
  /-- In `WriteMessage`, before the swap. -/
  | swapping
  /-- In `Close`, at the first loop, the last swap, the second loop, the end of the flush thread, the index
      and the header. -/
  | draining | lastSwap | lastDraining | stopping | joining | indexing | completing
  | closed
  deriving DecidableEq, Repr

structure Recording where
  writer : RecordFileWriter
  phase : Phase
  /-- The thread of `Flush` has not returned. -/
  flushThread : Bool

inductive RecordEvent where
  | writeChannel (channel : Channel)
  | writeMessage (message : SingleMessage)
  | close
  /-- The calling thread goes on with the call it is in. -/
  | proceed
  /-- The flush thread writes a chunk. -/
  | flush
  /-- The flush thread finds `is_writing_` unset. -/
  | exit
  deriving DecidableEq, Repr

namespace Recording

variable (pb : Protobuf)

def initial (old : List UInt8) (header : Header) : Recording where
  writer := .create pb old header
  phase := .idle
  flushThread := true

def proceed (state : Recording) : Option Recording :=
  let w := state.writer
  match state.phase with
  | .idle => none
  | .swapping => some { state with writer := w.swapChunks, phase := .idle }
  | .draining => if w.chunkFlush.empty then some { state with phase := .lastSwap } else none
  | .lastSwap => some { state with writer := w.swapChunks, phase := .lastDraining }
  | .lastDraining => if w.chunkFlush.empty then some { state with phase := .stopping } else none
  | .stopping => some { state with writer := { w with isWriting := false }, phase := .joining }
  | .joining => if state.flushThread then none else some { state with phase := .indexing }
  | .indexing => some { state with writer := w.writeIndex pb, phase := .completing }
  | .completing =>
    some { state with writer := w.writeHeader pb { w.header with isComplete := true }, phase := .closed }
  | .closed => none

def step (state : Recording) : RecordEvent → Option Recording
  | .writeChannel channel =>
    if state.phase = .idle then some { state with writer := state.writer.writeChannel pb channel } else none
  | .writeMessage message =>
    if state.phase = .idle then
      let w := state.writer.addMessage message
      some { state with writer := w, phase := if w.needFlush message then .swapping else .idle }
    else none
  | .close => if state.phase = .idle then some { state with phase := .draining } else none
  | .proceed => proceed pb state
  | .flush =>
    if state.flushThread ∧ state.writer.isWriting ∧ state.writer.chunkFlush.empty = false then
      some { state with writer := state.writer.flushChunk pb }
    else none
  | .exit =>
    if state.flushThread ∧ state.writer.isWriting = false then some { state with flushThread := false } else none

/-- Everything that a step can do. -/
inductive Moves (state : Recording) : RecordEvent → Recording → Prop where
  | writeChannel (channel : Channel) (idle : state.phase = .idle) :
    Moves state (.writeChannel channel) { state with writer := state.writer.writeChannel pb channel }
  | writeMessage (message : SingleMessage) (idle : state.phase = .idle) :
    Moves state (.writeMessage message) { state with
      writer := state.writer.addMessage message
      phase := if (state.writer.addMessage message).needFlush message then .swapping else .idle }
  | swap (swapping : state.phase = .swapping) :
    Moves state .proceed { state with writer := state.writer.swapChunks, phase := .idle }
  | flush (full : state.writer.chunkFlush.empty = false) :
    Moves state .flush { state with writer := state.writer.flushChunk pb }
  | close (idle : state.phase = .idle) : Moves state .close { state with phase := .draining }
  | drained (draining : state.phase = .draining) (empty : state.writer.chunkFlush.empty = true) :
    Moves state .proceed { state with phase := .lastSwap }
  | lastSwap (last : state.phase = .lastSwap) :
    Moves state .proceed { state with writer := state.writer.swapChunks, phase := .lastDraining }
  | lastDrained (draining : state.phase = .lastDraining) (empty : state.writer.chunkFlush.empty = true) :
    Moves state .proceed { state with phase := .stopping }
  | stop (stopping : state.phase = .stopping) :
    Moves state .proceed { state with writer := { state.writer with isWriting := false }, phase := .joining }
  | exit : Moves state .exit { state with flushThread := false }
  | join (joining : state.phase = .joining) : Moves state .proceed { state with phase := .indexing }
  | writeIndex (indexing : state.phase = .indexing) :
    Moves state .proceed { state with writer := state.writer.writeIndex pb, phase := .completing }
  | complete (completing : state.phase = .completing) :
    Moves state .proceed { state with
      writer := state.writer.writeHeader pb { state.writer.header with isComplete := true }
      phase := .closed }

theorem proceed_moves {state next : Recording} (taken : proceed pb state = some next) :
    Moves pb state .proceed next := by
  unfold proceed at taken
  cases phase : state.phase with
  | idle => simp [phase] at taken
  | swapping =>
    simp only [phase, Option.some.injEq] at taken
    exact taken ▸ .swap phase
  | draining =>
    simp only [phase, Option.ite_none_right_eq_some, Option.some.injEq] at taken
    exact taken.2 ▸ .drained phase taken.1
  | lastSwap =>
    simp only [phase, Option.some.injEq] at taken
    exact taken ▸ .lastSwap phase
  | lastDraining =>
    simp only [phase, Option.ite_none_right_eq_some, Option.some.injEq] at taken
    exact taken.2 ▸ .lastDrained phase taken.1
  | stopping =>
    simp only [phase, Option.some.injEq] at taken
    exact taken ▸ .stop phase
  | joining =>
    simp only [phase, Option.ite_none_left_eq_some, Option.some.injEq] at taken
    exact taken.2 ▸ .join phase
  | indexing =>
    simp only [phase, Option.some.injEq] at taken
    exact taken ▸ .writeIndex phase
  | completing =>
    simp only [phase, Option.some.injEq] at taken
    exact taken ▸ .complete phase
  | closed => simp [phase] at taken

theorem step_moves {state next : Recording} {event : RecordEvent} (taken : step pb state event = some next) :
    Moves pb state event next := by
  cases event with
  | writeChannel channel =>
    simp only [step, Option.ite_none_right_eq_some, Option.some.injEq] at taken
    exact taken.2 ▸ .writeChannel channel taken.1
  | writeMessage message =>
    simp only [step, Option.ite_none_right_eq_some, Option.some.injEq] at taken
    exact taken.2 ▸ .writeMessage message taken.1
  | close =>
    simp only [step, Option.ite_none_right_eq_some, Option.some.injEq] at taken
    exact taken.2 ▸ .close taken.1
  | proceed => exact proceed_moves pb taken
  | flush =>
    simp only [step, Option.ite_none_right_eq_some, Option.some.injEq] at taken
    exact taken.2 ▸ .flush taken.1.2.2
  | exit =>
    simp only [step, Option.ite_none_right_eq_some, Option.some.injEq] at taken
    exact taken.2 ▸ .exit

end Recording

/-- The messages of the `ChunkBody` sections in file order. -/
def RecordFileWriter.fileMessages (w : RecordFileWriter) : List SingleMessage :=
  w.sections.flatMap fun entry => entry.2.messages

def RecordEvent.message? : RecordEvent → Option SingleMessage
  | .writeMessage message => some message
  | _ => none

def RecordEvent.channel? : RecordEvent → Option Channel
  | .writeChannel channel => some channel
  | _ => none

def writtenMessages (events : List RecordEvent) : List SingleMessage := events.filterMap RecordEvent.message?

def writtenChannels (events : List RecordEvent) : List Channel := events.filterMap RecordEvent.channel?

end CyberRT.Record

import Mathlib.Data.List.Perm.Basic
import CyberRT.Execution.Run
import CyberRT.Record.FileWriter
import CyberRT.Record.Wire

namespace CyberRT.Record

open Execution

namespace RecordFileWriter

variable (pb : Protobuf) (w : RecordFileWriter)

structure SameBuffers (w u : RecordFileWriter) : Prop where
  chunkActive : u.chunkActive = w.chunkActive
  chunkFlush : u.chunkFlush = w.chunkFlush
  channelMessageNumberMap : u.channelMessageNumberMap = w.channelMessageNumberMap

theorem writeChannel_sameBuffers (channel : Channel) : SameBuffers w (w.writeChannel pb channel) := ⟨rfl, rfl, rfl⟩

theorem writeIndex_sameBuffers : SameBuffers w (w.writeIndex pb) := ⟨rfl, rfl, rfl⟩

theorem writeHeader_sameBuffers (header : Header) : SameBuffers w (w.writeHeader pb header) := ⟨rfl, rfl, rfl⟩

@[simp] theorem writeChannel_fileMessages (channel : Channel) :
    (w.writeChannel pb channel).fileMessages = w.fileMessages := by
  simp [writeChannel, writeSection, fileMessages, Payload.messages]

@[simp] theorem writeChannel_messageNumber (channel : Channel) :
    (w.writeChannel pb channel).header.messageNumber = w.header.messageNumber := rfl

@[simp] theorem writeChannel_getMessageNumber (channel : Channel) (name : String) :
    (w.writeChannel pb channel).getMessageNumber name = w.getMessageNumber name := rfl

@[simp] theorem writeChannel_channelNumber (channel : Channel) :
    (w.writeChannel pb channel).header.channelNumber = w.header.channelNumber + 1 := rfl

@[simp] theorem writeChannel_chunkNumber (channel : Channel) :
    (w.writeChannel pb channel).header.chunkNumber = w.header.chunkNumber := rfl

@[simp] theorem writeChannel_sections (channel : Channel) :
    (w.writeChannel pb channel).sections = w.sections ++ [(w.file.pos, .channel channel)] := rfl

@[simp] theorem flushChunk_channelNumber : (w.flushChunk pb).header.channelNumber = w.header.channelNumber := rfl

@[simp] theorem flushChunk_chunkNumber : (w.flushChunk pb).header.chunkNumber = w.header.chunkNumber + 1 := rfl

/-- Where `WriteChunk` puts the body: behind the chunk header. -/
def bodyPosition : Nat := (w.writeSection pb (.chunkHeader w.chunkFlush.header)).file.pos

@[simp] theorem flushChunk_sections : (w.flushChunk pb).sections = w.sections ++
    [(w.file.pos, .chunkHeader w.chunkFlush.header)] ++ [(w.bodyPosition pb, .chunkBody w.chunkFlush.body)] := rfl

theorem flushChunk_index : (w.flushChunk pb).index.indexes = w.index.indexes ++
    [⟨.chunkHeader, w.file.pos, .chunkHeader w.chunkFlush.header⟩,
      ⟨.chunkBody, w.bodyPosition pb, .chunkBody w.chunkFlush.body.messages.length⟩] := rfl

@[simp] theorem writeIndex_messageNumber : (w.writeIndex pb).header.messageNumber = w.header.messageNumber := rfl

@[simp] theorem addMessage_index (message : SingleMessage) : (w.addMessage message).index = w.index := rfl

@[simp] theorem writeIndex_fileMessages : (w.writeIndex pb).fileMessages = w.fileMessages := by
  simp [writeIndex, writeSection, fileMessages, Payload.messages]

@[simp] theorem writeHeader_fileMessages (header : Header) :
    (w.writeHeader pb header).fileMessages = w.fileMessages := rfl

@[simp] theorem flushChunk_fileMessages :
    (w.flushChunk pb).fileMessages = w.fileMessages ++ w.chunkFlush.messages := by
  simp [flushChunk, writeChunk, writeSection, fileMessages, Payload.messages, Chunk.body]

@[simp] theorem flushChunk_chunkFlush : (w.flushChunk pb).chunkFlush = .clear := rfl

@[simp] theorem flushChunk_chunkActive : (w.flushChunk pb).chunkActive = w.chunkActive := rfl

@[simp] theorem swapChunks_fileMessages : w.swapChunks.fileMessages = w.fileMessages := rfl

@[simp] theorem swapChunks_chunkFlush : w.swapChunks.chunkFlush = w.chunkActive := rfl

@[simp] theorem swapChunks_chunkActive : w.swapChunks.chunkActive = w.chunkFlush := rfl

@[simp] theorem flushChunk_messageNumber :
    (w.flushChunk pb).header.messageNumber = w.header.messageNumber + .ofNat w.chunkFlush.messages.length := by
  simp [flushChunk, writeChunk, writeSection, w.chunkFlush.counted]

theorem getMessageNumber_addMessage (message : SingleMessage) (name : String) :
    (w.addMessage message).getMessageNumber name =
      w.getMessageNumber name + if message.channelName = name then 1 else 0 := by
  by_cases same : message.channelName = name
  · subst name
    simp [addMessage, getMessageNumber]
  · have different : name ≠ message.channelName := fun equal => same equal.symm
    simp [addMessage, getMessageNumber, same, different]

def Indexed (index : Index) (name : String) : Prop :=
  ∃ entry ∈ index.indexes, ∃ cache, entry.cache = .channel cache ∧ cache.name = name

theorem indexed_writeChannel (channel : Channel) (name : String) :
    Indexed (w.writeChannel pb channel).index name ↔ Indexed w.index name ∨ channel.name = name := by
  simp only [Indexed, writeChannel, writeSection, List.mem_append, List.mem_singleton]
  constructor
  · intro ⟨entry, member, cache, found, named⟩
    rcases member with old | rfl
    · exact .inl ⟨entry, old, cache, found, named⟩
    · cases found
      exact .inr named
  · intro known
    rcases known with ⟨entry, old, rest⟩ | named
    · exact ⟨entry, .inl old, rest⟩
    · exact ⟨_, .inr rfl, _, rfl, named⟩

theorem indexed_flushChunk (name : String) : Indexed (w.flushChunk pb).index name ↔ Indexed w.index name := by
  simp only [Indexed, flushChunk, writeChunk, writeSection, List.mem_append, List.mem_cons, List.not_mem_nil, or_false]
  constructor
  · intro ⟨entry, member, cache, found, named⟩
    rcases member with old | rfl | rfl
    · exact ⟨entry, old, cache, found, named⟩
    · cases found
    · cases found
  · intro ⟨entry, old, rest⟩
    exact ⟨entry, .inl old, rest⟩

/-- `WriteIndex` keeps the names of the entries and gives each its number of messages. -/
theorem setMessageNumber_channel {entry : SingleIndex} {cache : ChannelCache}
    (found : (w.setMessageNumber entry).cache = .channel cache) :
    ∃ old, entry.cache = .channel old ∧ cache.name = old.name ∧
      cache.messageNumber = (w.channelMessageNumberMap cache.name).getD old.messageNumber := by
  unfold setMessageNumber at found
  split at found
  · rename_i old known
    split at found
    · rename_i number counted
      cases found
      exact ⟨old, known, rfl, by simp [counted]⟩
    · rename_i absent
      rw [known] at found
      cases found
      exact ⟨cache, known, rfl, by simp [absent]⟩
  · rename_i other
    exact absurd found (other cache)

theorem setMessageNumber_name {entry : SingleIndex} {cache : ChannelCache} (found : entry.cache = .channel cache) :
    ∃ numbered, (w.setMessageNumber entry).cache = .channel numbered ∧ numbered.name = cache.name := by
  unfold setMessageNumber
  rw [found]
  cases counted : w.channelMessageNumberMap cache.name with
  | none => exact ⟨cache, by simp [counted, found], rfl⟩
  | some number => exact ⟨{ cache with messageNumber := number }, by simp [counted], rfl⟩

def Numbers (index : Index) (number : String → Nat) : Prop :=
  ∀ entry ∈ index.indexes, ∀ cache, entry.cache = .channel cache → cache.messageNumber = number cache.name

theorem numbers_writeChannel {channel : Channel} (zero : Numbers w.index fun _ => 0) :
    Numbers (w.writeChannel pb channel).index fun _ => 0 := by
  intro entry member cache found
  simp only [writeChannel, writeSection, List.mem_append, List.mem_singleton] at member
  rcases member with old | rfl
  · exact zero entry old cache found
  · cases found
    rfl

theorem numbers_flushChunk (zero : Numbers w.index fun _ => 0) : Numbers (w.flushChunk pb).index fun _ => 0 := by
  intro entry member cache found
  simp only [flushChunk, writeChunk, writeSection, List.mem_append, List.mem_cons, List.not_mem_nil, or_false] at member
  rcases member with old | rfl | rfl
  · exact zero entry old cache found
  · cases found
  · cases found

theorem numbers_writeIndex (zero : Numbers w.index fun _ => 0) :
    Numbers (w.writeIndex pb).index w.getMessageNumber := by
  intro entry member cache found
  simp only [writeIndex, writeSection, List.mem_map] at member
  obtain ⟨original, present, rfl⟩ := member
  obtain ⟨old, known, named, numbered⟩ := w.setMessageNumber_channel found
  rw [numbered, zero original present old known]
  rfl

theorem indexed_writeIndex (name : String) : Indexed (w.writeIndex pb).index name ↔ Indexed w.index name := by
  simp only [Indexed, writeIndex, writeSection, List.mem_map]
  constructor
  · intro ⟨entry, ⟨original, present, same⟩, cache, found, named⟩
    subst same
    obtain ⟨old, known, renamed, _⟩ := w.setMessageNumber_channel found
    exact ⟨original, present, old, known, renamed ▸ named⟩
  · intro ⟨entry, present, cache, found, named⟩
    obtain ⟨numbered, set, renamed⟩ := w.setMessageNumber_name found
    exact ⟨_, ⟨entry, present, rfl⟩, numbered, set, renamed.trans named⟩

end RecordFileWriter

def Phase.flushDrained : Phase → Bool
  | .lastSwap | .stopping | .joining | .indexing | .completing | .closed => true
  | _ => false

def Phase.activeDrained : Phase → Bool
  | .lastDraining | .stopping | .joining | .indexing | .completing | .closed => true
  | _ => false

def Phase.indexWritten : Phase → Bool
  | .completing | .closed => true
  | _ => false

namespace Recording

open RecordFileWriter

structure Drains (state : Recording) : Prop where
  flush : state.phase.flushDrained = true → state.writer.chunkFlush.messages = []
  active : state.phase.activeDrained = true → state.writer.chunkActive.messages = []

theorem Drains.step {pb : Protobuf} {state next : Recording} {event : RecordEvent} (drains : Drains state)
    (moves : Moves pb state event next) : Drains next := by
  cases moves with
  | writeChannel channel idle => exact ⟨drains.flush, drains.active⟩
  | writeMessage message idle =>
    constructor
    · simp only
      split <;> simp [Phase.flushDrained]
    · simp only
      split <;> simp [Phase.activeDrained]
  | swap swapping => exact ⟨by simp [Phase.flushDrained], by simp [Phase.activeDrained]⟩
  | flush full =>
    refine ⟨fun _ => rfl, ?_⟩
    exact drains.active
  | close idle => exact ⟨by simp [Phase.flushDrained], by simp [Phase.activeDrained]⟩
  | drained draining empty => exact ⟨fun _ => (Chunk.empty_iff _).mp empty, by simp [Phase.activeDrained]⟩
  | lastSwap last =>
    refine ⟨by simp [Phase.flushDrained], fun _ => drains.flush ?_⟩
    simp [last, Phase.flushDrained]
  | lastDrained draining empty =>
    refine ⟨fun _ => (Chunk.empty_iff _).mp empty, fun _ => drains.active ?_⟩
    simp [draining, Phase.activeDrained]
  | stop stopping =>
    exact ⟨fun _ => drains.flush (by simp [stopping, Phase.flushDrained]),
      fun _ => drains.active (by simp [stopping, Phase.activeDrained])⟩
  | exit => exact ⟨drains.flush, drains.active⟩
  | join joining =>
    exact ⟨fun _ => drains.flush (by simp [joining, Phase.flushDrained]),
      fun _ => drains.active (by simp [joining, Phase.activeDrained])⟩
  | writeIndex indexing =>
    exact ⟨fun _ => drains.flush (by simp [indexing, Phase.flushDrained]),
      fun _ => drains.active (by simp [indexing, Phase.activeDrained])⟩
  | complete completing =>
    exact ⟨fun _ => drains.flush (by simp [completing, Phase.flushDrained]),
      fun _ => drains.active (by simp [completing, Phase.activeDrained])⟩

theorem Drains.writing {state : Recording} (drains : Drains state) (full : state.writer.chunkFlush.empty = false) :
    state.phase.indexWritten = false := by
  by_contra written
  have drained : state.phase.flushDrained = true := by
    cases phase : state.phase <;> simp_all [Phase.indexWritten, Phase.flushDrained]
  have empty := (Chunk.empty_iff _).mpr (drains.flush drained)
  simp [empty] at full

theorem initial_drains (pb : Protobuf) (old : List UInt8) (header : Header) : Drains (initial pb old header) :=
  ⟨fun _ => rfl, fun _ => rfl⟩

/-- The messages of the file, of the chunk that waits for the flush thread and of the active chunk. -/
def held (state : Recording) : List SingleMessage :=
  state.writer.fileMessages ++ state.writer.chunkFlush.messages ++ state.writer.chunkActive.messages

/-- `WriteMessage` swaps the chunks only when the flush thread has emptied its own. -/
def SwapsEmpty (state : Recording) (event : RecordEvent) : Prop :=
  event = .proceed → state.phase = .swapping → state.writer.chunkFlush.empty = true

instance decidableSwapsEmpty (state : Recording) (event : RecordEvent) : Decidable (SwapsEmpty state event) :=
  inferInstanceAs (Decidable (event = .proceed → state.phase = .swapping → state.writer.chunkFlush.empty = true))

theorem held_swap_perm (w : RecordFileWriter) :
    (w.fileMessages ++ w.chunkActive.messages ++ w.chunkFlush.messages).Perm
      (w.fileMessages ++ w.chunkFlush.messages ++ w.chunkActive.messages) := by
  rw [List.append_assoc, List.append_assoc]
  exact List.perm_append_comm.append_left _

theorem held_step_eq {pb : Protobuf} {state next : Recording} {event : RecordEvent} (drains : Drains state)
    (orderly : SwapsEmpty state event) (moves : Moves pb state event next) :
    next.held = state.held ++ event.message?.toList := by
  cases moves with
  | writeChannel channel idle => simp [held, RecordEvent.message?, (writeChannel_sameBuffers pb _ channel).chunkFlush,
      (writeChannel_sameBuffers pb _ channel).chunkActive]
  | writeMessage message idle => simp [held, RecordEvent.message?, addMessage, fileMessages]
  | swap swapping =>
    have empty := (Chunk.empty_iff _).mp (orderly rfl swapping)
    simp [held, RecordEvent.message?, empty]
  | lastSwap last =>
    have empty := drains.flush (by simp [last, Phase.flushDrained])
    simp [held, RecordEvent.message?, empty]
  | flush full => simp [held, RecordEvent.message?]
  | writeIndex indexing => simp [held, RecordEvent.message?, (writeIndex_sameBuffers pb _).chunkFlush,
      (writeIndex_sameBuffers pb _).chunkActive]
  | complete completing => simp [held, RecordEvent.message?, (writeHeader_sameBuffers pb _ _).chunkFlush,
      (writeHeader_sameBuffers pb _ _).chunkActive]
  | close idle => simp [held, RecordEvent.message?]
  | drained draining empty => simp [held, RecordEvent.message?]
  | lastDrained draining empty => simp [held, RecordEvent.message?]
  | stop stopping => simp [held, RecordEvent.message?, fileMessages]
  | exit => simp [held, RecordEvent.message?]
  | join joining => simp [held, RecordEvent.message?]

theorem held_step_perm {pb : Protobuf} {state next : Recording} {event : RecordEvent} (drains : Drains state)
    (moves : Moves pb state event next) : next.held.Perm (state.held ++ event.message?.toList) := by
  by_cases orderly : SwapsEmpty state event
  · rw [held_step_eq drains orderly moves]
  · simp only [SwapsEmpty, Classical.not_imp] at orderly
    obtain ⟨rfl, swapping, _⟩ := orderly
    cases moves with
    | swap _ => simpa [held, RecordEvent.message?] using held_swap_perm state.writer
    | drained other _ => simp [swapping] at other
    | lastSwap other => simp [swapping] at other
    | lastDrained other _ => simp [swapping] at other
    | stop other => simp [swapping] at other
    | join other => simp [swapping] at other
    | writeIndex other => simp [swapping] at other
    | complete other => simp [swapping] at other

theorem writtenMessages_snoc (past : List RecordEvent) (event : RecordEvent) :
    writtenMessages (past ++ [event]) = writtenMessages past ++ event.message?.toList := by
  simp only [writtenMessages, List.filterMap_append]
  cases found : event.message? <;> simp [found]

theorem Drains.held_closed {state : Recording} (drains : Drains state) (closed : state.phase = .closed) :
    state.held = state.writer.fileMessages := by
  have flush := drains.flush (by simp [closed, Phase.flushDrained])
  have active := drains.active (by simp [closed, Phase.activeDrained])
  simp [held, flush, active]

/-- Where every full chunk finds the other one empty, the file keeps the order of the writes. -/
theorem file_order_is_write_order (pb : Protobuf) (old : List UInt8) (header : Header) (events : List RecordEvent)
    (final : Recording) (orderly : Meets (step pb) SwapsEmpty (initial pb old header) events)
    (ran : run (step pb) (initial pb old header) events = some final) (closed : final.phase = .closed) :
    final.writer.fileMessages = writtenMessages events := by
  have kept : Drains final ∧ final.held = writtenMessages events := by
    refine Meets.invariant (fun state past => Drains state ∧ state.held = writtenMessages past) []
      ?_ ⟨initial_drains pb old header, rfl⟩ orderly ran
    intro state past event next orderly taken ⟨drains, content⟩
    have moves := step_moves pb taken
    exact ⟨drains.step moves, by rw [held_step_eq drains orderly moves, content, writtenMessages_snoc]⟩
  rw [← kept.1.held_closed closed, kept.2]

def smallChunks : Header := { chunkRawSize := 1 }

def sample (time : UInt64) : SingleMessage := ⟨"/chatter", time, [0, 0]⟩

/-- The steps of `Close` once the flush thread is idle, with and without a last chunk to flush. -/
def closeEmpty : List RecordEvent :=
  [.close, .proceed, .proceed, .proceed, .proceed, .exit, .proceed, .proceed, .proceed]

def closeFlushing : List RecordEvent :=
  [.close, .proceed, .proceed, .flush, .proceed, .proceed, .exit, .proceed, .proceed, .proceed]

/-- The flush thread writes every chunk before the next one is full. -/
def promptFlush : List RecordEvent :=
  [.writeChannel ⟨"/chatter", "Chatter", []⟩, .writeMessage (sample 1), .proceed, .flush, .writeMessage (sample 2),
    .proceed, .flush] ++ closeEmpty

/-- Two chunks are full before the flush thread runs. -/
def lateFlush : List RecordEvent :=
  [.writeChannel ⟨"/chatter", "Chatter", []⟩, .writeMessage (sample 1), .proceed, .writeMessage (sample 2), .proceed,
    .flush] ++ closeFlushing

theorem promptFlush_in_order : ∃ final,
    run (step Wire.recordProto) (initial Wire.recordProto [] smallChunks) promptFlush = some final ∧
      final.writer.fileMessages = [sample 1, sample 2] :=
  ⟨_, rfl, file_order_is_write_order Wire.recordProto [] smallChunks promptFlush _ (by decide) rfl rfl⟩

/-- The second full chunk is swapped in front of the first one. -/
theorem lateFlush_out_of_order : ∃ final,
    run (step Wire.recordProto) (initial Wire.recordProto [] smallChunks) lateFlush = some final ∧
      final.phase = .closed ∧ writtenMessages lateFlush = [sample 1, sample 2] ∧
      final.writer.fileMessages = [sample 2, sample 1] :=
  ⟨_, rfl, rfl, rfl, rfl⟩

theorem writtenChannels_snoc (past : List RecordEvent) (event : RecordEvent) :
    writtenChannels (past ++ [event]) = writtenChannels past ++ event.channel?.toList := by
  simp only [writtenChannels, List.filterMap_append]
  cases found : event.channel? <;> simp [found]

/-- The numbers of the channels agree with the calls made so far. -/
structure Counts (state : Recording) (past : List RecordEvent) : Prop where
  numbers : ∀ name, state.writer.getMessageNumber name =
    (writtenMessages past).countP fun message => message.channelName = name
  indexed : ∀ name, Indexed state.writer.index name ↔ ∃ channel ∈ writtenChannels past, channel.name = name
  unnumbered : state.phase.indexWritten = false → Numbers state.writer.index fun _ => 0
  numbered : state.phase.indexWritten = true → Numbers state.writer.index state.writer.getMessageNumber ∧
    ∃ position, state.writer.sections.getLast? = some (position, .index state.writer.index)

theorem Counts.quiet {state : Recording} {past : List RecordEvent} {event : RecordEvent} (counts : Counts state past)
    (noMessage : event.message? = none) (noChannel : event.channel? = none) : Counts state (past ++ [event]) := by
  refine ⟨?_, ?_, counts.unnumbered, counts.numbered⟩
  · intro name
    rw [writtenMessages_snoc, noMessage, Option.toList_none, List.append_nil]
    exact counts.numbers name
  · intro name
    rw [writtenChannels_snoc, noChannel, Option.toList_none, List.append_nil]
    exact counts.indexed name

theorem Counts.phase {state : Recording} {past : List RecordEvent} (counts : Counts state past) (writer : RecordFileWriter)
    (phase : Phase) (thread : Bool) {event : RecordEvent}
    (noMessage : event.message? = none) (noChannel : event.channel? = none)
    (before : state.phase.indexWritten = false) (after : phase.indexWritten = false)
    (same : writer.index = state.writer.index ∧
      writer.channelMessageNumberMap = state.writer.channelMessageNumberMap) :
    Counts ⟨writer, phase, thread⟩ (past ++ [event]) := by
  obtain ⟨index, map⟩ := same
  apply Counts.quiet _ noMessage noChannel
  refine ⟨?_, ?_, ?_, ?_⟩
  · simpa [getMessageNumber, map] using counts.numbers
  · simpa [index] using counts.indexed
  · simpa [index] using fun _ => counts.unnumbered before
  · simp [after]

theorem Counts.writeChannel {pb : Protobuf} {state : Recording} {past : List RecordEvent} (counts : Counts state past)
    (channel : Channel) (idle : state.phase = .idle) :
    Counts { state with writer := state.writer.writeChannel pb channel } (past ++ [.writeChannel channel]) := by
  refine ⟨?_, ?_, ?_, ?_⟩
  · intro name
    rw [writtenMessages_snoc]
    simpa [RecordEvent.message?] using counts.numbers name
  · intro name
    rw [writtenChannels_snoc, indexed_writeChannel, counts.indexed]
    simp [RecordEvent.channel?, or_and_right, exists_or]
  · intro before
    exact numbers_writeChannel pb _ (counts.unnumbered before)
  · simp [idle, Phase.indexWritten]

theorem Counts.writeMessage {state : Recording} {past : List RecordEvent} (counts : Counts state past)
    (message : SingleMessage) (phase : Phase) (idle : state.phase = .idle) (next : phase = .swapping ∨ phase = .idle) :
    Counts { state with writer := state.writer.addMessage message, phase := phase }
      (past ++ [.writeMessage message]) := by
  have before : state.phase.indexWritten = false := by simp [idle, Phase.indexWritten]
  have after : phase.indexWritten = false := by
    rcases next with rfl | rfl <;> rfl
  refine ⟨?_, ?_, fun _ => counts.unnumbered before, ?_⟩
  · intro name
    rw [getMessageNumber_addMessage, counts.numbers, writtenMessages_snoc, List.countP_append]
    simp [RecordEvent.message?, List.countP_cons]
  · intro name
    rw [writtenChannels_snoc]
    simpa [RecordEvent.channel?] using counts.indexed name
  · simp [after]

theorem Counts.flush {pb : Protobuf} {state : Recording} {past : List RecordEvent} (counts : Counts state past)
    (drains : Drains state) (full : state.writer.chunkFlush.empty = false) :
    Counts { state with writer := state.writer.flushChunk pb } past := by
  have writing := drains.writing full
  refine ⟨counts.numbers, ?_, fun _ => numbers_flushChunk pb _ (counts.unnumbered writing), ?_⟩
  · intro name
    rw [indexed_flushChunk, counts.indexed]
  · simp [writing]

theorem Counts.writeIndex {pb : Protobuf} {state : Recording} {past : List RecordEvent} (counts : Counts state past)
    (indexing : state.phase = .indexing) :
    Counts { state with writer := state.writer.writeIndex pb, phase := .completing } past := by
  have before : state.phase.indexWritten = false := by simp [indexing, Phase.indexWritten]
  refine ⟨counts.numbers, ?_, by simp [Phase.indexWritten], fun _ => ⟨?_, ?_⟩⟩
  · intro name
    rw [indexed_writeIndex, counts.indexed]
  · exact numbers_writeIndex pb _ (counts.unnumbered before)
  · exact ⟨state.writer.file.pos, by simp [RecordFileWriter.writeIndex, writeSection]⟩

theorem Counts.complete {pb : Protobuf} {state : Recording} {past : List RecordEvent} (counts : Counts state past)
    (completing : state.phase = .completing) :
    Counts { state with
      writer := state.writer.writeHeader pb { state.writer.header with isComplete := true }
      phase := .closed } past := by
  have written : state.phase.indexWritten = true := by simp [completing, Phase.indexWritten]
  exact ⟨counts.numbers, counts.indexed, by simp [Phase.indexWritten], fun _ => counts.numbered written⟩

theorem Counts.step {pb : Protobuf} {state next : Recording} {past : List RecordEvent} {event : RecordEvent}
    (counts : Counts state past) (drains : Drains state) (moves : Moves pb state event next) :
    Counts next (past ++ [event]) := by
  cases moves with
  | writeChannel channel idle => exact counts.writeChannel channel idle
  | writeMessage message idle =>
    apply counts.writeMessage message _ idle
    split
    · exact .inl rfl
    · exact .inr rfl
  | flush full => exact (counts.flush drains full).quiet rfl rfl
  | writeIndex indexing => exact (counts.writeIndex indexing).quiet rfl rfl
  | complete completing => exact (counts.complete completing).quiet rfl rfl
  | exit => exact Counts.quiet ⟨counts.numbers, counts.indexed, counts.unnumbered, counts.numbered⟩ rfl rfl
  | swap swapping => exact counts.phase _ _ _ rfl rfl (by simp [swapping, Phase.indexWritten]) rfl ⟨rfl, rfl⟩
  | close idle => exact counts.phase _ _ _ rfl rfl (by simp [idle, Phase.indexWritten]) rfl ⟨rfl, rfl⟩
  | drained draining empty =>
    exact counts.phase _ _ _ rfl rfl (by simp [draining, Phase.indexWritten]) rfl ⟨rfl, rfl⟩
  | lastSwap last => exact counts.phase _ _ _ rfl rfl (by simp [last, Phase.indexWritten]) rfl ⟨rfl, rfl⟩
  | lastDrained draining empty =>
    exact counts.phase _ _ _ rfl rfl (by simp [draining, Phase.indexWritten]) rfl ⟨rfl, rfl⟩
  | stop stopping => exact counts.phase _ _ _ rfl rfl (by simp [stopping, Phase.indexWritten]) rfl ⟨rfl, rfl⟩
  | join joining => exact counts.phase _ _ _ rfl rfl (by simp [joining, Phase.indexWritten]) rfl ⟨rfl, rfl⟩

theorem initial_counts (pb : Protobuf) (old : List UInt8) (header : Header) : Counts (initial pb old header) [] where
  numbers := fun _ => rfl
  indexed := by simp [Indexed, initial, create, RecordFileWriter.writeHeader, writeSection, writtenChannels]
  unnumbered := by simp [Numbers, initial, create, RecordFileWriter.writeHeader, writeSection]
  numbered := by simp [initial, Phase.indexWritten]

theorem counts_run {pb : Protobuf} {old : List UInt8} {header : Header} {events : List RecordEvent}
    {final : Recording} (ran : run (step pb) (initial pb old header) events = some final) : Counts final events := by
  have held : Drains final ∧ Counts final events := by
    refine run_invariant (fun state past => Drains state ∧ Counts state past) ?_
      ⟨initial_drains pb old header, initial_counts pb old header⟩ ran
    intro state past event next taken ⟨drains, counts⟩
    have moves := step_moves pb taken
    exact ⟨drains.step moves, counts.step drains moves⟩
  exact held.2

/-- The header counts the messages of the file, and `Close` writes that number. -/
structure Totals (state : Recording) : Prop where
  total : state.writer.header.messageNumber = .ofNat state.writer.fileMessages.length
  completed : state.phase = .closed → state.writer.headerSection.messageNumber = state.writer.header.messageNumber

theorem Totals.step {pb : Protobuf} {state next : Recording} {event : RecordEvent} (totals : Totals state)
    (drains : Drains state) (moves : Moves pb state event next) : Totals next := by
  cases moves with
  | writeChannel channel idle => exact ⟨by simpa using totals.total, by simp [idle]⟩
  | writeMessage message idle =>
    refine ⟨totals.total, ?_⟩
    simp only
    split <;> simp
  | flush full =>
    have writing := drains.writing full
    refine ⟨?_, ?_⟩
    · simp only [flushChunk_messageNumber, flushChunk_fileMessages, totals.total, List.length_append]
      exact (UInt64.ofNat_add _ _).symm
    · intro closed
      simp [show state.phase = .closed from closed, Phase.indexWritten] at writing
  | writeIndex indexing => exact ⟨by simpa using totals.total, by simp⟩
  | complete completing => exact ⟨totals.total, fun _ => rfl⟩
  | exit => exact ⟨totals.total, totals.completed⟩
  | swap swapping => exact ⟨totals.total, by simp⟩
  | close idle => exact ⟨totals.total, by simp⟩
  | drained draining empty => exact ⟨totals.total, by simp⟩
  | lastSwap last => exact ⟨totals.total, by simp⟩
  | lastDrained draining empty => exact ⟨totals.total, by simp⟩
  | stop stopping => exact ⟨totals.total, by simp⟩
  | join joining => exact ⟨totals.total, by simp⟩

theorem totals_run {pb : Protobuf} {old : List UInt8} {header : Header} {events : List RecordEvent}
    {final : Recording} (fresh : header.messageNumber = 0)
    (ran : run (step pb) (initial pb old header) events = some final) : Totals final := by
  have held : Drains final ∧ Totals final := by
    refine run_invariant (fun state _ => Drains state ∧ Totals state) ?_
      ⟨initial_drains pb old header, fresh, by simp [initial]⟩ ran
    intro state past event next taken ⟨drains, totals⟩
    have moves := step_moves pb taken
    exact ⟨drains.step moves, totals.step drains moves⟩
  exact held.2

/-- No message is lost or doubled on its way to the file. -/
theorem held_written {pb : Protobuf} {old : List UInt8} {header : Header} {events : List RecordEvent}
    {final : Recording} (ran : run (step pb) (initial pb old header) events = some final) :
    Drains final ∧ final.held.Perm (writtenMessages events) := by
  refine run_invariant (fun state past => Drains state ∧ state.held.Perm (writtenMessages past)) ?_
    ⟨initial_drains pb old header, List.Perm.nil⟩ ran
  intro state past event next taken ⟨drains, content⟩
  have moves := step_moves pb taken
  refine ⟨drains.step moves, ?_⟩
  rw [writtenMessages_snoc]
  exact (held_step_perm drains moves).trans (content.append_right _)

/-- Whatever the flush thread does between the calls, the closed file holds the messages that were written,
    and its header and its index count them. -/
theorem closed_file_holds_written (pb : Protobuf) (old : List UInt8) (header : Header)
    (fresh : header.messageNumber = 0) (events : List RecordEvent) (final : Recording)
    (ran : run (step pb) (initial pb old header) events = some final) (closed : final.phase = .closed) :
    final.writer.fileMessages.Perm (writtenMessages events) ∧
    final.writer.headerSection.messageNumber = .ofNat (writtenMessages events).length ∧
    ∃ position index, final.writer.sections.getLast? = some (position, .index index) ∧
      (∀ channel ∈ writtenChannels events, Indexed index channel.name) ∧
      Numbers index fun name => (writtenMessages events).countP fun message => message.channelName = name := by
  obtain ⟨drains, content⟩ := held_written ran
  have counts := counts_run ran
  have totals := totals_run fresh ran
  rw [drains.held_closed closed] at content
  obtain ⟨numbers, position, last⟩ := counts.numbered (by simp [closed, Phase.indexWritten])
  refine ⟨content, ?_, position, final.writer.index, last, ?_, ?_⟩
  · rw [totals.completed closed, totals.total, content.length_eq]
  · intro channel member
    exact (counts.indexed channel.name).mpr ⟨channel, member, rfl⟩
  · intro entry member cache found
    rw [numbers entry member cache found, counts.numbers]

theorem lateFlush_holds_written : ∃ final,
    run (step Wire.recordProto) (initial Wire.recordProto [] smallChunks) lateFlush = some final ∧
      final.writer.fileMessages.Perm [sample 1, sample 2] ∧ final.writer.headerSection.messageNumber = 2 := by
  have held := closed_file_holds_written Wire.recordProto [] smallChunks rfl lateFlush _ rfl rfl
  exact ⟨_, rfl, held.1, held.2.1⟩

end Recording

end CyberRT.Record

import CyberRT.Record.Conservation

namespace CyberRT.Record

open Execution

variable (pb : Protobuf)

def sectionBytes (payload : Payload) : List UInt8 :=
  sectionHead payload.type (pb.serialize payload).length ++ pb.serialize payload

theorem length_sectionBytes (payload : Payload) :
    (sectionBytes pb payload).length = sectionSize + (pb.serialize payload).length := by
  simp [sectionBytes]

def headerBlock (header : Header) : List UInt8 :=
  sectionBytes pb (.header header) ++ blank.take (headerLength - (pb.header.serialize header).length)

theorem length_headerBlock (header : Header) : (headerBlock pb header).length = sectionSize + headerLength := by
  have fits := pb.header_fits header
  rw [headerBlock, List.length_append, length_sectionBytes, List.length_take, length_blank, Protobuf.serialize]
  omega

/-- The sections follow one another without gaps from the offset on. -/
def Placed : Nat → List (Nat × Payload) → Prop
  | _, [] => True
  | start, (position, payload) :: rest =>
    position = start ∧ Placed (start + (sectionBytes pb payload).length) rest

def layoutBytes (sections : List (Nat × Payload)) : List UInt8 := sections.flatMap fun entry => sectionBytes pb entry.2

theorem layoutBytes_append (first second : List (Nat × Payload)) :
    layoutBytes pb (first ++ second) = layoutBytes pb first ++ layoutBytes pb second := List.flatMap_append

theorem placed_append {start : Nat} {sections : List (Nat × Payload)} (placed : Placed pb start sections)
    (payload : Payload) :
    Placed pb start (sections ++ [(start + (layoutBytes pb sections).length, payload)]) := by
  induction sections generalizing start with
  | nil => exact ⟨by simp [layoutBytes], trivial⟩
  | cons entry rest ih =>
    obtain ⟨here, later⟩ := placed
    refine ⟨here, ?_⟩
    have extended := ih later
    simp only [layoutBytes, List.flatMap_cons, List.length_append] at extended ⊢
    rwa [← Nat.add_assoc]

theorem placed_split {start : Nat} {sections : List (Nat × Payload)} (placed : Placed pb start sections)
    {position : Nat} {payload : Payload} (member : (position, payload) ∈ sections) :
    ∃ before after, layoutBytes pb sections = before ++ sectionBytes pb payload ++ after ∧
      position = start + before.length := by
  induction sections generalizing start with
  | nil => cases member
  | cons entry rest ih =>
    obtain ⟨here, later⟩ := placed
    rcases List.mem_cons.mp member with same | further
    · cases same
      exact ⟨[], layoutBytes pb rest, by simp [layoutBytes], by simpa using here⟩
    · obtain ⟨before, after, split, offset⟩ := ih later further
      refine ⟨sectionBytes pb entry.2 ++ before, after, ?_, ?_⟩
      · simp only [layoutBytes, List.flatMap_cons] at split ⊢
        rw [split]
        simp only [List.append_assoc]
      · rw [offset, List.length_append]
        omega

theorem placed_le {start : Nat} {sections : List (Nat × Payload)} (placed : Placed pb start sections)
    {entry : Nat × Payload} (member : entry ∈ sections) : start ≤ entry.1 := by
  obtain ⟨before, _, _, offset⟩ := placed_split pb placed member
  omega

theorem placed_nodup {start : Nat} {sections : List (Nat × Payload)} (placed : Placed pb start sections) :
    (sections.map Prod.fst).Nodup := by
  induction sections generalizing start with
  | nil => exact List.nodup_nil
  | cons entry rest ih =>
    obtain ⟨here, later⟩ := placed
    refine List.nodup_cons.mpr ⟨?_, ih later⟩
    intro repeated
    obtain ⟨other, member, same⟩ := List.mem_map.mp repeated
    have further := placed_le pb later member
    rw [length_sectionBytes] at further
    simp only [sectionSize] at further
    omega

def SectionAt (bytes : List UInt8) (position : Nat) (payload : Payload) : Prop :=
  (bytes.drop position).take (sectionBytes pb payload).length = sectionBytes pb payload

namespace RecordFileWriter

/-- What stands in the file. -/
structure Layout (w : RecordFileWriter) : Prop where
  bytes : ∃ rest, w.file.bytes = headerBlock pb w.headerSection ++ layoutBytes pb w.sections ++ rest
  placed : Placed pb (sectionSize + headerLength) w.sections

def AtEnd (w : RecordFileWriter) : Prop :=
  w.file.pos = sectionSize + headerLength + (layoutBytes pb w.sections).length

variable {pb}

theorem Layout.appended {w : RecordFileWriter} (layout : Layout pb w) (atEnd : AtEnd pb w) (payload : Payload) :
    let file := (w.file.write (sectionHead payload.type (pb.serialize payload).length)).write (pb.serialize payload)
    (∃ rest, file.bytes = headerBlock pb w.headerSection ++
      layoutBytes pb (w.sections ++ [(w.file.pos, payload)]) ++ rest) ∧
    Placed pb (sectionSize + headerLength) (w.sections ++ [(w.file.pos, payload)]) ∧
    file.pos = sectionSize + headerLength + (layoutBytes pb (w.sections ++ [(w.file.pos, payload)])).length := by
  obtain ⟨rest, content⟩ := layout.bytes
  have here : w.file.pos = (headerBlock pb w.headerSection ++ layoutBytes pb w.sections).length := by
    rw [List.length_append, length_headerBlock]
    exact atEnd
  have inside : w.file.pos ≤ w.file.bytes.length := by
    rw [content, List.length_append, here]
    omega
  have single : layoutBytes pb [(w.file.pos, payload)] = sectionBytes pb payload := by simp [layoutBytes]
  refine ⟨⟨rest.drop (sectionBytes pb payload).length, ?_⟩, ?_, ?_⟩
  · rw [Bytes.File.write_write _ _ _ inside, ← sectionBytes, Bytes.File.write_bytes content here, layoutBytes_append,
      single]
    simp only [List.append_assoc]
  · have extended := placed_append pb layout.placed payload
    rwa [← atEnd] at extended
  · rw [Bytes.File.write_pos, Bytes.File.write_pos, layoutBytes_append, single, atEnd, List.length_append,
      length_sectionBytes, length_sectionHead]
    omega

theorem Layout.sectionAt {w : RecordFileWriter} (layout : Layout pb w) {position : Nat} {payload : Payload}
    (member : (position, payload) ∈ w.sections) : SectionAt pb w.file.bytes position payload := by
  obtain ⟨rest, content⟩ := layout.bytes
  obtain ⟨before, after, split, offset⟩ := placed_split pb layout.placed member
  have here : (headerBlock pb w.headerSection ++ before).length = position := by
    rw [List.length_append, length_headerBlock, offset]
  have shape : w.file.bytes = headerBlock pb w.headerSection ++ before ++ (sectionBytes pb payload ++ (after ++ rest)) := by
    rw [content, split]
    simp only [List.append_assoc]
  rw [SectionAt, shape, ← here, List.drop_left, List.take_left]

theorem Layout.headerAt {w : RecordFileWriter} (layout : Layout pb w) :
    SectionAt pb w.file.bytes 0 (.header w.headerSection) := by
  obtain ⟨rest, content⟩ := layout.bytes
  rw [SectionAt, List.drop_zero, content, headerBlock, List.append_assoc, List.append_assoc, List.take_left]

theorem writeHeader_file (w : RecordFileWriter) (header : Header) :
    (w.writeHeader pb header).file = (w.file.seek 0).write (headerBlock pb header) := by
  have start : (w.file.seek 0).pos ≤ (w.file.seek 0).bytes.length := Nat.zero_le _
  simp only [writeHeader, writeSection]
  rw [Bytes.File.write_write _ _ _ start, Bytes.File.write_write _ _ _ start]
  rfl

theorem writeHeader_bytes (w : RecordFileWriter) (header : Header) :
    (w.writeHeader pb header).file.bytes =
      headerBlock pb header ++ w.file.bytes.drop (sectionSize + headerLength) := by
  rw [writeHeader_file, Bytes.File.write_bytes (List.nil_append _).symm rfl, length_headerBlock]
  rfl

theorem Layout.writeHeader {w : RecordFileWriter} (layout : Layout pb w) (header : Header) :
    Layout pb (w.writeHeader pb header) := by
  obtain ⟨rest, content⟩ := layout.bytes
  refine ⟨⟨rest, ?_⟩, layout.placed⟩
  rw [writeHeader_bytes, content, List.append_assoc, ← length_headerBlock pb w.headerSection, List.drop_left]
  simp only [List.append_assoc]
  rfl

theorem Layout.writeChannel {w : RecordFileWriter} (layout : Layout pb w) (atEnd : AtEnd pb w) (channel : Channel) :
    Layout pb (w.writeChannel pb channel) ∧ AtEnd pb (w.writeChannel pb channel) := by
  obtain ⟨bytes, placed, pos⟩ := layout.appended atEnd (.channel channel)
  exact ⟨⟨bytes, placed⟩, pos⟩

theorem Layout.writeIndex {w : RecordFileWriter} (layout : Layout pb w) (atEnd : AtEnd pb w) :
    Layout pb (w.writeIndex pb) ∧ AtEnd pb (w.writeIndex pb) := by
  obtain ⟨bytes, placed, pos⟩ := layout.appended atEnd (.index ⟨w.index.indexes.map w.setMessageNumber⟩)
  exact ⟨⟨bytes, placed⟩, pos⟩

theorem Layout.flushChunk {w : RecordFileWriter} (layout : Layout pb w) (atEnd : AtEnd pb w) :
    Layout pb (w.flushChunk pb) ∧ AtEnd pb (w.flushChunk pb) := by
  obtain ⟨bytes, placed, pos⟩ := layout.appended atEnd (.chunkHeader w.chunkFlush.header)
  have headed : Layout pb (w.writeSection pb (.chunkHeader w.chunkFlush.header)) := ⟨bytes, placed⟩
  obtain ⟨bytes, placed, pos⟩ := headed.appended pos (.chunkBody w.chunkFlush.body)
  exact ⟨⟨bytes, placed⟩, pos⟩

end RecordFileWriter

namespace Recording

open RecordFileWriter

/-- The file is laid out as the log of sections says, and open at its end until the header is rewritten. -/
structure Lays (pb : Protobuf) (state : Recording) : Prop where
  layout : Layout pb state.writer
  atEnd : state.phase ≠ .closed → AtEnd pb state.writer

theorem initial_lays (pb : Protobuf) (old : List UInt8) (header : Header) : Lays pb (initial pb old header) := by
  refine ⟨⟨⟨old.drop (sectionSize + headerLength), ?_⟩, trivial⟩, fun _ => ?_⟩
  · have written := @writeHeader_bytes pb ⟨⟨old, 0⟩, {}, ⟨[]⟩, true, .clear, .clear, fun _ => none, {}, []⟩ header
    rw [layoutBytes, List.append_assoc]
    exact written
  · have written := @writeHeader_file pb ⟨⟨old, 0⟩, {}, ⟨[]⟩, true, .clear, .clear, fun _ => none, {}, []⟩ header
    have pos := congrArg Bytes.File.pos written
    rw [Bytes.File.write_pos, length_headerBlock, Bytes.File.seek_pos, Nat.zero_add] at pos
    exact pos

theorem Lays.step {pb : Protobuf} {state next : Recording} {event : RecordEvent} (lays : Lays pb state)
    (drains : Drains state) (moves : Moves pb state event next) : Lays pb next := by
  have open' : ∀ phase, state.phase = phase → phase ≠ .closed → AtEnd pb state.writer := by
    intro phase here other
    exact lays.atEnd (by rw [here]; exact other)
  cases moves with
  | writeChannel channel idle =>
    obtain ⟨layout, atEnd⟩ := lays.layout.writeChannel (open' _ idle (by decide)) channel
    exact ⟨layout, fun _ => atEnd⟩
  | writeMessage message idle =>
    exact ⟨⟨lays.layout.bytes, lays.layout.placed⟩, fun _ => open' _ idle (by decide)⟩
  | flush full =>
    have before := drains.writing full
    have writing : state.phase ≠ .closed := by
      intro closed
      simp [closed, Phase.indexWritten] at before
    obtain ⟨layout, atEnd⟩ := lays.layout.flushChunk (lays.atEnd writing)
    exact ⟨layout, fun _ => atEnd⟩
  | writeIndex indexing =>
    obtain ⟨layout, atEnd⟩ := lays.layout.writeIndex (open' _ indexing (by decide))
    exact ⟨layout, fun _ => atEnd⟩
  | complete completing => exact ⟨lays.layout.writeHeader _, fun other => absurd rfl other⟩
  | exit => exact ⟨lays.layout, lays.atEnd⟩
  | swap here => exact ⟨⟨lays.layout.bytes, lays.layout.placed⟩, fun _ => open' _ here (by decide)⟩
  | lastSwap here => exact ⟨⟨lays.layout.bytes, lays.layout.placed⟩, fun _ => open' _ here (by decide)⟩
  | stop here => exact ⟨⟨lays.layout.bytes, lays.layout.placed⟩, fun _ => open' _ here (by decide)⟩
  | close here => exact ⟨lays.layout, fun _ => open' _ here (by decide)⟩
  | drained here empty => exact ⟨lays.layout, fun _ => open' _ here (by decide)⟩
  | lastDrained here empty => exact ⟨lays.layout, fun _ => open' _ here (by decide)⟩
  | join here => exact ⟨lays.layout, fun _ => open' _ here (by decide)⟩

end Recording

def RecordFileWriter.dataSections (w : RecordFileWriter) : List (Nat × Payload) :=
  w.sections.filter fun entry => entry.2.type ≠ .index

def countOf (type : SectionType) (sections : List (Nat × Payload)) : Nat :=
  sections.countP fun entry => entry.2.type = type

@[simp] theorem countOf_append (type : SectionType) (first second : List (Nat × Payload)) :
    countOf type (first ++ second) = countOf type first + countOf type second := List.countP_append

@[simp] theorem countOf_cons (type : SectionType) (entry : Nat × Payload) (sections : List (Nat × Payload)) :
    countOf type (entry :: sections) = countOf type sections + if entry.2.type = type then 1 else 0 := by
  simp [countOf, List.countP_cons]

@[simp] theorem countOf_nil (type : SectionType) : countOf type [] = 0 := rfl

namespace RecordFileWriter

/-- The index and the counters of the header are in step with the sections. -/
structure Indexes (w : RecordFileWriter) : Prop where
  entries : w.index.indexes.map (fun entry => (entry.position, entry.type)) =
    w.dataSections.map fun entry => (entry.1, entry.2.type)
  kinds : ∀ entry ∈ w.dataSections, entry.2.type = .channel ∨ entry.2.type = .chunkHeader ∨ entry.2.type = .chunkBody
  channels : w.header.channelNumber = .ofNat (countOf .channel w.dataSections)
  headers : w.header.chunkNumber = .ofNat (countOf .chunkHeader w.dataSections)
  bodies : countOf .chunkBody w.dataSections = countOf .chunkHeader w.dataSections

theorem writeChannel_dataSections (pb : Protobuf) (w : RecordFileWriter) (channel : Channel) :
    (w.writeChannel pb channel).dataSections = w.dataSections ++ [(w.file.pos, .channel channel)] := by
  simp [dataSections]

theorem flushChunk_dataSections (pb : Protobuf) (w : RecordFileWriter) : (w.flushChunk pb).dataSections =
    w.dataSections ++ [(w.file.pos, .chunkHeader w.chunkFlush.header)] ++
      [(w.bodyPosition pb, .chunkBody w.chunkFlush.body)] := by
  simp [dataSections]

theorem writeIndex_dataSections (pb : Protobuf) (w : RecordFileWriter) :
    (w.writeIndex pb).dataSections = w.dataSections := by
  simp [dataSections, RecordFileWriter.writeIndex, writeSection]

theorem Indexes.writeChannel {pb : Protobuf} {w : RecordFileWriter} (indexes : Indexes w) (channel : Channel) :
    Indexes (w.writeChannel pb channel) := by
  have data := writeChannel_dataSections pb w channel
  refine ⟨?_, ?_, ?_, ?_, ?_⟩
  · rw [data, List.map_append, ← indexes.entries]
    simp [RecordFileWriter.writeChannel, writeSection]
  · rw [data]
    intro entry member
    rcases List.mem_append.mp member with old | new
    · exact indexes.kinds entry old
    · rw [List.mem_singleton.mp new]
      exact .inl rfl
  · simp [data, indexes.channels]
  · simp [data, indexes.headers]
  · simp [data, indexes.bodies]

theorem Indexes.flushChunk {pb : Protobuf} {w : RecordFileWriter} (indexes : Indexes w) :
    Indexes (w.flushChunk pb) := by
  have data := flushChunk_dataSections pb w
  refine ⟨?_, ?_, ?_, ?_, ?_⟩
  · rw [data, flushChunk_index, List.map_append, List.map_append, List.map_append, ← indexes.entries,
      List.append_assoc]
    rfl
  · rw [data]
    intro entry member
    simp only [List.mem_append, List.mem_singleton] at member
    rcases member with (old | rfl) | rfl
    · exact indexes.kinds entry old
    · exact .inr (.inl rfl)
    · exact .inr (.inr rfl)
  · simp [data, indexes.channels]
  · simp [data, indexes.headers]
  · simp [data, indexes.bodies]

theorem Indexes.writeIndex {pb : Protobuf} {w : RecordFileWriter} (indexes : Indexes w) :
    Indexes (w.writeIndex pb) := by
  have data := writeIndex_dataSections pb w
  refine ⟨?_, ?_, ?_, ?_, ?_⟩
  · rw [data, ← indexes.entries]
    simp only [RecordFileWriter.writeIndex, writeSection, List.map_map]
    apply List.map_congr_left
    intro entry _
    unfold Function.comp setMessageNumber
    split
    · split <;> rfl
    · rfl
  · rw [data]
    exact indexes.kinds
  · rw [data]
    exact indexes.channels
  · rw [data]
    exact indexes.headers
  · rw [data]
    exact indexes.bodies

end RecordFileWriter

namespace Recording

open RecordFileWriter

/-- Where the index stands once it is written, and the header that is written after it. -/
structure Closes (state : Recording) : Prop where
  indexes : Indexes state.writer
  pending : state.phase.indexWritten = false → state.writer.sections = state.writer.dataSections
  written : state.phase.indexWritten = true → ∃ position,
    state.writer.sections = state.writer.dataSections ++ [(position, .index state.writer.index)] ∧
    state.writer.header.indexPosition = .ofNat position
  closed : state.phase = .closed → state.writer.headerSection = { state.writer.header with
    isComplete := true, size := state.writer.headerSection.size }

theorem initial_closes (pb : Protobuf) (old : List UInt8) {header : Header} (channels : header.channelNumber = 0)
    (chunks : header.chunkNumber = 0) : Closes (initial pb old header) where
  indexes := ⟨rfl, by simp [dataSections, initial, create, RecordFileWriter.writeHeader, writeSection], channels, chunks, rfl⟩
  pending := fun _ => rfl
  written := by simp [initial, Phase.indexWritten]
  closed := by simp [initial]

theorem Closes.phase {state : Recording} (closes : Closes state) (writer : RecordFileWriter) (phase : Phase)
    (thread : Bool) (before : state.phase.indexWritten = false) (after : phase.indexWritten = false)
    (same : writer.header = state.writer.header ∧ writer.sections = state.writer.sections ∧
      writer.index = state.writer.index) : Closes ⟨writer, phase, thread⟩ := by
  obtain ⟨header, sections, index⟩ := same
  have data : writer.dataSections = state.writer.dataSections := by simp only [dataSections, sections]
  have indexes := closes.indexes
  refine ⟨⟨?_, ?_, ?_, ?_, ?_⟩, fun _ => ?_, ?_, ?_⟩
  · simpa only [data, index] using indexes.entries
  · simpa only [data] using indexes.kinds
  · simpa only [data, header] using indexes.channels
  · simpa only [data, header] using indexes.headers
  · simpa only [data] using indexes.bodies
  · simpa only [data, sections] using closes.pending before
  · simp [after]
  · intro closed
    simp [show phase = .closed from closed, Phase.indexWritten] at after

theorem Closes.step {pb : Protobuf} {state next : Recording} {event : RecordEvent} (closes : Closes state)
    (drains : Drains state) (moves : Moves pb state event next) : Closes next := by
  cases moves with
  | writeChannel channel idle =>
    have before : state.phase.indexWritten = false := by simp [idle, Phase.indexWritten]
    refine ⟨closes.indexes.writeChannel channel, fun _ => ?_, by simp [before], by simp [idle]⟩
    rw [writeChannel_sections, writeChannel_dataSections, ← closes.pending before]
  | flush full =>
    have before := drains.writing full
    refine ⟨closes.indexes.flushChunk, fun _ => ?_, by simp [before], ?_⟩
    · rw [flushChunk_sections, flushChunk_dataSections, ← closes.pending before]
    · intro closed
      simp [show state.phase = .closed from closed, Phase.indexWritten] at before
  | writeIndex indexing =>
    have before : state.phase.indexWritten = false := by simp [indexing, Phase.indexWritten]
    refine ⟨closes.indexes.writeIndex, by simp [Phase.indexWritten], fun _ => ⟨state.writer.file.pos, ?_, rfl⟩, by simp⟩
    rw [writeIndex_dataSections, ← closes.pending before]
    rfl
  | complete completing =>
    have written := closes.written (by simp [completing, Phase.indexWritten])
    have indexes := closes.indexes
    exact ⟨⟨indexes.entries, indexes.kinds, indexes.channels, indexes.headers, indexes.bodies⟩,
      by simp [Phase.indexWritten], fun _ => written, fun _ => rfl⟩
  | exit => exact ⟨closes.indexes, closes.pending, closes.written, closes.closed⟩
  | writeMessage message idle =>
    refine closes.phase _ _ _ (by simp [idle, Phase.indexWritten]) ?_ ⟨rfl, rfl, rfl⟩
    split <;> rfl
  | swap here => exact closes.phase _ _ _ (by simp [here, Phase.indexWritten]) rfl ⟨rfl, rfl, rfl⟩
  | close here => exact closes.phase _ _ _ (by simp [here, Phase.indexWritten]) rfl ⟨rfl, rfl, rfl⟩
  | drained here empty => exact closes.phase _ _ _ (by simp [here, Phase.indexWritten]) rfl ⟨rfl, rfl, rfl⟩
  | lastSwap here => exact closes.phase _ _ _ (by simp [here, Phase.indexWritten]) rfl ⟨rfl, rfl, rfl⟩
  | lastDrained here empty => exact closes.phase _ _ _ (by simp [here, Phase.indexWritten]) rfl ⟨rfl, rfl, rfl⟩
  | stop here => exact closes.phase _ _ _ (by simp [here, Phase.indexWritten]) rfl ⟨rfl, rfl, rfl⟩
  | join here => exact closes.phase _ _ _ (by simp [here, Phase.indexWritten]) rfl ⟨rfl, rfl, rfl⟩

/-- The file and the index of every state that a run reaches. -/
theorem laid_out {pb : Protobuf} {old : List UInt8} {header : Header} (channels : header.channelNumber = 0)
    (chunks : header.chunkNumber = 0) {events : List RecordEvent} {final : Recording}
    (ran : run (step pb) (initial pb old header) events = some final) : Lays pb final ∧ Closes final := by
  have held : Drains final ∧ Lays pb final ∧ Closes final := by
    refine run_invariant (fun state _ => Drains state ∧ Lays pb state ∧ Closes state) ?_
      ⟨initial_drains pb old header, initial_lays pb old header, initial_closes pb old channels chunks⟩ ran
    intro state past event next taken ⟨drains, lays, closes⟩
    have moves := step_moves pb taken
    exact ⟨drains.step moves, lays.step drains moves, closes.step drains moves⟩
  exact held.2

/-- How long the file can be: as long as its sections, or as the file that was there before. -/
structure Bounds (pb : Protobuf) (old : List UInt8) (state : Recording) : Prop where
  pos : state.phase ≠ .closed → state.writer.file.bytes.length ≤ max old.length state.writer.file.pos
  layout : state.writer.file.bytes.length ≤
    max old.length (sectionSize + headerLength + (layoutBytes pb state.writer.sections).length)

theorem length_section_le {file : Bytes.File} {bound : Nat} (within : file.bytes.length ≤ max bound file.pos)
    {head body : List UInt8} :
    ((file.write head).write body).bytes.length ≤ max bound ((file.write head).write body).pos :=
  Bytes.File.length_write_le (Bytes.File.length_write_le within head) body

theorem initial_bounds (pb : Protobuf) (old : List UInt8) (header : Header) :
    Bounds pb old (initial pb old header) := by
  have within : (initial pb old header).writer.file.bytes.length ≤
      max old.length (initial pb old header).writer.file.pos := by
    change (writeHeader pb _ header).file.bytes.length ≤ max old.length (writeHeader pb _ header).file.pos
    rw [writeHeader_file]
    exact Bytes.File.length_write_le (Nat.le_max_left _ _) _
  refine ⟨fun _ => within, ?_⟩
  rw [← (initial_lays pb old header).atEnd Phase.noConfusion]
  exact within

theorem Bounds.step {pb : Protobuf} {old : List UInt8} {state next : Recording} {event : RecordEvent}
    (bounds : Bounds pb old state) (lays : Lays pb state) (drains : Drains state)
    (moves : Moves pb state event next) : Bounds pb old next := by
  have writes : next.phase ≠ .closed → next.writer.file.bytes.length ≤ max old.length next.writer.file.pos →
      Bounds pb old next := by
    intro writing within
    refine ⟨fun _ => within, ?_⟩
    rw [← (lays.step drains moves).atEnd writing]
    exact within
  have open' : ∀ phase, state.phase = phase → phase ≠ .closed →
      state.writer.file.bytes.length ≤ max old.length state.writer.file.pos := by
    intro phase here other
    exact bounds.pos (by rw [here]; exact other)
  cases moves with
  | writeChannel channel idle =>
    have within := open' _ idle (by decide)
    exact writes (by rw [idle]; decide) (length_section_le within)
  | writeMessage message idle => exact ⟨fun _ => open' _ idle (by decide), bounds.layout⟩
  | flush full =>
    have before := drains.writing full
    have writing : state.phase ≠ .closed := by
      intro closed
      simp [closed, Phase.indexWritten] at before
    exact writes writing (length_section_le (length_section_le (bounds.pos writing)))
  | writeIndex indexing =>
    have within := open' _ indexing (by decide)
    exact writes Phase.noConfusion (length_section_le within)
  | complete completing =>
    refine ⟨fun other => absurd rfl other, ?_⟩
    have within := bounds.layout
    change (state.writer.writeHeader pb _).file.bytes.length ≤
      max old.length (sectionSize + headerLength + (layoutBytes pb state.writer.sections).length)
    rw [writeHeader_bytes, List.length_append, length_headerBlock, List.length_drop]
    omega
  | exit => exact ⟨bounds.pos, bounds.layout⟩
  | swap here => exact ⟨fun _ => open' _ here (by decide), bounds.layout⟩
  | lastSwap here => exact ⟨fun _ => open' _ here (by decide), bounds.layout⟩
  | stop here => exact ⟨fun _ => open' _ here (by decide), bounds.layout⟩
  | close here => exact ⟨fun _ => open' _ here (by decide), bounds.layout⟩
  | drained here empty => exact ⟨fun _ => open' _ here (by decide), bounds.layout⟩
  | lastDrained here empty => exact ⟨fun _ => open' _ here (by decide), bounds.layout⟩
  | join here => exact ⟨fun _ => open' _ here (by decide), bounds.layout⟩

theorem length_file_le {pb : Protobuf} {old : List UInt8} {header : Header} {events : List RecordEvent}
    {final : Recording} (ran : run (step pb) (initial pb old header) events = some final) :
    final.writer.file.bytes.length ≤
      max old.length (sectionSize + headerLength + (layoutBytes pb final.writer.sections).length) := by
  have held : Drains final ∧ Lays pb final ∧ Bounds pb old final := by
    refine run_invariant (fun state _ => Drains state ∧ Lays pb state ∧ Bounds pb old state) ?_
      ⟨initial_drains pb old header, initial_lays pb old header, initial_bounds pb old header⟩ ran
    intro state past event next taken ⟨drains, lays, bounds⟩
    have moves := step_moves pb taken
    exact ⟨drains.step moves, lays.step drains moves, bounds.step lays drains moves⟩
  exact held.2.2.layout

end Recording

end CyberRT.Record

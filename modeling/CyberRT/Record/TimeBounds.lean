import CyberRT.Record.CompleteRecord

namespace CyberRT.Record

open Execution

theorem Spans.append {beginTime endTime : UInt64} {left right : List SingleMessage}
    (first : Spans beginTime endTime left) (second : Spans beginTime endTime right) :
    Spans beginTime endTime (left ++ right) := by
  intro message member
  rcases List.mem_append.mp member with member | member
  · exact first message member
  · exact second message member

theorem Spans.widen {beginTime endTime earlier later : UInt64} {messages : List SingleMessage}
    (spans : Spans beginTime endTime messages) (low : earlier ≤ beginTime) (high : endTime ≤ later) :
    Spans earlier later messages := by
  intro message member
  obtain ⟨begins, ends⟩ := spans message member
  exact ⟨UInt64.le_trans low begins, UInt64.le_trans ends high⟩

theorem Chunked.append {left right : List Payload} (first : Chunked left) (second : Chunked right) :
    Chunked (left ++ right) := by
  induction first with
  | nil => exact second
  | channel channel _ ih => exact .channel channel ih
  | chunk bounds _ ih => exact .chunk bounds ih

namespace Chunk

def Bounded (chunk : Chunk) : Prop := Spans chunk.header.beginTime chunk.header.endTime chunk.messages

/-- `add` takes a begin time of 0 for an empty chunk. -/
def Keeps (chunk : Chunk) (message : SingleMessage) : Prop :=
  chunk.messages = [] ∨ chunk.header.beginTime ≠ 0 ∨ message.time = 0

theorem add_beginTime_le (chunk : Chunk) (message : SingleMessage) :
    (chunk.add message).header.beginTime ≤ message.time := by
  simp only [add]
  by_cases later : (if chunk.header.beginTime = 0 then message.time else chunk.header.beginTime) > message.time
  · rw [if_pos later]
    exact UInt64.le_refl _
  · rw [if_neg later]
    exact UInt64.not_lt.mp later

theorem add_beginTime_old {chunk : Chunk} {message : SingleMessage}
    (keeps : chunk.header.beginTime ≠ 0 ∨ message.time = 0) :
    (chunk.add message).header.beginTime ≤ chunk.header.beginTime := by
  simp only [add]
  by_cases zero : chunk.header.beginTime = 0
  · have first : message.time = 0 := keeps.resolve_left fun other => other zero
    simp [zero, first]
  · rw [if_neg zero]
    split
    · rename_i later
      exact UInt64.le_of_lt later
    · exact UInt64.le_refl _

theorem add_endTime (chunk : Chunk) (message : SingleMessage) :
    message.time ≤ (chunk.add message).header.endTime ∧ chunk.header.endTime ≤ (chunk.add message).header.endTime := by
  simp only [add]
  split
  · rename_i earlier
    exact ⟨UInt64.le_refl _, UInt64.le_of_lt earlier⟩
  · rename_i later
    exact ⟨UInt64.not_lt.mp later, UInt64.le_refl _⟩

theorem Bounded.add {chunk : Chunk} {message : SingleMessage} (bounded : chunk.Bounded) (keeps : chunk.Keeps message) :
    (chunk.add message).Bounded := by
  obtain ⟨above, higher⟩ := chunk.add_endTime message
  have new : Spans (chunk.add message).header.beginTime (chunk.add message).header.endTime [message] := by
    intro other member
    rw [List.mem_singleton.mp member]
    exact ⟨chunk.add_beginTime_le message, above⟩
  rcases keeps with empty | keeps
  · rw [Bounded, add_messages, empty]
    exact new
  · exact (bounded.widen (add_beginTime_old keeps) higher).append new

theorem clear_bounded : clear.Bounded := by
  intro message member
  simp at member

end Chunk

namespace Recording

open RecordFileWriter

/-- A chunk that is flushed does not begin before the header, and once there are messages in the file, the header has
    a begin time and no chunk ends before it. -/
def FlushKeeps (w : RecordFileWriter) : Prop :=
  w.header.beginTime ≤ w.chunkFlush.header.beginTime ∧
  (w.fileMessages = [] ∨ ((w.header.beginTime ≠ 0 ∨ w.chunkFlush.header.beginTime = 0) ∧
    w.header.endTime ≤ w.chunkFlush.header.endTime))

def KeepsBounds (state : Recording) : RecordEvent → Prop
  | .writeMessage message => state.writer.chunkActive.Keeps message
  | .flush => FlushKeeps state.writer
  | _ => True

instance decidableKeepsBounds (state : Recording) (event : RecordEvent) : Decidable (KeepsBounds state event) :=
  match event with
  | .writeMessage _ => inferInstanceAs (Decidable (_ ∨ _ ∨ _))
  | .flush => inferInstanceAs (Decidable (_ ∧ (_ ∨ ((_ ∨ _) ∧ _))))
  | .writeChannel _ | .close | .proceed | .exit => inferInstanceAs (Decidable True)

structure Bounded (state : Recording) : Prop where
  active : state.writer.chunkActive.Bounded
  flush : state.writer.chunkFlush.Bounded
  chunked : Chunked (state.writer.dataSections.map Prod.snd)
  header : Spans state.writer.header.beginTime state.writer.header.endTime state.writer.fileMessages

theorem flushChunk_beginTime (pb : Protobuf) (w : RecordFileWriter) : (w.flushChunk pb).header.beginTime =
    if w.header.beginTime = 0 then w.chunkFlush.header.beginTime else w.header.beginTime := rfl

theorem flushChunk_endTime (pb : Protobuf) (w : RecordFileWriter) :
    (w.flushChunk pb).header.endTime = w.chunkFlush.header.endTime := rfl

theorem flushChunk_spans {pb : Protobuf} {w : RecordFileWriter}
    (header : Spans w.header.beginTime w.header.endTime w.fileMessages) (chunk : w.chunkFlush.Bounded)
    (keeps : FlushKeeps w) :
    Spans (w.flushChunk pb).header.beginTime (w.flushChunk pb).header.endTime (w.flushChunk pb).fileMessages := by
  obtain ⟨low, rest⟩ := keeps
  rw [flushChunk_fileMessages, flushChunk_beginTime, flushChunk_endTime]
  have new : Spans (if w.header.beginTime = 0 then w.chunkFlush.header.beginTime else w.header.beginTime)
      w.chunkFlush.header.endTime w.chunkFlush.messages := by
    refine Spans.widen chunk ?_ (UInt64.le_refl _)
    split
    · exact UInt64.le_refl _
    · exact low
  refine Spans.append ?_ new
  rcases rest with empty | ⟨begins, ends⟩
  · rw [empty]
    intro message member
    cases member
  · refine header.widen ?_ ends
    split
    · rename_i zero
      have first := begins.resolve_left fun other => other zero
      rw [first, zero]
      exact UInt64.le_refl _
    · exact UInt64.le_refl _

theorem Bounded.step {pb : Protobuf} {state next : Recording} {event : RecordEvent} (bounded : Bounded state)
    (keeps : KeepsBounds state event) (moves : Moves pb state event next) : Bounded next := by
  cases moves with
  | writeChannel channel idle =>
    refine ⟨bounded.active, bounded.flush, ?_, ?_⟩
    · rw [writeChannel_dataSections, List.map_append]
      exact bounded.chunked.append (.channel channel .nil)
    · rw [writeChannel_fileMessages]
      exact bounded.header
  | writeMessage message idle => exact ⟨bounded.active.add keeps, bounded.flush, bounded.chunked, bounded.header⟩
  | flush full =>
    have filled : state.writer.chunkFlush.messages ≠ [] := by
      intro none
      rw [(Chunk.empty_iff _).mpr none] at full
      cases full
    refine ⟨bounded.active, Chunk.clear_bounded, ?_, flushChunk_spans bounded.header bounded.flush keeps⟩
    rw [flushChunk_dataSections, List.map_append, List.map_append, List.append_assoc]
    exact bounded.chunked.append (.chunk ⟨filled, bounded.flush⟩ .nil)
  | writeIndex indexing =>
    refine ⟨bounded.active, bounded.flush, ?_, ?_⟩
    · rw [writeIndex_dataSections]
      exact bounded.chunked
    · rw [writeIndex_fileMessages]
      exact bounded.header
  | swap swapping => exact ⟨bounded.flush, bounded.active, bounded.chunked, bounded.header⟩
  | lastSwap last => exact ⟨bounded.flush, bounded.active, bounded.chunked, bounded.header⟩
  | close idle => exact ⟨bounded.active, bounded.flush, bounded.chunked, bounded.header⟩
  | drained draining empty => exact ⟨bounded.active, bounded.flush, bounded.chunked, bounded.header⟩
  | lastDrained draining empty => exact ⟨bounded.active, bounded.flush, bounded.chunked, bounded.header⟩
  | stop stopping => exact ⟨bounded.active, bounded.flush, bounded.chunked, bounded.header⟩
  | exit => exact ⟨bounded.active, bounded.flush, bounded.chunked, bounded.header⟩
  | join joining => exact ⟨bounded.active, bounded.flush, bounded.chunked, bounded.header⟩
  | complete completing => exact ⟨bounded.active, bounded.flush, bounded.chunked, bounded.header⟩

theorem initial_bounded (pb : Protobuf) (old : List UInt8) (header : Header) : Bounded (initial pb old header) := by
  refine ⟨Chunk.clear_bounded, Chunk.clear_bounded, .nil, ?_⟩
  intro message member
  cases member

theorem bounded_run {pb : Protobuf} {old : List UInt8} {header : Header} {events : List RecordEvent}
    {final : Recording} (keeps : Meets (step pb) KeepsBounds (initial pb old header) events)
    (ran : run (step pb) (initial pb old header) events = some final) : Bounded final := by
  refine Meets.preserves Bounded ?_ (initial_bounded pb old header) keeps ran
  intro state event next kept taken bounded
  exact bounded.step kept (step_moves pb taken)

end Recording

theorem Chunked.within {beginTime endTime : UInt64} {sections : List Payload} (chunked : Chunked sections)
    (spans : Spans beginTime endTime (sections.flatMap Payload.messages)) :
    ∀ payload ∈ sections, payload.Within beginTime endTime := by
  induction chunked with
  | nil => simp
  | channel channel _ ih =>
    intro payload member
    rcases List.mem_cons.mp member with rfl | later
    · trivial
    · exact ih spans payload later
  | @chunk header body rest bounds _ ih =>
    have contents : (Payload.chunkHeader header :: .chunkBody body :: rest).flatMap Payload.messages =
        body.messages ++ rest.flatMap Payload.messages := rfl
    rw [contents] at spans
    have here : Spans beginTime endTime body.messages := fun message member =>
      spans message (List.mem_append_left _ member)
    have behind : Spans beginTime endTime (rest.flatMap Payload.messages) := fun message member =>
      spans message (List.mem_append_right _ member)
    obtain ⟨message, member⟩ := List.exists_mem_of_ne_nil _ bounds.1
    obtain ⟨low, high⟩ := bounds.2 message member
    obtain ⟨begins, ends⟩ := here message member
    intro payload listed
    rcases List.mem_cons.mp listed with rfl | listed
    · exact ⟨UInt64.le_trans low ends, UInt64.le_trans begins high⟩
    rcases List.mem_cons.mp listed with rfl | listed
    · exact here
    · exact ih behind payload listed

theorem CompleteRecord.readAll_header {pb : Protobuf} (record : CompleteRecord pb)
    (reads : record.reader.Reads pb ⟨[], record.sections⟩) : ∃ enough, ∀ fuel, enough < fuel →
      record.reader.readAll pb record.reader.header.beginTime record.reader.header.endTime fuel =
        some record.messages := by
  have whole : Cursor.messages ⟨[], record.sections⟩ = record.messages := rfl
  by_cases proper : record.reader.header.beginTime ≤ record.reader.header.endTime
  · have within : Cursor.Within record.reader.header.beginTime record.reader.header.endTime ⟨[], record.sections⟩ :=
      ⟨by simp, record.chunked.within record.bounded⟩
    refine ⟨record.messages.length + record.sections.length + 3, fun fuel enough => ?_⟩
    exact RecordReader.readAll_within reads within ⟨proper, proper⟩ enough
  · have none : record.messages = [] := by
      refine List.eq_nil_iff_forall_not_mem.mpr fun message member => ?_
      obtain ⟨begins, ends⟩ := record.bounded message member
      exact proper (UInt64.le_trans begins ends)
    have crossed := UInt64.not_le.mp proper
    refine ⟨record.sections.length + 3, fun fuel enough => ?_⟩
    obtain ⟨fuel, rfl⟩ : ∃ left, fuel = left + 1 := ⟨fuel - 1, by omega⟩
    obtain ⟨next, read, _⟩ := @RecordReader.readMessage_refines pb record.reader.header.beginTime
      record.reader.header.endTime fuel record.reader _ reads (by simp only; omega)
    have closed : Cursor.read record.reader.header record.reader.header.beginTime record.reader.header.endTime
        ⟨[], record.sections⟩ = (Option.none, ⟨[], record.sections⟩) := by
      rw [Cursor.read, if_pos (by simp [crossed])]
    rw [RecordReader.readAll, read, closed, none]

namespace Recording

open RecordFileWriter

theorem Bounded.record {pb : Protobuf} {state : Recording} (bounded : Bounded state) (lays : Lays pb state)
    (closes : Closes state) (closed : state.phase = .closed)
    (headed : Payload.Sized pb (.header state.writer.headerSection))
    (sized : ∀ entry ∈ state.writer.sections, entry.2.Sized pb) (small : state.writer.file.bytes.length < 2 ^ 63) :
    ∃ record : CompleteRecord pb, RecordReader.create pb state.writer.file.bytes = some record.reader ∧
      record.reader.header = state.writer.headerSection ∧ record.messages = state.writer.fileMessages ∧
      record.reader.Reads pb ⟨[], record.sections⟩ := by
  obtain ⟨reader, created, header, laid, reads⟩ := closes.reader lays closed headed sized small
  have messages := dataSections_fileMessages closes closed
  have copied := closes.closed closed
  have spans : Spans reader.header.beginTime reader.header.endTime
      ((state.writer.dataSections.map Prod.snd).flatMap Payload.messages) := by
    rw [messages, header, copied]
    exact bounded.header
  exact ⟨⟨reader, _, laid, bounded.chunked, spans⟩, created, header, messages, reads⟩

/-- In a run that keeps the bounds, the closed file's headers bound its messages, and neither a reader nor a viewer
    loses one to them. -/
theorem headers_bound_messages (pb : Protobuf) (old : List UInt8) (header : Header)
    (channels : header.channelNumber = 0) (chunks : header.chunkNumber = 0) (events : List RecordEvent)
    (final : Recording) (keeps : Meets (step pb) KeepsBounds (initial pb old header) events)
    (ran : run (step pb) (initial pb old header) events = some final) (closed : final.phase = .closed)
    (headed : Payload.Sized pb (.header final.writer.headerSection))
    (sized : ∀ entry ∈ final.writer.sections, entry.2.Sized pb) (small : final.writer.file.bytes.length < 2 ^ 63) :
    Spans final.writer.headerSection.beginTime final.writer.headerSection.endTime (writtenMessages events) ∧
    Chunked (final.writer.dataSections.map Prod.snd) ∧
    ∃ record : CompleteRecord pb, RecordReader.create pb final.writer.file.bytes = some record.reader ∧
      record.messages.Perm (writtenMessages events) ∧
      (∃ enough, ∀ fuel, enough < fuel → record.reader.readAll pb final.writer.headerSection.beginTime
        final.writer.headerSection.endTime fuel = some record.messages) ∧
      (∀ readers, record.reader ∈ readers → ∀ names,
        Spans (RecordViewer.create readers 0 maxTime names).beginTime
          (RecordViewer.create readers 0 maxTime names).endTime record.messages) ∧
      ∀ viewer, viewer = RecordViewer.create [record.reader] 0 maxTime [] →
        RecordViewer.Fits viewer.beginTime viewer.endTime → viewer.Unhidden record.messages →
        viewer.Yields pb record.messages := by
  obtain ⟨lays, closes⟩ := laid_out channels chunks ran
  obtain ⟨drains, content⟩ := held_written ran
  have bounded := bounded_run keeps ran
  obtain ⟨record, created, same, messages, reads⟩ := bounded.record lays closes closed headed sized small
  rw [drains.held_closed closed, ← messages] at content
  refine ⟨?_, bounded.chunked, record, created, content, ?_, ?_, ?_⟩
  · intro message member
    have inside := record.bounded message (content.mem_iff.mpr member)
    rw [same] at inside
    exact inside
  · rw [← same]
    exact record.readAll_header reads
  · intro readers listed names message member
    obtain ⟨low, high⟩ := @RecordViewer.create_range readers 0 maxTime names _ listed record.laid.valid _
      (record.bounded message member)
    exact ⟨low.mpr UInt64.zero_le, high.mpr (le_maxTime _)⟩
  · intro viewer built fits unhidden
    have yields := @RecordViewer.Yields.of_unhidden pb [record] 0 maxTime [] viewer built fits (by simpa using unhidden)
    have all : RecordViewer.requested [record] 0 maxTime [] = record.messages := by
      simp [RecordViewer.requested, le_maxTime]
    rw [all] at yields
    exact yields

theorem promptFlush_bounds : ∃ final,
    run (step Wire.recordProto) (initial Wire.recordProto [] smallChunks) promptFlush = some final ∧
      Spans final.writer.headerSection.beginTime final.writer.headerSection.endTime [sample 1, sample 2] ∧
      ∃ record : CompleteRecord Wire.recordProto,
        RecordReader.create Wire.recordProto final.writer.file.bytes = some record.reader ∧
        record.messages.Perm [sample 1, sample 2] := by
  have held := headers_bound_messages Wire.recordProto [] smallChunks rfl rfl promptFlush _ (by decide +kernel) rfl rfl
    (by unfold Payload.Sized; decide +kernel) (by unfold Payload.Sized; decide +kernel)
    (Nat.lt_of_le_of_lt (@length_file_le Wire.recordProto [] smallChunks promptFlush _ rfl) (by decide +kernel))
  obtain ⟨spans, _, record, created, content, _⟩ := held
  exact ⟨_, rfl, spans, record, created, content⟩

/-- Each message fills a chunk, and the second one is earlier than the first. -/
def descending : List RecordEvent :=
  [.writeChannel ⟨"/chatter", "Chatter", []⟩, .writeMessage (sample 20), .proceed, .flush, .writeMessage (sample 10),
    .proceed, .flush] ++ closeEmpty

/-- The header gets the begin time of the first chunk and the end time of the last one, and readers find nothing. -/
theorem descending_unbounded : ∃ final,
    run (step Wire.recordProto) (initial Wire.recordProto [] smallChunks) descending = some final ∧
      final.phase = .closed ∧
      ¬ Spans final.writer.headerSection.beginTime final.writer.headerSection.endTime (writtenMessages descending) ∧
      (RecordReader.create Wire.recordProto final.writer.file.bytes).bind (fun reader =>
        reader.readAll Wire.recordProto final.writer.headerSection.beginTime final.writer.headerSection.endTime 99) =
          some [] ∧
      (RecordReader.create Wire.recordProto final.writer.file.bytes).bind (fun reader =>
        (RecordViewer.create [reader] 0 maxTime []).iterate Wire.recordProto 99) = some [] :=
  ⟨_, rfl, rfl, by decide +kernel, by decide +kernel, by decide +kernel⟩

end Recording

end CyberRT.Record

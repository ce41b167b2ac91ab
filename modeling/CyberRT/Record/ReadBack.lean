import Mathlib.Data.List.Nodup
import CyberRT.Record.SectionReader

namespace CyberRT.Record

open Execution

def Payload.Within (beginTime endTime : UInt64) : Payload → Prop
  | .chunkHeader h => h.beginTime ≤ endTime ∧ beginTime ≤ h.endTime
  | .chunkBody body => ∀ message ∈ body.messages, beginTime ≤ message.time ∧ message.time ≤ endTime
  | .channel _ => True
  | _ => False

theorem scan_within {beginTime endTime : UInt64} {message : SingleMessage} {rest : List SingleMessage}
    (within : beginTime ≤ message.time ∧ message.time ≤ endTime) :
    scan beginTime endTime (message :: rest) = .found message rest := by
  rw [scan, if_neg (UInt64.not_lt.mpr within.2), if_neg (UInt64.not_lt.mpr within.1)]

def Cursor.messages (cursor : Cursor) : List SingleMessage :=
  cursor.pending ++ cursor.remaining.flatMap Payload.messages

structure Cursor.Within (beginTime endTime : UInt64) (cursor : Cursor) : Prop where
  pending : ∀ message ∈ cursor.pending, beginTime ≤ message.time ∧ message.time ≤ endTime
  remaining : ∀ payload ∈ cursor.remaining, payload.Within beginTime endTime

theorem nextMessage_within {beginTime endTime : UInt64} {sections : List Payload}
    (within : ∀ payload ∈ sections, payload.Within beginTime endTime) :
    (nextMessage beginTime endTime false sections).1 = (sections.flatMap Payload.messages).head? ∧
    (nextMessage beginTime endTime false sections).2.messages = (sections.flatMap Payload.messages).tail ∧
    (nextMessage beginTime endTime false sections).2.Within beginTime endTime ∧
    (nextMessage beginTime endTime false sections).2.remaining.length ≤ sections.length := by
  induction sections with
  | nil => exact ⟨rfl, rfl, ⟨by simp [nextMessage], by simp [nextMessage]⟩, by simp [nextMessage]⟩
  | cons payload rest ih =>
    have here := within payload (List.mem_cons_self ..)
    have later : ∀ payload ∈ rest, payload.Within beginTime endTime :=
      fun other member => within other (List.mem_cons_of_mem _ member)
    obtain ⟨head, tail, kept, shorter⟩ := ih later
    cases payload with
    | channel channel => exact ⟨head, tail, kept, Nat.le_succ_of_le shorter⟩
    | chunkHeader header =>
      have keep : (false || decide (header.endTime < beginTime)) = false := by
        simpa using UInt64.not_lt.mpr here.2
      rw [nextMessage, if_neg (UInt64.not_lt.mpr here.1), keep]
      exact ⟨head, tail, kept, Nat.le_succ_of_le shorter⟩
    | chunkBody body =>
      rw [List.flatMap_cons, nextMessage]
      cases contents : body.messages with
      | nil =>
        simp only [scan, Payload.messages, contents, List.nil_append]
        exact ⟨head, tail, kept, Nat.le_succ_of_le shorter⟩
      | cons message others =>
        have inside : ∀ m ∈ message :: others, beginTime ≤ m.time ∧ m.time ≤ endTime := by
          rw [← contents]
          exact here
        simp only [scan_within (inside message (List.mem_cons_self ..)), Payload.messages, contents, List.cons_append,
          List.head?_cons, List.tail_cons]
        exact ⟨trivial, rfl, ⟨fun m member => inside m (List.mem_cons_of_mem _ member), later⟩, Nat.le_succ _⟩
    | header header => exact here.elim
    | index index => exact here.elim

/-- An interval that covers everything before the cursor gives its messages one by one. -/
theorem Cursor.read_within {header : Header} {beginTime endTime : UInt64} {cursor : Cursor}
    (within : cursor.Within beginTime endTime) (overlaps : beginTime ≤ header.endTime ∧ header.beginTime ≤ endTime) :
    (cursor.read header beginTime endTime).1 = cursor.messages.head? ∧
    (cursor.read header beginTime endTime).2.messages = cursor.messages.tail ∧
    (cursor.read header beginTime endTime).2.Within beginTime endTime ∧
    (cursor.read header beginTime endTime).2.remaining.length ≤ cursor.remaining.length := by
  have open' : ¬ (beginTime > header.endTime || endTime < header.beginTime) = true := by
    simpa using overlaps
  rw [read, if_neg open', messages]
  cases contents : cursor.pending with
  | nil =>
    simp only [scan, List.nil_append]
    exact nextMessage_within within.remaining
  | cons message others =>
    have inside := within.pending
    rw [contents] at inside
    simp only [scan_within (inside message (List.mem_cons_self ..)), List.cons_append, List.head?_cons, List.tail_cons]
    exact ⟨trivial, rfl, ⟨fun m member => inside m (List.mem_cons_of_mem _ member), within.remaining⟩, Nat.le_refl _⟩

namespace RecordReader

open RecordFileReader

theorem readAll_within {pb : Protobuf} {beginTime endTime : UInt64} {fuel : Nat} {reader : RecordReader}
    {cursor : Cursor} (reads : Reads pb reader cursor) (within : cursor.Within beginTime endTime)
    (overlaps : beginTime ≤ reader.header.endTime ∧ reader.header.beginTime ≤ endTime)
    (enough : cursor.messages.length + cursor.remaining.length + 3 < fuel) :
    readAll pb beginTime endTime fuel reader = some cursor.messages := by
  induction fuel generalizing reader cursor with
  | zero => omega
  | succ fuel ih =>
    obtain ⟨next, read, header, reached⟩ := @readMessage_refines pb beginTime endTime fuel reader cursor reads (by omega)
    obtain ⟨head, tail, kept, shorter⟩ := Cursor.read_within within overlaps
    rw [readAll, read, head]
    cases contents : cursor.messages with
    | nil => rfl
    | cons message others =>
      rw [contents, List.tail_cons] at tail
      have rest := ih reached kept (by rw [header]; exact overlaps) (by
        rw [contents, List.length_cons] at enough
        rw [tail]
        omega)
      simp only [List.head?_cons, rest, tail, Option.map_some]

end RecordReader

namespace RecordFileReader

theorem readSectionHead_bytes (r : RecordFileReader) : r.readSectionHead.2.file.bytes = r.file.bytes := by
  simp only [readSectionHead]
  split
  · rfl
  · split <;> rfl

theorem readSection_bytes {α : Type} (codec : Codec α) (r : RecordFileReader) (size : Int) :
    (readSection codec r size).2.file.bytes = r.file.bytes := by
  simp only [readSection]
  split
  · rfl
  · split
    · rfl
    · split <;> rfl

theorem readIndex_bytes (pb : Protobuf) (r : RecordFileReader) : (r.readIndex pb).2.file.bytes = r.file.bytes := by
  simp only [readIndex]
  split
  · rfl
  · have head := readSectionHead_bytes { r with file := r.file.seek r.header.indexPosition.toNat }
    split
    · rename_i file read
      rw [read] at head
      exact head
    · rename_i code size file read
      rw [read] at head
      split
      · exact head
      · have body := readSection_bytes pb.index file size
        split
        · rename_i final parsed
          rw [parsed] at body
          exact body.trans head
        · rename_i index final parsed
          rw [parsed] at body
          exact body.trans head

theorem reset_bytes (r : RecordFileReader) : r.reset.file.bytes = r.file.bytes := rfl

theorem reset_pos (r : RecordFileReader) : r.reset.file.pos = sectionSize + headerLength := rfl

theorem openFile_eq {pb : Protobuf} {header : Header} {tail : List UInt8} (sized : Payload.Sized pb (.header header)) :
    openFile pb (headerBlock pb header ++ tail) =
      some ⟨⟨headerBlock pb header ++ tail, sectionSize + headerLength⟩, header, ⟨[]⟩, false⟩ := by
  have headed : headerBlock pb header ++ tail = [] ++ sectionHead .header (pb.header.serialize header).length ++
      (pb.header.serialize header ++ (blank.take (headerLength - (pb.header.serialize header).length) ++ tail)) := by
    simp [headerBlock, sectionBytes, Protobuf.serialize]
  have parsed : headerBlock pb header ++ tail = sectionHead .header (pb.header.serialize header).length ++
      pb.header.serialize header ++ (blank.take (headerLength - (pb.header.serialize header).length) ++ tail) := by
    simp [headerBlock, sectionBytes, Protobuf.serialize]
  have small : (pb.header.serialize header).length < 2 ^ 63 := Nat.lt_of_lt_of_le sized.2 (by decide)
  have head := readSectionHead_eq (r := ⟨⟨headerBlock pb header ++ tail, 0⟩, {}, ⟨[]⟩, false⟩) headed rfl small
  have body := readSection_eq (r := ⟨⟨headerBlock pb header ++ tail, sectionSize⟩, {}, ⟨[]⟩, false⟩) parsed
    (by simp) sized.1 sized.2
  simp only [openFile, readHeader, head, SectionType.ofCode_code, Bytes.File.seek, Nat.zero_add, body]
  rfl

end RecordFileReader

namespace RecordReader

open RecordFileReader

/-- The reader is one of a complete file with these data sections, wherever it stands in it. -/
structure Over (pb : Protobuf) (reader : RecordReader) (data : List Payload) : Prop where
  valid : reader.isValid = true
  content : ∃ index rest, reader.fileReader.file.bytes = headerBlock pb reader.header ++
    ((data ++ [Payload.index index]).flatMap (sectionBytes pb) ++ rest) ∧ Payload.Sized pb (.index index)
  sized : ∀ payload ∈ data, payload.Sized pb
  kinds : ∀ payload ∈ data, payload.type = .channel ∨ payload.type = .chunkHeader ∨ payload.type = .chunkBody
  bounded : reader.fileReader.file.bytes.length < 2 ^ 63

theorem Over.stands {pb : Protobuf} {reader : RecordReader} {data : List Payload} (laid : Over pb reader data)
    {file : RecordFileReader} (same : file.file.bytes = reader.fileReader.file.bytes)
    (here : file.file.pos = sectionSize + headerLength) : Stands pb file data := by
  obtain ⟨index, rest, content, last⟩ := laid.content
  refine ⟨⟨headerBlock pb reader.header, index, rest, ?_, ?_, last⟩, laid.sized, laid.kinds, ?_⟩
  · rw [same, content, List.append_assoc]
  · rw [here, length_headerBlock]
  · rw [same]
    exact laid.bounded

theorem Over.reset_reads {pb : Protobuf} {reader : RecordReader} {data : List Payload} (laid : Over pb reader data) :
    Reads pb reader.reset ⟨[], data⟩ :=
  ⟨laid.valid, rfl, .inr ⟨rfl, laid.stands (reset_bytes _) (reset_pos _)⟩⟩

theorem create_reads {pb : Protobuf} {header : Header} {data : List Payload} {index : Index} {rest : List UInt8}
    (sized : Payload.Sized pb (.header header)) (all : ∀ payload ∈ data ++ [Payload.index index], payload.Sized pb)
    (kinds : ∀ payload ∈ data, payload.type = .channel ∨ payload.type = .chunkHeader ∨ payload.type = .chunkBody)
    {bytes : List UInt8} (content : bytes = headerBlock pb header ++
      ((data ++ [Payload.index index]).flatMap (sectionBytes pb) ++ rest)) (bounded : bytes.length < 2 ^ 63) :
    ∃ reader, create pb bytes = some reader ∧ reader.header = header ∧ Over pb reader data ∧
      Reads pb reader ⟨[], data⟩ := by
  have opened := @openFile_eq pb header ((data ++ [Payload.index index]).flatMap (sectionBytes pb) ++ rest) sized
  rw [← content] at opened
  have created : create pb bytes = some
      ⟨((RecordFileReader.mk ⟨bytes, sectionSize + headerLength⟩ header ⟨[]⟩ false).readIndex pb).2.reset, header,
        true, false, ⟨[]⟩, 0⟩ := by
    rw [create, opened]
    rfl
  have laid : Over pb ⟨((RecordFileReader.mk ⟨bytes, sectionSize + headerLength⟩ header ⟨[]⟩ false).readIndex pb).2.reset,
      header, true, false, ⟨[]⟩, 0⟩ data := by
    refine ⟨rfl, ⟨index, rest, ?_, all _ (by simp)⟩, fun payload member => all payload (by simp [member]), kinds, ?_⟩
    · rw [reset_bytes, readIndex_bytes, content]
    · rw [reset_bytes, readIndex_bytes]
      exact bounded
  exact ⟨_, created, rfl, laid, laid.reset_reads⟩

end RecordReader

namespace Recording

open RecordFileWriter

theorem Closes.entry_once {pb : Protobuf} {state : Recording} (closes : Closes state) (lays : Lays pb state)
    {entry : Nat × Payload} (member : entry ∈ state.writer.dataSections) :
    state.writer.index.indexes.countP (fun single => (single.position, single.type) = (entry.1, entry.2.type)) = 1 := by
  have positions : (state.writer.dataSections.map Prod.fst).Nodup := by
    have all := placed_nodup pb lays.layout.placed
    exact all.sublist (List.filter_sublist.map _)
  have pairs : (state.writer.dataSections.map fun entry => (entry.1, entry.2.type)).Nodup := by
    refine List.Nodup.of_map Prod.fst ?_
    rwa [List.map_map]
  have counted : (state.writer.index.indexes.map fun single => (single.position, single.type)).count
      (entry.1, entry.2.type) = 1 := by
    rw [closes.indexes.entries]
    exact List.count_eq_one_of_mem pairs (List.mem_map_of_mem member)
  rw [List.count, List.countP_map] at counted
  rw [← counted]
  apply List.countP_congr
  intro single _
  simp

theorem dataSections_fileMessages {state : Recording} (closes : Closes state) (closed : state.phase = .closed) :
    (state.writer.dataSections.map Prod.snd).flatMap Payload.messages = state.writer.fileMessages := by
  obtain ⟨position, sections, _⟩ := closes.written (by simp [closed, Phase.indexWritten])
  rw [fileMessages, sections, List.flatMap_append, List.flatMap_map]
  simp [Payload.messages]

theorem within_all {payload : Payload}
    (kind : payload.type = .channel ∨ payload.type = .chunkHeader ∨ payload.type = .chunkBody) :
    payload.Within 0 maxTime := by
  cases payload with
  | channel channel => trivial
  | chunkHeader header => exact ⟨le_maxTime _, UInt64.zero_le⟩
  | chunkBody body => exact fun message _ => ⟨UInt64.zero_le, le_maxTime _⟩
  | header header => simp at kind
  | index index => simp at kind

theorem Closes.reader {pb : Protobuf} {state : Recording} (closes : Closes state) (lays : Lays pb state)
    (closed : state.phase = .closed) (headed : Payload.Sized pb (.header state.writer.headerSection))
    (sized : ∀ entry ∈ state.writer.sections, entry.2.Sized pb) (bounded : state.writer.file.bytes.length < 2 ^ 63) :
    ∃ reader, RecordReader.create pb state.writer.file.bytes = some reader ∧
      reader.header = state.writer.headerSection ∧ reader.Over pb (state.writer.dataSections.map Prod.snd) ∧
      RecordReader.Reads pb reader ⟨[], state.writer.dataSections.map Prod.snd⟩ := by
  obtain ⟨position, sections, _⟩ := closes.written (by simp [closed, Phase.indexWritten])
  obtain ⟨rest, content⟩ := lays.layout.bytes
  have shape : state.writer.file.bytes = headerBlock pb state.writer.headerSection ++
      ((state.writer.dataSections.map Prod.snd ++ [Payload.index state.writer.index]).flatMap (sectionBytes pb) ++
        rest) := by
    rw [content, sections]
    simp [layoutBytes, List.flatMap_map]
  refine RecordReader.create_reads headed ?_ ?_ shape bounded
  · intro payload member
    have listed : payload ∈ state.writer.sections.map Prod.snd := by
      rw [sections, List.map_append]
      exact member
    obtain ⟨entry, present, rfl⟩ := List.mem_map.mp listed
    exact sized entry present
  · intro payload member
    obtain ⟨entry, present, rfl⟩ := List.mem_map.mp member
    exact closes.indexes.kinds entry present

/-- The closed file is laid out as its index and its header say, and a reader gets its messages back. -/
theorem closed_file_reads_back (pb : Protobuf) (old : List UInt8) (header : Header)
    (channels : header.channelNumber = 0) (chunks : header.chunkNumber = 0) (events : List RecordEvent)
    (final : Recording) (ran : run (step pb) (initial pb old header) events = some final)
    (closed : final.phase = .closed) (headed : Payload.Sized pb (.header final.writer.headerSection))
    (sized : ∀ entry ∈ final.writer.sections, entry.2.Sized pb) (bounded : final.writer.file.bytes.length < 2 ^ 63) :
    SectionAt pb final.writer.file.bytes 0 (.header final.writer.headerSection) ∧
    ∃ position index, (position, .index index) ∈ final.writer.sections ∧
      SectionAt pb final.writer.file.bytes position (.index index) ∧
      final.writer.headerSection.indexPosition = .ofNat position ∧
      (∀ single ∈ index.indexes, ∃ payload, payload.type = single.type ∧
        SectionAt pb final.writer.file.bytes single.position payload) ∧
      (∀ entry ∈ final.writer.dataSections, SectionAt pb final.writer.file.bytes entry.1 entry.2 ∧
        index.indexes.countP (fun single => (single.position, single.type) = (entry.1, entry.2.type)) = 1) ∧
      final.writer.headerSection.channelNumber = .ofNat (countOf .channel final.writer.dataSections) ∧
      final.writer.headerSection.chunkNumber = .ofNat (countOf .chunkHeader final.writer.dataSections) ∧
      final.writer.headerSection.chunkNumber = .ofNat (countOf .chunkBody final.writer.dataSections) ∧
      ∃ reader, RecordReader.create pb final.writer.file.bytes = some reader ∧ ∃ enough, ∀ fuel, enough < fuel →
        RecordReader.readAll pb 0 maxTime fuel reader = some final.writer.fileMessages := by
  obtain ⟨lays, closes⟩ := laid_out channels chunks ran
  obtain ⟨position, sections, offset⟩ := closes.written (by simp [closed, Phase.indexWritten])
  have copied := closes.closed closed
  have data : ∀ entry ∈ final.writer.dataSections, entry ∈ final.writer.sections := by
    intro entry member
    rw [sections]
    exact List.mem_append_left _ member
  have indexAt : (position, .index final.writer.index) ∈ final.writer.sections := by simp [sections]
  refine ⟨lays.layout.headerAt, position, final.writer.index, indexAt, lays.layout.sectionAt indexAt, by rw [copied]; exact offset, ?_, ?_,
    by rw [copied]; exact closes.indexes.channels, by rw [copied]; exact closes.indexes.headers,
    by rw [copied, closes.indexes.bodies]; exact closes.indexes.headers, ?_⟩
  · intro single member
    have listed : (single.position, single.type) ∈
        final.writer.dataSections.map fun entry => (entry.1, entry.2.type) := by
      rw [← closes.indexes.entries]
      exact List.mem_map_of_mem member
    obtain ⟨⟨place, payload⟩, present, same⟩ := List.mem_map.mp listed
    obtain ⟨here, kind⟩ := Prod.mk.inj same
    exact ⟨payload, kind, here ▸ lays.layout.sectionAt (data _ present)⟩
  · intro entry member
    exact ⟨lays.layout.sectionAt (data _ member), closes.entry_once lays member⟩
  · obtain ⟨reader, created, _, _, reads⟩ := closes.reader lays closed headed sized bounded
    have within : Cursor.Within 0 maxTime ⟨[], final.writer.dataSections.map Prod.snd⟩ := by
      refine ⟨by simp, ?_⟩
      intro payload member
      obtain ⟨entry, present, rfl⟩ := List.mem_map.mp member
      exact within_all (closes.indexes.kinds entry present)
    rw [← dataSections_fileMessages closes closed]
    exact ⟨reader, created, _, fun fuel enough =>
      RecordReader.readAll_within reads within ⟨UInt64.zero_le, le_maxTime _⟩ enough⟩

theorem lateFlush_reads_back : ∃ final,
    run (step Wire.recordProto) (initial Wire.recordProto [] smallChunks) lateFlush = some final ∧
      ∃ reader, RecordReader.create Wire.recordProto final.writer.file.bytes = some reader ∧ ∃ enough, ∀ fuel,
        enough < fuel → RecordReader.readAll Wire.recordProto 0 maxTime fuel reader = some [sample 2, sample 1] := by
  have held := closed_file_reads_back Wire.recordProto [] smallChunks rfl rfl lateFlush _ rfl rfl
    (by unfold Payload.Sized; decide +kernel) (by unfold Payload.Sized; decide +kernel)
    (Nat.lt_of_le_of_lt (@length_file_le Wire.recordProto [] smallChunks lateFlush _ rfl) (by decide +kernel))
  obtain ⟨_, _, _, _, _, _, _, _, _, _, _, reads⟩ := held
  exact ⟨_, rfl, reads⟩

end Recording

end CyberRT.Record

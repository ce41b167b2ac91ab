import Mathlib.Data.List.Dedup
import CyberRT.Record.TimeBounds

namespace CyberRT.Record

open Execution RecordFileWriter

namespace RecordReader

/-- `channel_info_`, where the first entry of a name hides the others. The index is empty unless `ReadIndex`
    has succeeded. -/
def channelInfo (reader : RecordReader) : List ChannelCache :=
  reader.fileReader.index.indexes.filterMap fun entry =>
    match entry.type, entry.cache with
    | .channel, .channel cache => some cache
    | _, _ => none

/-- `GetChannelList`, a set: no caller depends on the order. -/
def getChannelList (reader : RecordReader) : List String := (reader.channelInfo.map ChannelCache.name).dedup

def getMessageNumber (reader : RecordReader) (name : String) : UInt64 :=
  match reader.channelInfo.find? fun cache => cache.name = name with
  | none => 0
  | some cache => .ofNat cache.messageNumber

def getMessageType (reader : RecordReader) (name : String) : String :=
  match reader.channelInfo.find? fun cache => cache.name = name with
  | none => ""
  | some cache => cache.messageType

theorem mem_channelInfo {reader : RecordReader} {cache : ChannelCache} (member : cache ∈ reader.channelInfo) :
    ∃ entry ∈ reader.fileReader.index.indexes, entry.cache = .channel cache := by
  obtain ⟨entry, present, found⟩ := List.mem_filterMap.mp member
  apply Exists.intro entry
  apply And.intro present
  split at found
  · rename_i cached
    rw [cached, Option.some.inj found]
  · cases found

theorem nodup_getChannelList (reader : RecordReader) : reader.getChannelList.Nodup := List.nodup_dedup _

theorem getMessageNumber_eq {reader : RecordReader} {number : String → Nat} {name : String}
    (numbers : Numbers reader.fileReader.index number) (listed : name ∈ reader.getChannelList) :
    reader.getMessageNumber name = .ofNat (number name) := by
  obtain ⟨cache, member, named⟩ := List.mem_map.mp (List.mem_dedup.mp listed)
  unfold getMessageNumber
  cases found : reader.channelInfo.find? fun cache => cache.name = name with
  | none =>
    have other := List.find?_eq_none.mp found cache member
    simp [named] at other
  | some first =>
    have same : first.name = name := by simpa using List.find?_some found
    obtain ⟨entry, present, cached⟩ := mem_channelInfo (List.mem_of_find?_eq_some found)
    show UInt64.ofNat first.messageNumber = _
    rw [numbers entry present first cached, same]

end RecordReader

/-- What `Close` adds to a record file: the header and the index count the messages. -/
structure CompleteRecord.Counted {pb : Protobuf} (record : CompleteRecord pb) : Prop where
  complete : record.reader.header.isComplete = true
  total : record.reader.header.messageNumber = .ofNat record.messages.length
  numbers : Numbers record.reader.fileReader.index fun name =>
    record.messages.countP fun message => message.channelName = name

namespace RecordFileReader

theorem readIndex_eq {pb : Protobuf} {r : RecordFileReader} {index : Index} {front rest : List UInt8}
    (complete : r.header.isComplete = true) (content : r.file.bytes = front ++ sectionBytes pb (.index index) ++ rest)
    (here : r.header.indexPosition.toNat = front.length) (sized : Payload.Sized pb (.index index)) :
    (r.readIndex pb).2.index = index := by
  let seeked : RecordFileReader := { r with file := r.file.seek r.header.indexPosition.toNat }
  have small : (pb.serialize (.index index)).length < 2 ^ 63 := Nat.lt_of_lt_of_le sized.2 (by decide)
  have head := @head_at pb seeked front rest (.index index) content here small
  have body := @parse_at pb seeked front rest (.index index) content here sized _ pb.index index rfl
  unfold readIndex
  rw [if_neg (by simp [complete])]
  simp only [seeked] at head body
  simp only [head, Payload.type_index, SectionType.ofCode_code, ne_eq, not_true_eq_false, ite_false, body]
  rfl

end RecordFileReader

theorem SectionAt.split {pb : Protobuf} {bytes : List UInt8} {position : Nat} {payload : Payload}
    (stands : SectionAt pb bytes position payload) :
    ∃ front rest, bytes = front ++ sectionBytes pb payload ++ rest ∧ position = front.length := by
  have inside : position ≤ bytes.length := by
    have lengths := congrArg List.length stands
    rw [List.length_take, List.length_drop, length_sectionBytes] at lengths
    simp only [sectionSize] at lengths
    omega
  apply Exists.intro (bytes.take position)
  apply Exists.intro ((bytes.drop position).drop (sectionBytes pb payload).length)
  apply And.intro
  · have whole := List.take_append_drop (sectionBytes pb payload).length (bytes.drop position)
    rw [stands] at whole
    rw [List.append_assoc, whole, List.take_append_drop]
  · rw [List.length_take]
    omega

namespace Recording

/-- The reader of a closed file has the index that `Close` has written. -/
theorem Closes.index_eq {pb : Protobuf} {state : Recording} (closes : Closes state) (lays : Lays pb state)
    (closed : state.phase = .closed) (headed : Payload.Sized pb (.header state.writer.headerSection))
    (sized : ∀ entry ∈ state.writer.sections, entry.2.Sized pb) (small : state.writer.file.bytes.length < 2 ^ 63)
    {reader : RecordReader} (created : RecordReader.create pb state.writer.file.bytes = some reader) :
    reader.fileReader.index = state.writer.index := by
  obtain ⟨position, sections, offset⟩ := closes.written (by simp [closed, Phase.indexWritten])
  have copied := closes.closed closed
  have listed : (position, Payload.index state.writer.index) ∈ state.writer.sections := by simp [sections]
  obtain ⟨front, rest, stands, here⟩ := (lays.layout.sectionAt listed).split
  have near : position < 2 ^ 63 := by
    have lengths := congrArg List.length stands
    simp only [List.length_append] at lengths
    omega
  obtain ⟨behind, bytes⟩ := lays.layout.bytes
  have opened := @RecordFileReader.openFile_eq pb state.writer.headerSection
    (layoutBytes pb state.writer.sections ++ behind) headed
  rw [← List.append_assoc, ← bytes] at opened
  rw [RecordReader.create, opened] at created
  rw [← Option.some.inj created]
  apply RecordFileReader.readIndex_eq _ stands
  · show state.writer.headerSection.indexPosition.toNat = front.length
    rw [copied, ← here]
    show state.writer.header.indexPosition.toNat = position
    rw [offset]
    exact Nat.mod_eq_of_lt (Nat.lt_of_lt_of_le near (by decide))
  · exact sized _ listed
  · show state.writer.headerSection.isComplete = true
    rw [copied]

/-- What a reader finds in a file that a run has closed within its bounds. -/
theorem closed_counted {pb : Protobuf} {old : List UInt8} {header : Header} (channels : header.channelNumber = 0)
    (chunks : header.chunkNumber = 0) (fresh : header.messageNumber = 0) {events : List RecordEvent}
    {final : Recording} (keeps : Meets (step pb) KeepsBounds (initial pb old header) events)
    (ran : run (step pb) (initial pb old header) events = some final) (closed : final.phase = .closed)
    (headed : Payload.Sized pb (.header final.writer.headerSection))
    (sized : ∀ entry ∈ final.writer.sections, entry.2.Sized pb) (small : final.writer.file.bytes.length < 2 ^ 63) :
    ∃ record : CompleteRecord pb, RecordReader.create pb final.writer.file.bytes = some record.reader ∧
      record.Counted ∧ record.reader.header = final.writer.headerSection ∧
      record.messages = final.writer.fileMessages ∧ record.reader.fileReader.index = final.writer.index := by
  obtain ⟨lays, closes⟩ := laid_out channels chunks ran
  obtain ⟨record, created, same, messages, _⟩ :=
    (bounded_run keeps ran).record lays closes closed headed sized small
  have indexed := closes.index_eq lays closed headed sized small created
  obtain ⟨content, total, place, index, last, _, numbers⟩ :=
    closed_file_holds_written pb old header fresh events final ran closed
  obtain ⟨position, sections, _⟩ := closes.written (by simp [closed, Phase.indexWritten])
  obtain rfl : index = final.writer.index := by
    rw [sections, List.getLast?_concat] at last
    cases last
    rfl
  rw [← messages] at content
  refine ⟨record, created, ⟨?_, ?_, ?_⟩, same, messages, indexed⟩
  · rw [same, closes.closed closed]
  · rw [same, total, content.length_eq]
  · intro entry member cache found
    rw [indexed] at member
    rw [numbers entry member cache found]
    exact (content.countP_eq _).symm

end Recording

end CyberRT.Record

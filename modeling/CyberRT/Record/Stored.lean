import CyberRT.Record.Layout

namespace CyberRT.Record

variable (pb : Protobuf)

namespace RecordFileWriter

/-- Every section of the log stands in the file behind the place of the header. -/
def Stores (w : RecordFileWriter) : Prop :=
  ∀ entry ∈ w.sections, sectionSize + headerLength ≤ entry.1 ∧ SectionAt pb w.file.bytes entry.1 entry.2

/-- The file is open behind its sections, which need not follow one another. -/
structure Appends (w : RecordFileWriter) : Prop where
  before : ∀ entry ∈ w.sections, entry.1 + (sectionBytes pb entry.2).length ≤ w.file.pos
  header : sectionSize + headerLength ≤ w.file.pos
  inside : w.file.pos ≤ w.file.bytes.length

variable {pb}

theorem Stores.write {w u : RecordFileWriter} (stores : Stores pb w) (appends : Appends pb w) {data : List UInt8}
    (sections : u.sections = w.sections) (file : u.file = w.file.write data) : Stores pb u ∧ Appends pb u := by
  apply And.intro
  · intro entry member
    rw [sections] at member
    obtain ⟨behind, stands⟩ := stores entry member
    apply And.intro behind
    rw [SectionAt, file, Bytes.File.write_kept (appends.before entry member) appends.inside]
    exact stands
  · refine ⟨?_, ?_, ?_⟩
    · intro entry member
      rw [sections] at member
      rw [file, Bytes.File.write_pos]
      exact Nat.le_add_right_of_le (appends.before entry member)
    · rw [file, Bytes.File.write_pos]
      exact Nat.le_add_right_of_le appends.header
    · rw [file]
      exact Bytes.File.write_inside appends.inside data

theorem Stores.append {w u : RecordFileWriter} (stores : Stores pb w) (appends : Appends pb w) {payload : Payload}
    (sections : u.sections = w.sections ++ [(w.file.pos, payload)])
    (file : u.file = (w.file.write (sectionHead payload.type (pb.serialize payload).length)).write (pb.serialize payload)) :
    Stores pb u ∧ Appends pb u := by
  rw [Bytes.File.write_write _ _ _ appends.inside, ← sectionBytes] at file
  obtain ⟨kept, room⟩ := @Stores.write pb w { u with sections := w.sections } stores appends _ rfl file
  have new : ∀ entry ∈ u.sections, entry ∈ w.sections ∨ entry = (w.file.pos, payload) := by
    intro entry member
    rw [sections] at member
    exact (List.mem_append.mp member).imp_right List.mem_singleton.mp
  apply And.intro
  · intro entry member
    rcases new entry member with old | rfl
    · exact kept entry old
    · apply And.intro appends.header
      rw [SectionAt, file]
      exact Bytes.File.write_here appends.inside _
  · refine ⟨?_, room.header, room.inside⟩
    intro entry member
    rcases new entry member with old | rfl
    · exact room.before entry old
    · rw [file]
      exact Nat.le_refl _

theorem Stores.writeHeader {w : RecordFileWriter} (stores : Stores pb w) (header : Header) :
    Stores pb (w.writeHeader pb header) := by
  intro entry member
  obtain ⟨behind, stands⟩ := stores entry member
  apply And.intro behind
  have length := length_headerBlock pb header
  have position : sectionSize + headerLength + (entry.1 - (sectionSize + headerLength)) = entry.1 :=
    Nat.add_sub_of_le behind
  have same : (headerBlock pb header ++ w.file.bytes.drop (sectionSize + headerLength)).drop entry.1 =
      w.file.bytes.drop entry.1 := by
    rw [List.drop_append, List.drop_of_length_le (by omega), List.nil_append, List.drop_drop, length, position]
  rw [SectionAt, writeHeader_bytes, same]
  exact stands

theorem writeHeader_appends {w : RecordFileWriter} (empty : w.sections = []) (header : Header) :
    Appends pb (w.writeHeader pb header) := by
  have length := length_headerBlock pb header
  have sections : (w.writeHeader pb header).sections = [] := empty
  refine ⟨?_, ?_, ?_⟩
  · rw [sections]
    exact List.forall_mem_nil _
  · rw [writeHeader_file, Bytes.File.write_pos, length]
    exact Nat.le_add_left _ _
  · rw [writeHeader_file]
    exact Bytes.File.write_inside (Nat.zero_le _) _

theorem Stores.writeChannel {w : RecordFileWriter} (stores : Stores pb w) (appends : Appends pb w) (channel : Channel) :
    Stores pb (w.writeChannel pb channel) ∧ Appends pb (w.writeChannel pb channel) :=
  @Stores.append pb w _ stores appends (.channel channel) rfl rfl

theorem Stores.writeIndex {w : RecordFileWriter} (stores : Stores pb w) (appends : Appends pb w) :
    Stores pb (w.writeIndex pb) ∧ Appends pb (w.writeIndex pb) :=
  @Stores.append pb w _ stores appends (.index ⟨w.index.indexes.map w.setMessageNumber⟩) rfl rfl

theorem Stores.flushChunk {w : RecordFileWriter} (stores : Stores pb w) (appends : Appends pb w) :
    Stores pb (w.flushChunk pb) ∧ Appends pb (w.flushChunk pb) := by
  obtain ⟨headed, room⟩ := @Stores.append pb w (w.writeSection pb (.chunkHeader w.chunkFlush.header)) stores appends
    (.chunkHeader w.chunkFlush.header) rfl rfl
  exact @Stores.append pb _ (w.flushChunk pb) headed room (.chunkBody w.chunkFlush.body) rfl rfl

end RecordFileWriter

namespace Recording

open RecordFileWriter

/-- What has been written stands in the file, and until it is closed there is room behind. -/
structure Stands (pb : Protobuf) (state : Recording) : Prop where
  stores : Stores pb state.writer
  appends : state.phase ≠ .closed → Appends pb state.writer

theorem Stands.step {pb : Protobuf} {state next : Recording} {event : RecordEvent} (stands : Stands pb state)
    (drains : Drains state) (moves : Moves pb state event next) : Stands pb next := by
  have room : ∀ phase, state.phase = phase → phase ≠ .closed → Appends pb state.writer := by
    intro phase here other
    exact stands.appends (by rw [here]; exact other)
  cases moves with
  | writeChannel channel idle =>
    have written := stands.stores.writeChannel (room _ idle (by decide)) channel
    exact ⟨written.1, fun _ => written.2⟩
  | writeMessage message idle =>
    have appends := room _ idle (by decide)
    exact ⟨stands.stores, fun _ => ⟨appends.before, appends.header, appends.inside⟩⟩
  | flush full =>
    have before := drains.writing full
    have writing : state.phase ≠ .closed := by
      intro closed
      simp [closed, Phase.indexWritten] at before
    have written := stands.stores.flushChunk (stands.appends writing)
    exact ⟨written.1, fun _ => written.2⟩
  | writeIndex indexing =>
    have written := stands.stores.writeIndex (room _ indexing (by decide))
    exact ⟨written.1, fun _ => written.2⟩
  | complete completing => exact ⟨stands.stores.writeHeader _, fun other => absurd rfl other⟩
  | exit => exact ⟨stands.stores, stands.appends⟩
  | swap here =>
    have appends := room _ here (by decide)
    exact ⟨stands.stores, fun _ => ⟨appends.before, appends.header, appends.inside⟩⟩
  | lastSwap here =>
    have appends := room _ here (by decide)
    exact ⟨stands.stores, fun _ => ⟨appends.before, appends.header, appends.inside⟩⟩
  | stop here =>
    have appends := room _ here (by decide)
    exact ⟨stands.stores, fun _ => ⟨appends.before, appends.header, appends.inside⟩⟩
  | close here => exact ⟨stands.stores, fun _ => room _ here (by decide)⟩
  | drained here empty => exact ⟨stands.stores, fun _ => room _ here (by decide)⟩
  | lastDrained here empty => exact ⟨stands.stores, fun _ => room _ here (by decide)⟩
  | join here => exact ⟨stands.stores, fun _ => room _ here (by decide)⟩

theorem mem_held_step {pb : Protobuf} {state next : Recording} {event : RecordEvent} {message : SingleMessage}
    (drains : Drains state) (moves : Moves pb state event next) (held : message ∈ state.held) : message ∈ next.held :=
  (held_step_perm drains moves).mem_iff.mpr (List.mem_append_left _ held)

def Stored (pb : Protobuf) (state : Recording) (message : SingleMessage) : Prop :=
  ∃ entry ∈ state.writer.sections, message ∈ entry.2.messages ∧ SectionAt pb state.writer.file.bytes entry.1 entry.2

theorem Stands.stored {pb : Protobuf} {state : Recording} {message : SingleMessage} (stands : Stands pb state)
    (drains : Drains state) (closed : state.phase = .closed) (held : message ∈ state.held) : Stored pb state message := by
  rw [drains.held_closed closed] at held
  obtain ⟨entry, member, inside⟩ := List.mem_flatMap.mp held
  exact ⟨entry, member, inside, (stands.stores entry member).2⟩

end Recording

end CyberRT.Record

import Mathlib.Logic.Relation
import CyberRT.Record.Windows
import CyberRT.Record.Wire

namespace CyberRT.Record

open Relation

/-- What one turn of the loop of `ReadNextChunk` ends with. -/
inductive Turn where
  | again (reader : RecordReader) (skipNextChunkBody : Bool)
  | returned (found : Bool) (reader : RecordReader)

/-- Where repeated calls of `ReadMessage` are: at the start of one, at the head of the loop of `ReadNextChunk`, or
    behind the one that has returned false. -/
inductive Reading where
  | message (reader : RecordReader)
  | nextChunk (reader : RecordReader) (skipNextChunkBody : Bool)
  | returned (reader : RecordReader)

namespace Turn

def reader : Turn → RecordReader
  | .again reader _ => reader
  | .returned _ reader => reader

def reading : Turn → Reading
  | .again reader skip => .nextChunk reader skip
  | .returned true reader => .message { reader with messageIndex := 0 }
  | .returned false reader => .returned reader

def result (pb : Protobuf) (beginTime endTime : UInt64) (fuel : Nat) : Turn → Option (Bool × RecordReader)
  | .again reader skip => reader.readNextChunk pb beginTime endTime fuel skip
  | .returned found reader => some (found, reader)

end Turn

namespace RecordReader

variable (pb : Protobuf) (beginTime endTime : UInt64)

def turn (reader : RecordReader) (skipNextChunkBody : Bool) : Turn :=
  if reader.reachEnd then .returned false reader
  else
    match reader.fileReader.readSectionHead with
    | (none, file) => .returned false { reader with fileReader := file }
    | (some (code, size), file) =>
      match SectionType.ofCode code with
      | some .index => .again { reader with fileReader := file.skipSection size, reachEnd := true } skipNextChunkBody
      | some .channel =>
        match RecordFileReader.readSection pb.channel file size with
        | (none, file) => .returned false { reader with fileReader := file }
        | (some _, file) => .again { reader with fileReader := file } skipNextChunkBody
      | some .chunkHeader =>
        match RecordFileReader.readSection pb.chunkHeader file size with
        | (none, file) => .returned false { reader with fileReader := file }
        | (some header, file) =>
          let skip := skipNextChunkBody || header.endTime < beginTime
          if header.beginTime > endTime then .returned false { reader with fileReader := file }
          else .again { reader with fileReader := file } skip
      | some .chunkBody =>
        if skipNextChunkBody then .again { reader with fileReader := file.skipSection size } false
        else
          match RecordFileReader.readSection pb.chunkBody file size with
          | (none, file) => .returned false { reader with fileReader := file, chunk := ⟨[]⟩ }
          | (some body, file) => .returned true { reader with fileReader := file, chunk := body }
      | _ => .returned false { reader with fileReader := file }

/-- The loop of `ReadNextChunk` takes one turn after the other. -/
theorem readNextChunk_turn (fuel : Nat) (reader : RecordReader) (skip : Bool) :
    reader.readNextChunk pb beginTime endTime (fuel + 1) skip =
      (reader.turn pb beginTime endTime skip).result pb beginTime endTime fuel := by
  rw [readNextChunk, turn]
  by_cases ended : reader.reachEnd = true
  · rw [if_pos ended, if_pos ended]
    rfl
  rw [if_neg ended, if_neg ended]
  generalize reader.fileReader.readSectionHead = read
  rcases read with ⟨_ | ⟨code, size⟩, file⟩
  · rfl
  dsimp only
  cases SectionType.ofCode code with
  | none => rfl
  | some type =>
    cases type with
    | header => rfl
    | index => rfl
    | channel =>
      dsimp only
      rcases RecordFileReader.readSection pb.channel file size with ⟨_ | channel, file⟩ <;> rfl
    | chunkHeader =>
      dsimp only
      rcases RecordFileReader.readSection pb.chunkHeader file size with ⟨_ | header, file⟩
      · rfl
      · dsimp only
        split <;> rfl
    | chunkBody =>
      dsimp only
      split
      · rfl
      · rcases RecordFileReader.readSection pb.chunkBody file size with ⟨_ | body, file⟩ <;> rfl

end RecordReader

namespace RecordFileReader

theorem readSectionHead_full {r file : RecordFileReader} {head : Nat × Int}
    (read : r.readSectionHead = (some head, file)) :
    file.file.pos = r.file.pos + sectionSize ∧ file.file.pos ≤ r.file.bytes.length := by
  unfold readSectionHead Bytes.File.read at read
  dsimp only at read
  split at read
  · cases read
  · split at read
    · cases read
    · rename_i full
      cases read
      have length := not_not.mp full
      have short : ((r.file.bytes.drop r.file.pos).take sectionSize).length ≤ r.file.bytes.length - r.file.pos := by
        rw [List.length_take, List.length_drop]
        omega
      have positive : 0 < sectionSize := by decide
      dsimp only
      omega

theorem readSection_moves {α : Type} (codec : Codec α) (r : RecordFileReader) (size : Int) :
    r.file.pos ≤ (readSection codec r size).2.file.pos := by
  unfold readSection Bytes.File.read
  dsimp only
  split
  · exact Nat.le_refl _
  · split
    · exact Nat.le_add_right _ _
    · split <;> exact Nat.le_add_right _ _

theorem skipSection_bytes (r : RecordFileReader) (size : Int) : (r.skipSection size).file.bytes = r.file.bytes := by
  unfold skipSection
  split
  · rfl
  · split <;> rfl

/-- `SkipSection` of this size seeks to a place before the current one: the size is negative, and neither the check
    against `INT64_MAX` nor `lseek` refuses it. -/
def SkipsBack (r : RecordFileReader) (size : Int) : Prop :=
  size < 0 ∧ size ≤ 2 ^ 63 - 1 - r.file.pos ∧ 0 ≤ (r.file.pos : Int) + size

theorem skipSection_back_iff (r : RecordFileReader) (size : Int) :
    (r.skipSection size).file.pos < r.file.pos ↔ r.SkipsBack size := by
  unfold skipSection SkipsBack
  split
  · omega
  · split
    · omega
    · rw [Bytes.File.seek_pos]
      omega

theorem skipSection_to {r : RecordFileReader} {size : Int} {target : Nat}
    (reaches : (r.file.pos : Int) + size = target) (small : target < 2 ^ 63) :
    r.skipSection size = { r with file := r.file.seek target } := by
  have range : ¬ size > 2 ^ 63 - 1 - r.file.pos := by omega
  have forward : ¬ (r.file.pos : Int) + size < 0 := by omega
  rw [skipSection, if_neg range, if_neg forward, reaches, Int.toNat_natCast]

end RecordFileReader

namespace RecordReader

variable {pb : Protobuf} {beginTime endTime : UInt64} {reader : RecordReader} {skip : Bool}

def pos (reader : RecordReader) : Nat := reader.fileReader.file.pos

/-- The size of the section that the turn skips, if it skips one: an index, or a chunk body behind a chunk header that
    ends before the interval. -/
def skippedSize (reader : RecordReader) (skip : Bool) : Option Int :=
  match reader.fileReader.readSectionHead.1 with
  | some (code, size) =>
    if SectionType.ofCode code = some .index ∨ SectionType.ofCode code = some .chunkBody ∧ skip = true then some size
    else none
  | none => none

/-- The turn reads no section, or does not skip it, or skips it forward. -/
def Forward (reader : RecordReader) (skip : Bool) : Prop :=
  reader.reachEnd = false → ∀ size, reader.skippedSize skip = some size →
    ¬ reader.fileReader.readSectionHead.2.SkipsBack size

structure Turns (reader : RecordReader) (skip : Bool) (turn : Turn) : Prop where
  bytes : turn.reader.fileReader.file.bytes = reader.fileReader.file.bytes
  forward_iff : reader.fileReader.readSectionHead.2.file.pos ≤ turn.reader.pos ↔
    ∀ size, reader.skippedSize skip = some size → ¬ reader.fileReader.readSectionHead.2.SkipsBack size
  consumes : turn ≠ .returned false turn.reader →
    reader.fileReader.readSectionHead.2.file.pos = reader.pos + sectionSize ∧
    reader.fileReader.readSectionHead.2.file.pos ≤ reader.fileReader.file.bytes.length

theorem turns_skip {file : RecordFileReader} {head : Nat × Int} {turn : Turn}
    (read : reader.fileReader.readSectionHead = (some head, file)) (skips : reader.skippedSize skip = some head.2)
    (turned : turn.reader.fileReader = file.skipSection head.2) : Turns reader skip turn := by
  obtain ⟨moved, within⟩ := RecordFileReader.readSectionHead_full read
  have headBytes := reader.fileReader.readSectionHead_bytes
  rw [read] at headBytes
  refine ⟨?_, ?_, fun _ => ?_⟩
  · rw [turned, RecordFileReader.skipSection_bytes, headBytes]
  · rw [pos, turned, read, skips, ← not_lt, RecordFileReader.skipSection_back_iff]
    simp
  · rw [read]
    exact ⟨moved, within⟩

theorem turns_read {file : RecordFileReader} {head : Nat × Int} {turn : Turn}
    (read : reader.fileReader.readSectionHead = (some head, file)) (reads : reader.skippedSize skip = none)
    (moves : file.file.pos ≤ turn.reader.pos) (bytes : turn.reader.fileReader.file.bytes = file.file.bytes) :
    Turns reader skip turn := by
  obtain ⟨moved, within⟩ := RecordFileReader.readSectionHead_full read
  have headBytes := reader.fileReader.readSectionHead_bytes
  rw [read] at headBytes
  refine ⟨bytes.trans headBytes, ?_, fun _ => ?_⟩
  · rw [read, reads]
    simpa using moves
  · rw [read]
    exact ⟨moved, within⟩

theorem turn_turns (open' : reader.reachEnd = false) :
    Turns reader skip (reader.turn pb beginTime endTime skip) := by
  unfold turn
  rw [if_neg (by simp [open'])]
  cases read : reader.fileReader.readSectionHead with
  | mk head file =>
    cases head with
    | none =>
      have headBytes := reader.fileReader.readSectionHead_bytes
      rw [read] at headBytes
      refine ⟨headBytes, ?_, fun moved => absurd rfl moved⟩
      simp [skippedSize, read, Turn.reader, pos]
    | some head =>
      obtain ⟨code, size⟩ := head
      dsimp only
      cases kind : SectionType.ofCode code with
      | none => exact turns_read read (by simp [skippedSize, read, kind]) (Nat.le_refl _) rfl
      | some type =>
        cases type with
        | header => exact turns_read read (by simp [skippedSize, read, kind]) (Nat.le_refl _) rfl
        | index => exact turns_skip read (by simp [skippedSize, read, kind]) rfl
        | channel =>
          have moves := RecordFileReader.readSection_moves pb.channel file size
          have bytes := RecordFileReader.readSection_bytes pb.channel file size
          dsimp only
          cases parsed : RecordFileReader.readSection pb.channel file size with
          | mk channel next =>
            rw [parsed] at moves bytes
            cases channel with
            | none => exact turns_read read (by simp [skippedSize, read, kind]) moves bytes
            | some channel => exact turns_read read (by simp [skippedSize, read, kind]) moves bytes
        | chunkHeader =>
          have moves := RecordFileReader.readSection_moves pb.chunkHeader file size
          have bytes := RecordFileReader.readSection_bytes pb.chunkHeader file size
          dsimp only
          cases parsed : RecordFileReader.readSection pb.chunkHeader file size with
          | mk header next =>
            rw [parsed] at moves bytes
            cases header with
            | none => exact turns_read read (by simp [skippedSize, read, kind]) moves bytes
            | some header =>
              dsimp only
              split
              · exact turns_read read (by simp [skippedSize, read, kind]) moves bytes
              · exact turns_read read (by simp [skippedSize, read, kind]) moves bytes
        | chunkBody =>
          cases skip with
          | true => exact turns_skip read (by simp [skippedSize, read, kind]) rfl
          | false =>
            have moves := RecordFileReader.readSection_moves pb.chunkBody file size
            have bytes := RecordFileReader.readSection_bytes pb.chunkBody file size
            dsimp only
            rw [if_neg Bool.false_ne_true]
            cases parsed : RecordFileReader.readSection pb.chunkBody file size with
            | mk body next =>
              rw [parsed] at moves bytes
              cases body with
              | none => exact turns_read read (by simp [skippedSize, read, kind]) moves bytes
              | some body => exact turns_read read (by simp [skippedSize, read, kind]) moves bytes

theorem turn_ended (ended : reader.reachEnd = true) :
    reader.turn pb beginTime endTime skip = .returned false reader := by
  unfold turn
  rw [if_pos ended]

end RecordReader

namespace Reading

variable (pb : Protobuf) (beginTime endTime : UInt64)

def reader : Reading → RecordReader
  | .message reader => reader
  | .nextChunk reader _ => reader
  | .returned reader => reader

/-- Where the calls are behind the loop of `ReadMessage` over the messages of a chunk. -/
def behindScan (reader : RecordReader) : Scan → Reading
  | .found _ rest => .message { reader with messageIndex := reader.chunk.messages.length - rest.length }
  | .blocked rest => .returned { reader with messageIndex := reader.chunk.messages.length - rest.length }
  | .exhausted => .nextChunk { reader with messageIndex := reader.chunk.messages.length } false

/-- The next thing that repeated calls of `ReadMessage` do. -/
def next : Reading → Option Reading
  | .message reader =>
    if reader.isValid = false then some (.returned reader)
    else if beginTime > reader.header.endTime || endTime < reader.header.beginTime then some (.returned reader)
    else some (behindScan reader (scan beginTime endTime (reader.chunk.messages.drop reader.messageIndex)))
  | .nextChunk reader skip => some (reader.turn pb beginTime endTime skip).reading
  | .returned _ => none

/-- Up to where the file has been read before a skip: behind the head of the section at which the loop is. -/
def readTo : Reading → Nat
  | .nextChunk reader _ => if reader.reachEnd then reader.pos else reader.fileReader.readSectionHead.2.file.pos
  | state => state.reader.pos

def Reaches (start state : Reading) : Prop :=
  ReflTransGen (fun state after => state.next pb beginTime endTime = some after) start state

theorem Reaches.before {pb : Protobuf} {beginTime endTime : UInt64} {start state after : Reading}
    (next : start.next pb beginTime endTime = some state) (reaches : Reaches pb beginTime endTime state after) :
    Reaches pb beginTime endTime start after := ReflTransGen.head next reaches

/-- The loop of `ReadNextChunk` is not before a skip that leads back. -/
def Forward : Reading → Prop
  | .nextChunk reader skip => reader.Forward skip
  | _ => True

end Reading

namespace RecordReader

/-- `ReadMessage` called for this interval until it returns false comes to an end, it never moves back behind what it
    has read, and every turn of `ReadNextChunk` that goes on consumes a section. -/
structure Progresses (pb : Protobuf) (beginTime endTime : UInt64) (reader : RecordReader) : Prop where
  ends : ∃ enough, ∀ fuel, enough < fuel → (reader.readWindow pb beginTime endTime fuel).isSome
  neverBack : ∀ state after, Reading.Reaches pb beginTime endTime (.message reader) state →
    state.next pb beginTime endTime = some after → state.readTo ≤ after.reader.pos
  consumes : ∀ reader' skip after, Reading.Reaches pb beginTime endTime (.message reader) (.nextChunk reader' skip) →
    Reading.next pb beginTime endTime (.nextChunk reader' skip) = some after → after ≠ .returned after.reader →
      reader'.pos + sectionSize ≤ after.reader.pos

variable {pb : Protobuf} {beginTime endTime : UInt64}

def ahead (reader : RecordReader) : Nat := reader.fileReader.file.bytes.length - reader.pos

theorem reading_pos (turn : Turn) : turn.reading.reader.pos = turn.reader.pos := by
  cases turn with
  | again reader skip => rfl
  | returned found reader => cases found <;> rfl

theorem readTo_le_iff {reader : RecordReader} {skip : Bool} :
    (Reading.nextChunk reader skip).readTo ≤ (reader.turn pb beginTime endTime skip).reading.reader.pos ↔
      reader.Forward skip := by
  rw [reading_pos]
  cases ended : reader.reachEnd with
  | true =>
    rw [turn_ended ended]
    simp [Reading.readTo, Turn.reader, Forward, ended]
  | false =>
    have iff := (@turn_turns pb beginTime endTime reader skip ended).forward_iff
    simpa [Reading.readTo, Forward, ended] using iff

theorem Forward.goesOn {reader : RecordReader} {skip : Bool} (forward : reader.Forward skip)
    (goes : reader.turn pb beginTime endTime skip ≠
      .returned false (reader.turn pb beginTime endTime skip).reader) :
    reader.pos + sectionSize ≤ (reader.turn pb beginTime endTime skip).reader.pos ∧
    reader.pos + sectionSize ≤ reader.fileReader.file.bytes.length ∧
    (reader.turn pb beginTime endTime skip).reader.fileReader.file.bytes = reader.fileReader.file.bytes := by
  have open' : reader.reachEnd = false := by
    cases ended : reader.reachEnd with
    | false => rfl
    | true =>
      rw [turn_ended ended] at goes
      exact absurd rfl goes
  have turns := @turn_turns pb beginTime endTime reader skip open'
  obtain ⟨moved, within⟩ := turns.consumes goes
  have reached := turns.forward_iff.mpr (forward open')
  exact ⟨by omega, by omega, turns.bytes⟩

theorem readNextChunk_ends {reader : RecordReader} {skip : Bool}
    (forward : ∀ state, Reading.Reaches pb beginTime endTime (.nextChunk reader skip) state → state.Forward) :
    ∃ found last, (∀ fuel, reader.ahead + 1 < fuel →
        reader.readNextChunk pb beginTime endTime fuel skip = some (found, last)) ∧
      Reading.Reaches pb beginTime endTime (.nextChunk reader skip)
        (if found then .message { last with messageIndex := 0 } else .returned last) ∧
      (found = true → last.fileReader.file.bytes = reader.fileReader.file.bytes ∧ reader.pos < last.pos ∧
        reader.pos < reader.fileReader.file.bytes.length) := by
  induction size : reader.ahead using Nat.strong_induction_on generalizing reader skip with
  | _ n ih =>
    have here := forward _ .refl
    have next : Reading.next pb beginTime endTime (.nextChunk reader skip) =
        some (reader.turn pb beginTime endTime skip).reading := rfl
    have run : ∀ fuel, n + 1 < fuel → ∃ left, fuel = left + 1 ∧ n < left := fun fuel enough => ⟨fuel - 1, by omega⟩
    have goes := @Forward.goesOn pb beginTime endTime reader skip here
    cases turned : reader.turn pb beginTime endTime skip with
    | again other skip' =>
      rw [turned] at next goes
      obtain ⟨moved, within, bytes⟩ := goes (by simp)
      simp only [Turn.reader] at moved bytes
      have less : other.ahead < n := by
        have positive : 0 < sectionSize := by decide
        rw [← size]
        unfold ahead
        rw [bytes]
        omega
      obtain ⟨found, last, ran, reached, found'⟩ :=
        @ih other.ahead less other skip' (fun state reaches => forward state (.before next reaches)) rfl
      refine ⟨found, last, fun fuel enough => ?_, .before next reached, fun found => ?_⟩
      · obtain ⟨left, rfl, more⟩ := run fuel enough
        rw [readNextChunk_turn, turned]
        exact ran left (by omega)
      · obtain ⟨same, further, _⟩ := found' found
        exact ⟨same.trans bytes, by omega, by
          have positive : 0 < sectionSize := by decide
          omega⟩
    | returned found other =>
      rw [turned] at next goes
      refine ⟨found, other, fun fuel enough => ?_, ?_, fun found => ?_⟩
      · obtain ⟨left, rfl, more⟩ := run fuel enough
        rw [readNextChunk_turn, turned]
        rfl
      · cases found with
        | true => exact .before next .refl
        | false => exact .before next .refl
      · obtain ⟨moved, within, bytes⟩ := goes (by rw [found]; simp)
        have positive : 0 < sectionSize := by decide
        simp only [Turn.reader] at moved bytes
        exact ⟨bytes, by omega, by omega⟩

def left (reader : RecordReader) : Nat := (reader.chunk.messages.drop reader.messageIndex).length

theorem readMessage_ends {reader : RecordReader}
    (forward : ∀ state, Reading.Reaches pb beginTime endTime (.message reader) state → state.Forward) :
    ∃ got last, (∀ fuel, reader.ahead + 3 < fuel →
        reader.readMessage pb beginTime endTime fuel = some (got, last)) ∧
      (got.isSome → Reading.Reaches pb beginTime endTime (.message reader) (.message last) ∧
        (last.ahead < reader.ahead ∨ last.ahead = reader.ahead ∧ last.left < reader.left)) := by
  induction size : reader.ahead using Nat.strong_induction_on generalizing reader with
  | _ n ih =>
    have run : ∀ fuel, n + 3 < fuel → ∃ left, fuel = left + 1 ∧ n + 2 < left := fun fuel enough => ⟨fuel - 1, by omega⟩
    by_cases invalid : reader.isValid = false
    · refine ⟨none, reader, fun fuel enough => ?_, by simp⟩
      obtain ⟨left, rfl, more⟩ := run fuel enough
      rw [readMessage, if_pos invalid]
    by_cases outside : (beginTime > reader.header.endTime || endTime < reader.header.beginTime) = true
    · refine ⟨none, reader, fun fuel enough => ?_, by simp⟩
      obtain ⟨left, rfl, more⟩ := run fuel enough
      rw [readMessage, if_neg invalid, if_pos outside]
    have next : Reading.next pb beginTime endTime (.message reader) = some (Reading.behindScan reader
        (scan beginTime endTime (reader.chunk.messages.drop reader.messageIndex))) := by
      rw [Reading.next, if_neg invalid, if_neg outside]
    cases scanned : scan beginTime endTime (reader.chunk.messages.drop reader.messageIndex) with
    | found message rest =>
      rw [scanned] at next
      refine ⟨some message, _, fun fuel enough => ?_, fun _ => ⟨.before next .refl, ?_⟩⟩
      · obtain ⟨left, rfl, more⟩ := run fuel enough
        rw [readMessage, if_neg invalid, if_neg outside, scanned]
      · have fewer := scan_visible beginTime endTime (reader.chunk.messages.drop reader.messageIndex)
        rw [scanned] at fewer
        refine .inr ⟨size, ?_⟩
        have total : (reader.chunk.messages.drop reader.messageIndex).length ≤ reader.chunk.messages.length := by
          rw [List.length_drop]
          exact Nat.sub_le _ _
        simp only [RecordReader.left, List.length_drop] at fewer total ⊢
        omega
    | blocked rest =>
      refine ⟨none, { reader with messageIndex := reader.chunk.messages.length - rest.length }, fun fuel enough => ?_,
        by simp⟩
      obtain ⟨left, rfl, more⟩ := run fuel enough
      rw [readMessage, if_neg invalid, if_neg outside, scanned]
    | exhausted =>
      rw [scanned] at next
      obtain ⟨found, last, ran, reached, found'⟩ := @readNextChunk_ends pb beginTime endTime
        { reader with messageIndex := reader.chunk.messages.length } false
        (fun state reaches => forward state (.before next reaches))
      have same : RecordReader.ahead { reader with messageIndex := reader.chunk.messages.length } = n := size
      cases found with
      | false =>
        refine ⟨none, last, fun fuel enough => ?_, by simp⟩
        obtain ⟨left, rfl, more⟩ := run fuel enough
        rw [readMessage, if_neg invalid, if_neg outside, scanned]
        dsimp only
        rw [ran left (by omega)]
      | true =>
        obtain ⟨bytes, further, within⟩ := found' rfl
        have less : RecordReader.ahead { last with messageIndex := 0 } < n := by
          rw [← size]
          unfold ahead pos at *
          dsimp only at *
          rw [bytes]
          omega
        obtain ⟨got, final, read, taken⟩ := @ih _ less { last with messageIndex := 0 }
          (fun state reaches => forward state (.before next (ReflTransGen.trans reached reaches))) rfl
        refine ⟨got, final, fun fuel enough => ?_, fun some' => ?_⟩
        · obtain ⟨left, rfl, more⟩ := run fuel enough
          rw [readMessage, if_neg invalid, if_neg outside, scanned]
          dsimp only
          rw [ran left (by omega)]
          exact read left (by omega)
        · obtain ⟨reaches, smaller⟩ := taken some'
          exact ⟨.before next (ReflTransGen.trans reached reaches), .inl (by omega)⟩

theorem readWindow_ends {reader : RecordReader}
    (forward : ∀ state, Reading.Reaches pb beginTime endTime (.message reader) state → state.Forward) :
    ∃ enough messages last, ∀ fuel, enough < fuel →
      reader.readWindow pb beginTime endTime fuel = some (messages, last) := by
  induction size : reader.ahead using Nat.strong_induction_on generalizing reader with
  | _ n ih =>
    induction pending : reader.left using Nat.strong_induction_on generalizing reader with
    | _ m ih' =>
      obtain ⟨got, last, read, taken⟩ := readMessage_ends forward
      cases got with
      | none =>
        refine ⟨n + 4, [], last, fun fuel enough => ?_⟩
        obtain ⟨fuel, rfl⟩ : ∃ less, fuel = less + 1 := ⟨fuel - 1, by omega⟩
        rw [readWindow, read fuel (by omega)]
      | some message =>
        obtain ⟨reached, smaller⟩ := taken rfl
        have later : ∀ state, Reading.Reaches pb beginTime endTime (.message last) state → state.Forward :=
          fun state reaches => forward state (ReflTransGen.trans reached reaches)
        obtain ⟨most, messages, final, ended⟩ : ∃ enough messages final, ∀ fuel, enough < fuel →
            last.readWindow pb beginTime endTime fuel = some (messages, final) := by
          rcases smaller with less | ⟨same, fewer⟩
          · exact ih last.ahead (by omega) later rfl
          · exact ih' last.left (by omega) later (same.trans size) rfl
        refine ⟨max (n + 4) most + 1, message :: messages, final, fun fuel enough => ?_⟩
        obtain ⟨fuel, rfl⟩ : ∃ less, fuel = less + 1 := ⟨fuel - 1, by omega⟩
        rw [readWindow, read fuel (by omega)]
        simp only [ended fuel (by omega), Option.map_some]

theorem next_message_pos {reader : RecordReader} {after : Reading}
    (next : Reading.next pb beginTime endTime (.message reader) = some after) : after.reader.pos = reader.pos := by
  simp only [Reading.next] at next
  split at next
  · cases next
    rfl
  · split at next
    · cases next
      rfl
    · cases next
      cases scan beginTime endTime (reader.chunk.messages.drop reader.messageIndex) <;> rfl

theorem progresses_of_forward {reader : RecordReader}
    (forward : ∀ state, Reading.Reaches pb beginTime endTime (.message reader) state → state.Forward) :
    reader.Progresses pb beginTime endTime where
  ends := by
    obtain ⟨enough, messages, last, ended⟩ := readWindow_ends forward
    refine ⟨enough, fun fuel more => ?_⟩
    rw [ended fuel more]
    rfl
  neverBack := by
    intro state after reaches next
    cases state with
    | message other => exact Nat.le_of_eq (next_message_pos next).symm
    | nextChunk other skip =>
      cases next
      exact readTo_le_iff.mpr (forward _ reaches)
    | returned other => cases next
  consumes := by
    intro other skip after reaches next goes
    have moves := @Forward.goesOn pb beginTime endTime other skip (forward _ reaches)
    cases next
    rw [reading_pos]
    apply (moves _).1
    intro returned
    rw [returned] at goes
    exact goes rfl

/-- On any bytes, the calls of `ReadMessage` end and the reader never moves back exactly when `ReadNextChunk` comes to no
    section whose skip leads back. -/
theorem progresses_iff (pb : Protobuf) (beginTime endTime : UInt64) (reader : RecordReader) :
    reader.Progresses pb beginTime endTime ↔
      ∀ state, Reading.Reaches pb beginTime endTime (.message reader) state → state.Forward := by
  apply Iff.intro
  · intro progresses state reaches
    cases state with
    | message other => trivial
    | returned other => trivial
    | nextChunk other skip => exact readTo_le_iff.mp (progresses.neverBack _ _ reaches rfl)
  · exact progresses_of_forward

theorem loops_endless {reader middle : RecordReader}
    (there : ∀ skip, reader.turn pb beginTime endTime skip = .again middle true)
    (back : middle.turn pb beginTime endTime true = .again reader false) (fuel : Nat) :
    (∀ skip, reader.readNextChunk pb beginTime endTime fuel skip = none) ∧
    middle.readNextChunk pb beginTime endTime fuel true = none := by
  induction fuel with
  | zero => exact ⟨fun _ => rfl, rfl⟩
  | succ fuel ih =>
    refine ⟨fun skip => ?_, ?_⟩
    · rw [readNextChunk_turn, there]
      exact ih.2
    · rw [readNextChunk_turn, back]
      exact ih.1 false

end RecordReader

/-- A chunk header, and behind it the head of a chunk body whose size leads back to that chunk header. -/
def loopingSections (pb : Protobuf) (chunkHeader : ChunkHeader) : List UInt8 :=
  sectionBytes pb (.chunkHeader chunkHeader) ++
    sectionHead .chunkBody (2 ^ 64 - (sectionSize + (pb.chunkHeader.serialize chunkHeader).length + sectionSize))

namespace RecordReader

open RecordFileReader

variable {chunkHeader : ChunkHeader} {reader : RecordReader} {front : List UInt8}

theorem turn_chunkHeader (content : reader.fileReader.file.bytes = front ++ loopingSections pb chunkHeader)
    (here : reader.pos = front.length) (open' : reader.reachEnd = false)
    (sized : Payload.Sized pb (.chunkHeader chunkHeader)) (early : chunkHeader.endTime < beginTime)
    (within : chunkHeader.beginTime ≤ endTime) (skip : Bool) :
    reader.turn pb beginTime endTime skip =
      .again { reader with fileReader := reader.fileReader.behind pb (.chunkHeader chunkHeader) } true := by
  have split : reader.fileReader.file.bytes = front ++ sectionBytes pb (.chunkHeader chunkHeader) ++
      sectionHead .chunkBody (2 ^ 64 - (sectionSize + (pb.chunkHeader.serialize chunkHeader).length + sectionSize)) := by
    rw [content, loopingSections, List.append_assoc]
  have head := head_at split here (Nat.lt_of_lt_of_le sized.2 (by decide))
  have parsed := parse_at split here sized pb.chunkHeader chunkHeader rfl
  have inside : ¬ chunkHeader.beginTime > endTime := UInt64.not_lt.mpr within
  unfold turn
  rw [if_neg (by simp [open']), head]
  simp only [Payload.type_chunkHeader, SectionType.ofCode_code, parsed, if_neg inside, early, decide_true, Bool.or_true]

theorem turn_chunkBody (content : reader.fileReader.file.bytes = front ++ loopingSections pb chunkHeader)
    (here : reader.pos = front.length) (open' : reader.reachEnd = false)
    (sized : Payload.Sized pb (.chunkHeader chunkHeader)) (small : front.length < 2 ^ 62) :
    RecordReader.turn pb beginTime endTime
        { reader with fileReader := reader.fileReader.behind pb (.chunkHeader chunkHeader) } true =
      .again reader false := by
  have length : (sectionBytes pb (.chunkHeader chunkHeader)).length =
      sectionSize + (pb.chunkHeader.serialize chunkHeader).length := length_sectionBytes pb _
  have short : (pb.chunkHeader.serialize chunkHeader).length < 2 ^ 31 := sized.2
  have header : sectionSize = 16 := rfl
  have behindContent : (reader.fileReader.behind pb (.chunkHeader chunkHeader)).file.bytes =
      (front ++ sectionBytes pb (.chunkHeader chunkHeader)) ++ sectionHead .chunkBody
        (2 ^ 64 - (sectionSize + (pb.chunkHeader.serialize chunkHeader).length + sectionSize)) ++ [] := by
    show reader.fileReader.file.bytes = _
    rw [content, loopingSections, List.append_nil, List.append_assoc]
  have behindPos : (reader.fileReader.behind pb (.chunkHeader chunkHeader)).file.pos =
      (front ++ sectionBytes pb (.chunkHeader chunkHeader)).length := by
    show reader.pos + sectionSize + (pb.chunkHeader.serialize chunkHeader).length = _
    rw [List.length_append, length, here]
    omega
  have head := readSectionHead_code behindContent behindPos
  have size : int64 (Bytes.decode ((sectionHead .chunkBody
      (2 ^ 64 - (sectionSize + (pb.chunkHeader.serialize chunkHeader).length + sectionSize))).drop 8)) =
      - (sectionSize + (pb.chunkHeader.serialize chunkHeader).length + sectionSize : Nat) := by
    rw [sectionHead, List.drop_left' (by simp), Bytes.decode_encode (by omega), int64, if_neg (by omega)]
    omega
  rw [size, behindPos, List.length_append, length] at head
  have skipped : RecordFileReader.skipSection
      { reader.fileReader.behind pb (.chunkHeader chunkHeader) with
        file := (reader.fileReader.behind pb (.chunkHeader chunkHeader)).file.seek
          (front.length + (sectionSize + (pb.chunkHeader.serialize chunkHeader).length) + sectionSize) }
      (- (sectionSize + (pb.chunkHeader.serialize chunkHeader).length + sectionSize : Nat)) = reader.fileReader := by
    have reaches : (front.length + (sectionSize + (pb.chunkHeader.serialize chunkHeader).length) + sectionSize : Nat) +
        - ((sectionSize + (pb.chunkHeader.serialize chunkHeader).length + sectionSize : Nat) : Int) =
        (reader.fileReader.file.pos : Int) := by
      show _ = (reader.pos : Int)
      omega
    apply skipSection_to reaches
    show reader.pos < 2 ^ 63
    omega
  unfold turn
  rw [if_neg (by simp [open']), head]
  simp only [SectionType.ofCode_code, if_true, skipped]

theorem readMessage_endless (content : reader.fileReader.file.bytes = front ++ loopingSections pb chunkHeader)
    (here : reader.pos = front.length) (open' : reader.reachEnd = false)
    (sized : Payload.Sized pb (.chunkHeader chunkHeader)) (small : front.length < 2 ^ 62)
    (early : chunkHeader.endTime < beginTime) (within : chunkHeader.beginTime ≤ endTime)
    (valid : reader.isValid = true) (empty : reader.chunk = ⟨[]⟩)
    (overlaps : beginTime ≤ reader.header.endTime ∧ reader.header.beginTime ≤ endTime) (fuel : Nat) :
    reader.readMessage pb beginTime endTime fuel = none := by
  cases fuel with
  | zero => rfl
  | succ fuel =>
    have inside : ¬ (beginTime > reader.header.endTime || endTime < reader.header.beginTime) = true := by
      simpa using overlaps
    have endless := @loops_endless pb beginTime endTime { reader with messageIndex := reader.chunk.messages.length }
      { reader with
        messageIndex := reader.chunk.messages.length
        fileReader := reader.fileReader.behind pb (.chunkHeader chunkHeader) }
      (@turn_chunkHeader chunkHeader { reader with messageIndex := reader.chunk.messages.length } front pb
        beginTime endTime content here open' sized early within)
      (@turn_chunkBody chunkHeader { reader with messageIndex := reader.chunk.messages.length } front pb
        beginTime endTime content here open' sized small) fuel
    rw [readMessage, if_neg (by simp [valid]), if_neg inside]
    have nothing : scan beginTime endTime (reader.chunk.messages.drop reader.messageIndex) = .exhausted := by
      rw [empty, List.drop_nil, scan]
    simp only [nothing, endless.1 false]

/-- A file whose header is as it should be, and behind it a chunk that ends at time 1 and leads back to itself. -/
def loopingFile : List UInt8 :=
  headerBlock Wire.recordProto { endTime := 9 } ++ loopingSections Wire.recordProto ⟨1, 1, 1, 1⟩

def loopingReader : RecordReader where
  fileReader := ⟨⟨loopingFile, sectionSize + headerLength⟩, { endTime := 9 }, ⟨[]⟩, false⟩
  header := { endTime := 9 }
  isValid := true
  reachEnd := false
  chunk := ⟨[]⟩
  messageIndex := 0

theorem create_loopingFile : create Wire.recordProto loopingFile = some loopingReader := by
  have opened := @openFile_eq Wire.recordProto { endTime := 9 } (loopingSections Wire.recordProto ⟨1, 1, 1, 1⟩)
    (by unfold Payload.Sized; decide +kernel)
  rw [create, loopingFile, opened]
  rfl

/-- Read from time 2 on, the file keeps `ReadMessage` in its loop for ever. -/
theorem loopingFile_endless : create Wire.recordProto loopingFile = some loopingReader ∧
    (∀ fuel, loopingReader.readMessage Wire.recordProto 2 9 fuel = none) ∧
    ¬ loopingReader.Progresses Wire.recordProto 2 9 := by
  have here := length_headerBlock Wire.recordProto { endTime := 9 }
  have endless := @readMessage_endless ⟨1, 1, 1, 1⟩ loopingReader (headerBlock Wire.recordProto { endTime := 9 })
    Wire.recordProto 2 9 rfl here.symm rfl (by unfold Payload.Sized; decide +kernel) (by rw [here]; decide) (by decide)
    (by decide) rfl rfl (by decide)
  refine ⟨create_loopingFile, endless, fun progresses => ?_⟩
  obtain ⟨enough, ended⟩ := progresses.ends
  have some' := ended (enough + 2) (by omega)
  rw [readWindow, endless] at some'
  cases some'

end RecordReader

end CyberRT.Record

import CyberRT.Record.ReadBack
import CyberRT.Record.Recoverer

namespace CyberRT.Record

/-- `ReadSection<T>` succeeds exactly when the whole body is there: the body fits into an `int`, and no proper part of it
    parses to a message of its size. -/
def Codec.ReadWhole {α : Type} (codec : Codec α) (a : α) : Prop :=
  (codec.serialize a).length < 2 ^ 31 ∧ ∀ count < (codec.serialize a).length,
    ∀ b ∈ codec.parse ((codec.serialize a).take count), (codec.serialize b).length ≠ (codec.serialize a).length

instance {α : Type} (codec : Codec α) (a : α) : Decidable (codec.ReadWhole a) :=
  inferInstanceAs (Decidable (_ ∧ _))

def Payload.ReadWhole (pb : Protobuf) : Payload → Prop
  | .channel c => pb.channel.ReadWhole c
  | .chunkHeader h => pb.chunkHeader.ReadWhole h
  | .chunkBody body => pb.chunkBody.ReadWhole body
  | .header _ | .index _ => True

instance (pb : Protobuf) (payload : Payload) : Decidable (payload.ReadWhole pb) :=
  match payload with
  | .channel channel => inferInstanceAs (Decidable (pb.channel.ReadWhole channel))
  | .chunkHeader header => inferInstanceAs (Decidable (pb.chunkHeader.ReadWhole header))
  | .chunkBody body => inferInstanceAs (Decidable (pb.chunkBody.ReadWhole body))
  | .header _ | .index _ => inferInstanceAs (Decidable True)

/-- A message of which a field is set has at least one byte. -/
structure Protobuf.Filled (pb : Protobuf) : Prop where
  header : ∀ header, 0 < (pb.header.serialize header).length
  channel : ∀ channel, 0 < (pb.channel.serialize channel).length
  chunkHeader : ∀ header, 0 < (pb.chunkHeader.serialize header).length
  chunkBody : ∀ body : ChunkBody, body.messages ≠ [] → 0 < (pb.chunkBody.serialize body).length

/-- What stands between the header and the index. `Flush` writes no chunk without messages. -/
def Payload.IsData : Payload → Prop
  | .channel _ | .chunkHeader _ => True
  | .chunkBody body => body.messages ≠ []
  | .header _ | .index _ => False

theorem Payload.IsData.sized {pb : Protobuf} {payload : Payload} (data : payload.IsData) (filled : pb.Filled)
    (readWhole : payload.ReadWhole pb) : payload.Sized pb := by
  cases payload with
  | channel channel => exact ⟨filled.channel channel, readWhole.1⟩
  | chunkHeader header => exact ⟨filled.chunkHeader header, readWhole.1⟩
  | chunkBody body => exact ⟨filled.chunkBody body data, readWhole.1⟩
  | header header => exact data.elim
  | index index => exact data.elim

/-- A section behind the header. -/
structure Payload.Behind (pb : Protobuf) (payload : Payload) : Prop where
  kind : payload.IsData ∨ ∃ index, payload = .index index
  readWhole : payload.ReadWhole pb

/-- Where the file is cut off: at the end of a section, or within the next one. -/
def Fragment (pb : Protobuf) (tail : List UInt8) : Prop :=
  tail = [] ∨ ∃ payload : Payload, payload.Behind pb ∧ tail <+: sectionBytes pb payload ∧
    tail.length < (sectionBytes pb payload).length

namespace RecordFileReader

/-- A body that is not there whole is read up to the end of the file, and not taken. -/
theorem readSection_cut {α : Type} {codec : Codec α} {r : RecordFileReader} {front : List UInt8} {a : α} {count : Nat}
    (content : r.file.bytes = front ++ (codec.serialize a).take count) (here : r.file.pos = front.length)
    (short : count < (codec.serialize a).length) (readWhole : codec.ReadWhole a) :
    (readSection codec r (codec.serialize a).length).1 = none ∧
      (readSection codec r (codec.serialize a).length).2.file = r.file.seek r.file.bytes.length := by
  have small := readWhole.1
  have range : ¬ (((codec.serialize a).length : Int) < - 2 ^ 31 ∨ ((codec.serialize a).length : Int) > 2 ^ 31 - 1) := by
    omega
  have positive : ¬ ((codec.serialize a).length : Int) ≤ 0 := by omega
  have part : ((codec.serialize a).take count).length ≤ (codec.serialize a).length := by
    rw [List.length_take]
    omega
  have got := Bytes.File.read_rest content here part
  have whole : ((codec.serialize a).take count).take (codec.serialize a).length = (codec.serialize a).take count :=
    List.take_of_length_le part
  simp only [readSection, if_neg range, if_neg positive, Int.toNat_natCast, got, whole]
  cases parsed : codec.parse ((codec.serialize a).take count) with
  | none => exact ⟨rfl, rfl⟩
  | some b =>
    have differs := readWhole.2 count short b parsed
    have unequal : ¬ ((codec.serialize b).length : Int) = (codec.serialize a).length := by omega
    simp only [if_neg unequal]
    exact ⟨trivial, trivial⟩

end RecordFileReader

namespace Recoverer

open RecordFileReader

variable {pb : Protobuf} {recoverer : Recoverer} {fuel : Nat}

/-- At the end of the file the loop goes round at most once more. -/
theorem readThrough_end (ended : recoverer.reader.file.pos = recoverer.reader.file.bytes.length) :
    ∃ final, readThrough pb (fuel + 2) recoverer = some (true, final) ∧ final.calls = recoverer.calls := by
  have got : recoverer.reader.file.read sectionSize = ([], recoverer.reader.file) := by
    have nothing : recoverer.reader.file.bytes = recoverer.reader.file.bytes ++ [] := (List.append_nil _).symm
    rw [Bytes.File.read_rest nothing ended (Nat.zero_le _), ← ended]
    rfl
  by_cases marked : recoverer.reader.endOfFile = true
  · exact ⟨recoverer, by rw [readThrough, if_pos marked], rfl⟩
  · refine ⟨{ recoverer with reader := { recoverer.reader with endOfFile := true } }, ?_, rfl⟩
    simp [readThrough, marked, readSectionHead, got]

/-- The file ends within the head of a section. -/
theorem readThrough_head {front tail : List UInt8} (content : recoverer.reader.file.bytes = front ++ tail)
    (here : recoverer.reader.file.pos = front.length) (short : tail.length < sectionSize) :
    ∃ final, readThrough pb (fuel + 3) recoverer = some (true, final) ∧ final.calls = recoverer.calls := by
  by_cases marked : recoverer.reader.endOfFile = true
  · exact ⟨recoverer, by rw [readThrough, if_pos marked], rfl⟩
  · have got := Bytes.File.read_rest content here (Nat.le_of_lt short)
    have headed : ∃ endOfFile, recoverer.reader.readSectionHead = (none, { recoverer.reader with
        file := recoverer.reader.file.seek recoverer.reader.file.bytes.length, endOfFile := endOfFile }) := by
      simp only [readSectionHead, got]
      split
      · exact ⟨true, rfl⟩
      · exact ⟨recoverer.reader.endOfFile, if_pos (Nat.ne_of_lt short)⟩
    obtain ⟨endOfFile, headed⟩ := headed
    rw [readThrough, if_neg marked, headed]
    exact readThrough_end rfl

/-- The file ends within the body of a section, which has to be skipped. -/
theorem readThrough_body {front : List UInt8} {payload : Payload} {count : Nat}
    (content : recoverer.reader.file.bytes = front ++
      (sectionHead payload.type (pb.serialize payload).length ++ (pb.serialize payload).take count))
    (here : recoverer.reader.file.pos = front.length) (short : count < (pb.serialize payload).length)
    (behind : payload.Behind pb) :
    ∃ final, readThrough pb (fuel + 3) recoverer = some (true, final) ∧ final.calls = recoverer.calls := by
  by_cases marked : recoverer.reader.endOfFile = true
  · exact ⟨recoverer, by rw [readThrough, if_pos marked], rfl⟩
  have headed : recoverer.reader.file.bytes = front ++ sectionHead payload.type (pb.serialize payload).length ++
      (pb.serialize payload).take count := by
    rw [content, List.append_assoc]
  have at_body : recoverer.reader.afterHead.file.pos =
      (front ++ sectionHead payload.type (pb.serialize payload).length).length := by
    simp [afterHead, here]
  have skip : ∀ {α : Type} (codec : Codec α) (a : α), codec.serialize a = pb.serialize payload → codec.ReadWhole a →
      (readSection codec recoverer.reader.afterHead (pb.serialize payload).length).1 = none ∧
        ∀ fuel, ∃ final, readThrough pb (fuel + 2) { recoverer with
          reader := (readSection codec recoverer.reader.afterHead (pb.serialize payload).length).2 } =
            some (true, final) ∧ final.calls = recoverer.calls := by
    intro α codec a same readWhole
    rw [← same] at headed at_body short ⊢
    obtain ⟨fails, file⟩ := readSection_cut (r := recoverer.reader.afterHead) headed at_body short readWhole
    refine ⟨fails, fun fuel => ?_⟩
    apply readThrough_end
    rw [file]
    rfl
  rw [readThrough, if_neg marked]
  obtain ⟨data | ⟨index, rfl⟩, readWhole⟩ := behind
  · have small : (pb.serialize payload).length < 2 ^ 31 := by
      cases payload with
      | channel channel => exact readWhole.1
      | chunkHeader header => exact readWhole.1
      | chunkBody body => exact readWhole.1
      | header header => exact data.elim
      | index index => exact data.elim
    have head : recoverer.reader.readSectionHead =
        (some (payload.type.code, ((pb.serialize payload).length : Int)), recoverer.reader.afterHead) :=
      readSectionHead_eq headed here (by omega)
    rw [head]
    cases payload with
    | channel channel =>
      obtain ⟨fails, skipped⟩ := skip pb.channel channel rfl readWhole
      cases read : readSection pb.channel recoverer.reader.afterHead (pb.serialize (.channel channel)).length with
      | mk got reader =>
        rw [read] at fails skipped
        dsimp only at fails
        subst fails
        simp only [Payload.type_channel, SectionType.ofCode_code, read]
        exact skipped fuel
    | chunkHeader header =>
      obtain ⟨-, skipped⟩ := skip pb.chunkHeader header rfl readWhole
      simp only [Payload.type_chunkHeader, SectionType.ofCode_code]
      exact skipped fuel
    | chunkBody body =>
      obtain ⟨fails, skipped⟩ := skip pb.chunkBody body rfl readWhole
      cases read : readSection pb.chunkBody recoverer.reader.afterHead (pb.serialize (.chunkBody body)).length with
      | mk got reader =>
        rw [read] at fails skipped
        dsimp only at fails
        subst fails
        simp only [Payload.type_chunkBody, SectionType.ofCode_code, read]
        exact skipped fuel
    | header header => exact data.elim
    | index index => exact data.elim
  · rw [readSectionHead_code headed here]
    exact ⟨_, rfl, rfl⟩

/-- Behind the last whole section there is nothing more to be had. -/
theorem readThrough_fragment {front tail : List UInt8} (content : recoverer.reader.file.bytes = front ++ tail)
    (here : recoverer.reader.file.pos = front.length) (fragment : Fragment pb tail) :
    ∃ final, readThrough pb (fuel + 3) recoverer = some (true, final) ∧ final.calls = recoverer.calls := by
  rcases fragment with rfl | ⟨payload, behind, part, proper⟩
  · apply readThrough_end
    rw [content, here, List.append_nil]
  by_cases short : tail.length < sectionSize
  · exact readThrough_head content here short
  obtain ⟨rest, whole⟩ := part
  rw [sectionBytes] at whole
  rw [length_sectionBytes] at proper
  have headed : sectionHead payload.type (pb.serialize payload).length <+: tail := by
    apply List.prefix_of_prefix_length_le (List.prefix_append _ (pb.serialize payload))
    · rw [← whole]
      exact List.prefix_append ..
    · rw [length_sectionHead]
      omega
  obtain ⟨body, split⟩ := headed
  have length := congrArg List.length split
  rw [List.length_append, length_sectionHead] at length
  have cut : body = (pb.serialize payload).take body.length := by
    rw [← split, List.append_assoc] at whole
    rw [← List.append_cancel_left whole, List.take_left]
  rw [← split, cut] at content
  exact readThrough_body content here (by omega) behind

end Recoverer

/-- What the recoverer writes of these sections when it has written channels of these names. -/
def salvage : List String → List Payload → List RecordEvent
  | names, .channel channel :: rest =>
    if channel.name ∈ names then salvage names rest
    else .writeChannel channel :: salvage (names ++ [channel.name]) rest
  | names, .chunkHeader _ :: rest => salvage names rest
  | names, .chunkBody body :: rest => body.messages.map .writeMessage ++ salvage names rest
  | _, .header _ :: _ | _, .index _ :: _ | _, [] => []

namespace Recoverer

open RecordFileReader

variable {pb : Protobuf}

theorem readThrough_sections {recoverer : Recoverer} {fuel : Nat} {front tail : List UInt8} {present : List Payload}
    (filled : pb.Filled)
    (content : recoverer.reader.file.bytes = front ++ (present.flatMap (sectionBytes pb) ++ tail))
    (here : recoverer.reader.file.pos = front.length) (more : recoverer.reader.endOfFile = false)
    (behind : ∀ payload ∈ present, payload.Behind pb) (fragment : Fragment pb tail)
    (enough : present.length + 2 < fuel) :
    ∃ final, readThrough pb fuel recoverer = some (true, final) ∧
      final.calls = recoverer.calls ++ salvage recoverer.channelVec present := by
  induction present generalizing recoverer fuel front with
  | nil =>
    obtain ⟨fuel, rfl⟩ : ∃ left, fuel = left + 3 := ⟨fuel - 3, by simp at enough; omega⟩
    obtain ⟨final, read, calls⟩ := @readThrough_fragment pb recoverer fuel _ _ content here fragment
    exact ⟨final, read, by rw [calls, salvage, List.append_nil]⟩
  | cons payload present ih =>
    obtain ⟨fuel, rfl⟩ : ∃ left, fuel = left + 1 := ⟨fuel - 1, by simp at enough; omega⟩
    have later : present.length + 2 < fuel := Nat.succ_lt_succ_iff.mp (by simpa [Nat.add_right_comm] using enough)
    have rest : ∀ other ∈ present, other.Behind pb := fun other member => behind other (List.mem_cons_of_mem _ member)
    obtain ⟨data | ⟨index, rfl⟩, readWhole⟩ := behind payload (List.mem_cons_self ..)
    · have first : recoverer.reader.file.bytes =
          front ++ sectionBytes pb payload ++ (present.flatMap (sectionBytes pb) ++ tail) := by
        rw [content]
        simp only [List.flatMap_cons, List.append_assoc]
      have sized := data.sized filled readWhole
      have small := sized.2
      have head := head_at first here (by omega)
      have parsed := @parse_at pb recoverer.reader front _ payload first here sized
      have next : (recoverer.reader.behind pb payload).file.bytes =
          (front ++ sectionBytes pb payload) ++ (present.flatMap (sectionBytes pb) ++ tail) := first
      have there : (recoverer.reader.behind pb payload).file.pos = (front ++ sectionBytes pb payload).length := by
        simp [RecordFileReader.behind, here, length_sectionBytes, Nat.add_assoc]
      rw [readThrough, if_neg (by simp [more]), head]
      cases payload with
      | channel channel =>
        have read := parsed pb.channel channel rfl
        simp only [Payload.type_channel, SectionType.ofCode_code, read, writeChannel, salvage]
        by_cases known : channel.name ∈ recoverer.channelVec
        · simp only [if_pos known]
          exact ih next there more rest later
        · simp only [if_neg known]
          obtain ⟨final, ended, calls⟩ := @ih { recoverer with
            reader := recoverer.reader.behind pb (.channel channel)
            channelVec := recoverer.channelVec ++ [channel.name]
            calls := recoverer.calls ++ [.writeChannel channel] } fuel _ next there more rest later
          exact ⟨final, ended, by rw [calls, List.append_assoc]; rfl⟩
      | chunkHeader header =>
        have read := parsed pb.chunkHeader header rfl
        simp only [Payload.type_chunkHeader, SectionType.ofCode_code, read, salvage]
        exact ih next there more rest later
      | chunkBody body =>
        have read := parsed pb.chunkBody body rfl
        simp only [Payload.type_chunkBody, SectionType.ofCode_code, read, salvage]
        obtain ⟨final, ended, calls⟩ := @ih { recoverer with
          reader := recoverer.reader.behind pb (.chunkBody body)
          calls := recoverer.calls ++ body.messages.map .writeMessage } fuel _ next there more rest later
        exact ⟨final, ended, by rw [calls, List.append_assoc]⟩
      | header header => exact data.elim
      | index index => exact data.elim
    · have first : recoverer.reader.file.bytes = front ++ sectionHead .index (pb.serialize (.index index)).length ++
          (pb.serialize (.index index) ++ (present.flatMap (sectionBytes pb) ++ tail)) := by
        rw [content]
        simp [sectionBytes]
      rw [readThrough, if_neg (by simp [more]), readSectionHead_code first here]
      exact ⟨_, rfl, (List.append_nil _).symm⟩

end Recoverer

end CyberRT.Record

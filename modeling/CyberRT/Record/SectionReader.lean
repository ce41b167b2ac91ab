import CyberRT.Record.FileReader
import CyberRT.Record.Layout

namespace CyberRT.Record

/-- The next chunk body that `ReadNextChunk` gives, and the sections behind it. -/
def nextChunk (beginTime endTime : UInt64) : Bool → List Payload → Option ChunkBody × List Payload
  | skip, .chunkHeader header :: rest =>
    if header.beginTime > endTime then (none, rest)
    else nextChunk beginTime endTime (skip || header.endTime < beginTime) rest
  | true, .chunkBody _ :: rest => nextChunk beginTime endTime false rest
  | false, .chunkBody body :: rest => (some body, rest)
  | skip, .channel _ :: rest => nextChunk beginTime endTime skip rest
  | _, .header _ :: rest => (none, rest)
  | _, .index _ :: _ => (none, [])
  | _, [] => (none, [])

/-- What a reader has before it: the rest of its chunk and the sections up to the index. -/
structure Cursor where
  pending : List SingleMessage
  remaining : List Payload
  deriving DecidableEq, Repr

/-- `ReadMessage` behind an exhausted chunk. -/
def nextMessage (beginTime endTime : UInt64) : Bool → List Payload → Option SingleMessage × Cursor
  | skip, .chunkHeader header :: rest =>
    if header.beginTime > endTime then (none, ⟨[], rest⟩)
    else nextMessage beginTime endTime (skip || header.endTime < beginTime) rest
  | true, .chunkBody _ :: rest => nextMessage beginTime endTime false rest
  | false, .chunkBody body :: rest =>
    match scan beginTime endTime body.messages with
    | .found message pending => (some message, ⟨pending, rest⟩)
    | .blocked pending => (none, ⟨pending, rest⟩)
    | .exhausted => nextMessage beginTime endTime false rest
  | skip, .channel _ :: rest => nextMessage beginTime endTime skip rest
  | _, .header _ :: rest => (none, ⟨[], rest⟩)
  | _, .index _ :: _ => (none, ⟨[], []⟩)
  | _, [] => (none, ⟨[], []⟩)

namespace Cursor

/-- `ReadMessage` over the sections of a file. -/
def read (header : Header) (beginTime endTime : UInt64) (cursor : Cursor) : Option SingleMessage × Cursor :=
  if beginTime > header.endTime || endTime < header.beginTime then (none, cursor)
  else
    match scan beginTime endTime cursor.pending with
    | .found message pending => (some message, { cursor with pending := pending })
    | .blocked pending => (none, { cursor with pending := pending })
    | .exhausted => nextMessage beginTime endTime false cursor.remaining

end Cursor

theorem nextMessage_eq (beginTime endTime : UInt64) (skip : Bool) (sections : List Payload) :
    nextMessage beginTime endTime skip sections =
      match nextChunk beginTime endTime skip sections with
      | (none, rest) => (none, ⟨[], rest⟩)
      | (some body, rest) =>
        match scan beginTime endTime body.messages with
        | .found message pending => (some message, ⟨pending, rest⟩)
        | .blocked pending => (none, ⟨pending, rest⟩)
        | .exhausted => nextMessage beginTime endTime false rest := by
  fun_induction nextChunk beginTime endTime skip sections with
  | case1 skip header rest later => rw [nextMessage, if_pos later]
  | case2 skip header rest later ih => rw [nextMessage, if_neg later, ih]
  | case3 body rest ih => rw [nextMessage, ih]
  | case4 body rest => rw [nextMessage]
  | case5 skip channel rest ih => rw [nextMessage, ih]
  | case6 skip header rest => rw [nextMessage]
  | case7 skip index rest => rw [nextMessage]
  | case8 skip => rw [nextMessage]

theorem nextChunk_length {beginTime endTime : UInt64} {skip : Bool} {sections rest : List Payload} {body : ChunkBody}
    (found : nextChunk beginTime endTime skip sections = (some body, rest)) : rest.length < sections.length := by
  fun_induction nextChunk beginTime endTime skip sections with
  | case1 skip header rest later => simp at found
  | case2 skip header rest later ih => exact Nat.lt_succ_of_lt (ih found)
  | case3 body rest ih => exact Nat.lt_succ_of_lt (ih found)
  | case4 body rest =>
    cases found
    exact Nat.lt_succ_self _
  | case5 skip channel rest ih => exact Nat.lt_succ_of_lt (ih found)
  | case6 skip header rest => simp at found
  | case7 skip index rest => simp at found
  | case8 skip => simp at found

theorem scan_suffix_found {beginTime endTime : UInt64} {messages rest : List SingleMessage} {message : SingleMessage}
    (found : scan beginTime endTime messages = .found message rest) : rest <:+ messages := by
  fun_induction scan beginTime endTime messages with
  | case1 => cases found
  | case2 => cases found
  | case3 head tail _ _ ih => exact (ih found).trans (List.suffix_cons ..)
  | case4 head tail =>
    cases found
    exact List.suffix_cons ..

theorem scan_suffix_blocked {beginTime endTime : UInt64} {messages rest : List SingleMessage}
    (blocked : scan beginTime endTime messages = .blocked rest) : rest <:+ messages := by
  fun_induction scan beginTime endTime messages with
  | case1 => cases blocked
  | case2 =>
    cases blocked
    exact List.suffix_refl _
  | case3 head tail _ _ ih => exact (ih blocked).trans (List.suffix_cons ..)
  | case4 => cases blocked

/-- The sizes that `ReadSection` can handle: the section has bytes and fewer than 2 GiB. -/
def Payload.Sized (pb : Protobuf) (payload : Payload) : Prop :=
  0 < (pb.serialize payload).length ∧ (pb.serialize payload).length < 2 ^ 31

namespace RecordFileReader

theorem readSectionHead_code {r : RecordFileReader} {front rest : List UInt8} {type : SectionType} {size : Nat}
    (content : r.file.bytes = front ++ sectionHead type size ++ rest) (here : r.file.pos = front.length) :
    r.readSectionHead = (some (type.code, int64 (Bytes.decode ((sectionHead type size).drop 8))),
      { r with file := r.file.seek (r.file.pos + sectionSize) }) := by
  have got := Bytes.File.read_eq content here
  rw [length_sectionHead] at got
  have code : Bytes.decode ((sectionHead type size).take 4) = type.code := by
    have first : (sectionHead type size).take 4 = Bytes.encode 4 type.code := by
      rw [sectionHead, List.append_assoc, List.take_append_of_le_length (by simp)]
      exact List.take_of_length_le (by simp)
    rw [first]
    exact Bytes.decode_encode (by cases type <;> decide)
  simp only [readSectionHead, got, length_sectionHead, code]
  rfl

theorem readSectionHead_eq {r : RecordFileReader} {front rest : List UInt8} {type : SectionType} {size : Nat}
    (content : r.file.bytes = front ++ sectionHead type size ++ rest) (here : r.file.pos = front.length)
    (small : size < 2 ^ 63) :
    r.readSectionHead = (some (type.code, (size : Int)), { r with file := r.file.seek (r.file.pos + sectionSize) }) := by
  have length : Bytes.decode ((sectionHead type size).drop 8) = size := by
    have last : (sectionHead type size).drop 8 = Bytes.encode 8 size := by
      rw [sectionHead]
      exact List.drop_left' (by simp)
    rw [last]
    exact Bytes.decode_encode (Nat.lt_of_lt_of_le small (by decide))
  rw [readSectionHead_code content here, length, int64, if_pos small]

theorem readSection_eq {α : Type} {codec : Codec α} {r : RecordFileReader} {front rest : List UInt8} {a : α}
    (content : r.file.bytes = front ++ codec.serialize a ++ rest) (here : r.file.pos = front.length)
    (some' : 0 < (codec.serialize a).length) (small : (codec.serialize a).length < 2 ^ 31) :
    readSection codec r (codec.serialize a).length =
      (some a, { r with file := r.file.seek (r.file.pos + (codec.serialize a).length) }) := by
  have got := Bytes.File.read_eq content here
  have range : ¬ (((codec.serialize a).length : Int) < - 2 ^ 31 ∨ ((codec.serialize a).length : Int) > 2 ^ 31 - 1) := by
    omega
  have positive : ¬ ((codec.serialize a).length : Int) ≤ 0 := by omega
  simp only [readSection, if_neg range, if_neg positive, Int.toNat_natCast, got, List.take_length,
    codec.parse_serialize]
  rfl

theorem skipSection_eq {r : RecordFileReader} {size : Nat} (small : r.file.pos + size < 2 ^ 63) :
    r.skipSection size = { r with file := r.file.seek (r.file.pos + size) } := by
  have range : ¬ ((size : Int) > 2 ^ 63 - 1 - r.file.pos) := by omega
  have forward : ¬ ((r.file.pos : Int) + size < 0) := by omega
  have target : ((r.file.pos : Int) + size).toNat = r.file.pos + size := by omega
  rw [skipSection, if_neg range, if_neg forward, target]

/-- The reader is at the first of these sections, which the index follows. -/
structure Stands (pb : Protobuf) (r : RecordFileReader) (remaining : List Payload) : Prop where
  content : ∃ front index rest, r.file.bytes =
    front ++ (remaining ++ [Payload.index index]).flatMap (sectionBytes pb) ++ rest ∧ r.file.pos = front.length ∧
    Payload.Sized pb (.index index)
  sized : ∀ payload ∈ remaining, payload.Sized pb
  kinds : ∀ payload ∈ remaining, payload.type = .channel ∨ payload.type = .chunkHeader ∨ payload.type = .chunkBody
  bounded : r.file.bytes.length < 2 ^ 63

def behind (pb : Protobuf) (r : RecordFileReader) (payload : Payload) : RecordFileReader :=
  { r with file := r.file.seek (r.file.pos + sectionSize + (pb.serialize payload).length) }

def afterHead (r : RecordFileReader) : RecordFileReader :=
  { r with file := r.file.seek (r.file.pos + sectionSize) }

theorem head_at {pb : Protobuf} {r : RecordFileReader} {front rest : List UInt8} {payload : Payload}
    (content : r.file.bytes = front ++ sectionBytes pb payload ++ rest) (here : r.file.pos = front.length)
    (small : (pb.serialize payload).length < 2 ^ 63) :
    r.readSectionHead = (some (payload.type.code, ((pb.serialize payload).length : Int)), r.afterHead) := by
  have headed : r.file.bytes = front ++ sectionHead payload.type (pb.serialize payload).length ++
      (pb.serialize payload ++ rest) := by
    rw [content, sectionBytes]
    simp only [List.append_assoc]
  exact readSectionHead_eq headed here small

theorem parse_at {pb : Protobuf} {r : RecordFileReader} {front rest : List UInt8} {payload : Payload}
    (content : r.file.bytes = front ++ sectionBytes pb payload ++ rest) (here : r.file.pos = front.length)
    (sized : payload.Sized pb) {α : Type} (codec : Codec α) (a : α) (same : codec.serialize a = pb.serialize payload) :
    readSection codec r.afterHead (pb.serialize payload).length = (some a, r.behind pb payload) := by
  obtain ⟨some', small⟩ := sized
  have headed : r.file.bytes = (front ++ sectionHead payload.type (pb.serialize payload).length) ++
      codec.serialize a ++ rest := by
    rw [content, same, sectionBytes]
    simp only [List.append_assoc]
  rw [← same] at some' small ⊢
  have read := readSection_eq (r := r.afterHead) headed (by simp [afterHead, here]) some' small
  rw [read, behind, same]
  rfl

theorem Stands.split {pb : Protobuf} {r : RecordFileReader} {payload : Payload} {remaining : List Payload}
    (stands : Stands pb r (payload :: remaining)) :
    ∃ front rest, r.file.bytes = front ++ sectionBytes pb payload ++ rest ∧ r.file.pos = front.length := by
  obtain ⟨front, index, rest, content, here, last⟩ := stands.content
  refine ⟨front, (remaining ++ [Payload.index index]).flatMap (sectionBytes pb) ++ rest, ?_, here⟩
  rw [content]
  simp only [List.cons_append, List.flatMap_cons, List.append_assoc]

theorem Stands.head_eq {pb : Protobuf} {r : RecordFileReader} {payload : Payload} {remaining : List Payload}
    (stands : Stands pb r (payload :: remaining)) :
    r.readSectionHead = (some (payload.type.code, ((pb.serialize payload).length : Int)), r.afterHead) := by
  obtain ⟨front, rest, content, here⟩ := stands.split
  have small := (stands.sized payload (List.mem_cons_self ..)).2
  exact head_at content here (by omega)

theorem Stands.skip_eq {pb : Protobuf} {r : RecordFileReader} {payload : Payload} {remaining : List Payload}
    (stands : Stands pb r (payload :: remaining)) :
    r.afterHead.skipSection (pb.serialize payload).length = r.behind pb payload := by
  obtain ⟨front, index, rest, content, here, last⟩ := stands.content
  have total := congrArg List.length content
  have bounded := stands.bounded
  simp only [List.cons_append, List.flatMap_cons, sectionBytes, List.length_append, length_sectionHead] at total
  rw [skipSection_eq (by simp only [afterHead, Bytes.File.seek_pos]; omega)]
  rfl

theorem Stands.parse_eq {pb : Protobuf} {r : RecordFileReader} {payload : Payload} {remaining : List Payload}
    (stands : Stands pb r (payload :: remaining)) {α : Type} (codec : Codec α) (a : α)
    (same : codec.serialize a = pb.serialize payload) :
    readSection codec r.afterHead (pb.serialize payload).length = (some a, r.behind pb payload) := by
  obtain ⟨front, rest, content, here⟩ := stands.split
  exact parse_at content here (stands.sized payload (List.mem_cons_self ..)) codec a same

/-- What reading the first section gives, whether it is parsed or skipped. -/
structure First (pb : Protobuf) (r : RecordFileReader) (payload : Payload) where
  file : RecordFileReader
  head : r.readSectionHead = (some (payload.type.code, ((pb.serialize payload).length : Int)), file)
  skip : file.skipSection (pb.serialize payload).length = r.behind pb payload
  parse : ∀ {α : Type} (codec : Codec α) (a : α), codec.serialize a = pb.serialize payload →
    readSection codec file (pb.serialize payload).length = (some a, r.behind pb payload)

def Stands.first {pb : Protobuf} {r : RecordFileReader} {payload : Payload} {remaining : List Payload}
    (stands : Stands pb r (payload :: remaining)) : First pb r payload :=
  ⟨r.afterHead, stands.head_eq, stands.skip_eq, stands.parse_eq⟩

theorem Stands.tail {pb : Protobuf} {r : RecordFileReader} {payload : Payload} {remaining : List Payload}
    (stands : Stands pb r (payload :: remaining)) : Stands pb (r.behind pb payload) remaining := by
  obtain ⟨front, index, rest, content, here, last⟩ := stands.content
  refine ⟨⟨front ++ sectionBytes pb payload, index, rest, ?_, ?_, last⟩, ?_, ?_, stands.bounded⟩
  · simp only [behind, Bytes.File.seek_bytes, content, List.cons_append, List.flatMap_cons, List.append_assoc]
  · simp [behind, here, length_sectionBytes, Nat.add_assoc]
  · intro other member
    exact stands.sized other (List.mem_cons_of_mem _ member)
  · intro other member
    exact stands.kinds other (List.mem_cons_of_mem _ member)

theorem Stands.last {pb : Protobuf} {r : RecordFileReader} (stands : Stands pb r []) :
    ∃ (size : Int) (file : RecordFileReader), r.readSectionHead = (some (SectionType.index.code, size), file) := by
  obtain ⟨front, index, rest, content, here, last⟩ := stands.content
  have headed : r.file.bytes = front ++ sectionHead .index (pb.serialize (.index index)).length ++
      (pb.serialize (.index index) ++ rest) := by
    rw [content]
    simp [sectionBytes]
  exact ⟨_, _, readSectionHead_eq headed here (Nat.lt_of_lt_of_le last.2 (by decide))⟩

end RecordFileReader

namespace RecordReader

open RecordFileReader

/-- Where the reader is among the sections of the file. -/
def Follows (pb : Protobuf) (file : RecordFileReader) (reachEnd : Bool) (remaining : List Payload) : Prop :=
  (reachEnd = true ∧ remaining = []) ∨ (reachEnd = false ∧ Stands pb file remaining)

/-- The loop of `ReadNextChunk` goes over the sections as `nextChunk` does. -/
theorem readNextChunk_refines {pb : Protobuf} {beginTime endTime : UInt64} {fuel : Nat} {reader : RecordReader}
    {skip : Bool} {remaining : List Payload} (follows : Follows pb reader.fileReader reader.reachEnd remaining)
    (enough : remaining.length + 1 < fuel) :
    ∃ file reachEnd, readNextChunk pb beginTime endTime fuel reader skip =
        some ((nextChunk beginTime endTime skip remaining).1.isSome, { reader with
          fileReader := file, reachEnd := reachEnd,
          chunk := (nextChunk beginTime endTime skip remaining).1.getD reader.chunk }) ∧
      Follows pb file reachEnd (nextChunk beginTime endTime skip remaining).2 := by
  induction remaining generalizing reader skip fuel with
  | nil =>
    obtain ⟨fuel, rfl⟩ : ∃ left, fuel = left + 2 := ⟨fuel - 2, by simp at enough; omega⟩
    have done : Follows pb reader.fileReader true (nextChunk beginTime endTime skip []).2 :=
      .inl ⟨rfl, by simp [nextChunk]⟩
    rcases follows with ⟨ended, _⟩ | ⟨inside, stands⟩
    · refine ⟨reader.fileReader, true, ?_, done⟩
      simp [readNextChunk, nextChunk, ← ended]
    · obtain ⟨size, file, headed⟩ := stands.last
      refine ⟨file.skipSection size, true, ?_, .inl ⟨rfl, by simp [nextChunk]⟩⟩
      simp [readNextChunk, inside, headed, nextChunk]
  | cons payload remaining ih =>
    obtain ⟨fuel, rfl⟩ : ∃ left, fuel = left + 1 := ⟨fuel - 1, by simp at enough; omega⟩
    have later : remaining.length + 1 < fuel := by simpa using enough
    rcases follows with ⟨_, none⟩ | ⟨inside, stands⟩
    · cases none
    obtain ⟨file, headed, skipped, parsed⟩ := stands.first
    have tail : Follows pb (reader.fileReader.behind pb payload) false remaining := .inr ⟨rfl, stands.tail⟩
    cases payload with
    | channel channel =>
      have read := parsed pb.channel channel rfl
      simp only [readNextChunk, inside, headed, Payload.type_channel, SectionType.ofCode_code, read, nextChunk]
      exact ih tail later
    | chunkHeader header =>
      have read := parsed pb.chunkHeader header rfl
      simp only [readNextChunk, inside, headed, Payload.type_chunkHeader, SectionType.ofCode_code, read, nextChunk]
      by_cases after : header.beginTime > endTime
      · simp only [if_pos after]
        exact ⟨_, _, rfl, tail⟩
      · simp only [if_neg after]
        exact ih tail later
    | chunkBody body =>
      have read := parsed pb.chunkBody body rfl
      simp only [readNextChunk, inside, headed, Payload.type_chunkBody, SectionType.ofCode_code]
      cases skip with
      | true =>
        simp only [skipped, nextChunk]
        exact ih tail later
      | false =>
        simp only [read, nextChunk]
        exact ⟨_, _, rfl, tail⟩
    | header header => simpa using stands.kinds _ (List.mem_cons_self ..)
    | index index => simpa using stands.kinds _ (List.mem_cons_self ..)

/-- The reader of the file stands where the cursor stands among its sections. -/
structure Reads (pb : Protobuf) (reader : RecordReader) (cursor : Cursor) : Prop where
  valid : reader.isValid = true
  pending : reader.chunk.messages.drop reader.messageIndex = cursor.pending
  follows : Follows pb reader.fileReader reader.reachEnd cursor.remaining

theorem Reads.moved {pb : Protobuf} {reader : RecordReader} {cursor : Cursor} (reads : Reads pb reader cursor)
    {rest : List SingleMessage} (behind : rest <:+ cursor.pending) :
    Reads pb { reader with messageIndex := reader.chunk.messages.length - rest.length } { cursor with pending := rest } := by
  refine ⟨reads.valid, ?_, reads.follows⟩
  rw [← reads.pending] at behind
  exact (List.suffix_iff_eq_drop.mp (behind.trans (List.drop_suffix _ _))).symm

theorem readMessage_refines {pb : Protobuf} {beginTime endTime : UInt64} {fuel : Nat} {reader : RecordReader}
    {cursor : Cursor} (reads : Reads pb reader cursor) (enough : cursor.remaining.length + 2 < fuel) :
    ∃ next, readMessage pb beginTime endTime fuel reader =
        some ((cursor.read reader.header beginTime endTime).1, next) ∧
      next.header = reader.header ∧ Reads pb next (cursor.read reader.header beginTime endTime).2 := by
  induction fuel generalizing reader cursor with
  | zero => omega
  | succ fuel ih =>
    rw [readMessage, if_neg (by simp [reads.valid]), Cursor.read]
    by_cases outside : (beginTime > reader.header.endTime || endTime < reader.header.beginTime) = true
    · rw [if_pos outside, if_pos outside]
      exact ⟨reader, rfl, rfl, reads⟩
    rw [if_neg outside, if_neg outside, reads.pending]
    cases scanned : scan beginTime endTime cursor.pending with
    | found message rest =>
      exact ⟨_, rfl, rfl, reads.moved (scan_suffix_found scanned)⟩
    | blocked rest =>
      exact ⟨_, rfl, rfl, reads.moved (scan_suffix_blocked scanned)⟩
    | exhausted =>
      obtain ⟨file, reachEnd, chunked, follows⟩ := @readNextChunk_refines pb beginTime endTime fuel
        { reader with messageIndex := reader.chunk.messages.length } false cursor.remaining reads.follows (by omega)
      simp only [chunked]
      rw [nextMessage_eq]
      cases found : nextChunk beginTime endTime false cursor.remaining with
      | mk body rest =>
        rw [found] at follows
        cases body with
        | none => exact ⟨_, rfl, rfl, reads.valid, by simp, follows⟩
        | some body =>
          have shorter := nextChunk_length found
          have entered : Reads pb { reader with
              fileReader := file, reachEnd := reachEnd, chunk := body, messageIndex := 0 } ⟨body.messages, rest⟩ :=
            ⟨reads.valid, rfl, follows⟩
          obtain ⟨next, read, header, reached⟩ := ih entered (by simp only; omega)
          rw [Cursor.read, if_neg outside] at read reached
          exact ⟨next, read, header, reached⟩

end RecordReader

end CyberRT.Record

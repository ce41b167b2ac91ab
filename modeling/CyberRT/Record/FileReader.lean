import Mathlib.Algebra.Ring.Int.Defs
import CyberRT.Record.Messages

namespace CyberRT.Record

structure RecordFileReader where
  file : Bytes.File
  header : Header
  index : Index
  endOfFile : Bool

/-- The `int64_t` that eight bytes stand for. -/
def int64 (n : Nat) : Int := if n < 2 ^ 63 then n else n - 2 ^ 64

namespace RecordFileReader

variable (pb : Protobuf)

/-- `ReadSection(&section)`: the type as the number it has in the file, and the size. -/
def readSectionHead (r : RecordFileReader) : Option (Nat × Int) × RecordFileReader :=
  let (got, file) := r.file.read sectionSize
  if got.length = 0 then (none, { r with file := file, endOfFile := true })
  else if got.length ≠ sectionSize then (none, { r with file := file })
  else (some (Bytes.decode (got.take 4), int64 (Bytes.decode (got.drop 8))), { r with file := file })

/-- `ReadSection<T>(size, &message)`. The `FileInputStream` reads a block of the given size, or of its own
    default when that is zero. A parse that fails is at the end for `ExpectAtEnd` when it has read up to the limit. -/
def readSection {α : Type} (codec : Codec α) (r : RecordFileReader) (size : Int) : Option α × RecordFileReader :=
  if size < - 2 ^ 31 ∨ size > 2 ^ 31 - 1 then (none, r)
  else
    let (got, file) := r.file.read (if size ≤ 0 then 8192 else size.toNat)
    match codec.parse (got.take size.toNat) with
    | none =>
      (none, { r with file := file, endOfFile := (got.length : Int) = size && codec.stopsAtEnd (got.take size.toNat) })
    | some message =>
      if ((codec.serialize message).length : Int) = size then (some message, { r with file := file })
      else (none, { r with file := file })

def skipSection (r : RecordFileReader) (size : Int) : RecordFileReader :=
  if size > 2 ^ 63 - 1 - r.file.pos then r
  else if (r.file.pos : Int) + size < 0 then r
  else { r with file := r.file.seek ((r.file.pos : Int) + size).toNat }

def reset (r : RecordFileReader) : RecordFileReader :=
  { r with file := r.file.seek (sectionSize + headerLength), endOfFile := false }

def readHeader (r : RecordFileReader) : Option RecordFileReader :=
  match r.readSectionHead with
  | (none, _) => none
  | (some (code, size), r) =>
    if SectionType.ofCode code ≠ some .header then none
    else
      match readSection pb.header r size with
      | (none, _) => none
      | (some header, r) => some { r with header := header, file := r.file.seek (sectionSize + headerLength) }

/-- `Open` on a file with this content. -/
def openFile (bytes : List UInt8) : Option RecordFileReader :=
  readHeader pb ⟨⟨bytes, 0⟩, {}, ⟨[]⟩, false⟩

def readIndex (r : RecordFileReader) : Bool × RecordFileReader :=
  if r.header.isComplete = false then (false, r)
  else
    let r := { r with file := r.file.seek r.header.indexPosition.toNat }
    match r.readSectionHead with
    | (none, r) => (false, r)
    | (some (code, size), r) =>
      if SectionType.ofCode code ≠ some .index then (false, r)
      else
        match readSection pb.index r size with
        | (none, r) => (false, r)
        | (some index, r) => (true, { r with index := index }.reset)

end RecordFileReader

/-- `std::numeric_limits<uint64_t>::max()`. -/
def maxTime : UInt64 := 0xffffffffffffffff

theorem le_maxTime (time : UInt64) : time ≤ maxTime := by
  have bound := time.toNat_lt
  rw [UInt64.le_iff_toNat_le]
  exact Nat.le_of_lt_succ bound

theorem raise_zero (time : UInt64) : (if 0 < time then time else 0) = time := by
  split
  · rfl
  · rename_i zero
    exact UInt64.le_antisymm UInt64.zero_le (UInt64.not_lt.mp zero)

theorem lower_maxTime (time : UInt64) : (if time < maxTime then time else maxTime) = time := by
  split
  · rfl
  · rename_i greatest
    exact UInt64.le_antisymm (UInt64.not_lt.mp greatest) (le_maxTime _)

/-- What the loop of `ReadMessage` over the messages of a chunk ends with. -/
inductive Scan where
  | found (message : SingleMessage) (rest : List SingleMessage)
  /-- The next message is later than the end of the interval and stays where it is. -/
  | blocked (rest : List SingleMessage)
  | exhausted
  deriving DecidableEq, Repr

def scan (beginTime endTime : UInt64) : List SingleMessage → Scan
  | [] => .exhausted
  | message :: rest =>
    if message.time > endTime then .blocked (message :: rest)
    else if message.time < beginTime then scan beginTime endTime rest
    else .found message rest

structure RecordReader where
  fileReader : RecordFileReader
  header : Header
  isValid : Bool
  reachEnd : Bool
  chunk : ChunkBody
  messageIndex : Nat

namespace RecordReader

variable (pb : Protobuf)

/-- The constructor, on a file with this content. -/
def create (bytes : List UInt8) : Option RecordReader :=
  (RecordFileReader.openFile pb bytes).map fun r =>
    { fileReader := (r.readIndex pb).2.reset
      header := r.header
      isValid := true
      reachEnd := false
      chunk := ⟨[]⟩
      messageIndex := 0 }

def reset (reader : RecordReader) : RecordReader :=
  { reader with fileReader := reader.fileReader.reset, reachEnd := false, messageIndex := 0, chunk := ⟨[]⟩ }

/-- `ReadNextChunk`, where `none` stands for a loop that has not ended within the fuel. A body that does not
    parse leaves an empty chunk. -/
def readNextChunk (beginTime endTime : UInt64) : Nat → RecordReader → Bool → Option (Bool × RecordReader)
  | 0, _, _ => none
  | fuel + 1, reader, skipNextChunkBody =>
    if reader.reachEnd then some (false, reader)
    else
      match reader.fileReader.readSectionHead with
      | (none, file) => some (false, { reader with fileReader := file })
      | (some (code, size), file) =>
        match SectionType.ofCode code with
        | some .index =>
          readNextChunk beginTime endTime fuel
            { reader with fileReader := file.skipSection size, reachEnd := true } skipNextChunkBody
        | some .channel =>
          match RecordFileReader.readSection pb.channel file size with
          | (none, file) => some (false, { reader with fileReader := file })
          | (some _, file) =>
            readNextChunk beginTime endTime fuel { reader with fileReader := file } skipNextChunkBody
        | some .chunkHeader =>
          match RecordFileReader.readSection pb.chunkHeader file size with
          | (none, file) => some (false, { reader with fileReader := file })
          | (some header, file) =>
            let skip := skipNextChunkBody || header.endTime < beginTime
            if header.beginTime > endTime then some (false, { reader with fileReader := file })
            else readNextChunk beginTime endTime fuel { reader with fileReader := file } skip
        | some .chunkBody =>
          if skipNextChunkBody then
            readNextChunk beginTime endTime fuel { reader with fileReader := file.skipSection size } false
          else
            match RecordFileReader.readSection pb.chunkBody file size with
            | (none, file) => some (false, { reader with fileReader := file, chunk := ⟨[]⟩ })
            | (some body, file) => some (true, { reader with fileReader := file, chunk := body })
        | _ => some (false, { reader with fileReader := file })

/-- `ReadMessage(&message, begin_time, end_time)`: the message, or nothing where it returns false. -/
def readMessage (beginTime endTime : UInt64) : Nat → RecordReader → Option (Option SingleMessage × RecordReader)
  | 0, _ => none
  | fuel + 1, reader =>
    if reader.isValid = false then some (none, reader)
    else if beginTime > reader.header.endTime || endTime < reader.header.beginTime then some (none, reader)
    else
      let count := reader.chunk.messages.length
      match scan beginTime endTime (reader.chunk.messages.drop reader.messageIndex) with
      | .found message rest => some (some message, { reader with messageIndex := count - rest.length })
      | .blocked rest => some (none, { reader with messageIndex := count - rest.length })
      | .exhausted =>
        match readNextChunk pb beginTime endTime fuel { reader with messageIndex := count } false with
        | none => none
        | some (false, reader) => some (none, reader)
        | some (true, reader) => readMessage beginTime endTime fuel { reader with messageIndex := 0 }

/-- `ReadMessage` called until it returns false. -/
def readAll (beginTime endTime : UInt64) : Nat → RecordReader → Option (List SingleMessage)
  | 0, _ => none
  | fuel + 1, reader =>
    match readMessage pb beginTime endTime fuel reader with
    | none => none
    | some (none, _) => some []
    | some (some message, reader) => (readAll beginTime endTime fuel reader).map (message :: ·)

end RecordReader

end CyberRT.Record

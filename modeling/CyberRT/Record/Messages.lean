import CyberRT.Bytes.File

namespace CyberRT.Record

inductive CompressType where
  | none | bz2 | lz4
  deriving DecidableEq, Repr

structure SingleMessage where
  channelName : String
  time : UInt64
  content : List UInt8
  deriving DecidableEq, Repr

/-- `proto::Header`, with the defaults of the `.proto` file. -/
structure Header where
  majorVersion : UInt32 := 0
  minorVersion : UInt32 := 0
  compress : CompressType := .none
  chunkInterval : UInt64 := 0
  segmentInterval : UInt64 := 0
  indexPosition : UInt64 := 0
  chunkNumber : UInt64 := 0
  channelNumber : UInt64 := 0
  beginTime : UInt64 := 0
  endTime : UInt64 := 0
  messageNumber : UInt64 := 0
  size : UInt64 := 0
  isComplete : Bool := false
  chunkRawSize : UInt64 := 0
  segmentRawSize : UInt64 := 0
  deriving DecidableEq, Repr

structure Channel where
  name : String
  messageType : String
  protoDesc : List UInt8
  deriving DecidableEq, Repr

structure ChunkHeader where
  beginTime : UInt64
  endTime : UInt64
  messageNumber : Nat
  rawSize : Nat
  deriving DecidableEq, Repr

structure ChunkBody where
  messages : List SingleMessage
  deriving DecidableEq, Repr

structure ChannelCache where
  messageNumber : Nat
  name : String
  messageType : String
  protoDesc : List UInt8
  deriving DecidableEq, Repr

inductive SectionType where
  | header | chunkHeader | chunkBody | index | channel
  deriving DecidableEq, Repr

def SectionType.code : SectionType → Nat
  | .header => 0
  | .chunkHeader => 1
  | .chunkBody => 2
  | .index => 3
  | .channel => 4

def SectionType.ofCode : Nat → Option SectionType
  | 0 => some .header
  | 1 => some .chunkHeader
  | 2 => some .chunkBody
  | 3 => some .index
  | 4 => some .channel
  | _ => none

@[simp] theorem SectionType.ofCode_code (type : SectionType) : ofCode type.code = some type := by
  cases type <;> rfl

/-- The `oneof cache` of an index entry; a chunk header is cached whole, a chunk body by its size. -/
inductive Cache where
  | channel (cache : ChannelCache)
  | chunkHeader (cache : ChunkHeader)
  | chunkBody (messageNumber : Nat)
  deriving DecidableEq, Repr

structure SingleIndex where
  type : SectionType
  position : Nat
  cache : Cache
  deriving DecidableEq, Repr

structure Index where
  indexes : List SingleIndex
  deriving DecidableEq, Repr

/-- What a section holds behind its `struct Section`. -/
inductive Payload where
  | header (header : Header)
  | chunkHeader (header : ChunkHeader)
  | chunkBody (body : ChunkBody)
  | index (index : Index)
  | channel (channel : Channel)
  deriving DecidableEq, Repr

def Payload.type : Payload → SectionType
  | .header _ => .header
  | .chunkHeader _ => .chunkHeader
  | .chunkBody _ => .chunkBody
  | .index _ => .index
  | .channel _ => .channel

@[simp] theorem Payload.type_header (h : Header) : (Payload.header h).type = .header := rfl

@[simp] theorem Payload.type_chunkHeader (h : ChunkHeader) : (Payload.chunkHeader h).type = .chunkHeader := rfl

@[simp] theorem Payload.type_chunkBody (b : ChunkBody) : (Payload.chunkBody b).type = .chunkBody := rfl

@[simp] theorem Payload.type_index (i : Index) : (Payload.index i).type = .index := rfl

@[simp] theorem Payload.type_channel (c : Channel) : (Payload.channel c).type = .channel := rfl

def Payload.messages : Payload → List SingleMessage
  | .chunkBody body => body.messages
  | _ => []

/-- `SerializeToZeroCopyStream` and `ParseFromCodedStream` of one message type. `ByteSizeLong` is the
    length of the serialized form, and `stopsAtEnd` tells whether a parse that fails has read all of its input. -/
structure Codec (α : Type) where
  serialize : α → List UInt8
  parse : List UInt8 → Option α
  parse_serialize : ∀ a, parse (serialize a) = some a
  stopsAtEnd : List UInt8 → Bool

def headerLength : Nat := 2048

/-- The generated code of `record.proto`. A header has 15 numbers, none of which takes more than ten bytes
    and a key. -/
structure Protobuf where
  header : Codec Header
  chunkHeader : Codec ChunkHeader
  chunkBody : Codec ChunkBody
  index : Codec Index
  channel : Codec Channel
  header_fits : ∀ h, (header.serialize h).length ≤ headerLength

def Protobuf.serialize (pb : Protobuf) : Payload → List UInt8
  | .header h => pb.header.serialize h
  | .chunkHeader h => pb.chunkHeader.serialize h
  | .chunkBody body => pb.chunkBody.serialize body
  | .index i => pb.index.serialize i
  | .channel c => pb.channel.serialize c

/-- `struct Section`: a four byte enumerator, four bytes of padding and an `int64_t`. -/
def sectionHead (type : SectionType) (size : Nat) : List UInt8 :=
  Bytes.encode 4 type.code ++ Bytes.encode 4 0 ++ Bytes.encode 8 size

def sectionSize : Nat := 16

@[simp] theorem length_sectionHead (type : SectionType) (size : Nat) :
    (sectionHead type size).length = sectionSize := by
  simp [sectionHead, sectionSize]

/-- `static char blank[HEADER_LENGTH] = {'0'}`. -/
def blank : List UInt8 := 48 :: List.replicate (headerLength - 1) 0

@[simp] theorem length_blank : blank.length = headerLength := by
  rw [blank, List.length_cons, List.length_replicate]
  rfl

end CyberRT.Record

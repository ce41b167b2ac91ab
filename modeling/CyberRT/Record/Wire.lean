import CyberRT.Bytes.Wire
import CyberRT.Record.Messages

namespace CyberRT.Record.Wire

open Bytes

def uint64 : Format UInt64 := Format.varint.imap UInt64.toNat (fun n => some (.ofNat n)) (by simp)

def uint32 : Format UInt32 := Format.varint.imap UInt32.toNat (fun n => some (.ofNat n)) (by simp)

def bool : Format Bool := Format.varint.imap Bool.toNat (fun n => some (n ≠ 0)) (by decide)

def compress : Format CompressType :=
  Format.varint.imap (fun | .none => 0 | .bz2 => 1 | .lz4 => 2)
    (fun | 0 => some .none | 1 => some .bz2 | 2 => some .lz4 | _ => none) (by intro type; cases type <;> rfl)

def sectionType : Format SectionType := Format.varint.imap SectionType.code SectionType.ofCode (by simp)

def string : Format String :=
  Format.bytes.imap (fun s => s.toUTF8.data.toList) (fun bytes => String.fromUTF8? ⟨bytes.toArray⟩) (by
    intro s
    simp only [String.fromUTF8?, String.fromUTF8, Array.toArray_toList]
    exact dif_pos s.isValidUTF8)

def singleMessage : Format SingleMessage :=
  ((Format.keyed 0x0a string).seq ((Format.keyed 0x10 uint64).seq (Format.keyed 0x1a Format.bytes))).imap
    (fun m => (m.channelName, m.time, m.content)) (fun (name, time, content) => some ⟨name, time, content⟩)
    (fun _ => rfl)

def header : Format Header :=
  ((Format.keyed 0x08 uint32).seq ((Format.keyed 0x10 uint32).seq ((Format.keyed 0x18 compress).seq
    ((Format.keyed 0x20 uint64).seq ((Format.keyed 0x28 uint64).seq ((Format.keyed 0x30 uint64).seq
    ((Format.keyed 0x38 uint64).seq ((Format.keyed 0x40 uint64).seq ((Format.keyed 0x48 uint64).seq
    ((Format.keyed 0x50 uint64).seq ((Format.keyed 0x58 uint64).seq ((Format.keyed 0x60 uint64).seq
    ((Format.keyed 0x68 bool).seq ((Format.keyed 0x70 uint64).seq (Format.keyed 0x78 uint64))))))))))))))).imap
    (fun h => (h.majorVersion, h.minorVersion, h.compress, h.chunkInterval, h.segmentInterval, h.indexPosition,
      h.chunkNumber, h.channelNumber, h.beginTime, h.endTime, h.messageNumber, h.size, h.isComplete,
      h.chunkRawSize, h.segmentRawSize))
    (fun (major, minor, compress, chunkInterval, segmentInterval, indexPosition, chunkNumber, channelNumber,
        beginTime, endTime, messageNumber, size, isComplete, chunkRawSize, segmentRawSize) =>
      some ⟨major, minor, compress, chunkInterval, segmentInterval, indexPosition, chunkNumber, channelNumber,
        beginTime, endTime, messageNumber, size, isComplete, chunkRawSize, segmentRawSize⟩)
    (fun _ => rfl)

def channel : Format Channel :=
  ((Format.keyed 0x0a string).seq ((Format.keyed 0x12 string).seq (Format.keyed 0x1a Format.bytes))).imap
    (fun c => (c.name, c.messageType, c.protoDesc)) (fun (name, type, desc) => some ⟨name, type, desc⟩) (fun _ => rfl)

def chunkHeader : Format ChunkHeader :=
  ((Format.keyed 0x08 uint64).seq ((Format.keyed 0x10 uint64).seq
    ((Format.keyed 0x18 Format.varint).seq (Format.keyed 0x20 Format.varint)))).imap
    (fun h => (h.beginTime, h.endTime, h.messageNumber, h.rawSize))
    (fun (begin, last, number, size) => some ⟨begin, last, number, size⟩) (fun _ => rfl)

def channelCache : Format ChannelCache :=
  ((Format.keyed 0x08 Format.varint).seq ((Format.keyed 0x12 string).seq
    ((Format.keyed 0x1a string).seq (Format.keyed 0x22 Format.bytes)))).imap
    (fun c => (c.messageNumber, c.name, c.messageType, c.protoDesc))
    (fun (number, name, type, desc) => some ⟨number, name, type, desc⟩) (fun _ => rfl)

def chunkHeaderCache : Format ChunkHeader :=
  ((Format.keyed 0x08 Format.varint).seq ((Format.keyed 0x10 uint64).seq
    ((Format.keyed 0x18 uint64).seq (Format.keyed 0x20 Format.varint)))).imap
    (fun h => (h.messageNumber, h.beginTime, h.endTime, h.rawSize))
    (fun (number, begin, last, size) => some ⟨begin, last, number, size⟩) (fun _ => rfl)

def chunkBodyCache : Format Nat := Format.keyed 0x08 Format.varint

/-- The keys of the fields 101 to 103 take two bytes. -/
def cache : Format Cache where
  encode
    | .channel c => 0xaa :: 0x06 :: channelCache.delimited.encode c
    | .chunkHeader h => 0xb2 :: 0x06 :: chunkHeaderCache.delimited.encode h
    | .chunkBody n => 0xba :: 0x06 :: chunkBodyCache.delimited.encode n
  decode
    | 0xaa :: 0x06 :: bytes => (channelCache.delimited.decode bytes).map fun (c, rest) => (.channel c, rest)
    | 0xb2 :: 0x06 :: bytes => (chunkHeaderCache.delimited.decode bytes).map fun (h, rest) => (.chunkHeader h, rest)
    | 0xba :: 0x06 :: bytes => (chunkBodyCache.delimited.decode bytes).map fun (n, rest) => (.chunkBody n, rest)
    | _ => none
  decode_encode c rest := by
    cases c <;> simp [Format.decode_encode]

def singleIndex : Format SingleIndex :=
  ((Format.keyed 0x08 sectionType).seq ((Format.keyed 0x10 Format.varint).seq cache)).imap
    (fun i => (i.type, i.position, i.cache)) (fun (type, position, cache) => some ⟨type, position, cache⟩) (fun _ => rfl)

/-- The only field of `ChunkBody` and `Index` is a repeated one. -/
def repeated {α : Type} (item : Format α) : Format α := Format.keyed 0x0a item.delimited

theorem repeated_ne_nil {α : Type} (item : Format α) (a : α) : (repeated item).encode a ≠ [] := by
  simp [repeated, Format.keyed]

theorem length_varint_le {n digits : Nat} (bound : n < 128 ^ (digits + 1)) :
    (Format.varint.encode n).length ≤ digits + 1 :=
  length_encodeVarint_le bound

theorem length_uint64_le (n : UInt64) : (uint64.encode n).length ≤ 10 :=
  length_varint_le (Nat.lt_of_lt_of_le n.toNat_lt (by decide))

theorem length_uint32_le (n : UInt32) : (uint32.encode n).length ≤ 5 :=
  length_varint_le (Nat.lt_of_lt_of_le n.toNat_lt (by decide))

theorem length_header_le (h : Header) : (header.encode h).length ≤ headerLength := by
  have flag : (bool.encode h.isComplete).length ≤ 1 := by cases h.isComplete <;> decide
  have kind : (compress.encode h.compress).length ≤ 1 := by cases h.compress <;> decide
  have number : ∀ key (n : UInt64), ((Format.keyed key uint64).encode n).length ≤ 11 :=
    fun key n => Format.length_keyed_le (length_uint64_le n) key
  have version : ∀ key (n : UInt32), ((Format.keyed key uint32).encode n).length ≤ 6 :=
    fun key n => Format.length_keyed_le (length_uint32_le n) key
  have total := Format.length_seq_le (version 0x08 h.majorVersion) <| Format.length_seq_le (version 0x10 h.minorVersion) <|
    Format.length_seq_le (Format.length_keyed_le kind 0x18) <| Format.length_seq_le (number 0x20 h.chunkInterval) <|
    Format.length_seq_le (number 0x28 h.segmentInterval) <| Format.length_seq_le (number 0x30 h.indexPosition) <|
    Format.length_seq_le (number 0x38 h.chunkNumber) <| Format.length_seq_le (number 0x40 h.channelNumber) <|
    Format.length_seq_le (number 0x48 h.beginTime) <| Format.length_seq_le (number 0x50 h.endTime) <|
    Format.length_seq_le (number 0x58 h.messageNumber) <| Format.length_seq_le (number 0x60 h.size) <|
    Format.length_seq_le (Format.length_keyed_le flag 0x68) <| Format.length_seq_le (number 0x70 h.chunkRawSize)
      (number 0x78 h.segmentRawSize)
  exact Nat.le_trans total (by decide)

/-- The wire format of `record.proto`, with every field set and in the order of the field numbers. -/
def recordProto : Protobuf where
  header := ⟨header.encode, header.parse, header.parse_encode, fun _ => false⟩
  chunkHeader := ⟨chunkHeader.encode, chunkHeader.parse, chunkHeader.parse_encode, fun _ => false⟩
  chunkBody :=
    ⟨fun body => body.messages.flatMap (repeated singleMessage).encode,
      fun bytes => ((repeated singleMessage).parseAll bytes).map ChunkBody.mk,
      fun body => by rw [Format.parseAll_flatMap _ (repeated_ne_nil _)]; rfl, fun _ => false⟩
  index :=
    ⟨fun index => index.indexes.flatMap (repeated singleIndex).encode,
      fun bytes => ((repeated singleIndex).parseAll bytes).map Index.mk,
      fun index => by rw [Format.parseAll_flatMap _ (repeated_ne_nil _)]; rfl, fun _ => false⟩
  channel := ⟨channel.encode, channel.parse, channel.parse_encode, fun _ => false⟩
  header_fits := length_header_le

end CyberRT.Record.Wire

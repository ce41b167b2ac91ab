import CyberRT.Record.FileReader
import CyberRT.Record.FileWriter

namespace CyberRT.Record

def HeaderBuilder.getHeader : Header where
  majorVersion := 1
  minorVersion := 0
  compress := .none
  chunkInterval := 20 * 1000 * 1000 * 1000
  segmentInterval := 60 * 1000 * 1000 * 1000
  chunkRawSize := 200 * 1024 * 1024
  segmentRawSize := 2048 * 1024 * 1024

/-- The channel of an index entry; `mutable_channel_cache` makes an empty one where the entry caches something else. -/
def SingleIndex.channelCache (entry : SingleIndex) : ChannelCache :=
  match entry.cache with
  | .channel cache => cache
  | _ => ⟨0, "", "", []⟩

/-- `calls` has the calls of `writer_` behind `WriteHeader`. They succeed, so that what `Proc` does next does not depend
    on them. -/
structure Recoverer where
  reader : RecordFileReader
  channelVec : List String := []
  calls : List RecordEvent := []

namespace Recoverer

variable (pb : Protobuf)

/-- Writes the channel unless one of its name has been written. -/
def writeChannel (recoverer : Recoverer) (channel : Channel) : Recoverer :=
  if channel.name ∈ recoverer.channelVec then recoverer
  else { recoverer with
    channelVec := recoverer.channelVec ++ [channel.name], calls := recoverer.calls ++ [.writeChannel channel] }

def writeMessages (recoverer : Recoverer) (messages : List SingleMessage) : Recoverer :=
  { recoverer with calls := recoverer.calls ++ messages.map .writeMessage }

/-- The loop over the index. -/
def writeIndexed (recoverer : Recoverer) : Recoverer :=
  recoverer.reader.index.indexes.foldl (fun recoverer entry =>
    if entry.type ≠ .channel then recoverer
    else recoverer.writeChannel
      ⟨entry.channelCache.name, entry.channelCache.messageType, entry.channelCache.protoDesc⟩) recoverer

/-- The loop through the record file, where `none` stands for one that has not ended within the fuel. -/
def readThrough : Nat → Recoverer → Option (Bool × Recoverer)
  | 0, _ => none
  | fuel + 1, recoverer =>
    if recoverer.reader.endOfFile then some (true, recoverer)
    else
      match recoverer.reader.readSectionHead with
      | (none, reader) => readThrough fuel { recoverer with reader := reader }
      | (some (code, size), reader) =>
        match SectionType.ofCode code with
        | some .index => some (true, { recoverer with reader := reader })
        | some .channel =>
          match RecordFileReader.readSection pb.channel reader size with
          | (none, reader) => readThrough fuel { recoverer with reader := reader }
          | (some channel, reader) => readThrough fuel ({ recoverer with reader := reader }.writeChannel channel)
        | some .chunkHeader =>
          readThrough fuel { recoverer with reader := (RecordFileReader.readSection pb.chunkHeader reader size).2 }
        | some .chunkBody =>
          match RecordFileReader.readSection pb.chunkBody reader size with
          | (none, reader) => readThrough fuel { recoverer with reader := reader }
          | (some body, reader) => readThrough fuel ({ recoverer with reader := reader }.writeMessages body.messages)
        | _ => some (false, { recoverer with reader := reader })

/-- `Proc` on an input file with this content: what it returns, and its calls of `writer_`. -/
def proc (fuel : Nat) (bytes : List UInt8) : Option (Bool × List RecordEvent) :=
  match RecordFileReader.openFile pb bytes with
  | none => some (false, [])
  | some reader =>
    let (indexed, reader) := reader.readIndex pb
    let recoverer : Recoverer := { reader := reader }
    let recoverer := if indexed then recoverer.writeIndexed else recoverer
    (readThrough pb fuel { recoverer with reader := recoverer.reader.reset }).map fun (result, recoverer) =>
      (result, recoverer.calls)

end Recoverer

end CyberRT.Record

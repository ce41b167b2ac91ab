import Mathlib.Data.List.Sort
import CyberRT.Record.FileReader

namespace CyberRT.Record

/-- `msg_buffer_.emplace` of a `std::multimap` keyed by time: behind the messages of the same time. -/
def emplace (message : SingleMessage) : List SingleMessage → List SingleMessage
  | [] => [message]
  | head :: rest => if message.time < head.time then message :: head :: rest else head :: emplace message rest

/-- An element of `readers_` with its element of `readers_finished_`. -/
structure ViewedReader where
  reader : RecordReader
  finished : Bool

structure RecordViewer where
  beginTime : UInt64
  endTime : UInt64
  channels : List String
  readers : List ViewedReader
  currBeginTime : UInt64
  msgBuffer : List SingleMessage

/-- The order that `Init` sorts the readers by. -/
def RecordReader.precedes (lhs rhs : RecordReader) : Bool :=
  if lhs.header.beginTime = rhs.header.beginTime then lhs.header.endTime < rhs.header.endTime
  else lhs.header.beginTime < rhs.header.beginTime

/-- The loop of `FillBuffer` over `ReadMessage` of one reader. -/
def RecordReader.drain (pb : Protobuf) (thisBeginTime thisEndTime : UInt64) :
    Nat → RecordReader → List SingleMessage → Option (RecordReader × List SingleMessage)
  | 0, _, _ => none
  | fuel + 1, reader, buffer =>
    match reader.readMessage pb thisBeginTime thisEndTime fuel with
    | none => none
    | some (none, reader) => some (reader, buffer)
    | some (some message, reader) => drain pb thisBeginTime thisEndTime fuel reader (emplace message buffer)

/-- A reader whose file ends before the window is finished. -/
def ViewedReader.expire (thisBeginTime : UInt64) (viewed : ViewedReader) : ViewedReader :=
  if !viewed.finished && viewed.reader.header.endTime < thisBeginTime then ⟨viewed.reader.reset, true⟩ else viewed

def drainAll (pb : Protobuf) (thisBeginTime thisEndTime : UInt64) (fuel : Nat) :
    List ViewedReader → List SingleMessage → Option (List ViewedReader × List SingleMessage)
  | [], buffer => some ([], buffer)
  | viewed :: rest, buffer =>
    if viewed.finished then
      (drainAll pb thisBeginTime thisEndTime fuel rest buffer).map fun result => (viewed :: result.1, result.2)
    else
      match viewed.reader.drain pb thisBeginTime thisEndTime fuel buffer with
      | none => none
      | some (reader, buffer) =>
        (drainAll pb thisBeginTime thisEndTime fuel rest buffer).map fun result =>
          ({ viewed with reader := reader } :: result.1, result.2)

def kStepTimeNanoSec : UInt64 := 1000000000

def kBufferMinSize : Nat := 128

namespace RecordViewer

def minBeginTime (readers : List RecordReader) : UInt64 :=
  readers.foldl (fun least reader =>
    if reader.isValid && least > reader.header.beginTime then reader.header.beginTime else least) maxTime

def maxEndTime (readers : List RecordReader) : UInt64 :=
  readers.foldl (fun greatest reader =>
    if reader.isValid && greatest < reader.header.endTime then reader.header.endTime else greatest) 0

/-- The constructor, with `Init` and `UpdateTime`. -/
def create (readers : List RecordReader) (beginTime endTime : UInt64) (channels : List String) : RecordViewer :=
  let sorted := readers.insertionSort fun lhs rhs => rhs.precedes lhs = false
  let begins := if beginTime < minBeginTime sorted then minBeginTime sorted else beginTime
  let ends := if endTime > maxEndTime sorted then maxEndTime sorted else endTime
  { beginTime := begins
    endTime := ends
    channels := channels
    readers := sorted.map fun reader => ⟨reader, false⟩
    currBeginTime := begins
    msgBuffer := [] }

def isValid (viewer : RecordViewer) : Bool := viewer.beginTime ≤ viewer.endTime

def reset (viewer : RecordViewer) : RecordViewer :=
  { viewer with
    readers := viewer.readers.map fun viewed => ⟨viewed.reader.reset, false⟩
    currBeginTime := viewer.beginTime
    msgBuffer := [] }

def passes (viewer : RecordViewer) (message : SingleMessage) : Bool :=
  viewer.channels.isEmpty || viewer.channels.contains message.channelName

def thisEndTime (viewer : RecordViewer) : UInt64 :=
  if viewer.currBeginTime + kStepTimeNanoSec > viewer.endTime then viewer.endTime
  else viewer.currBeginTime + kStepTimeNanoSec

variable (pb : Protobuf)

/-- `FillBuffer`, where the caller looks at the buffer for the result. -/
def fillBuffer : Nat → RecordViewer → Option RecordViewer
  | 0, _ => none
  | fuel + 1, viewer =>
    if viewer.currBeginTime ≤ viewer.endTime ∧ viewer.msgBuffer.length < kBufferMinSize then
      match drainAll pb viewer.currBeginTime viewer.thisEndTime fuel
          (viewer.readers.map (ViewedReader.expire viewer.currBeginTime)) viewer.msgBuffer with
      | none => none
      | some (readers, buffer) =>
        fillBuffer fuel { viewer with
          readers := readers, msgBuffer := buffer, currBeginTime := viewer.thisEndTime + 1 }
    else some viewer

def update : Nat → RecordViewer → Option (Option SingleMessage × RecordViewer)
  | 0, _ => none
  | fuel + 1, viewer =>
    match if viewer.msgBuffer.isEmpty then viewer.fillBuffer pb fuel else some viewer with
    | none => none
    | some viewer =>
      match viewer.msgBuffer with
      | [] => some (none, viewer)
      | message :: rest =>
        if viewer.passes message then some (some message, { viewer with msgBuffer := rest })
        else update fuel { viewer with msgBuffer := rest }

/-- The increments of an iterator up to `end()`. -/
def collect : Nat → RecordViewer → Option (List SingleMessage)
  | 0, _ => none
  | fuel + 1, viewer =>
    match viewer.update pb fuel with
    | none => none
    | some (none, _) => some []
    | some (some message, viewer) => (collect fuel viewer).map (message :: ·)

/-- What an iterator goes over from `begin()` to `end()`. -/
def iterate (fuel : Nat) (viewer : RecordViewer) : Option (List SingleMessage) :=
  if viewer.isValid then collect pb fuel viewer.reset else some []

end RecordViewer

end CyberRT.Record

import CyberRT.Record.FileWriter

namespace CyberRT.Record

/-- `RecordWriter`, with the maps of the channels as one list: `channel_message_number_map_`,
    `channel_message_type_map_` and `channel_proto_desc_map_` have the same keys. -/
structure RecordWriter where
  file : String
  header : Header
  fileIndex : Nat
  segmentRawSize : UInt64
  segmentBeginTime : UInt64
  channels : List (Channel × Nat)
  deriving DecidableEq

/-- `"." << std::setw(5) << std::setfill('0') << index`. -/
def segmentSuffix (index : Nat) : String :=
  "." ++ String.ofList (List.replicate (5 - (Nat.toDigits 10 index).length) '0' ++ Nat.toDigits 10 index)

namespace RecordWriter

def isNewChannel (w : RecordWriter) (name : String) : Bool := !w.channels.any fun entry => entry.1.name = name

def onNewChannel (w : RecordWriter) (channel : Channel) : RecordWriter :=
  { w with channels := w.channels ++ [(channel, 0)] }

def onNewMessage (w : RecordWriter) (name : String) : RecordWriter :=
  { w with channels := w.channels.map fun entry => if entry.1.name = name then (entry.1, entry.2 + 1) else entry }

def getMessageNumber (w : RecordWriter) (name : String) : Nat :=
  ((w.channels.find? fun entry => entry.1.name = name).map Prod.snd).getD 0

/-- `WriteMessage` behind the call of the file writer, up to the limits of the segment. -/
def onWritten (w : RecordWriter) (message : SingleMessage) : RecordWriter :=
  let begin := if w.segmentBeginTime = 0 then message.time else w.segmentBeginTime
  { w with
    segmentRawSize := w.segmentRawSize + .ofNat message.content.length
    segmentBeginTime := if begin > message.time then message.time else begin }

def needSplit (w : RecordWriter) (message : SingleMessage) : Bool :=
  (w.header.segmentInterval > 0 && message.time - w.segmentBeginTime > w.header.segmentInterval) ||
    (w.header.segmentRawSize > 0 && w.segmentRawSize > w.header.segmentRawSize)

end RecordWriter

/-- A record file with its `RecordFileWriter`. -/
structure Segment where
  path : String
  recording : Recording

/-- Where the thread that calls the `RecordWriter` stands. -/
inductive Stage where
  | idle
  /-- In `file_writer_->WriteMessage`. -/
  | writing (message : SingleMessage)
  /-- In the `Close` of the segment that is full. -/
  | splitting
  /-- In the last `Close`. -/
  | closing
  | closed
  deriving DecidableEq

structure Session where
  writer : RecordWriter
  segment : Segment
  /-- The segments before, the oldest one first. -/
  finished : List Segment
  stage : Stage

inductive WriterEvent where
  | writeChannel (channel : Channel)
  | writeMessage (message : SingleMessage)
  | close
  /-- The calling thread goes on with the call it is in. -/
  | proceed
  /-- The two events of the flush thread of the segment. -/
  | flush
  | exit
  deriving DecidableEq

namespace Session

variable (pb : Protobuf) (disk : String → List UInt8)

def content (finished : List Segment) (path : String) : List UInt8 :=
  match finished.reverse.find? fun segment => segment.path = path with
  | some segment => segment.recording.writer.file.bytes
  | none => disk path

/-- `Open` of a new `RecordWriter`. -/
def initial (file : String) (header : Header) : Session :=
  let path := if header.segmentInterval > 0 || header.segmentRawSize > 0 then file ++ segmentSuffix 0 else file
  { writer :=
      { file := file
        header := header
        fileIndex := 1
        segmentRawSize := 0
        segmentBeginTime := 0
        channels := [] }
    segment := ⟨path, .initial pb (disk path) header⟩
    finished := []
    stage := .idle }

/-- The `WriteChannel` calls of `SplitOutfile`. -/
def replay (channels : List Channel) (recording : Recording) : Recording :=
  channels.foldl (fun recording channel => { recording with writer := recording.writer.writeChannel pb channel })
    recording

def splitOutfile (session : Session) : Session :=
  let w := session.writer
  let index := if w.fileIndex > 99999 then 0 else w.fileIndex
  let path := w.file ++ segmentSuffix index
  let finished := session.finished ++ [session.segment]
  { writer := { w with fileIndex := index + 1, segmentRawSize := 0, segmentBeginTime := 0 }
    segment := ⟨path, replay pb (w.channels.map Prod.fst) (.initial pb (content disk finished path) w.header)⟩
    finished := finished
    stage := .idle }

def inner (session : Session) (event : RecordEvent) : Option Session :=
  (session.segment.recording.step pb event).map fun recording =>
    { session with segment := { session.segment with recording := recording } }

def proceed (session : Session) : Option Session :=
  match session.stage with
  | .idle | .closed => none
  | .writing message =>
    if session.segment.recording.phase = .idle then
      let w := session.writer.onWritten message
      if w.needSplit message then inner pb { session with writer := w, stage := .splitting } .close
      else some { session with writer := w, stage := .idle }
    else inner pb session .proceed
  | .splitting =>
    if session.segment.recording.phase = .closed then some (splitOutfile pb disk session)
    else inner pb session .proceed
  | .closing =>
    if session.segment.recording.phase = .closed then some { session with stage := .closed }
    else inner pb session .proceed

def step (session : Session) : WriterEvent → Option Session
  | .writeChannel channel =>
    if session.stage = .idle then
      if session.writer.isNewChannel channel.name then
        inner pb { session with writer := session.writer.onNewChannel channel } (.writeChannel channel)
      else some session
    else none
  | .writeMessage message =>
    if session.stage = .idle then
      inner pb { session with writer := session.writer.onNewMessage message.channelName, stage := .writing message }
        (.writeMessage message)
    else none
  | .close => if session.stage = .idle then inner pb { session with stage := .closing } .close else none
  | .proceed => proceed pb disk session
  | .flush => inner pb session .flush
  | .exit => inner pb session .exit

end Session

end CyberRT.Record

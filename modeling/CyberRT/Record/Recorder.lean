import Mathlib.Logic.Function.Basic
import CyberRT.Record.RecordWriter

namespace CyberRT.Record

/-- What the recorder reads of the `RoleAttributes` of a change message. A field that is not set is empty. -/
structure WriterRole where
  channelName : String := ""
  messageType : String := ""
  protoDesc : List UInt8 := []
  deriving DecidableEq, Repr

/-- Where the thread that calls `Start` and `Stop` stands. -/
inductive RecorderPoint where
  | created
  /-- In `InitReadersImpl`, before `GetWriters`. -/
  | listing
  /-- In the loop over the writers that there were. -/
  | finding (roleAttrVec : List WriterRole)
  /-- The listener is connected, `is_started_` is not set yet. -/
  | connected
  | running
  /-- In `Stop`, before `RemoveChangeListener`, before `Close` and in it. -/
  | freeing | closing | joining
  /-- `Stop` has returned, or `Start` has failed. -/
  | ended
  deriving DecidableEq, Repr

/-- Where the routine of a reader stands in `ReaderCallback`. -/
inductive CallbackPoint where
  | idle
  /-- The flags and the message have been looked at. -/
  | accepted (message : List UInt8)
  /-- `Time::Now` has been called. -/
  | clocked (message : List UInt8) (now : UInt64)
  /-- `message_time_` has been set; the argument is read from it once more. -/
  | timed (message : List UInt8)
  deriving DecidableEq, Repr

def CallbackPoint.message? : CallbackPoint → Option (List UInt8)
  | .idle => none
  | .accepted message | .clocked message _ | .timed message => some message

/-- A `Recorder` that is started once. The last three fields only record what has been done: the messages that
    `ReaderCallback` has let through, and those that it has given to `WriteMessage` before and after `Close`. -/
structure Recorder where
  output : String
  allChannels : Bool
  whiteChannels : List String
  blackChannels : List String
  header : Header
  isStarted : Bool := false
  isStopping : Bool := false
  session : Option Session := none
  listening : Bool := false
  channelReaderMap : List String := []
  messageTime : UInt64 := 0
  point : RecorderPoint := .created
  callbacks : String → CallbackPoint := fun _ => .idle
  accepted : List (String × List UInt8) := []
  written : List SingleMessage := []
  late : List SingleMessage := []

inductive RecorderEvent where
  /-- `Start` up to `InitReadersImpl`, with what `Open` and `CreateNode` do. -/
  | start (opened nodeCreated : Bool)
  | getWriters (roleAttrVec : List WriterRole)
  /-- One turn of the loop; `CreateReader` has a reader or none. -/
  | findNewChannel (readerCreated : Bool)
  | addChangeListener (isConnected : Bool)
  | setStarted
  | topologyCallback (isWriter : Bool) (roleAttr : WriterRole) (readerCreated : Bool)
  /-- The routine of a channel enters `ReaderCallback`, and the steps that follow. -/
  | readerCallback (channel : String) (message : Option (List UInt8))
  | now (channel : String) (time : UInt64)
  | setTime (channel : String)
  | writeMessage (channel : String)
  | stop
  | removeChangeListener
  | close
  | join
  /-- The threads behind `RecordWriter` go on. -/
  | proceed | flush | exit
  deriving DecidableEq, Repr

namespace Recorder

variable (pb : Protobuf) (disk : String → List UInt8)

def create (output : String) (allChannels : Bool) (whiteChannels blackChannels : List String) (header : Header) :
    Recorder where
  output := output
  allChannels := allChannels
  whiteChannels := whiteChannels
  blackChannels := blackChannels
  header := header

/-- The channel that `FindNewChannel` would record, if it wants to record it. -/
def wanted (recorder : Recorder) (role : WriterRole) : Option Channel :=
  if role.channelName = "" then none
  else if role.messageType = "" then none
  else if role.protoDesc = [] then none
  else if !recorder.allChannels ∧ role.channelName ∉ recorder.whiteChannels then none
  else if role.channelName ∈ recorder.blackChannels then none
  else some ⟨role.channelName, role.messageType, role.protoDesc⟩

/-- A step of `writer_`; it is `none` while another thread holds its mutex. -/
def write (recorder : Recorder) (event : WriterEvent) : Option Recorder :=
  recorder.session.bind fun session => (session.step pb disk event).map fun session =>
    { recorder with session := some session }

def findNewChannel (recorder : Recorder) (role : WriterRole) (readerCreated : Bool) : Option Recorder :=
  match recorder.wanted role with
  | none => some recorder
  | some channel =>
    if channel.name ∈ recorder.channelReaderMap then some recorder
    else (recorder.write pb disk (.writeChannel channel)).map fun recorder =>
      if readerCreated then { recorder with channelReaderMap := recorder.channelReaderMap ++ [channel.name] }
      else recorder

def setCallback (recorder : Recorder) (channel : String) (point : CallbackPoint) : Recorder :=
  { recorder with callbacks := Function.update recorder.callbacks channel point }

/-- `WriteMessage` of the writer. One that comes after `Close` fills a chunk that no thread writes any more. -/
def writeMessage (recorder : Recorder) (channel : String) (content : List UInt8) : Option Recorder :=
  let message : SingleMessage := ⟨channel, recorder.messageTime, content⟩
  let returned := recorder.setCallback channel .idle
  recorder.session.bind fun session =>
    if session.stage = .closed then some { returned with late := returned.late ++ [message] }
    else { returned with written := returned.written ++ [message] }.write pb disk (.writeMessage message)

def step (recorder : Recorder) : RecorderEvent → Option Recorder
  | .start opened nodeCreated =>
    if recorder.point = .created then
      if recorder.whiteChannels.any fun name => name ∈ recorder.blackChannels then
        some { recorder with point := .ended }
      else if !opened then some { recorder with point := .ended }
      else some { recorder with
        session := some (.initial pb disk recorder.output recorder.header)
        point := if nodeCreated then .listing else .ended }
    else none
  | .getWriters roleAttrVec =>
    if recorder.point = .listing then some { recorder with point := .finding roleAttrVec } else none
  | .findNewChannel readerCreated =>
    match recorder.point with
    | .finding (role :: rest) => { recorder with point := .finding rest }.findNewChannel pb disk role readerCreated
    | _ => none
  | .addChangeListener isConnected =>
    if recorder.point = .finding [] then
      some { recorder with listening := isConnected, point := if isConnected then .connected else .ended }
    else none
  | .setStarted =>
    if recorder.point = .connected then some { recorder with messageTime := 0, isStarted := true, point := .running }
    else none
  | .topologyCallback isWriter roleAttr readerCreated =>
    if recorder.listening then
      if isWriter then recorder.findNewChannel pb disk roleAttr readerCreated else some recorder
    else none
  | .readerCallback channel message =>
    if channel ∈ recorder.channelReaderMap ∧ recorder.callbacks channel = .idle then
      if !recorder.isStarted ∨ recorder.isStopping then some recorder
      else
        match message with
        | none => some recorder
        | some message =>
          some { recorder.setCallback channel (.accepted message) with
            accepted := recorder.accepted ++ [(channel, message)] }
    else none
  | .now channel time =>
    match recorder.callbacks channel with
    | .accepted message => some (recorder.setCallback channel (.clocked message time))
    | _ => none
  | .setTime channel =>
    match recorder.callbacks channel with
    | .clocked message time => some { recorder.setCallback channel (.timed message) with messageTime := time }
    | _ => none
  | .writeMessage channel =>
    match recorder.callbacks channel with
    | .timed message => recorder.writeMessage pb disk channel message
    | _ => none
  | .stop => if recorder.point = .running then some { recorder with isStopping := true, point := .freeing } else none
  | .removeChangeListener =>
    if recorder.point = .freeing then some { recorder with listening := false, point := .closing } else none
  | .close =>
    if recorder.point = .closing then { recorder with point := .joining }.write pb disk .close else none
  | .join =>
    if recorder.point = .joining ∧ recorder.session.any fun session => session.stage = .closed then
      some { recorder with isStarted := false, isStopping := false, point := .ended }
    else none
  | .proceed => recorder.write pb disk .proceed
  | .flush => recorder.write pb disk .flush
  | .exit => recorder.write pb disk .exit

end Recorder

end CyberRT.Record

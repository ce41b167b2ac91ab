import Mathlib.Data.List.AList
import CyberRT.Record.ChannelInfo

namespace CyberRT.Player

open Record

structure PlayParam where
  isPlayAllChannels : Bool := false
  isLoopPlayback : Bool := false
  beginTimeNs : UInt64 := 0
  endTimeNs : UInt64 := maxTime
  startTimeS : UInt64 := 0
  preloadTimeS : UInt32 := 3
  /-- What the files hold, in the order of their paths. -/
  filesToPlay : List (List UInt8) := []
  channelsToPlay : List String := []
  blackChannels : List String := []

structure PlayTaskProducer where
  playParam : PlayParam
  recordReaders : List RecordReader
  msgTypes : AList fun _ : String => String
  /-- The channels that have a writer, each with the message type of the writer. -/
  writers : AList fun _ : String => String
  earliestBeginTime : UInt64
  latestEndTime : UInt64
  totalMsgNum : UInt64

def kPreloadTimeSec : UInt32 := 3

namespace PlayTaskProducer

def create (playParam : PlayParam) : PlayTaskProducer where
  playParam := playParam
  recordReaders := []
  msgTypes := ∅
  writers := ∅
  earliestBeginTime := maxTime
  latestEndTime := 0
  totalMsgNum := 0

/-- The body of the loop over the channels of a file. -/
def readChannel (reader : RecordReader) (producer : PlayTaskProducer) (name : String) : PlayTaskProducer :=
  if producer.playParam.blackChannels.contains name then
    { producer with totalMsgNum := producer.totalMsgNum - reader.getMessageNumber name }
  else
    { producer with
      msgTypes := producer.msgTypes.insert name (reader.getMessageType name)
      totalMsgNum :=
        if !producer.playParam.isPlayAllChannels && producer.playParam.channelsToPlay.contains name then
          producer.totalMsgNum + reader.getMessageNumber name
        else producer.totalMsgNum }

/-- What the loop over the files does behind the channels. -/
def readHeader (header : Header) (producer : PlayTaskProducer) : PlayTaskProducer :=
  { producer with
    totalMsgNum :=
      if producer.playParam.isPlayAllChannels then producer.totalMsgNum + header.messageNumber
      else producer.totalMsgNum
    earliestBeginTime :=
      if header.beginTime < producer.earliestBeginTime then header.beginTime else producer.earliestBeginTime
    latestEndTime := if header.endTime > producer.latestEndTime then header.endTime else producer.latestEndTime }

/-- The body of the loop over the files of a file that is played. -/
def readRecord (reader : RecordReader) (producer : PlayTaskProducer) : PlayTaskProducer :=
  readHeader reader.header (reader.getChannelList.foldl (readChannel reader)
    { producer with recordReaders := producer.recordReaders ++ [reader] })

def readFile (pb : Protobuf) (producer : PlayTaskProducer) (file : List UInt8) : PlayTaskProducer :=
  match RecordReader.create pb file with
  | none => producer
  | some reader => if reader.header.isComplete then readRecord reader producer else producer

def readRecordInfo (pb : Protobuf) (producer : PlayTaskProducer) : Option PlayTaskProducer :=
  if producer.playParam.filesToPlay.isEmpty then none
  else some (producer.playParam.filesToPlay.foldl (readFile pb) producer)

/-- `UpdatePlayParam`, where `nanos` computes `static_cast<double>(start_time_s) * 1e9`. -/
def updatePlayParam (nanos : UInt64 → UInt64) (producer : PlayTaskProducer) : Option PlayTaskProducer :=
  let param := producer.playParam
  let earliest := if param.beginTimeNs < producer.earliestBeginTime then producer.earliestBeginTime else param.beginTimeNs
  let beginTimeNs := if param.startTimeS > 0 then earliest + nanos param.startTimeS else earliest
  let endTimeNs := if param.endTimeNs > producer.latestEndTime then producer.latestEndTime else param.endTimeNs
  if beginTimeNs ≥ endTimeNs then none
  else some { producer with playParam := { param with
    beginTimeNs := beginTimeNs
    endTimeNs := endTimeNs
    preloadTimeS := if param.preloadTimeS = 0 then kPreloadTimeSec else param.preloadTimeS } }

/-- The test of `CreateWriters` for a channel of `msg_types_`. -/
def plays (param : PlayParam) (name : String) : Bool :=
  (param.isPlayAllChannels || param.channelsToPlay.contains name) && !param.blackChannels.contains name

/-- The body of the loop of `CreateWriters`, on a node that tells whether it creates a writer. -/
def createWriter (node : String → String → Bool) (producer : PlayTaskProducer) (item : Sigma fun _ : String => String) :
    Option PlayTaskProducer :=
  if plays producer.playParam item.1 then
    if node item.1 item.2 then some { producer with writers := producer.writers.insert item.1 item.2 } else none
  else some producer

/-- `CreateWriters`; there is no node where `CreateNode` fails. -/
def createWriters (node : Option (String → String → Bool)) (producer : PlayTaskProducer) : Option PlayTaskProducer :=
  match node with
  | none => none
  | some node => producer.msgTypes.entries.foldlM (createWriter node) producer

/-- `Init` of a new producer that returns true. -/
def init (pb : Protobuf) (nanos : UInt64 → UInt64) (node : Option (String → String → Bool)) (param : PlayParam) :
    Option PlayTaskProducer :=
  match (create param).readRecordInfo pb with
  | none => none
  | some producer =>
    match producer.updatePlayParam nanos with
    | none => none
    | some producer => producer.createWriters node

def viewer (producer : PlayTaskProducer) : RecordViewer :=
  .create producer.recordReaders producer.playParam.beginTimeNs producer.playParam.endTimeNs
    producer.playParam.channelsToPlay

/-- The search of the push loop in `writers_`. -/
def hasWriter (producer : PlayTaskProducer) (message : SingleMessage) : Bool := message.channelName ∈ producer.writers

/-- What one loop of `ThreadFunc` over the viewer pushes. -/
def pass (pb : Protobuf) (fuel : Nat) (producer : PlayTaskProducer) : Option (List SingleMessage) :=
  (producer.viewer.iterate pb fuel).map fun messages => messages.filter producer.hasWriter

variable {producer read : PlayTaskProducer}

theorem updatePlayParam_keeps {nanos : UInt64 → UInt64} (updated : producer.updatePlayParam nanos = some read) :
    ∃ beginTimeNs endTimeNs preloadTimeS, beginTimeNs < endTimeNs ∧ read = { producer with
      playParam := { producer.playParam with beginTimeNs, endTimeNs, preloadTimeS } } := by
  simp only [updatePlayParam, Option.ite_none_left_eq_some, Option.some.injEq] at updated
  exact ⟨_, _, _, UInt64.not_le.mp updated.1, updated.2.symm⟩

theorem foldlM_createWriter {node : String → String → Bool} {items : List (Sigma fun _ : String => String)}
    (created : items.foldlM (createWriter node) producer = some read) :
    ∃ writers, read = { producer with writers := writers } ∧
      ∀ name, name ∈ writers ↔ name ∈ producer.writers ∨ (name ∈ items.keys ∧ plays producer.playParam name = true) := by
  induction items generalizing producer with
  | nil =>
    obtain rfl := Option.some.inj created
    exact ⟨producer.writers, rfl, by simp⟩
  | cons item items ih =>
    rw [List.foldlM_cons] at created
    obtain ⟨middle, here, later⟩ := Option.bind_eq_some_iff.mp created
    obtain ⟨writers, rfl, members⟩ := ih later
    unfold createWriter at here
    split at here
    · rename_i played
      split at here
      · obtain rfl := Option.some.inj here
        apply Exists.intro writers
        apply And.intro rfl
        intro name
        rw [members, AList.mem_insert, List.keys_cons, List.mem_cons]
        by_cases same : name = item.1
        · simp [same, played]
        · simp [same]
      · cases here
    · rename_i other
      obtain rfl := Option.some.inj here
      apply Exists.intro writers
      apply And.intro rfl
      intro name
      rw [members, List.keys_cons, List.mem_cons]
      by_cases same : name = item.1
      · simp [same, other]
      · simp [same]

/-- The viewer's range lies within that of the playback. -/
theorem viewer_within (producer : PlayTaskProducer) :
    producer.playParam.beginTimeNs ≤ producer.viewer.beginTime ∧
    producer.viewer.endTime ≤ producer.playParam.endTimeNs := by
  simp only [viewer, RecordViewer.create]
  apply And.intro
  · split
    · rename_i earlier
      exact UInt64.le_of_lt earlier
    · exact UInt64.le_refl _
  · split
    · rename_i later
      exact UInt64.le_of_lt later
    · exact UInt64.le_refl _

end PlayTaskProducer

end CyberRT.Player

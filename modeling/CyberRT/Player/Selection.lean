import CyberRT.Player.PlayTaskProducer

namespace CyberRT.Player

open Record Lists

/-- The play command asks for the channel. -/
def PlayParam.asks (param : PlayParam) (name : String) : Bool :=
  !param.blackChannels.contains name && (param.isPlayAllChannels || param.channelsToPlay.contains name)

/-- The channels that the loop over the channels of a file adds. -/
def PlayParam.adds (param : PlayParam) (name : String) : Bool :=
  !param.blackChannels.contains name && (!param.isPlayAllChannels && param.channelsToPlay.contains name)

/-- A message that `ReadRecordInfo` counts wrongly: of a black channel of the file when not all channels are played,
    or of a channel that the file does not list. -/
def PlayParam.miscounts (param : PlayParam) (listed : List String) (message : SingleMessage) : Bool :=
  if param.isPlayAllChannels then
    param.blackChannels.contains message.channelName && !listed.contains message.channelName
  else if listed.contains message.channelName then param.blackChannels.contains message.channelName
  else param.asks message.channelName

namespace PlayTaskProducer

variable {pb : Protobuf} {producer read : PlayTaskProducer}

/-- What reading leaves behind: readers, the channels that may get a writer, and the numbers added and taken off. -/
structure Adds (producer read : PlayTaskProducer) (readers : List RecordReader) (names : List String)
    (added removed : Nat) : Prop where
  playParam : read.playParam = producer.playParam
  writers : read.writers = producer.writers
  recordReaders : read.recordReaders = producer.recordReaders ++ readers
  msgTypes : ∀ name, name ∈ read.msgTypes ↔ name ∈ producer.msgTypes ∨ name ∈ names
  totalMsgNum : read.totalMsgNum = producer.totalMsgNum + .ofNat added - .ofNat removed

theorem Adds.nothing (producer : PlayTaskProducer) : Adds producer producer [] [] 0 0 where
  playParam := rfl
  writers := rfl
  recordReaders := (List.append_nil _).symm
  msgTypes := by simp
  totalMsgNum := by simp

theorem Adds.trans {last : PlayTaskProducer} {readers others : List RecordReader} {names further : List String}
    {added removed more less : Nat} (first : Adds producer read readers names added removed)
    (second : Adds read last others further more less) :
    Adds producer last (readers ++ others) (names ++ further) (added + more) (removed + less) where
  playParam := second.playParam.trans first.playParam
  writers := second.writers.trans first.writers
  recordReaders := by rw [second.recordReaders, first.recordReaders, List.append_assoc]
  msgTypes := by
    intro name
    rw [second.msgTypes, first.msgTypes, List.mem_append, or_assoc]
  totalMsgNum := by
    rw [second.totalMsgNum, first.totalMsgNum, UInt64.ofNat_add, UInt64.ofNat_add]
    grind

theorem readChannel_adds {reader : RecordReader} {name : String} {number : Nat}
    (numbered : reader.getMessageNumber name = .ofNat number) (producer : PlayTaskProducer) :
    Adds producer (readChannel reader producer name) []
      (if producer.playParam.blackChannels.contains name then [] else [name])
      (if producer.playParam.adds name then number else 0)
      (if producer.playParam.blackChannels.contains name then number else 0) := by
  unfold readChannel PlayParam.adds
  rw [numbered]
  by_cases black : producer.playParam.blackChannels.contains name = true
  · simp only [black, if_true, Bool.not_true, Bool.false_and, Bool.false_eq_true, if_false]
    exact ⟨rfl, rfl, (List.append_nil _).symm, by simp, by simp⟩
  · simp only [black, Bool.false_eq_true, if_false, Bool.not_false, Bool.true_and]
    refine ⟨rfl, rfl, (List.append_nil _).symm, ?_, ?_⟩
    · intro name
      simp [or_comm]
    · split
      · simp
      · simp

theorem foldl_readChannel {reader : RecordReader} {number : String → Nat} {names : List String}
    (numbered : ∀ name ∈ names, reader.getMessageNumber name = .ofNat (number name)) {param : PlayParam}
    (producer : PlayTaskProducer) (same : producer.playParam = param) :
    Adds producer (names.foldl (readChannel reader) producer) []
      (names.flatMap fun name => if param.blackChannels.contains name then [] else [name])
      (names.map fun name => if param.adds name then number name else 0).sum
      (names.map fun name => if param.blackChannels.contains name then number name else 0).sum := by
  induction names generalizing producer with
  | nil => exact .nothing producer
  | cons name names ih =>
    have here := readChannel_adds (numbered name List.mem_cons_self) producer
    have later := ih (fun other member => numbered other (List.mem_cons_of_mem _ member))
      (readChannel reader producer name) (here.playParam.trans same)
    rw [same] at here
    exact here.trans later

theorem readHeader_adds {header : Header} {number : Nat} (numbered : header.messageNumber = .ofNat number)
    (producer : PlayTaskProducer) :
    Adds producer (readHeader header producer) [] [] (if producer.playParam.isPlayAllChannels then number else 0) 0 := by
  refine ⟨rfl, rfl, (List.append_nil _).symm, ?_, ?_⟩
  · intro name
    simp [readHeader]
  · by_cases all : producer.playParam.isPlayAllChannels = true
    · simp [readHeader, numbered, all]
    · simp [readHeader, all]

/-- The numbers that a file adds and takes off. -/
def addedOf (param : PlayParam) (record : CompleteRecord pb) : Nat :=
  (record.messages.countP fun message =>
    record.reader.getChannelList.contains message.channelName && param.adds message.channelName) +
      if param.isPlayAllChannels then record.messages.length else 0

def removedOf (param : PlayParam) (record : CompleteRecord pb) : Nat :=
  record.messages.countP fun message =>
    record.reader.getChannelList.contains message.channelName && param.blackChannels.contains message.channelName

def namesOf (param : PlayParam) (record : CompleteRecord pb) : List String :=
  record.reader.getChannelList.flatMap fun name => if param.blackChannels.contains name then [] else [name]

theorem readRecord_adds {record : CompleteRecord pb} (counted : record.Counted) {param : PlayParam}
    (producer : PlayTaskProducer) (same : producer.playParam = param) :
    Adds producer (readRecord record.reader producer) [record.reader] (namesOf param record)
      (addedOf param record) (removedOf param record) := by
  let opened : PlayTaskProducer := { producer with recordReaders := producer.recordReaders ++ [record.reader] }
  have first : Adds producer opened [record.reader] [] 0 0 := ⟨rfl, rfl, rfl, by simp [opened], by simp [opened]⟩
  have channels := foldl_readChannel (fun _ listed => RecordReader.getMessageNumber_eq counted.numbers listed) opened same
  have last := readHeader_adds counted.total (record.reader.getChannelList.foldl (readChannel record.reader) opened)
  rw [channels.playParam.trans same] at last
  have whole := (first.trans channels).trans last
  have nodup := record.reader.nodup_getChannelList
  rw [sum_countP_keys SingleMessage.channelName param.adds record.messages nodup,
    sum_countP_keys SingleMessage.channelName (fun name => param.blackChannels.contains name) record.messages nodup]
    at whole
  simp only [List.nil_append, List.append_nil, Nat.zero_add, Nat.add_zero] at whole
  exact whole

/-- The files hold these records, which their writers have closed. -/
def Plays (pb : Protobuf) (files : List (List UInt8)) (records : List (CompleteRecord pb)) : Prop :=
  List.Forall₂ (fun file record => RecordReader.create pb file = some record.reader ∧ record.Counted) files records

theorem foldl_readFile {files : List (List UInt8)} {records : List (CompleteRecord pb)}
    (plays : Plays pb files records) {param : PlayParam} (producer : PlayTaskProducer)
    (same : producer.playParam = param) :
    Adds producer (files.foldl (readFile pb) producer) (records.map (·.reader)) (records.flatMap (namesOf param))
      (records.map (addedOf param)).sum (records.map (removedOf param)).sum := by
  induction plays generalizing producer with
  | nil => exact .nothing producer
  | @cons file record files records head _ ih =>
    obtain ⟨created, counted⟩ := head
    have here : readFile pb producer file = readRecord record.reader producer := by
      unfold readFile
      rw [created]
      exact if_pos counted.complete
    have first := readRecord_adds counted producer same
    rw [← here] at first
    exact first.trans (ih (readFile pb producer file) (first.playParam.trans same))

/-- What `Init` has found in the files. -/
structure Initialized (param : PlayParam) (records : List (CompleteRecord pb)) (producer : PlayTaskProducer) : Prop where
  channels : producer.playParam.channelsToPlay = param.channelsToPlay
  recordReaders : producer.recordReaders = records.map (·.reader)
  writers : ∀ name, name ∈ producer.writers ↔
    param.asks name = true ∧ ∃ record ∈ records, name ∈ record.reader.getChannelList
  totalMsgNum : producer.totalMsgNum =
    .ofNat (records.map (addedOf param)).sum - .ofNat (records.map (removedOf param)).sum

theorem mem_namesOf (param : PlayParam) (record : CompleteRecord pb) (name : String) :
    name ∈ namesOf param record ↔ param.blackChannels.contains name = false ∧ name ∈ record.reader.getChannelList := by
  unfold namesOf
  rw [List.mem_flatMap]
  apply Iff.intro
  · intro ⟨other, listed, member⟩
    split at member
    · cases member
    · rename_i white
      obtain rfl := List.mem_singleton.mp member
      exact ⟨Bool.eq_false_iff.mpr white, listed⟩
  · intro ⟨white, listed⟩
    exact ⟨name, listed, by simp only [white, Bool.false_eq_true, if_false, List.mem_singleton]⟩

theorem init_initialized {nanos : UInt64 → UInt64} {node : Option (String → String → Bool)} {param : PlayParam}
    {records : List (CompleteRecord pb)} (played : Plays pb param.filesToPlay records)
    (ready : init pb nanos node param = some producer) : Initialized param records producer := by
  unfold init at ready
  split at ready
  · cases ready
  rename_i informed info
  split at ready
  · cases ready
  rename_i updated update
  unfold createWriters at ready
  split at ready
  · cases ready
  rename_i node
  simp only [readRecordInfo, Option.ite_none_left_eq_some, Option.some.injEq] at info
  have adds := foldl_readFile played (create param) rfl
  have files : (create param).playParam.filesToPlay = param.filesToPlay := rfl
  rw [← files, info.2] at adds
  obtain ⟨beginTimeNs, endTimeNs, preloadTimeS, _, rfl⟩ := updatePlayParam_keeps update
  obtain ⟨writers, rfl, members⟩ := foldlM_createWriter ready
  have sameParam : informed.playParam = param := adds.playParam
  refine ⟨?_, ?_, ?_, ?_⟩
  · show informed.playParam.channelsToPlay = param.channelsToPlay
    rw [sameParam]
  · exact adds.recordReaders
  · intro name
    have none : name ∉ informed.writers := by
      rw [adds.writers]
      exact List.not_mem_nil
    have listed : name ∈ informed.msgTypes ↔ ∃ record ∈ records, name ∈ namesOf param record := by
      rw [adds.msgTypes, List.mem_flatMap]
      exact or_iff_right List.not_mem_nil
    have keys : name ∈ informed.msgTypes.entries.keys ↔ name ∈ informed.msgTypes := Iff.rfl
    show name ∈ writers ↔ _
    rw [members, or_iff_right none, keys, listed]
    simp only [mem_namesOf, plays, PlayParam.asks, sameParam]
    grind
  · have total := adds.totalMsgNum
    have zero : (create param).totalMsgNum = 0 := rfl
    rw [zero, UInt64.zero_add] at total
    exact total

/-- What a file counts differs from what it should count by the messages that are counted wrongly. -/
theorem addedOf_eq (param : PlayParam) (record : CompleteRecord pb) :
    let asked := record.messages.countP fun message => param.asks message.channelName
    let wrong := record.messages.countP (param.miscounts record.reader.getChannelList)
    (param.isPlayAllChannels = true → asked + removedOf param record + wrong = addedOf param record) ∧
    (param.isPlayAllChannels = false → asked + removedOf param record = addedOf param record + wrong) := by
  unfold addedOf removedOf
  apply And.intro
  · intro all
    have whole := @countP_add_congr _ (fun message : SingleMessage => param.asks message.channelName)
      (fun message => param.blackChannels.contains message.channelName) (fun _ => true) (fun _ => false) (by
        intro message
        simp only [PlayParam.asks, all]
        cases param.blackChannels.contains message.channelName <;> rfl) record.messages
    have black := @countP_add_congr _ (fun message : SingleMessage =>
        record.reader.getChannelList.contains message.channelName && param.blackChannels.contains message.channelName)
      (param.miscounts record.reader.getChannelList)
      (fun message => param.blackChannels.contains message.channelName)
      (fun message => record.reader.getChannelList.contains message.channelName && param.adds message.channelName) (by
        intro message
        simp only [PlayParam.miscounts, PlayParam.adds, all]
        cases param.blackChannels.contains message.channelName <;>
          cases record.reader.getChannelList.contains message.channelName <;> rfl) record.messages
    simp only [List.countP_true, List.countP_false, Function.const_apply] at whole
    rw [if_pos all]
    omega
  · intro some
    have each := @countP_add_congr _ (fun message : SingleMessage => param.asks message.channelName)
      (fun message =>
        record.reader.getChannelList.contains message.channelName && param.blackChannels.contains message.channelName)
      (fun message => record.reader.getChannelList.contains message.channelName && param.adds message.channelName)
      (param.miscounts record.reader.getChannelList) (by
        intro message
        simp only [PlayParam.miscounts, PlayParam.asks, PlayParam.adds, some]
        cases param.blackChannels.contains message.channelName <;>
          cases record.reader.getChannelList.contains message.channelName <;>
          cases param.channelsToPlay.contains message.channelName <;> rfl) record.messages
    rw [if_neg (by simp [some])]
    omega

/-- How many messages of the files are counted wrongly. -/
def miscounted (param : PlayParam) (records : List (CompleteRecord pb)) : Nat :=
  (records.map fun record => record.messages.countP (param.miscounts record.reader.getChannelList)).sum

theorem Initialized.counted_iff {param : PlayParam} {records : List (CompleteRecord pb)}
    (initialized : Initialized param records producer) :
    producer.totalMsgNum =
        .ofNat ((records.flatMap CompleteRecord.messages).countP fun message => param.asks message.channelName) ↔
      UInt64.ofNat (miscounted param records) = 0 := by
  rw [initialized.totalMsgNum, List.countP_flatMap, miscounted]
  by_cases all : param.isPlayAllChannels = true
  · have total := congrArg List.sum (List.map_congr_left (l := records) fun record _ => (addedOf_eq param record).1 all)
    rw [List.sum_map_add, List.sum_map_add] at total
    have sum := congrArg UInt64.ofNat total
    rw [UInt64.ofNat_add, UInt64.ofNat_add] at sum
    unfold Function.comp
    grind
  · have total := congrArg List.sum
      (List.map_congr_left (l := records) fun record _ => (addedOf_eq param record).2 (Bool.eq_false_iff.mpr all))
    rw [List.sum_map_add, List.sum_map_add] at total
    have sum := congrArg UInt64.ofNat total
    rw [UInt64.ofNat_add, UInt64.ofNat_add] at sum
    unfold Function.comp
    grind

/-- The time range of the playback. -/
def inRange (producer : PlayTaskProducer) (message : SingleMessage) : Bool :=
  producer.playParam.beginTimeNs ≤ message.time && message.time ≤ producer.playParam.endTimeNs

/-- The messages of the range on the channels that the command asks for. -/
def wanted (producer : PlayTaskProducer) (param : PlayParam) (records : List (CompleteRecord pb)) : List SingleMessage :=
  (records.flatMap CompleteRecord.messages).filter fun message =>
    producer.inRange message && param.asks message.channelName

/-- Nothing but the options decides what is played and counted. -/
structure PlaysAsked (param : PlayParam) (records : List (CompleteRecord pb)) (producer : PlayTaskProducer) : Prop where
  pushed : ∃ enough, ∀ fuel, enough < fuel → ∃ out, producer.pass pb fuel = some out ∧
    out.Perm (producer.wanted param records)
  counted : producer.totalMsgNum =
    .ofNat ((records.flatMap CompleteRecord.messages).countP fun message => param.asks message.channelName)

/-- The viewer's own filter passes every wanted message, and a file lists its channel. -/
def Reaches (param : PlayParam) (records : List (CompleteRecord pb)) (producer : PlayTaskProducer) : Prop :=
  ∀ record ∈ records, ∀ message ∈ record.messages, producer.inRange message = true →
    param.asks message.channelName = true →
      (param.channelsToPlay = [] ∨ message.channelName ∈ param.channelsToPlay) ∧
      ∃ other ∈ records, message.channelName ∈ other.reader.getChannelList

/-- No wanted message is preceded in its file by one of a later window, or by one beyond the range. -/
def Unhidden (param : PlayParam) (producer : PlayTaskProducer) (messages : List SingleMessage) : Prop :=
  messages.Pairwise fun before message => Clear SingleMessage.nanos kStepTimeNanoSec.toNat
    producer.viewer.beginTime.toNat producer.viewer.endTime.toNat (fun message => param.asks message.channelName)
    before.nanos message

instance (param : PlayParam) (producer : PlayTaskProducer) (messages : List SingleMessage) :
    Decidable (Unhidden param producer messages) := inferInstanceAs (Decidable (List.Pairwise _ messages))

/-- What the viewer and the search in `writers_` let through of a file. -/
def given (producer : PlayTaskProducer) (messages : List SingleMessage) : List SingleMessage :=
  (shown SingleMessage.nanos kStepTimeNanoSec.toNat producer.viewer.beginTime.toNat producer.viewer.endTime.toNat 0
    messages).filter fun message => producer.hasWriter message && producer.viewer.passes message

variable {param : PlayParam} {records : List (CompleteRecord pb)}

theorem Initialized.created (initialized : Initialized param records producer) :
    producer.viewer = .create (records.map (·.reader)) producer.playParam.beginTimeNs producer.playParam.endTimeNs
      producer.playParam.channelsToPlay := by
  rw [viewer, initialized.recordReaders]

theorem Initialized.pass_gives (initialized : Initialized param records producer)
    (fits : RecordViewer.Fits producer.viewer.beginTime producer.viewer.endTime) :
    ∃ enough, ∀ fuel, enough < fuel → ∃ out, producer.pass pb fuel = some out ∧
      out.Perm (records.flatMap fun record => producer.given record.messages) := by
  obtain ⟨enough, shows'⟩ := RecordViewer.iterate_shows records _ _ _ initialized.created fits
  apply Exists.intro enough
  intro fuel more
  obtain ⟨out, ran, _, perm⟩ := shows' fuel more
  apply Exists.intro (out.filter producer.hasWriter)
  apply And.intro
  · rw [pass, ran]
    rfl
  · have filtered := perm.filter producer.hasWriter
    rw [List.filter_filter, List.filter_flatMap] at filtered
    exact filtered

theorem Initialized.wanted_eq (initialized : Initialized param records producer) :
    producer.wanted param records = records.flatMap fun record => record.messages.filter fun message =>
      decide (producer.viewer.beginTime.toNat ≤ message.nanos ∧ message.nanos ≤ producer.viewer.endTime.toNat) &&
        param.asks message.channelName := by
  rw [wanted, List.filter_flatMap]
  apply List.flatMap_congr
  intro record member
  apply List.filter_congr
  intro message present
  rw [inRange, RecordViewer.range_eq records _ _ _ initialized.created member present]

theorem Initialized.given_iff (initialized : Initialized param records producer) {record : CompleteRecord pb}
    (member : record ∈ records) :
    producer.given record.messages = (record.messages.filter fun message =>
        decide (producer.viewer.beginTime.toNat ≤ message.nanos ∧ message.nanos ≤ producer.viewer.endTime.toNat) &&
          param.asks message.channelName) ↔
      (∀ message ∈ record.messages, producer.inRange message = true → param.asks message.channelName = true →
        (param.channelsToPlay = [] ∨ message.channelName ∈ param.channelsToPlay) ∧
        ∃ other ∈ records, message.channelName ∈ other.reader.getChannelList) ∧
      Unhidden param producer record.messages := by
  have writer : ∀ message, producer.hasWriter message = true ↔ param.asks message.channelName = true ∧
      ∃ other ∈ records, message.channelName ∈ other.reader.getChannelList := by
    intro message
    rw [hasWriter, decide_eq_true_eq, initialized.writers]
  have pass : ∀ message, producer.viewer.passes message = true ↔
      param.channelsToPlay = [] ∨ message.channelName ∈ param.channelsToPlay := by
    intro message
    have channels : producer.viewer.channels = param.channelsToPlay := initialized.channels
    rw [RecordViewer.passes, channels]
    simp
  unfold given Unhidden
  rw [shown_wanted_iff fun message lets => ((writer message).mp (Bool.and_eq_true_iff.mp lets).1).1]
  apply and_congr_left
  intro _
  apply forall₂_congr
  intro message present
  have range := RecordViewer.range_eq records _ _ _ initialized.created member present
  rw [inRange, range, decide_eq_true_eq, Bool.and_eq_true_iff, writer, pass]
  tauto

theorem Initialized.pushed_iff (initialized : Initialized param records producer)
    (fits : RecordViewer.Fits producer.viewer.beginTime producer.viewer.endTime) :
    (∃ enough, ∀ fuel, enough < fuel → ∃ out, producer.pass pb fuel = some out ∧
        out.Perm (producer.wanted param records)) ↔
      Reaches param records producer ∧ ∀ record ∈ records, Unhidden param producer record.messages := by
  have each : (∀ record ∈ records, producer.given record.messages = record.messages.filter fun message =>
      decide (producer.viewer.beginTime.toNat ≤ message.nanos ∧ message.nanos ≤ producer.viewer.endTime.toNat) &&
        param.asks message.channelName) ↔
      Reaches param records producer ∧ ∀ record ∈ records, Unhidden param producer record.messages := by
    rw [Reaches, ← forall₂_and]
    exact forall₂_congr fun record member => initialized.given_iff member
  obtain ⟨enough, gives⟩ := initialized.pass_gives fits
  rw [← each, initialized.wanted_eq]
  apply Iff.intro
  · intro ⟨plenty, plays⟩
    obtain ⟨out, ran, wants⟩ := plays (plenty + enough + 1) (by omega)
    obtain ⟨again, rerun, shows'⟩ := gives (plenty + enough + 1) (by omega)
    rw [ran] at rerun
    obtain rfl := Option.some.inj rerun
    apply eq_of_length_flatMap _ (shows'.symm.trans wants).length_eq
    intro record _
    apply shown_wanted_sublist
    intro message lets
    have writer := (Bool.and_eq_true_iff.mp lets).1
    rw [hasWriter, decide_eq_true_eq, initialized.writers] at writer
    exact writer.1
  · intro same
    apply Exists.intro enough
    intro fuel more
    obtain ⟨out, ran, perm⟩ := gives fuel more
    rw [List.flatMap_congr same] at perm
    exact ⟨out, ran, perm⟩

/-- The playback follows its options exactly when the viewer's filter, the channel lists and the windows keep no wanted
    message from it, and `ReadRecordInfo` counts no message wrongly. -/
theorem playsAsked_iff (nanos : UInt64 → UInt64) (node : Option (String → String → Bool)) (param : PlayParam)
    (records : List (CompleteRecord pb)) (played : Plays pb param.filesToPlay records) (producer : PlayTaskProducer)
    (ready : init pb nanos node param = some producer)
    (fits : RecordViewer.Fits producer.viewer.beginTime producer.viewer.endTime) :
    PlaysAsked param records producer ↔ (Reaches param records producer ∧
      ∀ record ∈ records, Unhidden param producer record.messages) ∧ UInt64.ofNat (miscounted param records) = 0 := by
  have initialized := init_initialized played ready
  rw [← initialized.pushed_iff fits, ← initialized.counted_iff]
  exact ⟨fun plays => ⟨plays.pushed, plays.counted⟩, fun both => ⟨both.1, both.2⟩⟩

theorem foldl_readChannel_times (reader : RecordReader) (names : List String) (producer : PlayTaskProducer) :
    (names.foldl (readChannel reader) producer).earliestBeginTime = producer.earliestBeginTime ∧
    (names.foldl (readChannel reader) producer).latestEndTime = producer.latestEndTime := by
  induction names generalizing producer with
  | nil => exact ⟨rfl, rfl⟩
  | cons name names ih =>
    have same : (readChannel reader producer name).earliestBeginTime = producer.earliestBeginTime ∧
        (readChannel reader producer name).latestEndTime = producer.latestEndTime := by
      unfold readChannel
      split
      · exact ⟨rfl, rfl⟩
      · exact ⟨rfl, rfl⟩
    rw [List.foldl_cons, ← same.1, ← same.2]
    exact ih _

theorem readRecord_times (reader : RecordReader) (param : PlayParam) :
    (readRecord reader (create param)).earliestBeginTime = reader.header.beginTime ∧
    (readRecord reader (create param)).latestEndTime = reader.header.endTime := by
  let opened : PlayTaskProducer := { create param with recordReaders := [reader] }
  obtain ⟨earliest, latest⟩ := foldl_readChannel_times reader reader.getChannelList opened
  apply And.intro
  · show (if reader.header.beginTime < (reader.getChannelList.foldl (readChannel reader) opened).earliestBeginTime
      then reader.header.beginTime
      else (reader.getChannelList.foldl (readChannel reader) opened).earliestBeginTime) = _
    rw [earliest]
    exact lower_maxTime _
  · show (if (reader.getChannelList.foldl (readChannel reader) opened).latestEndTime < reader.header.endTime
      then reader.header.endTime else (reader.getChannelList.foldl (readChannel reader) opened).latestEndTime) = _
    rw [latest]
    exact raise_zero _

theorem foldlM_createWriter_some {node : String → String → Bool} (always : ∀ name type, node name type = true)
    (items : List (Sigma fun _ : String => String)) (producer : PlayTaskProducer) :
    ∃ created, items.foldlM (createWriter node) producer = some created := by
  induction items generalizing producer with
  | nil => exact ⟨producer, rfl⟩
  | cons item items ih =>
    have here : ∃ next, createWriter node producer item = some next := by
      unfold createWriter
      rw [always, if_pos rfl]
      split
      · exact ⟨_, rfl⟩
      · exact ⟨_, rfl⟩
    obtain ⟨next, taken⟩ := here
    rw [List.foldlM_cons, taken]
    exact ih next

/-- `Init` on one file that is played whole, where every channel gets its writer. -/
theorem init_single {nanos : UInt64 → UInt64} {file : List UInt8} {record : CompleteRecord pb}
    (single : param.filesToPlay = [file]) (created : RecordReader.create pb file = some record.reader)
    (counted : record.Counted) (start : param.startTimeS = 0) (begins : param.beginTimeNs = 0)
    (ends : param.endTimeNs = maxTime) (proper : record.reader.header.beginTime < record.reader.header.endTime) :
    ∃ producer, init pb nanos (some fun _ _ => true) param = some producer ∧ Initialized param [record] producer ∧
      (producer.viewer.beginTime = record.reader.header.beginTime ∧
        producer.viewer.endTime = record.reader.header.endTime) ∧
      producer.playParam = { param with
        beginTimeNs := record.reader.header.beginTime
        endTimeNs := record.reader.header.endTime
        preloadTimeS := if param.preloadTimeS = 0 then kPreloadTimeSec else param.preloadTimeS } := by
  have files : (create param).playParam.filesToPlay = [file] := single
  have info : (create param).readRecordInfo pb = some (readRecord record.reader (create param)) := by
    unfold readRecordInfo
    rw [files]
    simp [readFile, created, counted.complete]
  have options : (readRecord record.reader (create param)).playParam = param :=
    (readRecord_adds counted (create param) rfl).playParam
  obtain ⟨earliest, latest⟩ := readRecord_times record.reader param
  have update : (readRecord record.reader (create param)).updatePlayParam nanos =
      some { readRecord record.reader (create param) with playParam := { param with
        beginTimeNs := record.reader.header.beginTime
        endTimeNs := record.reader.header.endTime
        preloadTimeS := if param.preloadTimeS = 0 then kPreloadTimeSec else param.preloadTimeS } } := by
    unfold updatePlayParam
    simp only [options, earliest, latest, start, begins, ends, gt_iff_lt, UInt64.lt_irrefl, if_false, raise_zero,
      lower_maxTime]
    exact if_neg (UInt64.not_le.mpr proper)
  obtain ⟨producer, writes⟩ := foldlM_createWriter_some (fun _ _ => rfl) _ _
  have ready : init pb nanos (some fun _ _ => true) param = some producer := by
    unfold init createWriters
    rw [info]
    dsimp only
    rw [update]
    exact writes
  have played : Plays pb param.filesToPlay [record] := by
    rw [single]
    exact .cons ⟨created, counted⟩ .nil
  have initialized := init_initialized played ready
  obtain ⟨writers, rfl, _⟩ := foldlM_createWriter writes
  refine ⟨_, ready, initialized, ?_, rfl⟩
  have alone : [record.reader].insertionSort (fun lhs rhs => rhs.precedes lhs = false) = [record.reader] := rfl
  rw [initialized.created]
  simp only [List.map_cons, List.map_nil, RecordViewer.create, alone, RecordViewer.minBeginTime_single record.laid.valid,
    RecordViewer.maxEndTime_single record.laid.valid, gt_iff_lt, UInt64.lt_irrefl, if_false, and_self]

/-- A closed file that holds two messages of one channel. -/
structure Chatter (file : List UInt8) (record : CompleteRecord Wire.recordProto) : Prop where
  created : RecordReader.create Wire.recordProto file = some record.reader
  counted : record.Counted
  messages : record.messages = [Recording.sample 1, Recording.sample 2]
  header : record.reader.header.beginTime = 1 ∧ record.reader.header.endTime = 2
  channels : record.reader.getChannelList = ["/chatter"]

theorem promptFlush_chatter : ∃ file record, Chatter file record := by
  obtain ⟨record, created, counted, header, messages, index⟩ :=
    @Recording.closed_counted Wire.recordProto [] Recording.smallChunks rfl rfl rfl Recording.promptFlush _
      (by decide +kernel) rfl rfl (by unfold Payload.Sized; decide +kernel) (by unfold Payload.Sized; decide +kernel)
      (Nat.lt_of_le_of_lt (@Recording.length_file_le Wire.recordProto [] Recording.smallChunks Recording.promptFlush _ rfl)
        (by decide +kernel))
  refine ⟨_, record, created, counted, messages, ?_, ?_⟩
  · rw [header]
    decide +kernel
  · rw [RecordReader.getChannelList, RecordReader.channelInfo, index]
    decide +kernel

def seconds (time : UInt64) : UInt64 := time * 1000000000

def anyWriter : Option (String → String → Bool) := some fun _ _ => true

theorem Chatter.init {file : List UInt8} {record : CompleteRecord Wire.recordProto} (chatter : Chatter file record)
    (single : param.filesToPlay = [file]) (start : param.startTimeS = 0) (begins : param.beginTimeNs = 0)
    (ends : param.endTimeNs = maxTime) :
    ∃ producer, init Wire.recordProto seconds anyWriter param = some producer ∧
      Initialized param [record] producer ∧ (producer.viewer.beginTime = 1 ∧ producer.viewer.endTime = 2) ∧
      producer.playParam = { param with
        beginTimeNs := 1
        endTimeNs := 2
        preloadTimeS := if param.preloadTimeS = 0 then kPreloadTimeSec else param.preloadTimeS } := by
  obtain ⟨first, last⟩ := chatter.header
  have found := @init_single Wire.recordProto param seconds file record single chatter.created chatter.counted start begins
    ends (by rw [first, last]; decide)
  rwa [first, last] at found

theorem Chatter.channelName {file : List UInt8} {record : CompleteRecord Wire.recordProto} (chatter : Chatter file record) :
    ∀ message ∈ record.messages, message.channelName = "/chatter" := by
  rw [chatter.messages]
  decide

theorem playAll_playsAsked : ∃ (file : List UInt8) (record : CompleteRecord Wire.recordProto)
    (producer : PlayTaskProducer), record.messages = [Recording.sample 1, Recording.sample 2] ∧
      init Wire.recordProto seconds anyWriter { isPlayAllChannels := true, filesToPlay := [file] } = some producer ∧
      PlaysAsked { isPlayAllChannels := true, filesToPlay := [file] } [record] producer := by
  obtain ⟨file, record, chatter⟩ := promptFlush_chatter
  let param : PlayParam := { isPlayAllChannels := true, filesToPlay := [file] }
  obtain ⟨producer, ready, _, ⟨begins, ends⟩, _⟩ := @Chatter.init param file record chatter rfl rfl rfl rfl
  have fits : RecordViewer.Fits producer.viewer.beginTime producer.viewer.endTime := by
    rw [begins, ends]
    decide
  have played : Plays Wire.recordProto param.filesToPlay [record] := .cons ⟨chatter.created, chatter.counted⟩ .nil
  refine ⟨file, record, producer, chatter.messages, ready,
    (playsAsked_iff seconds anyWriter param [record] played producer ready fits).mpr ⟨⟨?_, ?_⟩, ?_⟩⟩
  · intro other member message present _ _
    obtain rfl := List.mem_singleton.mp member
    refine ⟨.inl rfl, other, member, ?_⟩
    rw [chatter.channels, chatter.channelName message present]
    exact List.mem_cons_self
  · intro other member
    have asks : (fun message : SingleMessage => param.asks message.channelName) = fun _ => true := rfl
    rw [List.mem_singleton.mp member, chatter.messages, Unhidden, begins, ends, asks]
    decide
  · simp [miscounted, chatter.messages, PlayParam.miscounts, param]

/-- With all channels and a list of other channels nothing is pushed; a black channel that is not played is taken off
    a counter that does not hold it. -/
theorem otherChannels_not_playsAsked : ∃ (file : List UInt8) (record : CompleteRecord Wire.recordProto)
    (first second : PlayTaskProducer), record.messages = [Recording.sample 1, Recording.sample 2] ∧
      init Wire.recordProto seconds anyWriter
        { isPlayAllChannels := true, filesToPlay := [file], channelsToPlay := ["/tf"] } = some first ∧
      ¬ PlaysAsked { isPlayAllChannels := true, filesToPlay := [file], channelsToPlay := ["/tf"] } [record] first ∧
      init Wire.recordProto seconds anyWriter
        { filesToPlay := [file], channelsToPlay := ["/tf"], blackChannels := ["/chatter"] } = some second ∧
      ¬ PlaysAsked { filesToPlay := [file], channelsToPlay := ["/tf"], blackChannels := ["/chatter"] } [record]
        second := by
  obtain ⟨file, record, chatter⟩ := promptFlush_chatter
  obtain ⟨first, ready, initialized, ⟨begins, ends⟩, _⟩ := @Chatter.init
    { isPlayAllChannels := true, filesToPlay := [file], channelsToPlay := ["/tf"] } file record chatter rfl rfl rfl rfl
  obtain ⟨second, ready', initialized', _, _⟩ := @Chatter.init
    { filesToPlay := [file], channelsToPlay := ["/tf"], blackChannels := ["/chatter"] } file record chatter rfl rfl rfl rfl
  refine ⟨file, record, first, second, chatter.messages, ready, ?_, ready', ?_⟩
  · intro plays
    have fits : RecordViewer.Fits first.viewer.beginTime first.viewer.endTime := by
      rw [begins, ends]
      decide
    have here : Recording.sample 1 ∈ record.messages := by
      rw [chatter.messages]
      exact List.mem_cons_self
    have range := RecordViewer.range_eq [record] _ _ _ initialized.created List.mem_cons_self here
    rw [begins, ends] at range
    obtain ⟨passes, _⟩ := ((initialized.pushed_iff fits).mp plays.pushed).1 record List.mem_cons_self _ here
      (range.trans (by decide)) rfl
    simp [Recording.sample] at passes
  · intro plays
    have counted := initialized'.counted_iff.mp plays.counted
    simp [miscounted, chatter.messages, chatter.channels, PlayParam.miscounts, Recording.sample] at counted

end PlayTaskProducer

end CyberRT.Player

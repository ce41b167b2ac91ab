import CyberRT.Record.Recovery
import CyberRT.Record.ViewedRange

namespace CyberRT.Record

open RecordFileReader

structure Spliter where
  whiteChannels : List String
  blackChannels : List String
  beginTime : UInt64
  endTime : UInt64

/-- Where `Proc` is in the record file. `calls` has the calls of `writer_` behind `WriteHeader`. They succeed, so that what
    `Proc` does next does not depend on them. -/
structure Splitting where
  reader : RecordFileReader
  skipNextChunkBody : Bool := false
  calls : List RecordEvent := []

namespace Spliter

variable (pb : Protobuf) (spliter : Spliter)

def keepsChannel (channelName : String) : Bool :=
  if spliter.whiteChannels.isEmpty || spliter.whiteChannels.contains channelName then
    !spliter.blackChannels.contains channelName
  else false

/-- The body of the loop over the messages of a chunk, up to `WriteMessage`. -/
def keepsMessage (message : SingleMessage) : Bool :=
  if !spliter.whiteChannels.isEmpty && !spliter.whiteChannels.contains message.channelName then false
  else if spliter.blackChannels.contains message.channelName then false
  else if message.time < spliter.beginTime || message.time > spliter.endTime then false
  else true

def misses (beginTime endTime : UInt64) : Bool := spliter.beginTime > endTime || spliter.endTime < beginTime

def writeChannel (splitting : Splitting) (channel : Channel) : Splitting :=
  if spliter.keepsChannel channel.name then
    { splitting with calls := splitting.calls ++ [.writeChannel channel] }
  else splitting

def writeMessages (splitting : Splitting) (messages : List SingleMessage) : Splitting :=
  { splitting with calls := splitting.calls ++ (messages.filter spliter.keepsMessage).map .writeMessage }

/-- The loop through the record file, where `none` stands for one that has not ended within the fuel. Sections that should
    not be there are only logged. -/
def readThrough : Nat → Splitting → Option (Bool × Splitting)
  | 0, _ => none
  | fuel + 1, splitting =>
    if splitting.reader.endOfFile then some (true, splitting)
    else
      match splitting.reader.readSectionHead with
      | (none, reader) => some (false, { splitting with reader })
      | (some (code, size), reader) =>
        match SectionType.ofCode code with
        | some .index => some (true, { splitting with reader })
        | some .channel =>
          match readSection pb.channel reader size with
          | (none, reader) => some (false, { splitting with reader })
          | (some channel, reader) => readThrough fuel (spliter.writeChannel { splitting with reader } channel)
        | some .chunkHeader =>
          match readSection pb.chunkHeader reader size with
          | (none, reader) => some (false, { splitting with reader })
          | (some header, reader) =>
            let skip := if spliter.misses header.beginTime header.endTime then true else splitting.skipNextChunkBody
            readThrough fuel { splitting with reader, skipNextChunkBody := skip }
        | some .chunkBody =>
          if splitting.skipNextChunkBody then
            readThrough fuel { splitting with reader := reader.skipSection size, skipNextChunkBody := false }
          else
            match readSection pb.chunkBody reader size with
            | (none, reader) => some (false, { splitting with reader })
            | (some body, reader) => readThrough fuel (spliter.writeMessages { splitting with reader } body.messages)
        | _ => readThrough fuel { splitting with reader }

/-- `Proc` on an input file with this content: what it returns, and its calls of `writer_`. -/
def proc (fuel : Nat) (bytes : List UInt8) : Option (Bool × List RecordEvent) :=
  if spliter.beginTime ≥ spliter.endTime then some (false, [])
  else if spliter.whiteChannels.any spliter.blackChannels.contains then some (false, [])
  else
    match openFile pb bytes with
    | none => some (false, [])
    | some reader =>
      if spliter.misses reader.header.beginTime reader.header.endTime then some (false, [])
      else (readThrough pb spliter fuel { reader := reader.reset }).map fun (result, splitting) => (result, splitting.calls)

/-- What a split is asked for: the channels of the white list, or all where it is empty, without those of the black list. -/
def Selects (channelName : String) : Prop :=
  (spliter.whiteChannels = [] ∨ channelName ∈ spliter.whiteChannels) ∧ channelName ∉ spliter.blackChannels

instance (channelName : String) : Decidable (spliter.Selects channelName) := inferInstanceAs (Decidable (_ ∧ _))

/-- The calls for these sections of a record file. -/
def split : Bool → List Payload → List RecordEvent
  | skip, .channel channel :: rest =>
    if spliter.keepsChannel channel.name then .writeChannel channel :: split skip rest else split skip rest
  | skip, .chunkHeader header :: rest =>
    split (if spliter.misses header.beginTime header.endTime then true else skip) rest
  | true, .chunkBody _ :: rest => split false rest
  | false, .chunkBody body :: rest => (body.messages.filter spliter.keepsMessage).map .writeMessage ++ split false rest
  | _, .header _ :: _ | _, .index _ :: _ | _, [] => []

variable {pb} {spliter}

theorem keepsChannel_iff (channelName : String) : spliter.keepsChannel channelName = decide (spliter.Selects channelName) := by
  unfold keepsChannel Selects
  by_cases white : spliter.whiteChannels = [] ∨ channelName ∈ spliter.whiteChannels
  · simp [white]
  · simp [white]

theorem keepsMessage_iff (message : SingleMessage) : spliter.keepsMessage message =
    decide ((spliter.beginTime ≤ message.time ∧ message.time ≤ spliter.endTime) ∧
      spliter.Selects message.channelName) := by
  unfold keepsMessage
  split
  · rename_i refused
    have others : ¬(spliter.whiteChannels = [] ∨ message.channelName ∈ spliter.whiteChannels) := by
      simpa using refused
    exact (decide_eq_false fun keeps => others keeps.2.1).symm
  · rename_i admitted
    have white : spliter.whiteChannels = [] ∨ message.channelName ∈ spliter.whiteChannels := by
      simpa [or_iff_not_imp_left] using admitted
    split
    · rename_i refused
      have black : message.channelName ∈ spliter.blackChannels := by simpa using refused
      exact (decide_eq_false fun keeps => keeps.2.2 black).symm
    · rename_i clear
      have black : message.channelName ∉ spliter.blackChannels := by simpa using clear
      split
      · rename_i outside
        have outside : ¬(spliter.beginTime ≤ message.time ∧ message.time ≤ spliter.endTime) := by
          simpa [-not_and, Decidable.not_and_iff_or_not] using outside
        exact (decide_eq_false fun keeps => outside keeps.1).symm
      · rename_i inside
        have inside : spliter.beginTime ≤ message.time ∧ message.time ≤ spliter.endTime := by
          simpa using inside
        exact (decide_eq_true ⟨inside, white, black⟩).symm

theorem readThrough_split {splitting : Splitting} {fuel : Nat} {remaining : List Payload}
    (stands : Stands pb splitting.reader remaining) (more : splitting.reader.endOfFile = false)
    (enough : remaining.length < fuel) : ∃ final, readThrough pb spliter fuel splitting = some (true, final) ∧
      final.calls = splitting.calls ++ spliter.split splitting.skipNextChunkBody remaining := by
  induction remaining generalizing splitting fuel with
  | nil =>
    obtain ⟨fuel, rfl⟩ : ∃ left, fuel = left + 1 := ⟨fuel - 1, by simp at enough; omega⟩
    obtain ⟨size, file, headed⟩ := stands.last
    refine ⟨{ splitting with reader := file }, ?_, ?_⟩
    · simp [readThrough, more, headed]
    · simp [split]
  | cons payload remaining ih =>
    obtain ⟨fuel, rfl⟩ : ∃ left, fuel = left + 1 := ⟨fuel - 1, by simp at enough; omega⟩
    have later : remaining.length < fuel := by simpa using enough
    obtain ⟨file, headed, skipped, parsed⟩ := stands.first
    have tail := stands.tail
    rw [readThrough, if_neg (by simp [more]), headed]
    cases payload with
    | channel channel =>
      have read := parsed pb.channel channel rfl
      simp only [Payload.type_channel, SectionType.ofCode_code, read, split, writeChannel]
      split
      · obtain ⟨final, ended, calls⟩ := @ih { splitting with
          reader := splitting.reader.behind pb (.channel channel)
          calls := splitting.calls ++ [.writeChannel channel] } fuel tail more later
        refine ⟨final, ended, ?_⟩
        rw [calls, List.append_assoc]
        rfl
      · exact ih tail more later
    | chunkHeader header =>
      have read := parsed pb.chunkHeader header rfl
      simp only [Payload.type_chunkHeader, SectionType.ofCode_code, read, split]
      exact ih tail more later
    | chunkBody body =>
      have read := parsed pb.chunkBody body rfl
      simp only [Payload.type_chunkBody, SectionType.ofCode_code]
      cases skips : splitting.skipNextChunkBody with
      | true =>
        simp only [if_true, skipped, split]
        exact ih tail more later
      | false =>
        simp only [Bool.false_eq_true, if_false, read, split, writeMessages]
        obtain ⟨final, ended, calls⟩ := @ih { splitting with
          reader := splitting.reader.behind pb (.chunkBody body)
          skipNextChunkBody := false
          calls := splitting.calls ++ (body.messages.filter spliter.keepsMessage).map .writeMessage } fuel tail more later
        refine ⟨final, ended, ?_⟩
        rw [calls, List.append_assoc]
    | header header => simpa using stands.kinds _ (List.mem_cons_self ..)
    | index index => simpa using stands.kinds _ (List.mem_cons_self ..)

/-- A skipped chunk has no message of the interval. -/
theorem filter_missed {header : ChunkHeader} {body : ChunkBody} (bounds : header.Bounds body)
    (missed : spliter.misses header.beginTime header.endTime = true) :
    body.messages.filter spliter.keepsMessage = [] := by
  rw [List.filter_eq_nil_iff]
  intro message member keeps
  rw [keepsMessage_iff] at keeps
  obtain ⟨inside, _⟩ := of_decide_eq_true keeps
  obtain ⟨low, high⟩ := bounds.2 message member
  unfold misses at missed
  rcases (Bool.or_eq_true _ _).mp missed with late | early
  · have late : header.endTime < spliter.beginTime := of_decide_eq_true late
    exact absurd (UInt64.le_trans inside.1 high) (UInt64.not_le.mpr late)
  · have early : spliter.endTime < header.beginTime := of_decide_eq_true early
    exact absurd (UInt64.le_trans low inside.2) (UInt64.not_le.mpr early)

theorem split_messages {data : List Payload} (chunked : Chunked data) :
    writtenMessages (spliter.split false data) = (data.flatMap Payload.messages).filter spliter.keepsMessage := by
  induction chunked with
  | nil => rfl
  | channel channel _ ih =>
    rw [split, List.flatMap_cons]
    split
    · exact ih
    · exact ih
  | @chunk header body rest bounds _ ih =>
    have contents : (Payload.chunkHeader header :: .chunkBody body :: rest).flatMap Payload.messages =
        body.messages ++ rest.flatMap Payload.messages := rfl
    rw [contents, List.filter_append, ← ih, split]
    split
    · rename_i missed
      rw [filter_missed bounds missed, split]
      rfl
    · rw [split, writtenMessages_append, writtenMessages_map]

theorem split_channels {skip : Bool} {data : List Payload}
    (kinds : ∀ payload ∈ data, payload.type = .channel ∨ payload.type = .chunkHeader ∨ payload.type = .chunkBody) :
    writtenChannels (spliter.split skip data) =
      (data.filterMap Payload.channel?).filter fun channel => spliter.keepsChannel channel.name := by
  induction data generalizing skip with
  | nil => simp [split, writtenChannels]
  | cons payload rest ih =>
    have later := fun other member => kinds other (List.mem_cons_of_mem _ member)
    cases payload with
    | channel channel =>
      have first : (Payload.channel channel :: rest).filterMap Payload.channel? =
        channel :: rest.filterMap Payload.channel? := rfl
      rw [split, first, List.filter_cons]
      split
      · exact congrArg (channel :: ·) (ih later)
      · exact ih later
    | chunkHeader header =>
      rw [split]
      exact ih later
    | chunkBody body =>
      cases skip with
      | true =>
        rw [split]
        exact ih later
      | false =>
        have none : writtenChannels ((body.messages.filter spliter.keepsMessage).map .writeMessage) = [] := by
          simp [writtenChannels, RecordEvent.channel?]
        rw [split, writtenChannels, List.filterMap_append, ← writtenChannels, ← writtenChannels, none, List.nil_append]
        exact ih later
    | header header => simpa using kinds _ (List.mem_cons_self ..)
    | index index => simpa using kinds _ (List.mem_cons_self ..)

theorem split_calls {skip : Bool} {data : List Payload} :
    ∀ call ∈ spliter.split skip data, call.isCall = true ∧ call ≠ .close := by
  fun_induction spliter.split skip data with
  | case1 skip channel rest kept ih =>
    intro call member
    rcases List.mem_cons.mp member with rfl | further
    · exact ⟨rfl, RecordEvent.noConfusion⟩
    · exact ih call further
  | case2 skip channel rest dropped ih => exact ih
  | case3 skip header rest ih => exact ih
  | case4 body rest ih => exact ih
  | case5 body rest ih =>
    intro call member
    rcases List.mem_append.mp member with own | further
    · obtain ⟨message, _, rfl⟩ := List.mem_map.mp own
      exact ⟨rfl, RecordEvent.noConfusion⟩
    · exact ih call further
  | case6 => simp
  | case7 => simp
  | case8 => simp

theorem misses_iff (beginTime endTime : UInt64) :
    spliter.misses beginTime endTime = false ↔ spliter.beginTime ≤ endTime ∧ beginTime ≤ spliter.endTime := by
  simp [misses]

theorem proc_complete (filled : pb.Filled) (record : CompleteRecord pb) (range : spliter.beginTime < spliter.endTime)
    (overlaps : spliter.beginTime ≤ record.reader.header.endTime ∧ record.reader.header.beginTime ≤ spliter.endTime)
    (disjoint : ∀ channelName ∈ spliter.whiteChannels, channelName ∉ spliter.blackChannels) {fuel : Nat}
    (enough : record.sections.length < fuel) : spliter.proc pb fuel record.reader.fileReader.file.bytes =
      some (true, spliter.split false record.sections) := by
  have headed : Payload.Sized pb (.header record.reader.header) :=
    ⟨filled.header _, Nat.lt_of_le_of_lt (pb.header_fits _) (by decide)⟩
  have apart : spliter.whiteChannels.any spliter.blackChannels.contains = false := by
    simpa using disjoint
  obtain ⟨index, rest, content, _⟩ := record.laid.content
  have opened := @openFile_eq pb record.reader.header
    ((record.sections ++ [Payload.index index]).flatMap (sectionBytes pb) ++ rest) headed
  rw [← content] at opened
  have reached := (misses_iff _ _).mpr overlaps
  let reader : RecordFileReader :=
    ⟨⟨record.reader.fileReader.file.bytes, sectionSize + headerLength⟩, record.reader.header, ⟨[]⟩, false⟩
  obtain ⟨final, ended, calls⟩ := @readThrough_split pb spliter { reader := reader.reset } fuel record.sections
    (record.laid.stands rfl rfl) rfl enough
  rw [proc, if_neg (UInt64.not_le.mpr range), if_neg (by simp [apart]), opened]
  show (if spliter.misses record.reader.header.beginTime record.reader.header.endTime then some (false, [])
    else (readThrough pb spliter fuel { reader := reader.reset }).map _) = _
  rw [reached, if_neg Bool.false_ne_true, ended]
  exact congrArg (fun calls => some (true, calls)) calls

/-- A split of a complete record file has the messages and the channels that were asked for, and no others. -/
theorem proc_splits (pb : Protobuf) (filled : pb.Filled) (record : CompleteRecord pb) (spliter : Spliter)
    (range : spliter.beginTime < spliter.endTime)
    (overlaps : spliter.beginTime ≤ record.reader.header.endTime ∧ record.reader.header.beginTime ≤ spliter.endTime)
    (disjoint : ∀ channelName ∈ spliter.whiteChannels, channelName ∉ spliter.blackChannels) :
    ∃ calls, (∃ enough, ∀ fuel, enough < fuel →
        spliter.proc pb fuel record.reader.fileReader.file.bytes = some (true, calls)) ∧
      ∀ old, (∃ output, Recoverer.Writes pb old calls output) ∧ ∀ output, Recoverer.Writes pb old calls output →
        output.writer.fileMessages.Perm (record.messages.filter fun message =>
          (spliter.beginTime ≤ message.time ∧ message.time ≤ spliter.endTime) ∧ spliter.Selects message.channelName) ∧
        output.writer.fileChannels = (record.sections.filterMap Payload.channel?).filter fun channel =>
          spliter.Selects channel.name := by
  refine ⟨spliter.split false record.sections, ⟨record.sections.length, fun fuel enough =>
    proc_complete filled record range overlaps disjoint enough⟩, fun old => ⟨?_, fun output writes => ?_⟩⟩
  · exact Recoverer.exists_writes pb old split_calls
  · obtain ⟨messages, channels⟩ := writes.holds
    rw [split_messages record.chunked, funext keepsMessage_iff] at messages
    rw [split_channels record.laid.kinds] at channels
    simp only [keepsChannel_iff] at channels
    exact ⟨messages, channels⟩

/-- From the time of the second message on. -/
def later : Spliter := ⟨["/chatter"], ["/tf"], 2, 9⟩

theorem later_splits : ∃ record : CompleteRecord Wire.recordProto,
    record.messages = [Recording.sample 1, Recording.sample 2] ∧ ∃ calls,
      (∃ enough, ∀ fuel, enough < fuel →
        later.proc Wire.recordProto fuel record.reader.fileReader.file.bytes = some (true, calls)) ∧
      ∀ output, Recoverer.Writes Wire.recordProto [] calls output →
        output.writer.fileMessages.Perm [Recording.sample 2] := by
  obtain ⟨record, two, range⟩ := RecordViewer.promptFlush_record
  obtain ⟨begins, ends⟩ := range []
  obtain ⟨begins', ends'⟩ := RecordViewer.create_whole record.laid.valid []
  have overlaps : later.beginTime ≤ record.reader.header.endTime ∧ record.reader.header.beginTime ≤ later.endTime := by
    rw [← begins', ← ends', begins, ends]
    decide
  obtain ⟨calls, ended, written⟩ := proc_splits Wire.recordProto Recoverer.recordProto_filled record later (by decide)
    overlaps (by decide)
  refine ⟨record, two, calls, ended, fun output writes => ?_⟩
  obtain ⟨messages, _⟩ := (written []).2 output writes
  rw [two] at messages
  exact messages

end Spliter

end CyberRT.Record

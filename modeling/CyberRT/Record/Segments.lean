import Mathlib.Algebra.BigOperators.Group.List.Basic
import Mathlib.Data.List.Forall2
import Mathlib.Data.List.Nodup
import CyberRT.Record.Conservation
import CyberRT.Record.RecordWriter

namespace CyberRT.Record

open Execution

def WriterEvent.message? : WriterEvent → Option SingleMessage
  | .writeMessage message => some message
  | _ => none

def writtenTo (events : List WriterEvent) : List SingleMessage := events.filterMap WriterEvent.message?

theorem writtenTo_snoc (past : List WriterEvent) (event : WriterEvent) :
    writtenTo (past ++ [event]) = writtenTo past ++ event.message?.toList := by
  simp only [writtenTo, List.filterMap_append]
  cases found : event.message? <;> simp [found]

/-- The number of messages that the index gives a channel; `RecordReader` keeps the first entry of a name. -/
def Index.messageNumber (index : Index) (name : String) : Nat :=
  (index.indexes.findSome? fun entry =>
    match entry.cache with
    | .channel cache => if cache.name = name then some cache.messageNumber else none
    | _ => none).getD 0

def Segment.messageNumber (segment : Segment) (name : String) : Nat :=
  match segment.recording.writer.sections.getLast? with
  | some (_, .index index) => index.messageNumber name
  | _ => 0

open RecordFileWriter in
theorem Index.messageNumber_eq {index : Index} {number : String → Nat} (numbers : Numbers index number) (name : String) :
    (Indexed index name → index.messageNumber name = number name) ∧
    (¬ Indexed index name → index.messageNumber name = 0) := by
  unfold messageNumber
  cases found : index.indexes.findSome? fun entry =>
      match entry.cache with
      | .channel cache => if cache.name = name then some cache.messageNumber else none
      | _ => none with
  | none =>
    refine ⟨fun indexed => ?_, fun _ => rfl⟩
    obtain ⟨entry, member, cache, kind, named⟩ := indexed
    have absent := List.findSome?_eq_none_iff.mp found entry member
    simp [kind, named] at absent
  | some value =>
    obtain ⟨entry, member, here⟩ := List.exists_of_findSome?_eq_some found
    split at here
    · rename_i cache kind
      simp only [Option.ite_none_right_eq_some, Option.some.injEq] at here
      obtain ⟨named, same⟩ := here
      refine ⟨fun _ => ?_, fun absent => absurd ⟨entry, member, cache, kind, named⟩ absent⟩
      rw [Option.getD_some, ← same, numbers entry member cache kind, named]
    · cases here

namespace Recording

open RecordFileWriter

theorem step_closed {pb : Protobuf} {state next : Recording} {event : RecordEvent} (closed : state.phase = .closed)
    (taken : step pb state event = some next) : next.phase = .closed := by
  have moves := step_moves pb taken
  cases moves with
  | flush full => exact closed
  | exit => exact closed
  | writeChannel channel idle => simp [closed] at idle
  | writeMessage message idle => simp [closed] at idle
  | close idle => simp [closed] at idle
  | swap here => simp [closed] at here
  | drained here empty => simp [closed] at here
  | lastSwap here => simp [closed] at here
  | lastDrained here empty => simp [closed] at here
  | stop here => simp [closed] at here
  | join here => simp [closed] at here
  | writeIndex here => simp [closed] at here
  | complete here => simp [closed] at here

theorem sections_grow {pb : Protobuf} {state next : Recording} {event : RecordEvent}
    (moves : Moves pb state event next) : state.writer.sections <+: next.writer.sections := by
  cases moves with
  | writeChannel channel idle => exact List.prefix_append ..
  | flush full =>
    rw [flushChunk_sections, List.append_assoc]
    exact List.prefix_append ..
  | writeIndex indexing => exact List.prefix_append ..
  | writeMessage message idle => exact List.prefix_refl _
  | swap swapping => exact List.prefix_refl _
  | close idle => exact List.prefix_refl _
  | drained draining empty => exact List.prefix_refl _
  | lastSwap last => exact List.prefix_refl _
  | lastDrained draining empty => exact List.prefix_refl _
  | stop stopping => exact List.prefix_refl _
  | exit => exact List.prefix_refl _
  | join joining => exact List.prefix_refl _
  | complete completing => exact List.prefix_refl _

theorem channel_sections {pb : Protobuf} {old : List UInt8} {header : Header} {events : List RecordEvent}
    {final : Recording} (ran : run (step pb) (initial pb old header) events = some final) :
    ∀ channel ∈ writtenChannels events, ∃ position, (position, Payload.channel channel) ∈ final.writer.sections := by
  refine run_invariant (fun state past => ∀ channel ∈ writtenChannels past,
    ∃ position, (position, Payload.channel channel) ∈ state.writer.sections) ?_ (by simp [writtenChannels]) ran
  intro state past event next taken held channel member
  have moves := step_moves pb taken
  rw [writtenChannels_snoc] at member
  rcases List.mem_append.mp member with old | new
  · obtain ⟨position, present⟩ := held channel old
    exact ⟨position, (sections_grow moves).subset present⟩
  · cases moves with
    | writeChannel added idle =>
      obtain rfl := List.mem_singleton.mp new
      exact ⟨state.writer.file.pos, by simp⟩
    | _ => simp [RecordEvent.channel?] at new

end Recording

/-- The messages of a channel that a segment counts in its index. -/
def tally (name : String) (events : List RecordEvent) : Nat :=
  if (writtenChannels events).any fun channel => channel.name = name then
    (writtenMessages events).countP fun message => message.channelName = name
  else 0

theorem tally_quiet (name : String) (events : List RecordEvent) {call : RecordEvent} (noMessage : call.message? = none)
    (noChannel : call.channel? = none) : tally name (events ++ [call]) = tally name events := by
  simp [tally, Recording.writtenChannels_snoc, Recording.writtenMessages_snoc, noMessage, noChannel]

theorem tally_message {name : String} {events : List RecordEvent}
    (listed : ∃ channel ∈ writtenChannels events, channel.name = name) (message : SingleMessage) :
    tally name (events ++ [.writeMessage message]) =
      tally name events + if message.channelName = name then 1 else 0 := by
  have any : (writtenChannels events).any (fun channel => channel.name = name) = true := by
    rw [List.any_eq_true]
    simpa using listed
  have channels : writtenChannels (events ++ [.writeMessage message]) = writtenChannels events := by
    simp [Recording.writtenChannels_snoc, RecordEvent.channel?]
  rw [tally, tally, channels, if_pos any, if_pos any, Recording.writtenMessages_snoc, List.countP_append]
  simp [RecordEvent.message?, List.countP_cons]

theorem tally_channel_other {name : String} {events : List RecordEvent} {channel : Channel}
    (other : channel.name ≠ name) : tally name (events ++ [.writeChannel channel]) = tally name events := by
  simp [tally, Recording.writtenChannels_snoc, Recording.writtenMessages_snoc, RecordEvent.message?, RecordEvent.channel?, other]

theorem tally_channel (events : List RecordEvent) (channel : Channel) :
    tally channel.name (events ++ [.writeChannel channel]) =
      (writtenMessages events).countP fun message => message.channelName = channel.name := by
  simp [tally, Recording.writtenChannels_snoc, Recording.writtenMessages_snoc, RecordEvent.message?, RecordEvent.channel?]

theorem tally_unlisted {name : String} {events : List RecordEvent}
    (absent : ∀ channel ∈ writtenChannels events, channel.name ≠ name) : tally name events = 0 := by
  rw [tally, if_neg]
  simpa using absent

def Segment.Written (pb : Protobuf) (segment : Segment) (events : List RecordEvent) : Prop :=
  ∃ old header, run (Recording.step pb) (Recording.initial pb old header) events = some segment.recording

namespace Segment.Written

variable {pb : Protobuf} {segment : Segment} {events : List RecordEvent}

theorem fileMessages (written : segment.Written pb events) (closed : segment.recording.phase = .closed) :
    segment.recording.writer.fileMessages.Perm (writtenMessages events) := by
  obtain ⟨old, header, ran⟩ := written
  obtain ⟨drains, content⟩ := Recording.held_written ran
  rwa [drains.held_closed closed] at content

theorem messageNumber (written : segment.Written pb events) (closed : segment.recording.phase = .closed)
    (name : String) : segment.messageNumber name = tally name events := by
  obtain ⟨old, header, ran⟩ := written
  have counts := Recording.counts_run ran
  obtain ⟨numbers, position, last⟩ := counts.numbered (by simp [closed, Phase.indexWritten])
  obtain ⟨listed, absent⟩ := Index.messageNumber_eq numbers name
  have known : (writtenChannels events).any (fun channel => channel.name = name) = true ↔
      RecordFileWriter.Indexed segment.recording.writer.index name := by
    rw [counts.indexed, List.any_eq_true]
    simp
  unfold Segment.messageNumber tally
  rw [last]
  by_cases indexed : RecordFileWriter.Indexed segment.recording.writer.index name
  · rw [if_pos (known.mpr indexed), ← counts.numbers]
    exact listed indexed
  · rw [if_neg fun any => indexed (known.mp any)]
    exact absent indexed

theorem getMessageNumber (written : segment.Written pb events) (name : String) :
    segment.recording.writer.getMessageNumber name =
      (writtenMessages events).countP fun message => message.channelName = name := by
  obtain ⟨old, header, ran⟩ := written
  exact (Recording.counts_run ran).numbers name

theorem sections (written : segment.Written pb events) : ∀ channel ∈ writtenChannels events,
    ∃ position, (position, Payload.channel channel) ∈ segment.recording.writer.sections := by
  obtain ⟨old, header, ran⟩ := written
  exact Recording.channel_sections ran

theorem snoc (written : segment.Written pb events) {call : RecordEvent} {recording : Recording}
    (taken : segment.recording.step pb call = some recording) :
    Segment.Written pb ⟨segment.path, recording⟩ (events ++ [call]) := by
  obtain ⟨old, header, ran⟩ := written
  exact ⟨old, header, run_snoc ran taken⟩

end Segment.Written

namespace Session

def segments (session : Session) : List Segment := session.finished ++ [session.segment]

variable {pb : Protobuf} {disk : String → List UInt8}

/-- What the `RecordWriter` keeps from one segment to the next. -/
structure Keeps (w u : RecordWriter) : Prop where
  file : u.file = w.file
  header : u.header = w.header
  fileIndex : u.fileIndex = w.fileIndex
  channels : u.channels = w.channels

def withRecording (session : Session) (recording : Recording) : Session :=
  { session with segment := { session.segment with recording := recording } }

variable (pb disk)

/-- Everything that a step can do. -/
inductive Moves (session : Session) : WriterEvent → Session → Prop where
  | register (channel : Channel) {recording : Recording} (new : session.writer.isNewChannel channel.name = true)
    (open' : session.stage ≠ .closed)
    (taken : session.segment.recording.step pb (.writeChannel channel) = some recording) :
    Moves session (.writeChannel channel)
      (withRecording { session with writer := session.writer.onNewChannel channel } recording)
  | known (channel : Channel) (old : session.writer.isNewChannel channel.name = false) :
    Moves session (.writeChannel channel) session
  | message (message : SingleMessage) {recording : Recording}
    (taken : session.segment.recording.step pb (.writeMessage message) = some recording) :
    Moves session (.writeMessage message) (withRecording
      { session with writer := session.writer.onNewMessage message.channelName, stage := .writing message } recording)
  | inside {event : WriterEvent} {call : RecordEvent} {recording : Recording} {writer : RecordWriter} {stage : Stage}
    (noMessage : event.message? = none) (noChannel : ∀ channel, event ≠ .writeChannel channel)
    (quiet : call.message? = none ∧ call.channel? = none)
    (keeps : Keeps session.writer writer) (stays : stage = .closed → session.stage = .closed)
    (taken : session.segment.recording.step pb call = some recording) :
    Moves session event (withRecording { session with writer := writer, stage := stage } recording)
  | still {writer : RecordWriter} {stage : Stage} (keeps : Keeps session.writer writer)
    (ends : stage = .closed → session.segment.recording.phase = .closed) :
    Moves session .proceed { session with writer := writer, stage := stage }
  | split (full : session.segment.recording.phase = .closed) : Moves session .proceed (splitOutfile pb disk session)

variable {pb disk}

theorem inner_some {session next : Session} {call : RecordEvent} (taken : inner pb session call = some next) :
    ∃ recording, session.segment.recording.step pb call = some recording ∧ next = session.withRecording recording := by
  obtain ⟨recording, stepped, same⟩ := Option.map_eq_some_iff.mp taken
  exact ⟨recording, stepped, same.symm⟩

theorem keeps_refl (w : RecordWriter) : Keeps w w := ⟨rfl, rfl, rfl, rfl⟩

theorem proceed_moves {session next : Session} (taken : proceed pb disk session = some next) :
    Moves pb disk session .proceed next := by
  unfold proceed at taken
  cases stage : session.stage with
  | idle => simp [stage] at taken
  | closed => simp [stage] at taken
  | writing message =>
    simp only [stage] at taken
    split at taken
    · split at taken
      · obtain ⟨recording, stepped, rfl⟩ := inner_some taken
        exact .inside rfl (by simp) ⟨rfl, rfl⟩ ⟨rfl, rfl, rfl, rfl⟩ (by simp) stepped
      · obtain rfl := Option.some.inj taken
        exact .still ⟨rfl, rfl, rfl, rfl⟩ (by simp)
    · obtain ⟨recording, stepped, rfl⟩ := inner_some taken
      exact .inside rfl (by simp) ⟨rfl, rfl⟩ (keeps_refl _) id stepped
  | splitting =>
    simp only [stage] at taken
    split at taken
    · rename_i full
      obtain rfl := Option.some.inj taken
      exact .split full
    · obtain ⟨recording, stepped, rfl⟩ := inner_some taken
      exact .inside rfl (by simp) ⟨rfl, rfl⟩ (keeps_refl _) id stepped
  | closing =>
    simp only [stage] at taken
    split at taken
    · rename_i full
      obtain rfl := Option.some.inj taken
      exact .still (keeps_refl _) fun _ => full
    · obtain ⟨recording, stepped, rfl⟩ := inner_some taken
      exact .inside rfl (by simp) ⟨rfl, rfl⟩ (keeps_refl _) id stepped

theorem step_moves {session next : Session} {event : WriterEvent} (taken : step pb disk session event = some next) :
    Moves pb disk session event next := by
  cases event with
  | writeChannel channel =>
    simp only [step, Option.ite_none_right_eq_some] at taken
    obtain ⟨idle, taken⟩ := taken
    split at taken
    · rename_i new
      obtain ⟨recording, stepped, rfl⟩ := inner_some taken
      exact .register channel new (by simp [idle]) stepped
    · rename_i old
      obtain rfl := Option.some.inj taken
      exact .known channel (by simpa using old)
  | writeMessage message =>
    simp only [step, Option.ite_none_right_eq_some] at taken
    obtain ⟨recording, stepped, rfl⟩ := inner_some taken.2
    exact .message message stepped
  | close =>
    simp only [step, Option.ite_none_right_eq_some] at taken
    obtain ⟨recording, stepped, rfl⟩ := inner_some taken.2
    exact .inside rfl (by simp) ⟨rfl, rfl⟩ (keeps_refl _) (by simp) stepped
  | proceed => exact proceed_moves taken
  | flush =>
    obtain ⟨recording, stepped, rfl⟩ := inner_some taken
    exact .inside rfl (by simp) ⟨rfl, rfl⟩ (keeps_refl _) id stepped
  | exit =>
    obtain ⟨recording, stepped, rfl⟩ := inner_some taken
    exact .inside rfl (by simp) ⟨rfl, rfl⟩ (keeps_refl _) id stepped

theorem replay_written (pb : Protobuf) (channels : List Channel) (path : String) (old : List UInt8) (header : Header) :
    Segment.Written pb ⟨path, replay pb channels (.initial pb old header)⟩ (channels.map .writeChannel) := by
  have general : ∀ (channels : List Channel) (recording : Recording), recording.phase = .idle →
      run (Recording.step pb) recording (channels.map .writeChannel) = some (replay pb channels recording) := by
    intro channels
    induction channels with
    | nil => exact fun recording _ => rfl
    | cons channel rest ih =>
      intro recording idle
      have taken : recording.step pb (.writeChannel channel) =
          some { recording with writer := recording.writer.writeChannel pb channel } := by
        rw [Recording.step, if_pos idle]
      rw [List.map_cons, run_cons, taken]
      exact ih _ idle
  exact ⟨old, header, general channels _ rfl⟩

theorem writtenChannels_replay (channels : List Channel) :
    writtenChannels (channels.map .writeChannel) = channels := by
  rw [writtenChannels, List.filterMap_map]
  exact List.filterMap_some

theorem writtenMessages_replay (channels : List Channel) : writtenMessages (channels.map .writeChannel) = [] := by
  rw [writtenMessages, List.filterMap_eq_nil_iff]
  intro event member
  obtain ⟨channel, _, rfl⟩ := List.mem_map.mp member
  rfl

/-- The segments have received the calls of the session, each the channels that were known by then. -/
structure Tracks (pb : Protobuf) (session : Session) (past : List WriterEvent) (histories : List (List RecordEvent))
    (current : List RecordEvent) : Prop where
  finished : List.Forall₂ (fun segment events => segment.Written pb events ∧ segment.recording.phase = .closed)
    session.finished histories
  written : session.segment.Written pb current
  messages : histories.flatMap writtenMessages ++ writtenMessages current = writtenTo past
  channels : writtenChannels current = session.writer.channels.map Prod.fst
  known : ∀ events ∈ histories, ∀ channel ∈ writtenChannels events, session.writer.isNewChannel channel.name = false
  closed : session.stage = .closed → session.segment.recording.phase = .closed

theorem isNewChannel_eq_false {w : RecordWriter} {name : String} :
    w.isNewChannel name = false ↔ ∃ entry ∈ w.channels, entry.1.name = name := by
  simp [RecordWriter.isNewChannel]

theorem onNewMessage_fst (w : RecordWriter) (name : String) :
    (w.onNewMessage name).channels.map Prod.fst = w.channels.map Prod.fst := by
  simp only [RecordWriter.onNewMessage, List.map_map]
  apply List.map_congr_left
  intro entry _
  simp only [Function.comp]
  split <;> rfl

theorem isNewChannel_congr {w u : RecordWriter} (same : u.channels.map Prod.fst = w.channels.map Prod.fst)
    (name : String) : u.isNewChannel name = w.isNewChannel name := by
  have any : ∀ w : RecordWriter, (w.channels.any fun entry => entry.1.name = name) =
      (w.channels.map Prod.fst).any fun channel => channel.name = name := by
    intro w
    rw [List.any_map]
    rfl
  rw [RecordWriter.isNewChannel, RecordWriter.isNewChannel, any, any, same]

theorem initial_tracks (pb : Protobuf) (disk : String → List UInt8) (file : String) (header : Header) :
    Tracks pb (initial pb disk file header) [] [] [] :=
  ⟨.nil, ⟨_, _, rfl⟩, rfl, rfl, by simp, by simp [initial]⟩

theorem Tracks.register {session : Session} {past : List WriterEvent} {histories : List (List RecordEvent)}
    {current : List RecordEvent} (tracks : Tracks pb session past histories current) {channel : Channel}
    {recording : Recording} (open' : session.stage ≠ .closed)
    (taken : session.segment.recording.step pb (.writeChannel channel) = some recording) :
    Tracks pb (withRecording { session with writer := session.writer.onNewChannel channel } recording)
      (past ++ [.writeChannel channel]) histories (current ++ [.writeChannel channel]) := by
  refine ⟨tracks.finished, tracks.written.snoc taken, ?_, ?_, ?_, fun closed => absurd closed open'⟩
  · rw [writtenTo_snoc, Recording.writtenMessages_snoc, ← List.append_assoc, tracks.messages]
    rfl
  · rw [Recording.writtenChannels_snoc, tracks.channels]
    simp [RecordEvent.channel?, withRecording, RecordWriter.onNewChannel]
  · intro events member other listed
    obtain ⟨entry, present, named⟩ := isNewChannel_eq_false.mp (tracks.known events member other listed)
    exact isNewChannel_eq_false.mpr ⟨entry, List.mem_append_left _ present, named⟩

theorem Tracks.message {session : Session} {past : List WriterEvent} {histories : List (List RecordEvent)}
    {current : List RecordEvent} (tracks : Tracks pb session past histories current) {message : SingleMessage}
    {recording : Recording} (taken : session.segment.recording.step pb (.writeMessage message) = some recording) :
    Tracks pb (withRecording { session with
        writer := session.writer.onNewMessage message.channelName, stage := .writing message } recording)
      (past ++ [.writeMessage message]) histories (current ++ [.writeMessage message]) := by
  refine ⟨tracks.finished, tracks.written.snoc taken, ?_, ?_, ?_, by simp [withRecording]⟩
  · rw [writtenTo_snoc, Recording.writtenMessages_snoc, ← List.append_assoc, tracks.messages]
    rfl
  · rw [Recording.writtenChannels_snoc, tracks.channels]
    simp [RecordEvent.channel?, withRecording, onNewMessage_fst]
  · intro events member channel listed
    have known := tracks.known events member channel listed
    rw [← isNewChannel_congr (onNewMessage_fst session.writer message.channelName)] at known
    exact known

theorem Tracks.inside {session : Session} {past : List WriterEvent} {histories : List (List RecordEvent)}
    {current : List RecordEvent} (tracks : Tracks pb session past histories current) {event : WriterEvent}
    {call : RecordEvent} {recording : Recording} {writer : RecordWriter} {stage : Stage}
    (noMessage : event.message? = none) (quiet : call.message? = none ∧ call.channel? = none)
    (keeps : Keeps session.writer writer) (stays : stage = .closed → session.stage = .closed)
    (taken : session.segment.recording.step pb call = some recording) :
    Tracks pb (withRecording { session with writer := writer, stage := stage } recording) (past ++ [event]) histories
      (current ++ [call]) := by
  refine ⟨tracks.finished, tracks.written.snoc taken, ?_, ?_, ?_, ?_⟩
  · rw [writtenTo_snoc, Recording.writtenMessages_snoc, noMessage, quiet.1]
    simpa using tracks.messages
  · rw [Recording.writtenChannels_snoc, quiet.2, tracks.channels]
    simp [withRecording, keeps.channels]
  · intro events member channel listed
    rw [isNewChannel_congr (w := session.writer) (by simp [withRecording, keeps.channels])]
    exact tracks.known events member channel listed
  · intro ended
    exact Recording.step_closed (tracks.closed (stays ended)) taken

theorem Tracks.still {session : Session} {past : List WriterEvent} {histories : List (List RecordEvent)}
    {current : List RecordEvent} (tracks : Tracks pb session past histories current) {writer : RecordWriter}
    {stage : Stage} {event : WriterEvent} (noMessage : event.message? = none) (keeps : Keeps session.writer writer)
    (ends : stage = .closed → session.segment.recording.phase = .closed) :
    Tracks pb { session with writer := writer, stage := stage } (past ++ [event]) histories current := by
  refine ⟨tracks.finished, tracks.written, ?_, ?_, ?_, ends⟩
  · rw [writtenTo_snoc, noMessage, tracks.messages]
    simp
  · rw [tracks.channels, keeps.channels]
  · intro events member channel listed
    rw [isNewChannel_congr (w := session.writer) (by rw [keeps.channels])]
    exact tracks.known events member channel listed

theorem Tracks.split {session : Session} {past : List WriterEvent} {histories : List (List RecordEvent)}
    {current : List RecordEvent} (tracks : Tracks pb session past histories current)
    (full : session.segment.recording.phase = .closed) :
    Tracks pb (splitOutfile pb disk session) (past ++ [.proceed]) (histories ++ [current])
      ((session.writer.channels.map Prod.fst).map .writeChannel) := by
  refine ⟨?_, replay_written .., ?_, writtenChannels_replay _, ?_, by simp [splitOutfile]⟩
  · exact List.rel_append tracks.finished (.cons ⟨tracks.written, full⟩ .nil)
  · rw [writtenMessages_replay, writtenTo_snoc, ← tracks.messages]
    simp [WriterEvent.message?]
  · intro events member channel listed
    rcases List.mem_append.mp member with old | new
    · exact tracks.known events old channel listed
    · rw [List.mem_singleton.mp new, tracks.channels] at listed
      obtain ⟨entry, present, rfl⟩ := List.mem_map.mp listed
      exact isNewChannel_eq_false.mpr ⟨entry, present, rfl⟩

/-- A channel that is registered has no message in the segment yet. -/
def RegistersFirst (session : Session) : WriterEvent → Prop
  | .writeChannel channel => session.writer.isNewChannel channel.name = true →
    session.segment.recording.writer.getMessageNumber channel.name = 0
  | _ => True

instance decidableRegistersFirst (session : Session) (event : WriterEvent) : Decidable (RegistersFirst session event) :=
  match event with
  | .writeChannel _ => inferInstanceAs (Decidable (_ → _))
  | .writeMessage _ | .close | .proceed | .flush | .exit => inferInstanceAs (Decidable True)

/-- The number of a channel and its messages that came too early are together what the segments count. -/
structure Tallied (session : Session) (histories : List (List RecordEvent)) (current : List RecordEvent)
    (early : String → Nat) : Prop where
  distinct : (session.writer.channels.map fun entry => entry.1.name).Nodup
  numbers : ∀ entry ∈ session.writer.channels, entry.2 + early entry.1.name =
    (histories.map (tally entry.1.name)).sum + tally entry.1.name current

theorem sum_map_zero {histories : List (List RecordEvent)} {name : String}
    (zero : ∀ events ∈ histories, tally name events = 0) : (histories.map (tally name)).sum = 0 :=
  List.sum_eq_zero fun count member => by
    obtain ⟨events, listed, rfl⟩ := List.mem_map.mp member
    exact zero events listed

theorem Tallied.register {session : Session} {past : List WriterEvent} {histories : List (List RecordEvent)}
    {current : List RecordEvent} {early : String → Nat} (tallied : Tallied session histories current early)
    (tracks : Tracks pb session past histories current) {channel : Channel} (recording : Recording)
    (new : session.writer.isNewChannel channel.name = true) :
    Tallied (withRecording { session with writer := session.writer.onNewChannel channel } recording) histories
      (current ++ [.writeChannel channel]) (Function.update early channel.name
        ((writtenMessages current).countP fun message => message.channelName = channel.name)) := by
  have other : ∀ entry ∈ session.writer.channels, channel.name ≠ entry.1.name := by
    intro entry member same
    rw [isNewChannel_eq_false.mpr ⟨entry, member, same.symm⟩] at new
    cases new
  refine ⟨?_, ?_⟩
  · simp only [withRecording, RecordWriter.onNewChannel, List.map_append, List.map_cons, List.map_nil]
    refine List.nodup_append.mpr ⟨tallied.distinct, List.nodup_singleton _, ?_⟩
    intro name listed last member
    obtain ⟨entry, present, rfl⟩ := List.mem_map.mp listed
    rw [List.mem_singleton.mp member]
    exact fun same => other entry present same.symm
  · intro entry member
    rcases List.mem_append.mp member with old | added
    · have apart := other entry old
      rw [Function.update_of_ne apart.symm, tally_channel_other apart]
      exact tallied.numbers entry old
    · obtain rfl := List.mem_singleton.mp added
      have before : ∀ events ∈ histories, tally channel.name events = 0 := by
        intro events listed
        apply tally_unlisted
        intro written present same
        have known := tracks.known events listed written present
        rw [same, new] at known
        cases known
      simp only [Function.update_self, tally_channel, sum_map_zero before]

theorem Tallied.message {session : Session} {past : List WriterEvent} {histories : List (List RecordEvent)}
    {current : List RecordEvent} {early : String → Nat} (tallied : Tallied session histories current early)
    (tracks : Tracks pb session past histories current) (message : SingleMessage) (recording : Recording)
    (stage : Stage) :
    Tallied (withRecording { session with
        writer := session.writer.onNewMessage message.channelName, stage := stage } recording) histories
      (current ++ [.writeMessage message]) early := by
  have listed : ∀ entry ∈ session.writer.channels,
      ∃ channel ∈ writtenChannels current, channel.name = entry.1.name := by
    intro entry member
    rw [tracks.channels]
    exact ⟨entry.1, List.mem_map_of_mem member, rfl⟩
  refine ⟨?_, ?_⟩
  · have names : ((session.writer.onNewMessage message.channelName).channels.map fun entry => entry.1.name) =
        session.writer.channels.map fun entry => entry.1.name := by
      have same := congrArg (List.map Channel.name) (onNewMessage_fst session.writer message.channelName)
      rw [List.map_map, List.map_map] at same
      exact same
    rw [withRecording, names]
    exact tallied.distinct
  · intro entry member
    obtain ⟨old, present, rfl⟩ := List.mem_map.mp member
    have before := tallied.numbers old present
    have counted := tally_message (listed old present) message
    by_cases same : old.1.name = message.channelName
    · rw [if_pos same.symm] at counted
      simp only [if_pos same]
      omega
    · rw [if_neg fun equal => same equal.symm] at counted
      simp only [if_neg same]
      omega

theorem Tallied.congr {session next : Session} {histories : List (List RecordEvent)} {current events : List RecordEvent}
    {early : String → Nat} (tallied : Tallied session histories current early)
    (channels : next.writer.channels = session.writer.channels) (same : ∀ name, tally name events = tally name current) :
    Tallied next histories events early := by
  refine ⟨by rw [channels]; exact tallied.distinct, ?_⟩
  rw [channels]
  intro entry member
  rw [same]
  exact tallied.numbers entry member

theorem Tallied.split {session : Session} {histories : List (List RecordEvent)} {current : List RecordEvent}
    {early : String → Nat} (tallied : Tallied session histories current early) :
    Tallied (splitOutfile pb disk session) (histories ++ [current])
      ((session.writer.channels.map Prod.fst).map .writeChannel) early := by
  refine ⟨tallied.distinct, ?_⟩
  intro entry member
  have fresh : tally entry.1.name ((session.writer.channels.map Prod.fst).map .writeChannel) = 0 := by
    rw [tally, writtenMessages_replay]
    simp
  have before := tallied.numbers entry member
  rw [fresh, List.map_append, List.sum_append, before]
  simp

theorem path_injective (file : String) : Function.Injective fun index => file ++ segmentSuffix index := by
  intro left right same
  have characters := congrArg String.toList same
  simp only [segmentSuffix, String.toList_append, String.toList_ofList] at characters
  have digits := List.append_cancel_left (List.append_cancel_left characters)
  have value := congrArg (fun digits => Nat.ofDigitChars 10 digits 0) digits
  simpa [Nat.ofDigitChars_append] using value

structure Named (file : String) (session : Session) : Prop where
  base : session.writer.file = file
  index : session.finished.length < 100000 → session.writer.fileIndex = session.finished.length + 1
  paths : session.finished.length < 100000 → session.segments.map Segment.path =
    (List.range (session.finished.length + 1)).map fun index => file ++ segmentSuffix index

theorem Named.congr {file : String} {session next : Session} (named : Named file session)
    (keeps : next.writer.file = session.writer.file ∧ next.writer.fileIndex = session.writer.fileIndex)
    (finished : next.finished = session.finished) (path : next.segment.path = session.segment.path) :
    Named file next := by
  refine ⟨keeps.1.trans named.base, ?_, ?_⟩
  · rw [keeps.2, finished]
    exact named.index
  · rw [segments, finished, List.map_append, List.map_cons, List.map_nil, path]
    have paths := named.paths
    rwa [segments, List.map_append, List.map_cons, List.map_nil] at paths

theorem Named.split {file : String} {session : Session} (named : Named file session) :
    Named file (splitOutfile pb disk session) := by
  have length : (splitOutfile pb disk session).finished.length = session.finished.length + 1 := by simp [splitOutfile]
  refine ⟨named.base, ?_, ?_⟩
  · intro few
    rw [length] at few ⊢
    have index := named.index (by omega)
    have small : ¬ session.writer.fileIndex > 99999 := by omega
    simp only [splitOutfile, if_neg small]
    omega
  · intro few
    rw [length] at few ⊢
    have index := named.index (by omega)
    have small : ¬ session.finished.length + 1 > 99999 := by omega
    have paths := named.paths (by omega)
    rw [List.range_succ, List.map_append, ← paths, segments, segments]
    simp only [splitOutfile, index, if_neg small, named.base, List.map_append, List.map_cons, List.map_nil]

theorem Named.step {file : String} {session next : Session} {event : WriterEvent} (named : Named file session)
    (moves : Moves pb disk session event next) : Named file next := by
  cases moves with
  | register channel new open' taken => exact named.congr ⟨rfl, rfl⟩ rfl rfl
  | known channel old => exact named
  | message message taken => exact named.congr ⟨rfl, rfl⟩ rfl rfl
  | inside noMessage noChannel quiet keeps stays taken => exact named.congr ⟨keeps.file, keeps.fileIndex⟩ rfl rfl
  | still keeps ends => exact named.congr ⟨keeps.file, keeps.fileIndex⟩ rfl rfl
  | split full => exact named.split

def Grows (session next : Session) : Prop :=
  ∀ (place : Nat) (segment : Segment), session.segments[place]? = some segment →
    ∃ grown : Segment, next.segments[place]? = some grown ∧
      segment.recording.writer.sections ⊆ grown.recording.writer.sections

theorem grows_refl (session : Session) : Grows session session := by
  intro place segment found
  exact ⟨segment, found, fun _ member => member⟩

theorem Grows.trans {first second third : Session} (one : Grows first second) (two : Grows second third) :
    Grows first third := by
  intro place segment found
  obtain ⟨middle, here, inside⟩ := one place segment found
  obtain ⟨last, there, further⟩ := two place middle here
  exact ⟨last, there, fun entry member => further (inside member)⟩

theorem grows_segment {session next : Session} (finished : next.finished = session.finished)
    (grown : session.segment.recording.writer.sections ⊆ next.segment.recording.writer.sections) :
    Grows session next := by
  intro place segment found
  rw [segments] at found
  rw [segments, finished]
  by_cases before : place < session.finished.length
  · rw [List.getElem?_append_left before] at found ⊢
    exact ⟨segment, found, fun _ member => member⟩
  · have behind := Nat.le_of_not_lt before
    rw [List.getElem?_append_right behind] at found ⊢
    rw [List.getElem?_singleton, Option.ite_none_right_eq_some] at found
    obtain ⟨here, same⟩ := found
    obtain rfl := Option.some.inj same
    exact ⟨next.segment, by rw [here]; rfl, grown⟩

theorem step_grows {session next : Session} {event : WriterEvent} (moves : Moves pb disk session event next) :
    Grows session next := by
  cases moves with
  | register channel new open' taken =>
    exact grows_segment rfl (Recording.sections_grow (Recording.step_moves pb taken)).subset
  | known channel old => exact grows_refl session
  | message message taken =>
    exact grows_segment rfl (Recording.sections_grow (Recording.step_moves pb taken)).subset
  | inside noMessage noChannel quiet keeps stays taken =>
    exact grows_segment rfl (Recording.sections_grow (Recording.step_moves pb taken)).subset
  | still keeps ends => exact grows_segment rfl fun _ member => member
  | split full =>
    intro place segment found
    have bound := (List.getElem?_eq_some_iff.mp found).1
    refine ⟨segment, ?_, fun _ member => member⟩
    have more : (splitOutfile pb disk session).segments =
        session.segments ++ [(splitOutfile pb disk session).segment] := rfl
    rw [more, List.getElem?_append_left bound]
    exact found

/-- What a run of the session has done, and whether it has registered every channel before its messages. -/
structure Follows (pb : Protobuf) (disk : String → List UInt8) (start session : Session) (past : List WriterEvent) :
    Prop where
  ran : run (step pb disk) start past = some session
  tracked : ∃ histories current early, Tracks pb session past histories current ∧
    Tallied session histories current early ∧
    ((∀ entry ∈ session.writer.channels, early entry.1.name = 0) ↔ Meets (step pb disk) RegistersFirst start past)

theorem initial_follows (pb : Protobuf) (disk : String → List UInt8) (file : String) (header : Header) :
    Follows pb disk (initial pb disk file header) (initial pb disk file header) [] :=
  ⟨rfl, [], [], fun _ => 0, initial_tracks pb disk file header, ⟨List.nodup_nil, by simp [initial]⟩, by simp [Meets]⟩

theorem registersFirst_free {session : Session} {event : WriterEvent}
    (noChannel : ∀ channel, event ≠ .writeChannel channel) : RegistersFirst session event := by
  cases event with
  | writeChannel channel => exact absurd rfl (noChannel channel)
  | _ => trivial

theorem Follows.step {start session next : Session} {past : List WriterEvent} {event : WriterEvent}
    (follows : Follows pb disk start session past) (taken : step pb disk session event = some next) :
    Follows pb disk start next (past ++ [event]) := by
  obtain ⟨ran, histories, current, early, tracks, tallied, exact'⟩ := follows
  refine ⟨run_snoc ran taken, ?_⟩
  have meets := @meets_snoc _ _ (Session.step pb disk) RegistersFirst start session past ran event
  rw [meets]
  have moves := step_moves taken
  cases moves with
  | @register channel recording new open' stepped =>
    refine ⟨histories, _, _, tracks.register open' stepped, tallied.register tracks recording new, ?_⟩
    have counted := tracks.written.getMessageNumber channel.name
    have others : ∀ entry ∈ session.writer.channels, entry.1.name ≠ channel.name := by
      intro entry member same
      rw [isNewChannel_eq_false.mpr ⟨entry, member, same⟩] at new
      cases new
    simp only [withRecording, RecordWriter.onNewChannel, RegistersFirst, new, forall_const, counted, List.forall_mem_append,
      List.forall_mem_singleton, Function.update_self]
    refine and_congr_left fun _ => Iff.trans ?_ exact'
    refine forall₂_congr fun entry member => ?_
    rw [Function.update_of_ne (others entry member)]
  | known channel old =>
    refine ⟨histories, current, early, tracks.still rfl (keeps_refl _) tracks.closed, tallied, ?_⟩
    rw [exact']
    simp [RegistersFirst, old]
  | message message stepped =>
    refine ⟨histories, _, early, tracks.message stepped, tallied.message tracks message _ _, ?_⟩
    rw [and_iff_left (registersFirst_free (by simp)), ← exact']
    simp only [withRecording, RecordWriter.onNewMessage, List.forall_mem_map]
    refine forall₂_congr fun entry _ => ?_
    split <;> rfl
  | inside noMessage noChannel quiet keeps stays stepped =>
    refine ⟨histories, _, early, tracks.inside noMessage quiet keeps stays stepped, tallied.congr keeps.channels fun name =>
      tally_quiet name current quiet.1 quiet.2, ?_⟩
    rw [and_iff_left (registersFirst_free noChannel), ← exact', withRecording, keeps.channels]
  | still keeps ends =>
    refine ⟨histories, current, early, tracks.still rfl keeps ends, tallied.congr keeps.channels fun _ => rfl, ?_⟩
    rw [and_iff_left (registersFirst_free (by simp)), ← exact', keeps.channels]
  | split full =>
    refine ⟨_, _, early, tracks.split full, tallied.split, ?_⟩
    rw [and_iff_left (registersFirst_free (by simp)), ← exact']
    rfl

theorem getMessageNumber_eq {w : RecordWriter} (distinct : (w.channels.map fun entry => entry.1.name).Nodup)
    {entry : Channel × Nat} (member : entry ∈ w.channels) : w.getMessageNumber entry.1.name = entry.2 := by
  unfold RecordWriter.getMessageNumber
  cases found : w.channels.find? fun other => other.1.name = entry.1.name with
  | none => simpa using List.find?_eq_none.mp found entry member
  | some other =>
    have named : other.1.name = entry.1.name := by simpa using List.find?_some found
    have same := List.inj_on_of_nodup_map distinct (List.mem_of_find?_eq_some found) member named
    rw [same]
    rfl

theorem Tracks.all {session : Session} {past : List WriterEvent} {histories : List (List RecordEvent)}
    {current : List RecordEvent} (tracks : Tracks pb session past histories current)
    (closed : session.stage = .closed) :
    List.Forall₂ (fun segment events => segment.Written pb events ∧ segment.recording.phase = .closed)
      session.segments (histories ++ [current]) :=
  List.rel_append tracks.finished (.cons ⟨tracks.written, tracks.closed closed⟩ .nil)

theorem segment_messages {segments : List Segment} {histories : List (List RecordEvent)}
    (all : List.Forall₂ (fun segment events => Segment.Written pb segment events ∧ segment.recording.phase = .closed)
      segments histories) :
    (segments.flatMap fun segment => segment.recording.writer.fileMessages).Perm
      (histories.flatMap writtenMessages) := by
  induction all with
  | nil => exact .refl _
  | cons head _ ih => exact (head.1.fileMessages head.2).append ih

theorem segment_numbers {segments : List Segment} {histories : List (List RecordEvent)} (name : String)
    (all : List.Forall₂ (fun segment events => Segment.Written pb segment events ∧ segment.recording.phase = .closed)
      segments histories) :
    segments.map (fun segment => segment.messageNumber name) = histories.map (tally name) := by
  induction all with
  | nil => rfl
  | cons head _ ih => rw [List.map_cons, List.map_cons, ih, head.1.messageNumber head.2]

/-- The segments of a closed session hold what was written, with every channel that was known, and their indexes
    agree with the `RecordWriter` exactly when every channel was registered before its messages. -/
theorem segments_agree (pb : Protobuf) (disk : String → List UInt8) (file : String) (header : Header)
    (enabled : header.segmentInterval > 0 ∨ header.segmentRawSize > 0) (events : List WriterEvent) (final : Session)
    (ran : run (step pb disk) (initial pb disk file header) events = some final) (closed : final.stage = .closed)
    (few : final.segments.length < 100000) :
    (final.segments.map Segment.path).Nodup ∧
    (final.segments.flatMap fun segment => segment.recording.writer.fileMessages).Perm (writtenTo events) ∧
    (∀ before after middle, events = before ++ after →
      run (step pb disk) (initial pb disk file header) before = some middle → ∀ entry ∈ middle.writer.channels,
        ∃ segment : Segment, final.segments[middle.finished.length]? = some segment ∧
          ∃ position, (position, Payload.channel entry.1) ∈ segment.recording.writer.sections) ∧
    ((∀ entry ∈ final.writer.channels,
        (final.segments.map fun segment => segment.messageNumber entry.1.name).sum =
          final.writer.getMessageNumber entry.1.name) ↔
      Meets (step pb disk) RegistersFirst (initial pb disk file header) events) := by
  have reach : ∀ {events session}, run (step pb disk) (initial pb disk file header) events = some session →
      Follows pb disk (initial pb disk file header) session events := by
    intro events session ran
    refine run_invariant (fun session past => Follows pb disk (initial pb disk file header) session past) ?_
      (initial_follows pb disk file header) ran
    intro session past event next taken follows
    exact follows.step taken
  have named : Named file final := by
    refine run_invariant (fun session _ => Named file session) ?_ ?_ ran
    · intro session past event next taken named
      exact named.step (step_moves taken)
    · have on : (decide (header.segmentInterval > 0) || decide (header.segmentRawSize > 0)) = true := by
        simpa using enabled
      exact ⟨rfl, fun _ => rfl, fun _ => by simp [segments, initial, on]⟩
  obtain ⟨_, histories, current, early, tracks, tallied, exact'⟩ := reach ran
  have all := tracks.all closed
  refine ⟨?_, ?_, ?_, ?_⟩
  · have short : final.finished.length < 100000 := by
      rw [segments, List.length_append] at few
      omega
    rw [named.paths short]
    exact List.nodup_range.map (path_injective file)
  · rw [← tracks.messages]
    have messages := segment_messages all
    rwa [List.flatMap_append, List.flatMap_singleton] at messages
  · intro before after middle split reached entry member
    obtain ⟨_, _, now, _, tracks', _⟩ := reach reached
    have listed : entry.1 ∈ writtenChannels now := by
      rw [tracks'.channels]
      exact List.mem_map_of_mem member
    obtain ⟨position, present⟩ := tracks'.written.sections entry.1 listed
    have later : run (step pb disk) middle after = some final := by
      rw [split, run_append, reached] at ran
      exact ran
    have grown : Grows middle final := by
      refine run_invariant (fun session _ => Grows middle session) ?_ (grows_refl middle) later
      intro session past event next taken grows
      exact grows.trans (step_grows (step_moves taken))
    obtain ⟨segment, found, inside⟩ := grown middle.finished.length middle.segment (by simp [segments])
    exact ⟨segment, found, position, inside present⟩
  · rw [← exact']
    refine forall₂_congr fun entry member => ?_
    have numbers := tallied.numbers entry member
    rw [getMessageNumber_eq tallied.distinct member, segment_numbers entry.1.name all, List.map_append,
      List.sum_append, List.map_singleton, List.sum_singleton]
    omega

def smallSegments : Header := { segmentRawSize := 3 }

def closeSegment : List WriterEvent :=
  [.proceed, .proceed, .flush, .proceed, .proceed, .exit, .proceed, .proceed, .proceed, .proceed]

def closeSession : List WriterEvent :=
  [.close, .proceed, .proceed, .proceed, .proceed, .exit, .proceed, .proceed, .proceed, .proceed]

def registeredFirst : List WriterEvent :=
  [.writeChannel ⟨"/chatter", "Chatter", []⟩, .writeMessage (Recording.sample 1), .proceed,
    .writeMessage (Recording.sample 2), .proceed] ++ closeSegment ++ closeSession

theorem registeredFirst_agrees : ∃ final,
    run (step Wire.recordProto fun _ => []) (initial Wire.recordProto (fun _ => []) "a" smallSegments) registeredFirst =
      some final ∧ final.segments.map Segment.path = ["a.00000", "a.00001"] ∧
      final.writer.getMessageNumber "/chatter" = 2 ∧
      ∀ entry ∈ final.writer.channels,
        (final.segments.map fun segment => segment.messageNumber entry.1.name).sum =
          final.writer.getMessageNumber entry.1.name := by
  have agree := segments_agree Wire.recordProto (fun _ => []) "a" smallSegments (by decide) registeredFirst _ rfl rfl
    (by decide)
  exact ⟨_, rfl, by decide, by decide, agree.2.2.2.mpr (by decide)⟩

/-- The first message comes before its channel is registered. -/
def registeredLate : List WriterEvent :=
  [.writeMessage (Recording.sample 1), .proceed, .writeChannel ⟨"/chatter", "Chatter", []⟩,
    .writeMessage (Recording.sample 2), .proceed] ++ closeSegment ++ closeSession

/-- The file counts both messages, the `RecordWriter` only the second. -/
theorem registeredLate_disagrees : ∃ final,
    run (step Wire.recordProto fun _ => []) (initial Wire.recordProto (fun _ => []) "a" smallSegments) registeredLate =
      some final ∧ final.stage = .closed ∧ final.segments.length = 2 ∧
      final.writer.getMessageNumber "/chatter" = 1 ∧
      (final.segments.map fun segment => segment.messageNumber "/chatter").sum = 2 :=
  ⟨_, rfl, rfl, by decide, by decide, by decide⟩

end Session

end CyberRT.Record

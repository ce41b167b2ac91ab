import CyberRT.Record.Segments

namespace CyberRT.Record

open Execution

namespace Session

variable {pb : Protobuf} {disk : String → List UInt8} {session next : Session} {past : List WriterEvent}
  {histories : List (List RecordEvent)} {current : List RecordEvent}

/-- The channel of a message that is written has been registered. -/
def KnownChannel (session : Session) : WriterEvent → Prop
  | .writeMessage message => session.writer.isNewChannel message.channelName = false
  | _ => True

instance decidableKnownChannel (session : Session) (event : WriterEvent) : Decidable (KnownChannel session event) :=
  match event with
  | .writeMessage _ => inferInstanceAs (Decidable (_ = _))
  | .writeChannel _ | .close | .proceed | .flush | .exit => inferInstanceAs (Decidable True)

/-- A segment has the channels of its messages. -/
def Covered (events : List RecordEvent) : Prop :=
  ∀ message ∈ writtenMessages events, ∃ channel ∈ writtenChannels events, channel.name = message.channelName

theorem Covered.snoc {events : List RecordEvent} (covered : Covered events) {call : RecordEvent}
    (listed : ∀ message, call.message? = some message →
      ∃ channel ∈ writtenChannels events, channel.name = message.channelName) : Covered (events ++ [call]) := by
  intro message member
  have grown : ∀ channel ∈ writtenChannels events, channel ∈ writtenChannels (events ++ [call]) := by
    intro channel there
    rw [Recording.writtenChannels_snoc]
    exact List.mem_append_left _ there
  have here : ∃ channel ∈ writtenChannels events, channel.name = message.channelName := by
    rw [Recording.writtenMessages_snoc] at member
    rcases List.mem_append.mp member with old | new
    · exact covered message old
    · exact listed message (Option.mem_toList.mp new)
  obtain ⟨channel, there, named⟩ := here
  exact ⟨channel, grown channel there, named⟩

/-- Every segment has the channels of its messages, and no channel has been registered behind a message of it. -/
structure Carries (pb : Protobuf) (session : Session) (past : List WriterEvent) (histories : List (List RecordEvent))
    (current : List RecordEvent) : Prop where
  tracks : Tracks pb session past histories current
  tallied : Tallied session histories current fun _ => 0
  before : ∀ events ∈ histories, Covered events
  covered : Covered current

theorem Carries.listed (carries : Carries pb session past histories current) {name : String}
    (known : session.writer.isNewChannel name = false) : ∃ channel ∈ writtenChannels current, channel.name = name := by
  obtain ⟨entry, member, named⟩ := isNewChannel_eq_false.mp known
  rw [carries.tracks.channels]
  exact ⟨entry.1, List.mem_map_of_mem member, named⟩

/-- A channel that is new has no message in the segment. -/
theorem Carries.silent (carries : Carries pb session past histories current) {name : String}
    (new : session.writer.isNewChannel name = true) :
    ((writtenMessages current).countP fun message => message.channelName = name) = 0 := by
  rw [List.countP_eq_zero]
  intro message member same
  obtain ⟨channel, there, named⟩ := carries.covered message member
  rw [carries.tracks.channels] at there
  obtain ⟨entry, present, rfl⟩ := List.mem_map.mp there
  have known := isNewChannel_eq_false.mpr ⟨entry, present, named.trans (of_decide_eq_true same)⟩
  rw [new] at known
  cases known

theorem Carries.step (carries : Carries pb session past histories current) {event : WriterEvent}
    (known : KnownChannel session event) (taken : step pb disk session event = some next) :
    ∃ histories current, Carries pb next (past ++ [event]) histories current := by
  have quiet : ∀ {call : RecordEvent}, call.message? = none → Covered (current ++ [call]) := by
    intro call none
    apply carries.covered.snoc
    rw [none]
    exact nofun
  have moves := step_moves taken
  cases moves with
  | @register channel recording new open' stepped =>
    have tallied := carries.tallied.register carries.tracks recording new
    rw [carries.silent new, Function.update_eq_self] at tallied
    exact ⟨_, _, carries.tracks.register open' stepped, tallied, carries.before, quiet rfl⟩
  | known channel old =>
    exact ⟨_, _, carries.tracks.still rfl (keeps_refl _) carries.tracks.closed, carries.tallied, carries.before,
      carries.covered⟩
  | message message stepped =>
    refine ⟨_, _, carries.tracks.message stepped, carries.tallied.message carries.tracks message _ _, carries.before, ?_⟩
    apply carries.covered.snoc
    intro written same
    obtain rfl := Option.some.inj same
    exact carries.listed known
  | inside noMessage noChannel silent keeps stays stepped =>
    exact ⟨_, _, carries.tracks.inside noMessage silent keeps stays stepped, carries.tallied.congr keeps.channels
      fun name => tally_quiet name current silent.1 silent.2, carries.before, quiet silent.1⟩
  | still keeps ends =>
    exact ⟨_, _, carries.tracks.still rfl keeps ends, carries.tallied.congr keeps.channels fun _ => rfl, carries.before,
      carries.covered⟩
  | split full =>
    refine ⟨_, _, carries.tracks.split full, carries.tallied.split, ?_, ?_⟩
    · intro events member
      rcases List.mem_append.mp member with old | new
      · exact carries.before events old
      · exact List.mem_singleton.mp new ▸ carries.covered
    · rw [Covered, writtenMessages_replay]
      exact nofun

theorem segment_channels {segments : List Segment} {histories : List (List RecordEvent)}
    (all : List.Forall₂ (fun segment events => Segment.Written pb segment events ∧ segment.recording.phase = .closed)
      segments histories) (covered : ∀ events ∈ histories, Covered events) :
    ∀ segment ∈ segments, ∀ message ∈ segment.recording.writer.fileMessages, ∃ position channel,
      (position, Payload.channel channel) ∈ segment.recording.writer.sections ∧ channel.name = message.channelName := by
  induction all with
  | nil =>
    intro segment member
    cases member
  | @cons segment events _ _ head _ ih =>
    intro other member message inside
    rcases List.mem_cons.mp member with rfl | later
    · have written := (head.1.fileMessages head.2).mem_iff.mp inside
      obtain ⟨channel, there, named⟩ := covered events List.mem_cons_self message written
      obtain ⟨position, present⟩ := head.1.sections channel there
      exact ⟨position, channel, present, named⟩
    · exact ih (fun events listed => covered events (List.mem_cons_of_mem _ listed)) other later message inside

theorem tally_covered {events : List RecordEvent} (covered : Covered events) (name : String) :
    tally name events = (writtenMessages events).countP fun message => message.channelName = name := by
  unfold tally
  split
  · rfl
  · rename_i unlisted
    apply Eq.symm
    rw [List.countP_eq_zero]
    intro message member same
    obtain ⟨channel, there, named⟩ := covered message member
    apply unlisted
    exact List.any_eq_true.mpr ⟨channel, there, decide_eq_true (named.trans (of_decide_eq_true same))⟩

theorem sum_tally {histories : List (List RecordEvent)} (covered : ∀ events ∈ histories, Covered events) (name : String) :
    (histories.map (tally name)).sum =
      (histories.flatMap writtenMessages).countP fun message => message.channelName = name := by
  rw [List.countP_flatMap, List.map_congr_left fun events member => tally_covered (covered events member) name]
  rfl

/-- When every message comes behind its channel, the segments of a closed session hold the messages, each with a section
    of its channel, and the `RecordWriter` and the indexes count the messages. -/
theorem Carries.closed (carries : Carries pb session past histories current) (closed : session.stage = .closed) :
    (session.segments.flatMap fun segment => segment.recording.writer.fileMessages).Perm (writtenTo past) ∧
    (∀ segment ∈ session.segments, ∀ message ∈ segment.recording.writer.fileMessages, ∃ position channel,
      (position, Payload.channel channel) ∈ segment.recording.writer.sections ∧ channel.name = message.channelName) ∧
    ∀ entry ∈ session.writer.channels,
      session.writer.getMessageNumber entry.1.name =
        (writtenTo past).countP (fun message => message.channelName = entry.1.name) ∧
      (session.segments.map fun segment => segment.messageNumber entry.1.name).sum =
        (writtenTo past).countP fun message => message.channelName = entry.1.name := by
  have all := carries.tracks.all closed
  have covered : ∀ events ∈ histories ++ [current], Covered events := by
    intro events member
    rcases List.mem_append.mp member with old | last
    · exact carries.before events old
    · exact List.mem_singleton.mp last ▸ carries.covered
  refine ⟨?_, segment_channels all covered, ?_⟩
  · have messages := segment_messages all
    rw [List.flatMap_append, List.flatMap_singleton] at messages
    rwa [← carries.tracks.messages]
  · intro entry member
    have numbers := carries.tallied.numbers entry member
    have sum := sum_tally covered entry.1.name
    rw [List.flatMap_append, List.flatMap_singleton, carries.tracks.messages] at sum
    rw [getMessageNumber_eq carries.tallied.distinct member, segment_numbers entry.1.name all, sum]
    rw [List.map_append, List.sum_append, List.map_singleton, List.sum_singleton] at sum
    exact ⟨by omega, rfl⟩

end Session

end CyberRT.Record

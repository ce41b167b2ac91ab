import CyberRT.Record.Recorder
import CyberRT.Record.Registered
import CyberRT.Record.Wire

namespace CyberRT.Record

open Execution

/-- `FindNewChannel` gives a channel to the writer under the first description of its name. -/
def addChannel (channels : List Channel) (channel : Channel) : List Channel :=
  if channels.any fun known => known.name = channel.name then channels else channels ++ [channel]

def firstNamed (channels : List Channel) : List Channel := channels.foldl addChannel []

theorem firstNamed_snoc (channels : List Channel) (channel : Channel) :
    firstNamed (channels ++ [channel]) = addChannel (firstNamed channels) channel := by
  rw [firstNamed, List.foldl_append]
  rfl

theorem addChannel_subset (channels : List Channel) (channel : Channel) : channels ⊆ addChannel channels channel := by
  intro known member
  unfold addChannel
  split
  · exact member
  · exact List.mem_append_left _ member

theorem addChannel_named (channels : List Channel) (channel : Channel) :
    ∃ known ∈ addChannel channels channel, known.name = channel.name := by
  unfold addChannel
  split
  · rename_i any
    obtain ⟨known, member, same⟩ := List.any_eq_true.mp any
    exact ⟨known, member, of_decide_eq_true same⟩
  · exact ⟨channel, by simp, rfl⟩

namespace Session

variable {pb : Protobuf} {disk : String → List UInt8} {session next : Session}

theorem step_channels {event : WriterEvent} (noChannel : ∀ channel, event ≠ .writeChannel channel)
    (taken : step pb disk session event = some next) :
    next.writer.channels.map Prod.fst = session.writer.channels.map Prod.fst := by
  have moves := step_moves taken
  cases moves with
  | register channel new open' stepped => exact absurd rfl (noChannel channel)
  | known channel old => exact absurd rfl (noChannel channel)
  | message message stepped => exact onNewMessage_fst session.writer message.channelName
  | inside noMessage noChannel quiet keeps stays stepped => rw [withRecording, keeps.channels]
  | still keeps ends => rw [keeps.channels]
  | split full => rfl

theorem any_named (session : Session) (name : String) :
    ((session.writer.channels.map Prod.fst).any fun known => known.name = name) = !session.writer.isNewChannel name := by
  rw [RecordWriter.isNewChannel, Bool.not_not, List.any_map]
  rfl

theorem writeChannel_channels {channel : Channel} (taken : step pb disk session (.writeChannel channel) = some next) :
    next.writer.channels.map Prod.fst = addChannel (session.writer.channels.map Prod.fst) channel := by
  rw [addChannel, any_named]
  have moves := step_moves taken
  cases moves with
  | register channel new open' stepped =>
    rw [new]
    simp [withRecording, RecordWriter.onNewChannel]
  | known channel old =>
    rw [old]
    rfl
  | inside noMessage noChannel quiet keeps stays stepped => exact absurd rfl (noChannel channel)

theorem known_of_mem {name : String} {channel : Channel} (member : channel ∈ session.writer.channels.map Prod.fst)
    (named : channel.name = name) : session.writer.isNewChannel name = false := by
  obtain ⟨entry, present, rfl⟩ := List.mem_map.mp member
  exact isNewChannel_eq_false.mpr ⟨entry, present, named⟩

theorem mem_of_known {name : String} (known : session.writer.isNewChannel name = false) :
    ∃ channel ∈ session.writer.channels.map Prod.fst, channel.name = name := by
  obtain ⟨entry, present, named⟩ := isNewChannel_eq_false.mp known
  exact ⟨entry.1, List.mem_map_of_mem present, named⟩

theorem closed_stays {event : WriterEvent} (closed : session.stage = .closed)
    (taken : step pb disk session event = some next) : next.stage = .closed := by
  cases event with
  | writeChannel channel => simp [step, closed] at taken
  | writeMessage message => simp [step, closed] at taken
  | close => simp [step, closed] at taken
  | proceed => simp [step, proceed, closed] at taken
  | flush =>
    obtain ⟨recording, _, rfl⟩ := inner_some taken
    exact closed
  | exit =>
    obtain ⟨recording, _, rfl⟩ := inner_some taken
    exact closed

end Session

/-- The writers that `GetWriters` has found and that have been announced since. -/
def RecorderEvent.announced : RecorderEvent → List WriterRole
  | .getWriters roleAttrVec => roleAttrVec
  | .topologyCallback true roleAttr _ => [roleAttr]
  | _ => []

/-- The writers of the loop in `InitReadersImpl` that have not been looked at. -/
def RecorderPoint.pending : RecorderPoint → List WriterRole
  | .finding roleAttrVec => roleAttrVec
  | _ => []

def RecorderPoint.connects : RecorderPoint → Bool
  | .created | .listing | .finding _ => false
  | _ => true

theorem RecorderPoint.connects_pending {point : RecorderPoint} (connects : point.connects = true) :
    point.pending = [] := by
  cases point <;> first | rfl | cases connects

namespace Recorder

variable {pb : Protobuf} {disk : String → List UInt8} {recorder next : Recorder} {announced : List WriterRole}

/-- The calls of the writer are a run of it that registers channels before their messages. All the writers that were
    announced have been looked at, but those that are pending. -/
structure Opened (pb : Protobuf) (disk : String → List UInt8) (recorder : Recorder) (announced pending : List WriterRole)
    (session : Session) : Prop where
  reached : ∃ calls, run (Session.step pb disk) (.initial pb disk recorder.output recorder.header) calls = some session ∧
    Meets (Session.step pb disk) Session.KnownChannel (.initial pb disk recorder.output recorder.header) calls ∧
    writtenTo calls = recorder.written
  readers : ∀ name ∈ recorder.channelReaderMap, session.writer.isNewChannel name = false
  found : ∃ found, announced = found ++ pending ∧
    session.writer.channels.map Prod.fst = firstNamed (found.filterMap recorder.wanted)
  late : recorder.late = [] ∨ session.stage = .closed

/-- The messages of a channel that have been let through are those that were written, and one that is under way. -/
def Flows (recorder : Recorder) : Prop :=
  ∀ channel, (recorder.accepted.filter fun entry => entry.1 = channel).map Prod.snd =
    ((recorder.written ++ recorder.late).filter fun message => message.channelName = channel).map SingleMessage.content ++
      (recorder.callbacks channel).message?.toList

structure Sound (pb : Protobuf) (disk : String → List UInt8) (recorder : Recorder) (announced : List WriterRole) :
    Prop where
  created : recorder.point = .created → recorder.session = none
  unopened : recorder.session = none → recorder.point = .created ∨ recorder.point = .ended
  fresh : recorder.session = none → announced = [] ∧ recorder.channelReaderMap = [] ∧ recorder.written = [] ∧
    recorder.late = []
  listens : recorder.listening = true → recorder.session ≠ none ∧ recorder.point.connects = true
  opened : ∀ session, recorder.session = some session → Opened pb disk recorder announced recorder.point.pending session
  callbacks : ∀ channel, recorder.callbacks channel ≠ .idle → channel ∈ recorder.channelReaderMap
  flows : recorder.Flows

theorem write_some {event : WriterEvent} (taken : recorder.write pb disk event = some next) : ∃ session after,
    recorder.session = some session ∧ session.step pb disk event = some after ∧
      next = { recorder with session := some after } := by
  obtain ⟨session, here, stepped⟩ := Option.bind_eq_some_iff.mp taken
  obtain ⟨after, stepped, same⟩ := Option.map_eq_some_iff.mp stepped
  exact ⟨session, after, here, stepped, same.symm⟩

/-- The main thread goes on from one point to the next. -/
theorem Sound.main (sound : Sound pb disk recorder announced) (isStarted isStopping listening : Bool)
    (messageTime : UInt64) {point : RecorderPoint} {more : List WriterRole} (started : point ≠ .created)
    (pending : recorder.point.pending ++ more = point.pending)
    (session : recorder.session = none → point = .ended ∧ more = [])
    (listens : listening = true → recorder.session ≠ none ∧ point.connects = true) :
    Sound pb disk { recorder with
      isStarted := isStarted, isStopping := isStopping, listening := listening, messageTime := messageTime
      point := point } (announced ++ more) where
  created here := absurd here started
  unopened none := .inr (session none).1
  fresh none := by
    obtain ⟨empty, rest⟩ := sound.fresh none
    rw [empty, (session none).2]
    exact ⟨rfl, rest⟩
  listens := listens
  opened after here := by
    obtain ⟨reached, readers, ⟨found, all, channels⟩, late⟩ := sound.opened after here
    refine ⟨reached, readers, ⟨found, ?_, channels⟩, late⟩
    show announced ++ more = found ++ point.pending
    rw [all, List.append_assoc, pending]
  callbacks := sound.callbacks
  flows := sound.flows

/-- A thread behind the writer goes on, or `Close` is called. -/
theorem Sound.write (sound : Sound pb disk recorder announced) {event : WriterEvent} (noMessage : event.message? = none)
    (noChannel : ∀ channel, event ≠ .writeChannel channel) (taken : recorder.write pb disk event = some next) :
    Sound pb disk next announced := by
  obtain ⟨session, after, here, stepped, rfl⟩ := write_some taken
  obtain ⟨⟨calls, ran, known, written⟩, readers, ⟨found, all, channels⟩, late⟩ := sound.opened session here
  have same := Session.step_channels noChannel stepped
  have free : Session.KnownChannel session event := by
    cases event with
    | writeMessage message => cases noMessage
    | _ => trivial
  have started : recorder.point ≠ .created := by
    intro created
    rw [sound.created created] at here
    cases here
  refine ⟨fun created => absurd created started, nofun, nofun, fun listening => ⟨nofun, (sound.listens listening).2⟩, ?_,
    sound.callbacks, sound.flows⟩
  rintro _ ⟨⟩
  refine ⟨⟨calls ++ [event], run_snoc ran stepped, (meets_snoc ran event).mpr ⟨known, free⟩, ?_⟩, ?_,
    ⟨found, all, same.trans channels⟩, ?_⟩
  · rw [writtenTo_snoc, noMessage, written]
    exact List.append_nil _
  · intro name member
    rw [Session.isNewChannel_congr same]
    exact readers name member
  · exact late.imp_right fun closed => Session.closed_stays closed stepped

/-- `WriteChannel` of the next one of the writers that have been announced. -/
theorem Opened.writeChannel {rest : List WriterRole} {role : WriterRole} {channel : Channel} {session after : Session}
    (opened : Opened pb disk recorder announced (role :: rest) session) (wanted : recorder.wanted role = some channel)
    (stepped : session.step pb disk (.writeChannel channel) = some after) :
    Opened pb disk recorder announced rest after := by
  obtain ⟨⟨calls, ran, known, written⟩, readers, ⟨found, all, channels⟩, late⟩ := opened
  have added := Session.writeChannel_channels stepped
  have met : Session.KnownChannel session (.writeChannel channel) := trivial
  have meets := (meets_snoc ran (.writeChannel channel)).mpr ⟨known, met⟩
  refine ⟨⟨calls ++ [.writeChannel channel], run_snoc ran stepped, meets, ?_⟩, ?_, ⟨found ++ [role], ?_, ?_⟩, ?_⟩
  · rw [writtenTo_snoc, written]
    exact List.append_nil _
  · intro name member
    obtain ⟨old, there, named⟩ := Session.mem_of_known (readers name member)
    have kept := addChannel_subset _ channel there
    rw [← added] at kept
    exact Session.known_of_mem kept named
  · simp [all]
  · rw [added, channels, List.filterMap_append, List.filterMap_cons_some wanted, List.filterMap_nil, firstNamed_snoc]
  · exact late.imp_right fun closed => Session.closed_stays closed stepped

/-- The next one of the writers that have been announced does not add a channel. -/
theorem Opened.skip {rest : List WriterRole} {role : WriterRole} {session : Session}
    (opened : Opened pb disk recorder announced (role :: rest) session)
    (old : ∀ channel, recorder.wanted role = some channel → channel.name ∈ recorder.channelReaderMap) :
    Opened pb disk recorder announced rest session := by
  obtain ⟨reached, readers, ⟨found, all, channels⟩, late⟩ := opened
  refine ⟨reached, readers, ⟨found ++ [role], by simp [all], ?_⟩, late⟩
  cases wanted : recorder.wanted role with
  | none => simpa [wanted] using channels
  | some channel =>
    obtain ⟨known, member, named⟩ := Session.mem_of_known (readers channel.name (old channel wanted))
    rw [List.filterMap_append, List.filterMap_cons_some wanted, List.filterMap_nil, firstNamed_snoc, addChannel, if_pos]
    · exact channels
    · rw [← channels]
      exact List.any_eq_true.mpr ⟨known, member, decide_eq_true named⟩

/-- `FindNewChannel` with the next one of the writers that have been announced. -/
theorem Sound.findNewChannel {role : WriterRole} {readerCreated : Bool} (unopened : recorder.session ≠ none)
    (started : recorder.point ≠ .created) (listens : recorder.listening = true → recorder.point.connects = true)
    (opened : ∀ session, recorder.session = some session →
      Opened pb disk recorder announced (role :: recorder.point.pending) session)
    (callbacks : ∀ channel, recorder.callbacks channel ≠ .idle → channel ∈ recorder.channelReaderMap)
    (flows : recorder.Flows) (taken : recorder.findNewChannel pb disk role readerCreated = some next) :
    Sound pb disk next announced := by
  have skip : (∀ channel, recorder.wanted role = some channel → channel.name ∈ recorder.channelReaderMap) →
      Sound pb disk recorder announced := by
    intro old
    exact ⟨fun created => absurd created started, fun none => absurd none unopened, fun none => absurd none unopened,
      fun listening => ⟨unopened, listens listening⟩, fun session here => (opened session here).skip old, callbacks, flows⟩
  unfold Recorder.findNewChannel at taken
  split at taken
  · rename_i unwanted
    obtain rfl := Option.some.inj taken
    apply skip
    intro channel wanted
    rw [unwanted] at wanted
    cases wanted
  · rename_i channel wanted
    split at taken
    · rename_i there
      obtain rfl := Option.some.inj taken
      apply skip
      intro other same
      obtain rfl := Option.some.inj (wanted.symm.trans same)
      exact there
    · obtain ⟨middle, wrote, same⟩ := Option.map_eq_some_iff.mp taken
      obtain ⟨session, after, here, stepped, rfl⟩ := write_some wrote
      obtain ⟨reached, readers, found, late⟩ := (opened session here).writeChannel wanted stepped
      subst same
      split
      · refine ⟨fun created => absurd created started, nofun, nofun, fun listening => ⟨nofun, listens listening⟩, ?_, ?_,
          flows⟩
        · rintro _ ⟨⟩
          refine ⟨reached, ?_, found, late⟩
          intro name member
          rcases List.mem_append.mp member with old | new
          · exact readers name old
          · obtain ⟨known, there, named⟩ := addChannel_named (session.writer.channels.map Prod.fst) channel
            rw [← Session.writeChannel_channels stepped] at there
            exact List.mem_singleton.mp new ▸ Session.known_of_mem there named
        · intro name busy
          exact List.mem_append_left _ (callbacks name busy)
      · refine ⟨fun created => absurd created started, nofun, nofun, fun listening => ⟨nofun, listens listening⟩, ?_,
          callbacks, flows⟩
        rintro _ ⟨⟩
        exact ⟨reached, readers, found, late⟩

/-- A callback goes on without another message. -/
theorem Flows.setCallback (flows : recorder.Flows) {channel : String} {point : CallbackPoint}
    (same : point.message? = (recorder.callbacks channel).message?) : (recorder.setCallback channel point).Flows := by
  intro other
  have at_other := flows other
  by_cases here : other = channel
  · subst here
    show _ = _ ++ (Function.update recorder.callbacks other point other).message?.toList
    rw [Function.update_self, same]
    exact at_other
  · show _ = _ ++ (Function.update recorder.callbacks channel point other).message?.toList
    rw [Function.update_of_ne here]
    exact at_other

theorem Flows.accept (flows : recorder.Flows) {channel : String} {message : List UInt8}
    (idle : recorder.callbacks channel = .idle) :
    { recorder.setCallback channel (.accepted message) with
      accepted := recorder.accepted ++ [(channel, message)] }.Flows := by
  intro other
  have at_other := flows other
  show ((recorder.accepted ++ [(channel, message)]).filter fun entry => entry.1 = other).map Prod.snd =
    ((recorder.written ++ recorder.late).filter fun message => message.channelName = other).map SingleMessage.content ++
      (Function.update recorder.callbacks channel (.accepted message) other).message?.toList
  rw [List.filter_append, List.map_append]
  by_cases here : other = channel
  · subst here
    rw [Function.update_self, at_other, idle]
    simp [CallbackPoint.message?]
  · have apart : ¬channel = other := fun same => here same.symm
    rw [Function.update_of_ne here, at_other]
    simp [apart]

/-- The message of a callback is given to the writer. -/
theorem Flows.give (flows : recorder.Flows) {channel : String} {content : List UInt8} {written late : List SingleMessage}
    {time : UInt64} (timed : recorder.callbacks channel = .timed content)
    (given : written ++ late = recorder.written ++ recorder.late ++ [⟨channel, time, content⟩]) :
    { recorder.setCallback channel .idle with written := written, late := late }.Flows := by
  intro other
  have at_other := flows other
  show (recorder.accepted.filter fun entry => entry.1 = other).map Prod.snd =
    ((written ++ late).filter fun message => message.channelName = other).map SingleMessage.content ++
      (Function.update recorder.callbacks channel .idle other).message?.toList
  rw [given, List.filter_append, List.map_append, at_other]
  by_cases here : other = channel
  · subst here
    rw [Function.update_self, timed]
    simp [CallbackPoint.message?]
  · have apart : ¬channel = other := fun same => here same.symm
    rw [Function.update_of_ne here]
    simp [apart]

theorem Sound.setCallback (sound : Sound pb disk recorder announced) {channel : String} {point : CallbackPoint}
    (there : channel ∈ recorder.channelReaderMap) {accepted : List (String × List UInt8)} (messageTime : UInt64)
    (flows : { recorder.setCallback channel point with accepted := accepted }.Flows) :
    Sound pb disk { recorder.setCallback channel point with accepted := accepted, messageTime := messageTime }
      announced where
  created := sound.created
  unopened := sound.unopened
  fresh := sound.fresh
  listens := sound.listens
  opened session here := by
    obtain ⟨reached, readers, found, late⟩ := sound.opened session here
    exact ⟨reached, readers, found, late⟩
  callbacks other busy := by
    by_cases here : other = channel
    · exact here ▸ there
    · apply sound.callbacks other
      change Function.update recorder.callbacks channel point other ≠ .idle at busy
      rwa [Function.update_of_ne here] at busy
  flows := flows

theorem Sound.writeMessage (sound : Sound pb disk recorder announced) {channel : String} {content : List UInt8}
    (timed : recorder.callbacks channel = .timed content)
    (taken : recorder.writeMessage pb disk channel content = some next) : Sound pb disk next announced := by
  have there : channel ∈ recorder.channelReaderMap := by
    apply sound.callbacks channel
    rw [timed]
    nofun
  have callbacks : ∀ other, Function.update recorder.callbacks channel .idle other ≠ .idle →
      other ∈ recorder.channelReaderMap := by
    intro other busy
    by_cases here : other = channel
    · exact here ▸ there
    · rw [Function.update_of_ne here] at busy
      exact sound.callbacks other busy
  unfold Recorder.writeMessage at taken
  obtain ⟨session, here, taken⟩ := Option.bind_eq_some_iff.mp taken
  obtain ⟨⟨calls, ran, known, written⟩, readers, ⟨found, all, channels⟩, late⟩ := sound.opened session here
  have unopened : recorder.session ≠ none := by simp [here]
  have started : recorder.point ≠ .created := fun created => unopened (sound.created created)
  split at taken
  · rename_i closed
    obtain rfl := Option.some.inj taken
    refine ⟨fun created => absurd created started, fun none => absurd none unopened, fun none => absurd none unopened,
      sound.listens, ?_, callbacks, ?_⟩
    · intro other same
      obtain rfl := Option.some.inj (here.symm.trans same)
      exact ⟨⟨calls, ran, known, written⟩, readers, ⟨found, all, channels⟩, .inr closed⟩
    · exact sound.flows.give timed (List.append_assoc ..).symm
  · rename_i still
    have none_late : recorder.late = [] := late.resolve_right still
    obtain ⟨session', after, here', stepped, rfl⟩ := write_some taken
    obtain rfl := Option.some.inj (here.symm.trans here')
    have same := Session.step_channels (by simp) stepped
    refine ⟨fun created => absurd created started, nofun, nofun,
      fun listening => ⟨nofun, (sound.listens listening).2⟩, ?_, callbacks, ?_⟩
    · rintro _ ⟨⟩
      have met : Session.KnownChannel session (.writeMessage ⟨channel, recorder.messageTime, content⟩) :=
        readers channel there
      refine ⟨⟨calls ++ [_], run_snoc ran stepped, (meets_snoc ran _).mpr ⟨known, met⟩, ?_⟩, ?_,
        ⟨found, all, same.trans channels⟩, .inl none_late⟩
      · rw [writtenTo_snoc, written]
        rfl
      · intro name member
        rw [Session.isNewChannel_congr same]
        exact readers name member
    · let message : SingleMessage := ⟨channel, recorder.messageTime, content⟩
      have given : recorder.written ++ [message] ++ recorder.late = recorder.written ++ recorder.late ++ [message] := by
        simp [none_late]
      exact sound.flows.give timed given

/-- Between the first point and the last one a writer has been opened. -/
theorem Sound.unended (sound : Sound pb disk recorder announced) (created : recorder.point ≠ .created)
    (ended : recorder.point ≠ .ended) : recorder.session ≠ none := by
  intro none
  rcases sound.unopened none with same | same
  · exact created same
  · exact ended same

theorem Sound.start (sound : Sound pb disk recorder announced) {opened nodeCreated : Bool}
    (taken : recorder.step pb disk (.start opened nodeCreated) = some next) : Sound pb disk next announced := by
  simp only [Recorder.step, Option.ite_none_right_eq_some] at taken
  obtain ⟨created, taken⟩ := taken
  have none := sound.created created
  have quiet : ¬recorder.listening = true := by
    intro listening
    exact (sound.listens listening).1 none
  obtain ⟨rfl, empty, unwritten, early⟩ := sound.fresh none
  have ended : Sound pb disk { recorder with point := .ended } [] :=
    sound.main recorder.isStarted recorder.isStopping recorder.listening recorder.messageTime (by simp)
      (by rw [created]; rfl) (fun _ => ⟨rfl, rfl⟩) fun listening => absurd listening quiet
  split at taken
  · exact Option.some.inj taken ▸ ended
  · split at taken
    · exact Option.some.inj taken ▸ ended
    · obtain rfl := Option.some.inj taken
      have point : (if nodeCreated = true then RecorderPoint.listing else .ended) ≠ .created ∧
          (if nodeCreated = true then RecorderPoint.listing else .ended).pending = [] := by
        cases nodeCreated <;> exact ⟨by decide, rfl⟩
      refine ⟨fun created => absurd created point.1, nofun, nofun, fun listening => absurd listening quiet, ?_,
        sound.callbacks, sound.flows⟩
      rintro _ ⟨⟩
      refine ⟨⟨[], rfl, trivial, unwritten.symm⟩, ?_, ⟨[], ?_, rfl⟩, .inl early⟩
      · simp [empty]
      · exact point.2.symm

theorem Sound.step (sound : Sound pb disk recorder announced) {event : RecorderEvent}
    (taken : recorder.step pb disk event = some next) : Sound pb disk next (announced ++ event.announced) := by
  have same : event.announced = [] → Sound pb disk next announced → Sound pb disk next (announced ++ event.announced) := by
    intro silent kept
    rwa [silent, List.append_nil]
  cases event with
  | start opened nodeCreated => exact same rfl (sound.start taken)
  | getWriters roleAttrVec =>
    simp only [Recorder.step, Option.ite_none_right_eq_some] at taken
    obtain ⟨listing, taken⟩ := taken
    obtain rfl := Option.some.inj taken
    have unopened := sound.unended (by simp [listing]) (by simp [listing])
    refine sound.main recorder.isStarted recorder.isStopping recorder.listening recorder.messageTime (by simp)
      (by rw [listing]; rfl) (fun none => absurd none unopened) fun listening => ?_
    have connects := (sound.listens listening).2
    rw [listing] at connects
    cases connects
  | findNewChannel readerCreated =>
    simp only [Recorder.step] at taken
    split at taken
    · rename_i role rest finding
      have opened : ∀ session, recorder.session = some session →
          Opened pb disk { recorder with point := .finding rest } announced (role :: rest) session := by
        intro session here
        obtain ⟨reached, readers, found, late⟩ := sound.opened session here
        rw [finding] at found
        exact ⟨reached, readers, found, late⟩
      have unopened := sound.unended (by simp [finding]) (by simp [finding])
      have quiet : ¬recorder.listening = true := by
        intro listening
        have connects := (sound.listens listening).2
        rw [finding] at connects
        cases connects
      have kept := @Sound.findNewChannel pb disk { recorder with point := .finding rest } next announced role readerCreated
      exact same rfl (kept unopened (by simp) (fun listening => absurd listening quiet) opened sound.callbacks sound.flows
        taken)
    · cases taken
  | addChangeListener isConnected =>
    simp only [Recorder.step, Option.ite_none_right_eq_some] at taken
    obtain ⟨finding, taken⟩ := taken
    obtain rfl := Option.some.inj taken
    have unopened := sound.unended (by simp [finding]) (by simp [finding])
    cases isConnected with
    | true =>
      exact sound.main recorder.isStarted recorder.isStopping true recorder.messageTime (by simp)
        (by rw [finding]; rfl) (fun none => absurd none unopened) fun _ => ⟨unopened, rfl⟩
    | false =>
      exact sound.main recorder.isStarted recorder.isStopping false recorder.messageTime (by simp)
        (by rw [finding]; rfl) (fun none => absurd none unopened) nofun
  | setStarted =>
    simp only [Recorder.step, Option.ite_none_right_eq_some] at taken
    obtain ⟨connected, taken⟩ := taken
    obtain rfl := Option.some.inj taken
    exact sound.main true recorder.isStopping recorder.listening 0 (by simp) (by rw [connected]; rfl)
      (fun none => absurd none (sound.unended (by simp [connected]) (by simp [connected]))) fun listening => ⟨(sound.listens listening).1, rfl⟩
  | topologyCallback isWriter roleAttr readerCreated =>
    simp only [Recorder.step, Option.ite_none_right_eq_some] at taken
    obtain ⟨listening, taken⟩ := taken
    obtain ⟨unopened, connects⟩ := sound.listens listening
    cases isWriter with
    | false => exact same rfl (Option.some.inj taken ▸ sound)
    | true =>
      have started : recorder.point ≠ .created := fun created => unopened (sound.created created)
      refine Sound.findNewChannel unopened started (fun _ => connects) ?_ sound.callbacks sound.flows taken
      intro session here
      obtain ⟨reached, readers, ⟨found, all, channels⟩, late⟩ := sound.opened session here
      refine ⟨reached, readers, ⟨found, ?_, channels⟩, late⟩
      rw [all, RecorderPoint.connects_pending connects, List.append_nil]
      rfl
  | readerCallback channel message =>
    simp only [Recorder.step, Option.ite_none_right_eq_some] at taken
    obtain ⟨⟨there, idle⟩, taken⟩ := taken
    split at taken
    · exact same rfl (Option.some.inj taken ▸ sound)
    · cases message with
      | none => exact same rfl (Option.some.inj taken ▸ sound)
      | some message =>
        obtain rfl := Option.some.inj taken
        exact same rfl (sound.setCallback there recorder.messageTime (sound.flows.accept idle))
  | now channel time =>
    simp only [Recorder.step] at taken
    split at taken
    · rename_i message accepted
      obtain rfl := Option.some.inj taken
      have there := sound.callbacks channel (by simp [accepted])
      have flows : (recorder.setCallback channel (.clocked message time)).Flows :=
        sound.flows.setCallback (by rw [accepted]; rfl)
      exact same rfl (sound.setCallback there recorder.messageTime flows)
    · cases taken
  | setTime channel =>
    simp only [Recorder.step] at taken
    split at taken
    · rename_i message time clocked
      obtain rfl := Option.some.inj taken
      have there := sound.callbacks channel (by simp [clocked])
      have flows : (recorder.setCallback channel (.timed message)).Flows :=
        sound.flows.setCallback (by rw [clocked]; rfl)
      exact same rfl (sound.setCallback there time flows)
    · cases taken
  | writeMessage channel =>
    simp only [Recorder.step] at taken
    split at taken
    · rename_i message timed
      exact same rfl (sound.writeMessage timed taken)
    · cases taken
  | stop =>
    simp only [Recorder.step, Option.ite_none_right_eq_some] at taken
    obtain ⟨running, taken⟩ := taken
    obtain rfl := Option.some.inj taken
    exact sound.main recorder.isStarted true recorder.listening recorder.messageTime (by simp) (by rw [running]; rfl)
      (fun none => absurd none (sound.unended (by simp [running]) (by simp [running]))) fun listening => ⟨(sound.listens listening).1, rfl⟩
  | removeChangeListener =>
    simp only [Recorder.step, Option.ite_none_right_eq_some] at taken
    obtain ⟨freeing, taken⟩ := taken
    obtain rfl := Option.some.inj taken
    exact sound.main recorder.isStarted recorder.isStopping false recorder.messageTime (by simp) (by rw [freeing]; rfl)
      (fun none => absurd none (sound.unended (by simp [freeing]) (by simp [freeing]))) nofun
  | close =>
    simp only [Recorder.step, Option.ite_none_right_eq_some] at taken
    obtain ⟨closing, taken⟩ := taken
    have moved : Sound pb disk { recorder with point := .joining } (announced ++ []) :=
      sound.main recorder.isStarted recorder.isStopping recorder.listening recorder.messageTime (by simp)
        (by rw [closing]; rfl) (fun none => absurd none (sound.unended (by simp [closing]) (by simp [closing])))
        fun listening => ⟨(sound.listens listening).1, rfl⟩
    exact moved.write rfl (by simp) taken
  | join =>
    simp only [Recorder.step, Option.ite_none_right_eq_some] at taken
    obtain ⟨⟨joining, _⟩, taken⟩ := taken
    obtain rfl := Option.some.inj taken
    exact sound.main false false recorder.listening recorder.messageTime (by simp) (by rw [joining]; rfl)
      (fun _ => ⟨rfl, rfl⟩) fun listening => ⟨(sound.listens listening).1, rfl⟩
  | proceed => exact same rfl (sound.write rfl (by simp) taken)
  | flush => exact same rfl (sound.write rfl (by simp) taken)
  | exit => exact same rfl (sound.write rfl (by simp) taken)

section

variable {output : String} {allChannels : Bool} {whiteChannels blackChannels : List String} {header : Header}
  {events : List RecorderEvent} {session : Session}

theorem create_sound (pb : Protobuf) (disk : String → List UInt8) (output : String) (allChannels : Bool)
    (whiteChannels blackChannels : List String) (header : Header) :
    Sound pb disk (create output allChannels whiteChannels blackChannels header) [] where
  created _ := rfl
  unopened _ := .inl rfl
  fresh _ := ⟨rfl, rfl, rfl, rfl⟩
  listens listening := by cases listening
  opened session here := by cases here
  callbacks channel busy := absurd rfl busy
  flows channel := rfl

theorem reached (ran : run (Recorder.step pb disk) (create output allChannels whiteChannels blackChannels header) events =
    some recorder) : Sound pb disk recorder (events.flatMap RecorderEvent.announced) := by
  refine run_invariant (fun recorder past => Sound pb disk recorder (past.flatMap RecorderEvent.announced)) ?_ ?_ ran
  · intro recorder past event next taken sound
    rw [List.flatMap_append, List.flatMap_singleton]
    exact sound.step taken
  · exact create_sound ..

/-- Once the listener is connected, the writer has the channels that are wanted of the writers that were there and of
    those that have been announced since, each as it was announced first. Every channel with a reader is among them. -/
theorem recorded_channels
    (ran : run (Recorder.step pb disk) (create output allChannels whiteChannels blackChannels header) events =
      some recorder) (connects : recorder.point.connects = true) (here : recorder.session = some session) :
    session.writer.channels.map Prod.fst =
      firstNamed ((events.flatMap RecorderEvent.announced).filterMap recorder.wanted) ∧
    ∀ name ∈ recorder.channelReaderMap, ∃ entry ∈ session.writer.channels, entry.1.name = name := by
  obtain ⟨_, readers, ⟨found, all, channels⟩, _⟩ := (reached ran).opened session here
  rw [RecorderPoint.connects_pending connects, List.append_nil] at all
  refine ⟨?_, fun name member => Session.isNewChannel_eq_false.mp (readers name member)⟩
  rw [all]
  exact channels

/-- One writer is in the black list, one has no description, and one of a channel comes again with another type. -/
def recordSelected : List RecorderEvent :=
  [.start true true, .getWriters [⟨"/a", "A", [1]⟩, ⟨"/b", "B", [1]⟩], .findNewChannel false, .findNewChannel true,
    .addChangeListener true, .topologyCallback true ⟨"/c", "C", []⟩ true, .topologyCallback true ⟨"/a", "D", [2]⟩ true]

theorem recordSelected_channels : ∃ recorder session,
    run (Recorder.step Wire.recordProto fun _ => []) (create "a" true [] ["/b"] Session.smallSegments) recordSelected =
      some recorder ∧ recorder.session = some session ∧
    session.writer.channels.map Prod.fst = [⟨"/a", "A", [1]⟩] := by
  have reached : (run (Recorder.step Wire.recordProto fun _ => []) (create "a" true [] ["/b"] Session.smallSegments)
      recordSelected).any (fun recorder => decide (recorder.session.isSome = true ∧ recorder.point.connects = true ∧
        firstNamed ((recordSelected.flatMap RecorderEvent.announced).filterMap recorder.wanted) =
          [⟨"/a", "A", [1]⟩])) = true := by
    decide +kernel
  obtain ⟨recorder, ran, holds⟩ := (Option.any_eq_true _ _).mp reached
  obtain ⟨some, connects, channels⟩ := of_decide_eq_true holds
  obtain ⟨session, here⟩ := Option.isSome_iff_exists.mp some
  have exact' := (recorded_channels ran connects here).1
  rw [channels] at exact'
  exact ⟨recorder, session, ran, here, exact'⟩

/-- The messages of each channel that `ReaderCallback` lets through are written in their order, but for the last one that
    is under way and those that come behind `Close`. -/
theorem accepted_written
    (ran : run (Recorder.step pb disk) (create output allChannels whiteChannels blackChannels header) events =
      some recorder) (channel : String) :
    (recorder.accepted.filter fun entry => entry.1 = channel).map Prod.snd =
      ((recorder.written ++ recorder.late).filter fun message => message.channelName = channel).map
        SingleMessage.content ++ (recorder.callbacks channel).message?.toList ∧
    (recorder.late ≠ [] → recorder.session.any (fun session => session.stage = .closed) = true) := by
  have sound := reached ran
  refine ⟨sound.flows channel, fun late => ?_⟩
  cases here : recorder.session with
  | none => exact absurd (sound.fresh here).2.2.2 late
  | some session => exact decide_eq_true ((sound.opened session here).late.resolve_left late)

/-- A callback has looked at the flags before `Stop` and comes to the writer behind `Close`. -/
def recordLate : List RecorderEvent :=
  [.start true true, .getWriters [⟨"/chatter", "Chatter", [1]⟩], .findNewChannel true, .addChangeListener true,
    .setStarted, .readerCallback "/chatter" (some [7]), .now "/chatter" 5, .setTime "/chatter", .stop,
    .removeChangeListener, .close, .proceed, .proceed, .proceed, .proceed, .exit, .proceed, .proceed, .proceed, .proceed,
    .writeMessage "/chatter"]

theorem recordLate_written : ∃ recorder,
    run (Recorder.step Wire.recordProto fun _ => []) (create "a" true [] [] Session.smallSegments) recordLate =
      some recorder ∧ recorder.written = [] ∧ recorder.late ≠ [] ∧
    (recorder.accepted.filter fun entry => entry.1 = "/chatter").map Prod.snd = [[7]] := by
  have reached : (run (Recorder.step Wire.recordProto fun _ => []) (create "a" true [] [] Session.smallSegments)
      recordLate).any (fun recorder => decide (recorder.written = [] ∧
        recorder.late = [⟨"/chatter", 5, [7]⟩] ∧ recorder.callbacks "/chatter" = .idle)) = true := by
    decide +kernel
  obtain ⟨recorder, ran, holds⟩ := (Option.any_eq_true _ _).mp reached
  obtain ⟨written, late, idle⟩ := of_decide_eq_true holds
  have flows := (accepted_written ran "/chatter").1
  rw [written, late, idle] at flows
  exact ⟨recorder, ran, written, by simp [late], flows⟩

end

end Recorder

end CyberRT.Record

import Mathlib.Data.List.Infix
import CyberRT.Player.Loops
import CyberRT.Player.Selection

namespace CyberRT.Player

open Execution Record

theorem insertTask_last {task : PlayTask} {buffer : List PlayTask}
    (latest : ∀ other ∈ buffer, other.msgPlayTimeNs ≤ task.msgPlayTimeNs) : insertTask task buffer = buffer ++ [task] := by
  induction buffer with
  | nil => rfl
  | cons head rest ih =>
    have here : ¬ task.msgPlayTimeNs < head.msgPlayTimeNs := UInt64.not_lt.mpr (latest head List.mem_cons_self)
    rw [insertTask, if_neg here, ih fun other member => latest other (List.mem_cons_of_mem _ member)]
    rfl

namespace Playback

variable {pb : Protobuf} {fuel preloadSize : Nat} {producer : PlayTaskProducer} {playback next : Playback}

/-- No task of before is played later than a message of this time would be in the loop that is under way. -/
def Behind (producer : PlayTaskProducer) (playback : Playback) (time : Nat) : Prop :=
  ∀ task ∈ playback.pushed,
    task.msgPlayTimeNs.toNat ≤ time + playback.loopNum.toNat * (loopTimeNs producer).toNat

/-- The iterator has come to this time. -/
structure Reached (producer : PlayTaskProducer) (playback : Playback) (time : UInt64) : Prop where
  behind : Behind producer playback time.toNat
  gathers : playback.viewer.Gathers time
  begins : producer.playParam.beginTimeNs ≤ time
  ends : time ≤ producer.playParam.endTimeNs

def Stands (producer : PlayTaskProducer) (playback : Playback) : Prop :=
  match playback.producer with
  | .looping => Behind producer playback producer.playParam.beginTimeNs.toNat
  | .iterating message | .pushing message => Reached producer playback message.time
  | .stepping => ∃ time, Reached producer playback time
  | .ended => Behind producer playback producer.playParam.endTimeNs.toNat
  | .returned => True

/-- The buffer holds what has been pushed and not removed, in the order of the calls and of the play times. -/
structure Lined (producer : PlayTaskProducer) (playback : Playback) : Prop where
  range : playback.viewer.reset = producer.viewer.reset
  split : playback.pushed = playback.removed ++ playback.buffer
  ordered : playback.pushed.Pairwise fun before task => before.msgPlayTimeNs ≤ task.msgPlayTimeNs
  numbered : playback.pushed.map PlayTask.number = List.range playback.pushed.length

structure Queued (producer : PlayTaskProducer) (playback : Playback) : Prop extends Lined producer playback where
  stands : Stands producer playback

/-- What the consumer holds is at the front of the buffer. -/
def Consumes (playback : Playback) : Prop :=
  match playback.consumer with
  | .idle | .returned => playback.played = playback.removed
  | .holding task => playback.played = playback.removed ∧ playback.buffer.head? = some task
  | .played task => playback.played = playback.removed ++ [task] ∧ playback.buffer.head? = some task

/-- A producer that is seen stopped pushes no more. -/
def Started (playback : Playback) : Prop :=
  match playback.start with
  | .running => playback.producerStopped = true → playback.producer = .returned
  | .sawStopped => playback.producerStopped = true ∧ playback.producer = .returned
  | .finished => playback.producer = .returned ∧ playback.buffer = []
  | .interrupted => True

theorem Behind.mono {time later : Nat} (behind : Behind producer playback time) (less : time ≤ later) :
    Behind producer playback later := by
  intro task member
  have here := behind task member
  omega

theorem loopTimeNs_toNat (proper : producer.playParam.beginTimeNs < producer.playParam.endTimeNs) :
    (loopTimeNs producer).toNat + producer.playParam.beginTimeNs.toNat = producer.playParam.endTimeNs.toNat := by
  have less := UInt64.lt_iff_toNat_lt.mp proper
  rw [loopTimeNs, UInt64.toNat_sub_of_le _ _ (UInt64.le_of_lt proper)]
  omega

theorem Lined.beginTime (lined : Lined producer playback) : playback.viewer.beginTime = producer.viewer.beginTime := by
  have same : playback.viewer.reset.beginTime = producer.viewer.reset.beginTime := by rw [lined.range]
  exact same

theorem Lined.endTime (lined : Lined producer playback) : playback.viewer.endTime = producer.viewer.endTime := by
  have same : playback.viewer.reset.endTime = producer.viewer.reset.endTime := by rw [lined.range]
  exact same

theorem Lined.frame (lined : Lined producer playback) (range : next.viewer.reset = playback.viewer.reset)
    (same : next.pushed = playback.pushed ∧ next.removed = playback.removed ∧ next.buffer = playback.buffer) :
    Lined producer next := by
  obtain ⟨pushed, removed, buffer⟩ := same
  refine ⟨range.trans lined.range, ?_, ?_, ?_⟩
  · rw [pushed, removed, buffer]
    exact lined.split
  · rw [pushed]
    exact lined.ordered
  · rw [pushed]
    exact lined.numbered

/-- The iterator moves on from a time of the range. -/
theorem Lined.advance {time : UInt64} (lined : Lined producer playback)
    (reached : Reached producer playback time) (advanced : advance pb fuel playback = some next) :
    Queued producer next := by
  obtain ⟨⟨got, viewer⟩, updated, rfl⟩ := Option.map_eq_some_iff.mp advanced
  have range := (RecordViewer.update_reset updated).trans lined.range
  have bound := (PlayTaskProducer.viewer_within producer).2
  rw [← lined.endTime] at bound
  cases got with
  | none =>
    have behind := reached.behind.mono (UInt64.le_iff_toNat_le.mp reached.ends)
    exact ⟨⟨range, lined.split, lined.ordered, lined.numbered⟩, behind⟩
  | some message =>
    obtain ⟨low, high, gathers⟩ := RecordViewer.update_gathers reached.gathers updated
    have behind := reached.behind.mono (UInt64.le_iff_toNat_le.mp low)
    have there : Reached producer { playback with viewer := viewer, producer := .iterating message } message.time :=
      ⟨behind, gathers, UInt64.le_trans reached.begins low, UInt64.le_trans high bound⟩
    exact ⟨⟨range, lined.split, lined.ordered, lined.numbered⟩, there⟩

theorem Queued.push {message : SingleMessage} (queued : Queued producer playback)
    (reached : Reached producer playback message.time)
    (fits : message.time.toNat + playback.loopNum.toNat * (loopTimeNs producer).toNat < 2 ^ 64) :
    Queued producer (push producer playback message) ∧
      (push producer playback message).buffer = playback.buffer ++
        [⟨playback.pushed.length, message, message.time + playback.loopNum.toUInt64 * loopTimeNs producer⟩] := by
  have plays : (message.time + playback.loopNum.toUInt64 * loopTimeNs producer).toNat =
      message.time.toNat + playback.loopNum.toNat * (loopTimeNs producer).toNat := by
    rw [UInt64.toNat_add, UInt64.toNat_mul, UInt32.toNat_toUInt64, Nat.add_mod_mod, Nat.mod_eq_of_lt fits]
  have latest : ∀ task ∈ playback.pushed,
      task.msgPlayTimeNs ≤ message.time + playback.loopNum.toUInt64 * loopTimeNs producer := by
    intro task member
    apply UInt64.le_iff_toNat_le.mpr
    rw [plays]
    exact reached.behind task member
  have last : (Playback.push producer playback message).buffer = playback.buffer ++
      [⟨playback.pushed.length, message, message.time + playback.loopNum.toUInt64 * loopTimeNs producer⟩] := by
    apply insertTask_last
    intro task member
    apply latest
    rw [queued.split]
    exact List.mem_append_right _ member
  refine ⟨⟨⟨queued.range, ?_, ?_, ?_⟩, message.time, ?_⟩, last⟩
  · rw [last]
    show playback.pushed ++ _ = playback.removed ++ _
    rw [queued.split, List.append_assoc]
  · apply List.pairwise_append.mpr
    refine ⟨queued.ordered, List.pairwise_singleton _ _, ?_⟩
    intro task member other single
    rw [List.mem_singleton.mp single]
    exact latest task member
  · show (playback.pushed ++ _).map PlayTask.number = List.range (playback.pushed ++ _).length
    rw [List.map_append, queued.numbered, List.length_append, List.length_singleton, List.range_succ]
    rfl
  · refine ⟨?_, reached.gathers, reached.begins, reached.ends⟩
    intro task member
    rcases List.mem_append.mp member with old | new
    · exact reached.behind task old
    · rw [List.mem_singleton.mp new]
      exact Nat.le_of_eq plays

/-- Everything that a step of the producer can do. -/
inductive Produces (pb : Protobuf) (fuel : Nat) (producer : PlayTaskProducer) (playback : Playback) : Playback → Prop where
  | stop (here : playback.producer = .looping) (stopped : playback.producerStopped = true) :
    Produces pb fuel producer playback { playback with producer := .returned }
  | begin {next : Playback} (here : playback.producer = .looping) (running : playback.producerStopped = false)
    (advanced : advance pb fuel { playback with viewer := playback.viewer.reset } = some next) :
    Produces pb fuel producer playback next
  | empty (here : playback.producer = .looping) (running : playback.producerStopped = false) :
    Produces pb fuel producer playback { playback with viewer := playback.viewer.reset, producer := .ended }
  | leave {message : SingleMessage} (here : playback.producer = .iterating message)
    (stopped : playback.producerStopped = true) :
    Produces pb fuel producer playback { playback with producer := .ended }
  | wait {message : SingleMessage} (here : playback.producer = .iterating message) :
    Produces pb fuel producer playback playback
  | test {message : SingleMessage} (here : playback.producer = .iterating message) :
    Produces pb fuel producer playback { playback with producer := .pushing message }
  | push {message : SingleMessage} (here : playback.producer = .pushing message) :
    Produces pb fuel producer playback (push producer playback message)
  | skip {message : SingleMessage} (here : playback.producer = .pushing message) :
    Produces pb fuel producer playback { playback with producer := .stepping }
  | advance {next : Playback} (here : playback.producer = .stepping) (advanced : advance pb fuel playback = some next) :
    Produces pb fuel producer playback next
  | again (here : playback.producer = .ended) (loops : producer.playParam.isLoopPlayback = true) :
    Produces pb fuel producer playback { playback with loopNum := playback.loopNum + 1, producer := .looping }
  | finish (here : playback.producer = .ended) :
    Produces pb fuel producer playback { playback with producerStopped := true, producer := .returned }

theorem produces_of_produce (taken : produce pb fuel preloadSize producer playback = some next) :
    Produces pb fuel producer playback next := by
  unfold produce at taken
  split at taken
  · rename_i here
    split at taken
    · rename_i stopped
      cases taken
      exact .stop here stopped
    · rename_i running
      split at taken
      · exact .begin here (Bool.eq_false_iff.mpr running) taken
      · cases taken
        exact .empty here (Bool.eq_false_iff.mpr running)
  · rename_i message here
    split at taken
    · rename_i stopped
      cases taken
      exact .leave here stopped
    · split at taken
      · cases taken
        exact .wait here
      · cases taken
        exact .test here
  · rename_i message here
    split at taken
    · cases taken
      exact .push here
    · cases taken
      exact .skip here
  · rename_i here
    exact .advance here taken
  · rename_i here
    split at taken
    · rename_i loops
      cases taken
      exact .again here loops
    · cases taken
      exact .finish here
  · cases taken

theorem Queued.produce (proper : producer.playParam.beginTimeNs < producer.playParam.endTimeNs)
    (fits : RecordViewer.Fits producer.viewer.beginTime producer.viewer.endTime) (queued : Queued producer playback)
    (timely : TimesFit producer playback .produce) (counted : LoopsFit producer playback .produce)
    (produces : Produces pb fuel producer playback next) : Queued producer next := by
  have stands := queued.stands
  have order := Nat.le_of_lt (UInt64.lt_iff_toNat_lt.mp proper)
  unfold Stands at stands
  cases produces with
  | stop here stopped => exact ⟨queued.frame rfl ⟨rfl, rfl, rfl⟩, trivial⟩
  | begin here running advanced =>
    rw [here] at stands
    have gathers : playback.viewer.reset.Gathers playback.viewer.beginTime := by
      apply RecordViewer.reset_gathers
      rw [queued.beginTime, queued.endTime]
      exact fits
    have low : producer.playParam.beginTimeNs ≤ playback.viewer.beginTime := by
      rw [queued.beginTime]
      exact (PlayTaskProducer.viewer_within producer).1
    have reset : Lined producer { playback with viewer := playback.viewer.reset } :=
      queued.frame (RecordViewer.reset_reset _) ⟨rfl, rfl, rfl⟩
    exact reset.advance ⟨stands, gathers.mono low, UInt64.le_refl _, UInt64.le_of_lt proper⟩ advanced
  | empty here running =>
    rw [here] at stands
    exact ⟨queued.frame (RecordViewer.reset_reset _) ⟨rfl, rfl, rfl⟩, stands.mono order⟩
  | leave here stopped =>
    rw [here] at stands
    exact ⟨queued.frame rfl ⟨rfl, rfl, rfl⟩,
      stands.behind.mono (UInt64.le_iff_toNat_le.mp stands.ends)⟩
  | wait here => exact queued
  | test here =>
    rw [here] at stands
    exact ⟨queued.frame rfl ⟨rfl, rfl, rfl⟩,
      ⟨stands.behind, stands.gathers, stands.begins, stands.ends⟩⟩
  | push here =>
    rw [here] at stands
    exact (queued.push stands (timely _ here)).1
  | skip here =>
    rw [here] at stands
    exact ⟨queued.frame rfl ⟨rfl, rfl, rfl⟩, _,
      ⟨stands.behind, stands.gathers, stands.begins, stands.ends⟩⟩
  | advance here advanced =>
    rw [here] at stands
    obtain ⟨time, reached⟩ := stands
    exact queued.toLined.advance reached advanced
  | again here loops =>
    rw [here] at stands
    refine ⟨queued.frame rfl ⟨rfl, rfl, rfl⟩, ?_⟩
    intro task member
    have before := stands task member
    have span := loopTimeNs_toNat proper
    have number : (playback.loopNum + 1).toNat = playback.loopNum.toNat + 1 := by
      rw [UInt32.toNat_add, UInt32.toNat_one, Nat.mod_eq_of_lt (counted here loops)]
    -- the end of one loop is the beginning of the next
    show task.msgPlayTimeNs.toNat ≤ producer.playParam.beginTimeNs.toNat +
      (playback.loopNum + 1).toNat * (loopTimeNs producer).toNat
    rw [number, Nat.succ_mul]
    omega
  | finish here => exact ⟨queued.frame rfl ⟨rfl, rfl, rfl⟩, trivial⟩

/-- The producer adds to the end of the buffer and touches nothing of the consumer. -/
structure Feeds (playback next : Playback) : Prop where
  consumer : next.consumer = playback.consumer
  played : next.played = playback.played
  removed : next.removed = playback.removed
  buffer : ∃ tasks, next.buffer = playback.buffer ++ tasks

theorem Feeds.of_same (consumer : next.consumer = playback.consumer) (played : next.played = playback.played)
    (removed : next.removed = playback.removed) (buffer : next.buffer = playback.buffer) : Feeds playback next :=
  ⟨consumer, played, removed, [], by rw [buffer, List.append_nil]⟩

theorem advance_feeds (advanced : advance pb fuel playback = some next) :
    Feeds playback next ∧ next.start = playback.start ∧ next.producerStopped = playback.producerStopped := by
  obtain ⟨⟨got, viewer⟩, _, rfl⟩ := Option.map_eq_some_iff.mp advanced
  cases got with
  | none => exact ⟨.of_same rfl rfl rfl rfl, rfl, rfl⟩
  | some message => exact ⟨.of_same rfl rfl rfl rfl, rfl, rfl⟩

theorem Queued.feeds (queued : Queued producer playback) (timely : TimesFit producer playback .produce)
    (produces : Produces pb fuel producer playback next) : Feeds playback next := by
  cases produces with
  | begin here running advanced =>
    have feeds := (advance_feeds advanced).1
    exact ⟨feeds.consumer, feeds.played, feeds.removed, feeds.buffer⟩
  | advance here advanced => exact (advance_feeds advanced).1
  | push here =>
    have stands := queued.stands
    unfold Stands at stands
    rw [here] at stands
    exact ⟨rfl, rfl, rfl, _, (queued.push stands (timely _ here)).2⟩
  | stop here stopped => exact .of_same rfl rfl rfl rfl
  | empty here running => exact .of_same rfl rfl rfl rfl
  | leave here stopped => exact .of_same rfl rfl rfl rfl
  | wait here => exact .of_same rfl rfl rfl rfl
  | test here => exact .of_same rfl rfl rfl rfl
  | skip here => exact .of_same rfl rfl rfl rfl
  | again here loops => exact .of_same rfl rfl rfl rfl
  | finish here => exact .of_same rfl rfl rfl rfl

theorem Feeds.consumes (feeds : Feeds playback next) (consumes : Consumes playback) : Consumes next := by
  obtain ⟨tasks, more⟩ := feeds.buffer
  have front : ∀ task, playback.buffer.head? = some task → next.buffer.head? = some task := by
    intro task first
    rw [more, List.head?_append, first]
    rfl
  unfold Consumes at consumes ⊢
  rw [feeds.consumer, feeds.played, feeds.removed]
  split at consumes
  · exact consumes
  · exact consumes
  · exact ⟨consumes.1, front _ consumes.2⟩
  · exact ⟨consumes.1, front _ consumes.2⟩

/-- The producer stops before it can be seen stopped. -/
theorem Started.produce (started : Started playback) (produces : Produces pb fuel producer playback next) :
    Started next := by
  have enabled : playback.producer ≠ .returned := by
    cases produces <;> simp [*]
  have same : next.start = playback.start ∧
      (next.producerStopped = playback.producerStopped ∨ next.producer = .returned) := by
    cases produces with
    | begin here running advanced => exact ⟨(advance_feeds advanced).2.1, .inl (advance_feeds advanced).2.2⟩
    | advance here advanced => exact ⟨(advance_feeds advanced).2.1, .inl (advance_feeds advanced).2.2⟩
    | stop here stopped => exact ⟨rfl, .inr rfl⟩
    | finish here => exact ⟨rfl, .inr rfl⟩
    | empty here running => exact ⟨rfl, .inl rfl⟩
    | leave here stopped => exact ⟨rfl, .inl rfl⟩
    | wait here => exact ⟨rfl, .inl rfl⟩
    | test here => exact ⟨rfl, .inl rfl⟩
    | push here => exact ⟨rfl, .inl rfl⟩
    | skip here => exact ⟨rfl, .inl rfl⟩
    | again here loops => exact ⟨rfl, .inl rfl⟩
  unfold Started at started ⊢
  rw [same.1]
  split at started
  · intro stopped
    rcases same.2 with kept | returned
    · exact absurd (started (kept.symm.trans stopped)) enabled
    · exact returned
  · exact absurd started.2 enabled
  · exact absurd started.1 enabled
  · trivial

/-- The consumer removes what it has played, and only that. -/
structure Taken (playback next : Playback) : Prop where
  producer : next.producer = playback.producer
  viewer : next.viewer = playback.viewer
  loopNum : next.loopNum = playback.loopNum
  pushed : next.pushed = playback.pushed
  split : next.removed ++ next.buffer = playback.removed ++ playback.buffer

theorem Queued.taken (queued : Queued producer playback) (taken : Taken playback next) : Queued producer next := by
  refine ⟨⟨?_, ?_, ?_, ?_⟩, ?_⟩
  · rw [taken.viewer]
    exact queued.range
  · rw [taken.pushed, taken.split]
    exact queued.split
  · rw [taken.pushed]
    exact queued.ordered
  · rw [taken.pushed]
    exact queued.numbered
  · have behind : ∀ time, Behind producer playback time → Behind producer next time := by
      intro time behind
      unfold Behind
      rw [taken.pushed, taken.loopNum]
      exact behind
    have reached : ∀ time, Reached producer playback time → Reached producer next time := by
      intro time reached
      exact ⟨behind _ reached.behind, taken.viewer ▸ reached.gathers, reached.begins, reached.ends⟩
    have stands := queued.stands
    unfold Stands at stands ⊢
    rw [taken.producer]
    split at stands
    · exact behind _ stands
    · exact reached _ stands
    · exact reached _ stands
    · obtain ⟨time, there⟩ := stands
      exact ⟨time, reached time there⟩
    · exact behind _ stands
    · trivial

theorem consume_taken (consumed : consume playback = some next) : Taken playback next := by
  unfold consume at consumed
  split at consumed
  · split at consumed
    · cases consumed
      exact ⟨rfl, rfl, rfl, rfl, rfl⟩
    · split at consumed
      · cases consumed
        exact ⟨rfl, rfl, rfl, rfl, rfl⟩
      · cases consumed
        exact ⟨rfl, rfl, rfl, rfl, rfl⟩
  · cases consumed
    exact ⟨rfl, rfl, rfl, rfl, rfl⟩
  · split at consumed
    · cases consumed
      exact ⟨rfl, rfl, rfl, rfl, rfl⟩
    · rename_i task rest buffer
      cases consumed
      refine ⟨rfl, rfl, rfl, rfl, ?_⟩
      rw [buffer, List.append_assoc]
      rfl
  · cases consumed

theorem Consumes.consume (consumes : Consumes playback) (consumed : consume playback = some next) : Consumes next := by
  unfold Consumes at consumes
  unfold Playback.consume at consumed
  split at consumed
  · rename_i here
    rw [here] at consumes
    split at consumed
    · cases consumed
      exact consumes
    · split at consumed
      · cases consumed
        unfold Consumes
        rw [here]
        exact consumes
      · rename_i task rest buffer
        cases consumed
        exact ⟨consumes, by rw [buffer]; rfl⟩
  · rename_i task here
    rw [here] at consumes
    cases consumed
    exact ⟨by rw [consumes.1], consumes.2⟩
  · rename_i task here
    rw [here] at consumes
    split at consumed
    · rename_i none
      rw [none] at consumes
      cases consumes.2
    · rename_i front rest buffer
      rw [buffer] at consumes
      cases consumed
      have same : front = task := Option.some.inj consumes.2
      show playback.played = playback.removed ++ [front]
      rw [same]
      exact consumes.1
  · cases consumed

theorem Started.consume (started : Started playback) (consumed : consume playback = some next) : Started next := by
  have taken := consume_taken consumed
  have same : next.start = playback.start ∧ next.producerStopped = playback.producerStopped ∧
      (playback.buffer = [] → next.buffer = []) := by
    unfold Playback.consume at consumed
    split at consumed
    · split at consumed
      · cases consumed
        exact ⟨rfl, rfl, id⟩
      · split at consumed
        · cases consumed
          exact ⟨rfl, rfl, id⟩
        · cases consumed
          exact ⟨rfl, rfl, id⟩
    · cases consumed
      exact ⟨rfl, rfl, id⟩
    · split at consumed
      · cases consumed
        exact ⟨rfl, rfl, id⟩
      · rename_i buffer
        cases consumed
        exact ⟨rfl, rfl, fun none => by rw [buffer] at none; cases none⟩
    · cases consumed
  obtain ⟨start, stopped, empty⟩ := same
  unfold Started at started ⊢
  rw [start, stopped, taken.producer]
  split at started
  · exact started
  · exact started
  · exact ⟨started.1, empty started.2⟩
  · trivial

theorem Started.check (started : Started playback) (checked : check playback = some next) : Started next := by
  unfold Started at started
  unfold Playback.check at checked
  split at checked
  · rename_i here
    rw [here] at started
    split at checked
    · rename_i stopped
      cases checked
      exact ⟨stopped, started stopped⟩
    · cases checked
      unfold Started
      rw [here]
      exact started
  · rename_i here
    rw [here] at started
    split at checked
    · rename_i empty
      cases checked
      exact ⟨started.2, List.isEmpty_iff.mp empty⟩
    · cases checked
      exact fun _ => started.2
  · cases checked
  · cases checked

theorem check_keeps (checked : check playback = some next) : Taken playback next ∧ Feeds playback next := by
  unfold Playback.check at checked
  split at checked
  · split at checked
    · cases checked
      exact ⟨⟨rfl, rfl, rfl, rfl, rfl⟩, .of_same rfl rfl rfl rfl⟩
    · cases checked
      exact ⟨⟨rfl, rfl, rfl, rfl, rfl⟩, .of_same rfl rfl rfl rfl⟩
  · split at checked
    · cases checked
      exact ⟨⟨rfl, rfl, rfl, rfl, rfl⟩, .of_same rfl rfl rfl rfl⟩
    · cases checked
      exact ⟨⟨rfl, rfl, rfl, rfl, rfl⟩, .of_same rfl rfl rfl rfl⟩
  · cases checked
  · cases checked

structure Plays (producer : PlayTaskProducer) (playback : Playback) : Prop where
  queued : Queued producer playback
  consumes : Consumes playback
  started : Started playback

theorem Plays.leave (plays : Plays producer playback) (left : leave playback = some next) : Plays producer next := by
  have consumes := plays.consumes
  unfold Consumes at consumes
  unfold Playback.leave at left
  split at left
  · rename_i task here
    rw [here] at consumes
    split at left
    · cases left
      exact ⟨plays.queued.taken ⟨rfl, rfl, rfl, rfl, rfl⟩, consumes.1, plays.started⟩
    · cases left
  · cases left

theorem Plays.step (proper : producer.playParam.beginTimeNs < producer.playParam.endTimeNs)
    (fits : RecordViewer.Fits producer.viewer.beginTime producer.viewer.endTime) (plays : Plays producer playback)
    {event : PlayEvent} (timely : TimesFit producer playback event) (counted : LoopsFit producer playback event)
    (taken : step pb fuel preloadSize producer playback event = some next) : Plays producer next := by
  cases event with
  | produce =>
    have produces := produces_of_produce taken
    exact ⟨plays.queued.produce proper fits timely counted produces,
      (plays.queued.feeds timely produces).consumes plays.consumes, plays.started.produce produces⟩
  | consume =>
    exact ⟨plays.queued.taken (consume_taken taken), plays.consumes.consume taken, plays.started.consume taken⟩
  | leave => exact plays.leave taken
  | check =>
    obtain ⟨same, feeds⟩ := check_keeps taken
    exact ⟨plays.queued.taken same, feeds.consumes plays.consumes, plays.started.check taken⟩
  | interrupt =>
    obtain ⟨_, same⟩ := Option.ite_none_right_eq_some.mp taken
    cases same
    exact ⟨plays.queued.taken ⟨rfl, rfl, rfl, rfl, rfl⟩, plays.consumes, trivial⟩
  | halt =>
    obtain ⟨_, same⟩ := Option.ite_none_right_eq_some.mp taken
    cases same
    exact ⟨plays.queued.taken ⟨rfl, rfl, rfl, rfl, rfl⟩, plays.consumes, plays.started⟩

theorem Plays.orderly (plays : Plays producer playback) : playback.Orderly := by
  have split := plays.queued.split
  have consumes := plays.consumes
  have nodup : playback.pushed.Nodup := by
    apply List.Nodup.of_map PlayTask.number
    rw [plays.queued.numbered]
    exact List.nodup_range
  obtain ⟨inOrder, kept⟩ : playback.played <+: playback.pushed ∧ playback.removed <+: playback.played := by
    unfold Consumes at consumes
    split at consumes
    · rw [split, consumes]
      exact ⟨List.prefix_append .., List.prefix_refl _⟩
    · rw [split, consumes]
      exact ⟨List.prefix_append .., List.prefix_refl _⟩
    · rw [split, consumes.1]
      exact ⟨List.prefix_append .., List.prefix_refl _⟩
    · rename_i task here
      obtain ⟨rest, buffer⟩ := List.head?_eq_some_iff.mp consumes.2
      rw [split, consumes.1, buffer]
      refine ⟨⟨rest, ?_⟩, List.prefix_append ..⟩
      rw [List.append_assoc]
      rfl
  refine ⟨inOrder, fun task member => kept.subset member, nodup.sublist inOrder.sublist, ?_⟩
  intro finished task member
  have started := plays.started
  unfold Started at started
  rw [finished] at started
  rw [split, started.2, List.append_nil] at member
  exact kept.subset member

end Playback

end CyberRT.Player

import CyberRT.Player.Playback

namespace CyberRT.Player

open Execution Record

def insertTasks (tasks buffer : List PlayTask) : List PlayTask := tasks.foldl (fun buffer task => insertTask task buffer) buffer

theorem insertTask_perm (task : PlayTask) (buffer : List PlayTask) :
    (insertTask task buffer).Perm (task :: buffer) := by
  induction buffer with
  | nil => exact .refl _
  | cons head rest ih =>
    rw [insertTask]
    split
    · exact .refl _
    · exact (ih.cons head).trans (.swap ..)

theorem insertTasks_perm (tasks buffer : List PlayTask) : (insertTasks tasks buffer).Perm (buffer ++ tasks) := by
  induction tasks generalizing buffer with
  | nil =>
    rw [List.append_nil]
    exact .refl _
  | cons task rest ih =>
    have first := (insertTask_perm task buffer).append_right rest
    exact (ih (insertTask task buffer)).trans (first.trans List.perm_middle.symm)

theorem insertTask_first {task : PlayTask} {buffer : List PlayTask}
    (earliest : ∀ other ∈ buffer, task.msgPlayTimeNs < other.msgPlayTimeNs) :
    insertTask task buffer = task :: buffer := by
  cases buffer with
  | nil => rfl
  | cons head rest => exact if_pos (earliest head List.mem_cons_self)

namespace Playback

variable {pb : Protobuf} {fuel preloadSize : Nat} {producer : PlayTaskProducer} {playback next : Playback}

/-- A step whose times fit. -/
def Moves (pb : Protobuf) (fuel preloadSize : Nat) (producer : PlayTaskProducer) (playback next : Playback) : Prop :=
  ∃ event, TimesFit producer playback event ∧ step pb fuel preloadSize producer playback event = some next

def Leads (pb : Protobuf) (fuel preloadSize : Nat) (producer : PlayTaskProducer) : Playback → Playback → Prop :=
  Relation.ReflTransGen (Moves pb fuel preloadSize producer)

theorem Moves.produce (elsewhere : ∀ message, playback.producer ≠ .pushing message)
    (taken : produce pb fuel preloadSize producer playback = some next) :
    Moves pb fuel preloadSize producer playback next :=
  ⟨.produce, fun message here => absurd here (elsewhere message), taken⟩

theorem Moves.consume (taken : consume playback = some next) : Moves pb fuel preloadSize producer playback next :=
  ⟨.consume, trivial, taken⟩

theorem Moves.test {message : SingleMessage} (here : playback.producer = .iterating message)
    (running : playback.producerStopped = false) (room : playback.buffer.length ≤ preloadSize) :
    Moves pb fuel preloadSize producer playback { playback with producer := .pushing message } := by
  apply Moves.produce
  · intro other there
    rw [here] at there
    cases there
  · unfold Playback.produce
    simp only [here, running, Bool.false_eq_true, if_false]
    exact if_neg (Nat.not_lt.mpr room)

/-- The tasks of the messages that a loop of this number pushes, from this number of a `Push` on. -/
def tasksOf (producer : PlayTaskProducer) (loopNum : UInt32) : Nat → List SingleMessage → List PlayTask
  | _, [] => []
  | number, message :: rest =>
    ⟨number, message, message.time + loopNum.toUInt64 * loopTimeNs producer⟩ :: tasksOf producer loopNum (number + 1) rest

theorem length_tasksOf (producer : PlayTaskProducer) (loopNum : UInt32) (number : Nat) (messages : List SingleMessage) :
    (tasksOf producer loopNum number messages).length = messages.length := by
  induction messages generalizing number with
  | nil => rfl
  | cons message rest ih => rw [tasksOf, List.length_cons, ih, List.length_cons]

theorem mem_tasksOf {loopNum : UInt32} {number : Nat} {messages : List SingleMessage} {task : PlayTask}
    (member : task ∈ tasksOf producer loopNum number messages) :
    task.number < number + messages.length ∧ ∃ message ∈ messages,
      task.msgPlayTimeNs = message.time + loopNum.toUInt64 * loopTimeNs producer := by
  induction messages generalizing number with
  | nil => cases member
  | cons message rest ih =>
    rcases List.mem_cons.mp member with rfl | member
    · exact ⟨Nat.lt_add_of_pos_right (Nat.zero_lt_succ _), message, List.mem_cons_self, rfl⟩
    · obtain ⟨bounded, other, present, plays⟩ := ih member
      rw [List.length_cons]
      exact ⟨by omega, other, List.mem_cons_of_mem _ present, plays⟩

/-- A producer that nobody stops or slows down pushes the messages of its iterator, one behind the other. -/
theorem pushes {messages : List SingleMessage} {viewer : RecordViewer}
    (iterates : playback.viewer.Iterates pb fuel messages viewer) (running : playback.producerStopped = false)
    (room : playback.buffer.length + messages.length ≤ preloadSize)
    (writers : ∀ message ∈ messages, producer.hasWriter message = true)
    (timely : ∀ message ∈ messages,
      message.time.toNat + playback.loopNum.toNat * (loopTimeNs producer).toNat < 2 ^ 64) :
    ∃ first, advance pb fuel playback = some first ∧ Leads pb fuel preloadSize producer first
      { playback with
        viewer := viewer
        producer := .ended
        buffer := insertTasks (tasksOf producer playback.loopNum playback.pushed.length messages) playback.buffer
        pushed := playback.pushed ++ tasksOf producer playback.loopNum playback.pushed.length messages } := by
  generalize start : playback.viewer = before at iterates
  induction iterates generalizing playback with
  | ended updated =>
    refine ⟨_, by rw [advance, start, updated]; rfl, ?_⟩
    rw [tasksOf, List.append_nil]
    exact .refl
  | @given before middle viewer message rest updated later ih =>
    refine ⟨{ playback with viewer := middle, producer := .iterating message },
      by rw [advance, start, updated]; rfl, ?_⟩
    rw [List.length_cons] at room
    have room' : playback.buffer.length ≤ preloadSize := by omega
    obtain ⟨fits, others⟩ := List.forall_mem_cons.mp timely
    obtain ⟨writer, written⟩ := List.forall_mem_cons.mp writers
    have inserted : (insertTask ⟨playback.pushed.length, message,
        message.time + playback.loopNum.toUInt64 * loopTimeNs producer⟩ playback.buffer).length =
        playback.buffer.length + 1 := (insertTask_perm ..).length_eq
    obtain ⟨first, advanced, leads⟩ := @ih
      (push producer { playback with viewer := middle, producer := .pushing message } message) running
      (by simp only [push]; omega) written others rfl
    have tests : Moves pb fuel preloadSize producer { playback with viewer := middle, producer := .iterating message }
        { playback with viewer := middle, producer := .pushing message } := .test rfl running room'
    have push' : Moves pb fuel preloadSize producer { playback with viewer := middle, producer := .pushing message }
        (push producer { playback with viewer := middle, producer := .pushing message } message) := by
      refine ⟨.produce, ?_, if_pos writer⟩
      intro other here
      cases here
      exact fits
    have advances : Moves pb fuel preloadSize producer
        (push producer { playback with viewer := middle, producer := .pushing message } message) first :=
      .produce (fun other here => by cases here) advanced
    refine (Relation.ReflTransGen.head tests (.head push' (.head advances leads))).trans ?_
    simp only [push, tasksOf, List.length_append, List.length_singleton, List.append_assoc]
    exact .refl

/-- A consumer that nobody stops plays and removes what is in the buffer. -/
theorem consumes (idle : playback.consumer = .idle) (running : playback.consumerStopped = false) :
    Leads pb fuel preloadSize producer playback { playback with
      buffer := []
      consumer := .idle
      played := playback.played ++ playback.buffer
      removed := playback.removed ++ playback.buffer } := by
  generalize queued : playback.buffer = tasks
  induction tasks generalizing playback with
  | nil =>
    rw [List.append_nil, List.append_nil, ← queued, ← idle]
    exact .refl
  | cons task rest ih =>
    have holds : Moves pb fuel preloadSize producer playback { playback with consumer := .holding task } := by
      apply Moves.consume
      unfold consume
      rw [idle, queued]
      simp only [running, Bool.false_eq_true, if_false]
    have plays : Moves pb fuel preloadSize producer { playback with consumer := .holding task }
        { playback with consumer := .played task, played := playback.played ++ [task] } := .consume rfl
    have pops : Moves pb fuel preloadSize producer
        { playback with consumer := .played task, played := playback.played ++ [task] }
        { playback with
          buffer := rest
          consumer := .idle
          played := playback.played ++ [task]
          removed := playback.removed ++ [task] } := by
      apply Moves.consume
      unfold consume
      simp only [queued]
    refine .head holds (.head plays (.head pops ?_))
    have later := @ih { playback with
      buffer := rest
      consumer := .idle
      played := playback.played ++ [task]
      removed := playback.removed ++ [task] } rfl running rfl
    simp only [List.append_assoc, List.singleton_append] at later
    exact later

/-- The iterator gives these messages, every one has a writer, and they all fit into the buffer. -/
structure Prepared (pb : Protobuf) (fuel preloadSize : Nat) (producer : PlayTaskProducer)
    (messages : List SingleMessage) : Prop where
  iterates : ∃ last, producer.viewer.reset.Iterates pb fuel messages last
  valid : producer.viewer.isValid = true
  writers : ∀ message ∈ messages, producer.hasWriter message = true
  room : messages.length ≤ preloadSize

/-- A loop is about to begin, with nothing left of those before it. -/
structure Rests (producer : PlayTaskProducer) (playback : Playback) : Prop where
  range : playback.viewer.reset = producer.viewer.reset
  producer : playback.producer = .looping
  producerStopped : playback.producerStopped = false
  buffer : playback.buffer = []
  consumer : playback.consumer = .idle
  consumerStopped : playback.consumerStopped = false
  played : ∀ task ∈ playback.played, task.number < playback.pushed.length

variable {messages : List SingleMessage}

/-- What a loop of the producer pushes while the consumer rests. -/
theorem Rests.pushes (rests : Rests producer playback) (prepared : Prepared pb fuel preloadSize producer messages)
    (timely : ∀ message ∈ messages,
      message.time.toNat + playback.loopNum.toNat * (loopTimeNs producer).toNat < 2 ^ 64) :
    ∃ viewer, viewer.reset = producer.viewer.reset ∧ Leads pb fuel preloadSize producer playback
      { playback with
        viewer := viewer
        producer := .ended
        buffer := insertTasks (tasksOf producer playback.loopNum playback.pushed.length messages) []
        pushed := playback.pushed ++ tasksOf producer playback.loopNum playback.pushed.length messages } := by
  obtain ⟨last, iterates⟩ := prepared.iterates
  rw [← rests.range] at iterates
  obtain ⟨first, advanced, leads⟩ := @Playback.pushes pb fuel preloadSize producer
    { playback with viewer := playback.viewer.reset } messages last iterates rests.producerStopped
    (by simp only [rests.buffer]; exact Nat.le_trans (Nat.le_of_eq (Nat.zero_add _)) prepared.room)
    prepared.writers timely
  have valid : playback.viewer.isValid = true := (RecordViewer.isValid_of_reset rests.range).trans prepared.valid
  have begins : Moves pb fuel preloadSize producer playback first := by
    apply Moves.produce
    · intro message here
      rw [rests.producer] at here
      cases here
    · unfold Playback.produce
      simp only [rests.producer, rests.producerStopped, valid, Bool.false_eq_true, if_false, if_true] at advanced ⊢
      exact advanced
  refine ⟨last, iterates.reset.trans ((RecordViewer.reset_reset _).trans rests.range), ?_⟩
  rw [rests.buffer] at leads
  exact .head begins leads

theorem Rests.again (rests : Rests producer playback) (prepared : Prepared pb fuel preloadSize producer messages)
    (loops : producer.playParam.isLoopPlayback = true)
    (timely : ∀ message ∈ messages,
      message.time.toNat + playback.loopNum.toNat * (loopTimeNs producer).toNat < 2 ^ 64) :
    ∃ next, Leads pb fuel preloadSize producer playback next ∧ Rests producer next ∧
      next.loopNum = playback.loopNum + 1 := by
  obtain ⟨viewer, range, leads⟩ := rests.pushes prepared timely
  have again : Moves pb fuel preloadSize producer
      { playback with
        viewer := viewer
        producer := .ended
        buffer := insertTasks (tasksOf producer playback.loopNum playback.pushed.length messages) []
        pushed := playback.pushed ++ tasksOf producer playback.loopNum playback.pushed.length messages }
      { playback with
        viewer := viewer
        loopNum := playback.loopNum + 1
        producer := .looping
        buffer := insertTasks (tasksOf producer playback.loopNum playback.pushed.length messages) []
        pushed := playback.pushed ++ tasksOf producer playback.loopNum playback.pushed.length messages } := by
    apply Moves.produce
    · intro message here
      cases here
    · exact if_pos loops
  refine ⟨_, leads.trans (.head again (consumes rests.consumer rests.consumerStopped)),
    ⟨range, rfl, rests.producerStopped, rfl, rfl, rests.consumerStopped, ?_⟩, rfl⟩
  intro task member
  rw [List.length_append, length_tasksOf]
  rcases List.mem_append.mp member with old | new
  · exact Nat.lt_add_right _ (rests.played task old)
  · exact (mem_tasksOf ((insertTasks_perm ..).mem_iff.mp new)).1

/-- The first message of a loop goes in front of what an earlier loop has left, and the consumer removes it in the place
    of the task that it has played. -/
theorem overtakes {message : SingleMessage} {rest : List SingleMessage} {front : PlayTask} {others : List PlayTask}
    (prepared : Prepared pb fuel preloadSize producer (message :: rest))
    (range : playback.viewer.reset = producer.viewer.reset) (here : playback.producer = .looping)
    (running : playback.producerStopped = false) (started : playback.loopNum = 0)
    (holds : playback.consumer = .played front) (buffer : playback.buffer = front :: others)
    (room : playback.buffer.length ≤ preloadSize)
    (later : ∀ task ∈ front :: others, message.time < task.msgPlayTimeNs)
    (played : ∀ task ∈ playback.played, task.number < playback.pushed.length) :
    ∃ next, Leads pb fuel preloadSize producer playback next ∧ ∃ task ∈ next.removed, task ∉ next.played := by
  obtain ⟨last, iterates⟩ := prepared.iterates
  rw [← range] at iterates
  obtain ⟨middle, updated⟩ : ∃ middle, playback.viewer.reset.update pb fuel = some (some message, middle) := by
    cases iterates with
    | given updated _ => exact ⟨_, updated⟩
  have valid : playback.viewer.isValid = true := (RecordViewer.isValid_of_reset range).trans prepared.valid
  have begins : Moves pb fuel preloadSize producer playback
      { playback with viewer := middle, producer := .iterating message } := by
    apply Moves.produce
    · intro other there
      rw [here] at there
      cases there
    · unfold Playback.produce
      simp only [here, running, valid, Bool.false_eq_true, if_false, if_true, advance, updated, Option.map_some]
  have tests : Moves pb fuel preloadSize producer { playback with viewer := middle, producer := .iterating message }
      { playback with viewer := middle, producer := .pushing message } := .test rfl running room
  have time : message.time + playback.loopNum.toUInt64 * loopTimeNs producer = message.time := by
    rw [started]
    simp
  have first : insertTask ⟨playback.pushed.length, message, message.time⟩ playback.buffer =
      ⟨playback.pushed.length, message, message.time⟩ :: front :: others := by
    rw [buffer]
    exact insertTask_first later
  have pushes : Moves pb fuel preloadSize producer { playback with viewer := middle, producer := .pushing message }
      { playback with
        viewer := middle
        producer := .stepping
        buffer := ⟨playback.pushed.length, message, message.time⟩ :: front :: others
        pushed := playback.pushed ++ [⟨playback.pushed.length, message, message.time⟩] } := by
    refine ⟨.produce, ?_, ?_⟩
    · intro other there
      cases there
      rw [started]
      exact Nat.lt_of_le_of_lt (Nat.le_of_eq (by simp)) message.time.toNat_lt
    · have writer := prepared.writers message List.mem_cons_self
      unfold step Playback.produce
      simp only [writer, if_true, push, time, first]
  have pops : Moves pb fuel preloadSize producer
      { playback with
        viewer := middle
        producer := .stepping
        buffer := ⟨playback.pushed.length, message, message.time⟩ :: front :: others
        pushed := playback.pushed ++ [⟨playback.pushed.length, message, message.time⟩] }
      { playback with
        viewer := middle
        producer := .stepping
        buffer := front :: others
        consumer := .idle
        pushed := playback.pushed ++ [⟨playback.pushed.length, message, message.time⟩]
        removed := playback.removed ++ [⟨playback.pushed.length, message, message.time⟩] } := by
    apply Moves.consume
    unfold consume
    simp only [holds]
  refine ⟨_, .head begins (.head tests (.head pushes (.single pops))),
    ⟨playback.pushed.length, message, message.time⟩, List.mem_append_right _ (List.mem_singleton.mpr rfl), ?_⟩
  intro member
  exact Nat.lt_irrefl _ (played _ member)

/-- Where `loop_num` wraps, the consumer removes a task that it has not played. -/
theorem Rests.wraps {message : SingleMessage} {rest : List SingleMessage} (rests : Rests producer playback)
    (prepared : Prepared pb fuel preloadSize producer (message :: rest)) (sorted : Sorted (message :: rest))
    (loops : producer.playParam.isLoopPlayback = true) (long : 0 < (loopTimeNs producer).toNat)
    (last : playback.loopNum.toNat = 2 ^ 32 - 1)
    (timely : ∀ other ∈ message :: rest,
      other.time.toNat + playback.loopNum.toNat * (loopTimeNs producer).toNat < 2 ^ 64) :
    ∃ next, Leads pb fuel preloadSize producer playback next ∧ ∃ task ∈ next.removed, task ∉ next.played := by
  obtain ⟨viewer, range, leads⟩ := rests.pushes prepared timely
  have size := (insertTasks_perm (tasksOf producer playback.loopNum playback.pushed.length (message :: rest)) []).length_eq
  have members : ∀ task ∈ insertTasks (tasksOf producer playback.loopNum playback.pushed.length (message :: rest)) [],
      task ∈ tasksOf producer playback.loopNum playback.pushed.length (message :: rest) :=
    fun task member => (insertTasks_perm ..).mem_iff.mp member
  rw [List.nil_append, length_tasksOf] at size
  obtain ⟨front, others, queue⟩ : ∃ front others,
      insertTasks (tasksOf producer playback.loopNum playback.pushed.length (message :: rest)) [] = front :: others := by
    apply List.exists_cons_of_length_pos
    rw [size]
    exact Nat.zero_lt_succ _
  rw [queue] at leads size members
  have later : ∀ task ∈ front :: others, message.time < task.msgPlayTimeNs := by
    intro task member
    obtain ⟨other, present, plays⟩ := (mem_tasksOf (members task member)).2
    have least : message.time ≤ other.time := by
      rcases List.mem_cons.mp present with rfl | present
      · exact UInt64.le_refl _
      · exact (List.pairwise_cons.mp sorted).1 other present
    have fits := timely other present
    have loop : 0 < playback.loopNum.toNat * (loopTimeNs producer).toNat := Nat.mul_pos (by omega) long
    apply UInt64.lt_iff_toNat_lt.mpr
    rw [plays, UInt64.toNat_add, UInt64.toNat_mul, UInt32.toNat_toUInt64, Nat.add_mod_mod, Nat.mod_eq_of_lt fits]
    exact Nat.lt_of_le_of_lt (UInt64.le_iff_toNat_le.mp least) (Nat.lt_add_of_pos_right loop)
  have wraps : playback.loopNum + 1 = 0 := by
    apply UInt32.toNat_inj.mp
    rw [UInt32.toNat_add, last]
    rfl
  let ended : Playback := { playback with
    viewer := viewer
    producer := .ended
    buffer := front :: others
    pushed := playback.pushed ++ tasksOf producer playback.loopNum playback.pushed.length (message :: rest) }
  have takes : Moves pb fuel preloadSize producer ended { ended with consumer := .holding front } := by
    apply Moves.consume
    unfold consume
    simp only [ended, rests.consumer, rests.consumerStopped, Bool.false_eq_true, if_false]
  have plays : Moves pb fuel preloadSize producer { ended with consumer := .holding front }
      { ended with consumer := .played front, played := playback.played ++ [front] } := .consume rfl
  let wrapped : Playback := { ended with
    loopNum := playback.loopNum + 1
    producer := .looping
    consumer := .played front
    played := playback.played ++ [front] }
  have again : Moves pb fuel preloadSize producer
      { ended with consumer := .played front, played := playback.played ++ [front] } wrapped := by
    apply Moves.produce
    · intro other there
      cases there
    · exact if_pos loops
  have numbered : ∀ task ∈ wrapped.played, task.number < wrapped.pushed.length := by
    intro task member
    rw [List.length_append, length_tasksOf]
    rcases List.mem_append.mp member with old | new
    · exact Nat.lt_add_right _ (rests.played task old)
    · rw [List.mem_singleton.mp new]
      exact (mem_tasksOf (members front List.mem_cons_self)).1
  obtain ⟨next, further, removed⟩ := @overtakes pb fuel preloadSize producer wrapped message rest front others prepared
    range rfl rests.producerStopped wraps rfl rfl (Nat.le_trans (Nat.le_of_eq size) prepared.room) later numbered
  exact ⟨next, leads.trans (.head takes (.head plays (.head again further))), removed⟩

end Playback

end CyberRT.Player

import Mathlib.Data.List.Pairwise
import CyberRT.Shm.Attachment
import CyberRT.Shm.ConditionNotifier

namespace CyberRT.Shm

open Execution

/-- A message by its writer and the `seq_num` of its MessageInfo; `number` is the one that `Notify` takes for it. -/
structure Sent (Writer : Type) where
  writer : Writer
  seqNum : Nat
  number : Nat
  deriving DecidableEq, Repr

/-- One channel: its segments with what their blocks hold, the notifications of all channels, and the dispatcher, which is
    the user `none` of the segments. `previousIndex` is `UINT32_MAX` before the first block. -/
structure ShmChannel (Writer : Type) where
  memory : SharedMemory (Option Writer) := {}
  blocks : Nat → Nat → Option (Sent Writer) := fun _ _ => none
  indicator : Indicator := {}
  seqNums : Writer → Nat := fun _ => 0
  notifier : ConditionNotifier := .init {}
  hasSegment : Bool := false
  previousIndex : UInt32 := 4294967295
  transmitted : List (Sent Writer) := []
  handed : List (Sent Writer) := []

/-- `notifyOther` is the notification of another channel or host, `iterate` a turn of the loop of `ThreadFunc`. -/
inductive ChannelEvent (Writer : Type) where
  | transmit (writer : Writer) (msgSize : Nat)
  | notifyOther (info : ReadableInfo)
  | addSegment
  | iterate
  deriving DecidableEq

namespace ShmChannel

variable {Writer : Type} [DecidableEq Writer] (hostId channelId : UInt64)

/-- The notifiers of the writers are not shut down. -/
def notify (indicator : Indicator) (info : ReadableInfo) : Indicator :=
  ((ConditionNotifier.init indicator).notify indicator info).2

/-- The segment that the process has mapped. -/
def mapped (memory : SharedMemory (Option Writer)) (process : Option Writer) : Option Nat := (memory.views process).state

def setBlock (blocks : Nat → Nat → Option (Sent Writer)) (id index : Nat) (sent : Sent Writer) :
    Nat → Nat → Option (Sent Writer) :=
  Function.update blocks id (Function.update (blocks id) index (some sent))

/-- `Transmitter::Transmit` with `ShmTransmitter::Transmit`. -/
def transmit (channel : ShmChannel Writer) (writer : Writer) (msgSize : Nat) : Option (ShmChannel Writer) :=
  let seqNum := channel.seqNums writer + 1
  let numbered := { channel with seqNums := Function.update channel.seqNums writer seqNum }
  (channel.memory.acquireBlockToWrite (some writer) msgSize).bind fun acquired =>
    match acquired.1 with
    | none => some { numbered with memory := acquired.2 }
    | some index =>
      (acquired.2.releaseBlock (some writer) index 1).bind fun memory => (mapped memory (some writer)).map fun id =>
        let sent : Sent Writer := ⟨writer, seqNum, channel.indicator.nextSeq⟩
        { numbered with
          memory := memory
          blocks := setBlock channel.blocks id index sent
          indicator := notify channel.indicator ⟨hostId, UInt32.ofNat index, channelId⟩
          transmitted := channel.transmitted ++ [sent] }

/-- What `ReadMessage` finds in the block, if it gets the block. -/
def found (channel : ShmChannel Writer) (blockIndex : UInt32) : Option (Sent Writer) :=
  let acquired := channel.memory.acquireBlockToRead none blockIndex.toNat
  if acquired.1 then (mapped acquired.2 none).bind fun id => channel.blocks id blockIndex.toNat else none

/-- A block that was never written has no MessageInfo, and nothing is handed over. -/
def readMessage (channel : ShmChannel Writer) (blockIndex : UInt32) : Option (ShmChannel Writer) :=
  let acquired := channel.memory.acquireBlockToRead none blockIndex.toNat
  if acquired.1 then
    (acquired.2.releaseBlock none blockIndex.toNat (-1)).map fun memory =>
      { channel with memory := memory, handed := channel.handed ++ (channel.found blockIndex).toList }
  else some { channel with memory := acquired.2 }

/-- The check of the block index against the previous one only logs. -/
def iterate (channel : ShmChannel Writer) : Option (ShmChannel Writer) :=
  match channel.notifier.listen channel.indicator 100 with
  | none => some channel
  | some (info, notifier) =>
    let heard := { channel with notifier := notifier }
    if info.hostId ≠ hostId ∨ info.channelId ≠ channelId ∨ heard.hasSegment = false then some heard
    else { heard with previousIndex := info.blockIndex }.readMessage info.blockIndex

def step (channel : ShmChannel Writer) : ChannelEvent Writer → Option (ShmChannel Writer)
  | .transmit writer msgSize => channel.transmit hostId channelId writer msgSize
  | .notifyOther info =>
    if info.hostId ≠ hostId ∨ info.channelId ≠ channelId then
      some { channel with indicator := notify channel.indicator info }
    else none
  | .addSegment => some { channel with hasSegment := true }
  | .iterate => channel.iterate hostId channelId

/-- Where the dispatcher goes on to read a block, it finds in it what the `Transmit` behind the notification has put there:
    no later one has written the block. -/
def FindsNotified (channel : ShmChannel Writer) : ChannelEvent Writer → Prop
  | .iterate => ∀ heard ∈ channel.notifier.listen channel.indicator 100,
      heard.1.hostId = hostId → heard.1.channelId = channelId → channel.hasSegment = true →
        ∀ sent ∈ channel.found heard.1.blockIndex, sent.number = heard.2.nextSeq - 1
  | _ => True

/-- What a listener is to get of a channel: nothing twice, and the messages of each writer in their order. -/
structure InOrderOnce (handed : List (Sent Writer)) : Prop where
  once : (handed.map fun sent => (sent.writer, sent.seqNum)).Nodup
  inOrder : handed.Pairwise fun earlier later => earlier.writer = later.writer → earlier.seqNum < later.seqNum

structure Ordered (channel : ShmChannel Writer) : Prop where
  sorted : ∀ earlier ∈ channel.transmitted, ∀ later ∈ channel.transmitted,
    earlier.number < later.number → earlier.writer = later.writer → earlier.seqNum < later.seqNum
  bounded : ∀ sent ∈ channel.transmitted,
    sent.number < channel.indicator.nextSeq ∧ sent.seqNum ≤ channel.seqNums sent.writer
  stored : ∀ id index sent, channel.blocks id index = some sent → sent ∈ channel.transmitted
  known : ∀ sent ∈ channel.handed, sent ∈ channel.transmitted ∧ sent.number < channel.notifier.nextSeq
  increasing : channel.handed.Pairwise fun earlier later => earlier.number < later.number

variable {hostId channelId} {channel next : ShmChannel Writer}

omit [DecidableEq Writer] in
theorem ordered_start : ({} : ShmChannel Writer).Ordered where
  sorted := by simp
  bounded := by simp
  stored := by simp
  known := by simp
  increasing := List.Pairwise.nil

omit [DecidableEq Writer] in
/-- A step that neither transmits nor hands over, with the dispatcher's place in the notifications going forward only. -/
theorem Ordered.frame (ordered : channel.Ordered) (transmitted : next.transmitted = channel.transmitted)
    (indicator : channel.indicator.nextSeq ≤ next.indicator.nextSeq)
    (seqNums : ∀ writer, channel.seqNums writer ≤ next.seqNums writer) (blocks : next.blocks = channel.blocks)
    (handed : next.handed = channel.handed) (notifier : channel.notifier.nextSeq ≤ next.notifier.nextSeq) :
    next.Ordered where
  sorted := by
    rw [transmitted]
    exact ordered.sorted
  bounded := by
    intro sent member
    rw [transmitted] at member
    obtain ⟨number, seqNum⟩ := ordered.bounded sent member
    exact ⟨Nat.lt_of_lt_of_le number indicator, Nat.le_trans seqNum (seqNums sent.writer)⟩
  stored := by
    rw [transmitted, blocks]
    exact ordered.stored
  known := by
    intro sent member
    rw [handed] at member
    rw [transmitted]
    obtain ⟨sentBefore, number⟩ := ordered.known sent member
    exact ⟨sentBefore, Nat.lt_of_lt_of_le number notifier⟩
  increasing := by
    rw [handed]
    exact ordered.increasing

theorem notify_nextSeq (indicator : Indicator) (info : ReadableInfo) :
    (notify indicator info).nextSeq = indicator.nextSeq + 1 := by
  simp [notify, ConditionNotifier.notify, ConditionNotifier.init, Indicator.fetchAdd, Indicator.writeInfo,
    Indicator.writeSeq]

theorem seqNums_le (seqNums : Writer → Nat) (writer other : Writer) :
    seqNums other ≤ Function.update seqNums writer (seqNums writer + 1) other := by
  by_cases same : other = writer
  · subst same
    rw [Function.update_self]
    exact Nat.le_succ _
  · rw [Function.update_of_ne same]

omit [DecidableEq Writer] in
theorem setBlock_some {blocks : Nat → Nat → Option (Sent Writer)} {id index other spot : Nat} {sent present : Sent Writer}
    (holds : setBlock blocks id index sent other spot = some present) :
    present = sent ∨ blocks other spot = some present := by
  unfold setBlock at holds
  by_cases segment : other = id
  · subst segment
    rw [Function.update_self] at holds
    by_cases same : spot = index
    · subst same
      rw [Function.update_self] at holds
      exact Or.inl (Option.some.inj holds).symm
    · rw [Function.update_of_ne same] at holds
      exact Or.inr holds
  · rw [Function.update_of_ne segment] at holds
    exact Or.inr holds

theorem Ordered.transmit {writer : Writer} {msgSize : Nat} (ordered : channel.Ordered)
    (taken : channel.transmit hostId channelId writer msgSize = some next) : next.Ordered := by
  unfold ShmChannel.transmit at taken
  obtain ⟨acquired, _, taken⟩ := Option.bind_eq_some_iff.mp taken
  split at taken
  · obtain rfl := Option.some.inj taken
    exact ordered.frame rfl (Nat.le_refl _) (seqNums_le _ writer) rfl rfl (Nat.le_refl _)
  · rename_i index _
    obtain ⟨memory, _, taken⟩ := Option.bind_eq_some_iff.mp taken
    obtain ⟨id, _, rfl⟩ := Option.map_eq_some_iff.mp taken
    have bounded := ordered.bounded
    apply Ordered.mk
    · intro earlier member later member' before same
      rcases List.mem_append.mp member with old | new
      · rcases List.mem_append.mp member' with old' | new'
        · exact ordered.sorted earlier old later old' before same
        · obtain rfl := List.mem_singleton.mp new'
          have counted := (bounded earlier old).2
          rw [same] at counted
          exact Nat.lt_succ_of_le counted
      · obtain rfl := List.mem_singleton.mp new
        rcases List.mem_append.mp member' with old' | new'
        · have counted := (bounded later old').1
          exact absurd before (Nat.not_lt_of_gt counted)
        · obtain rfl := List.mem_singleton.mp new'
          exact absurd before (Nat.lt_irrefl _)
    · intro sent member
      simp only [notify_nextSeq]
      rcases List.mem_append.mp member with old | new
      · have counted := bounded sent old
        exact ⟨Nat.lt_succ_of_lt counted.1, Nat.le_trans counted.2 (seqNums_le _ writer sent.writer)⟩
      · obtain rfl := List.mem_singleton.mp new
        exact ⟨Nat.lt_succ_self _, by rw [Function.update_self]⟩
    · intro other spot sent present
      rcases setBlock_some present with rfl | before
      · exact List.mem_append_right _ (List.mem_singleton_self _)
      · exact List.mem_append_left _ (ordered.stored other spot sent before)
    · intro sent member
      obtain ⟨sentBefore, number⟩ := ordered.known sent member
      exact ⟨List.mem_append_left _ sentBefore, number⟩
    · exact ordered.increasing

theorem found_transmitted (ordered : channel.Ordered) {blockIndex : UInt32} {sent : Sent Writer}
    (finds : channel.found blockIndex = some sent) : sent ∈ channel.transmitted := by
  unfold found at finds
  simp only at finds
  split at finds
  · obtain ⟨id, _, present⟩ := Option.bind_eq_some_iff.mp finds
    exact ordered.stored id _ sent present
  · cases finds

theorem Ordered.iterate (ordered : channel.Ordered) (finds : channel.FindsNotified hostId channelId .iterate)
    (taken : channel.iterate hostId channelId = some next) : next.Ordered := by
  unfold ShmChannel.iterate at taken
  split at taken
  · obtain rfl := Option.some.inj taken
    exact ordered
  · rename_i info notifier listened
    obtain ⟨_, ready, _, after⟩ := ConditionNotifier.listen_some listened
    have further : channel.notifier.nextSeq ≤ notifier.nextSeq - 1 ∧ 0 < notifier.nextSeq := by
      rw [after]
      exact ⟨ready, Nat.succ_pos _⟩
    have forward : channel.notifier.nextSeq ≤ notifier.nextSeq := Nat.le_trans further.1 (Nat.sub_le _ _)
    simp only at taken
    split at taken
    · obtain rfl := Option.some.inj taken
      exact ordered.frame rfl (Nat.le_refl _) (fun _ => Nat.le_refl _) rfl rfl forward
    · rename_i reads
      simp only [ne_eq, not_or, not_not, Bool.not_eq_false] at reads
      unfold ShmChannel.readMessage at taken
      simp only at taken
      split at taken
      · obtain ⟨memory, _, rfl⟩ := Option.map_eq_some_iff.mp taken
        have number : ∀ sent ∈ channel.found info.blockIndex, sent.number = notifier.nextSeq - 1 :=
          finds (info, notifier) listened reads.1 reads.2.1 reads.2.2
        apply Ordered.mk
        · exact ordered.sorted
        · exact ordered.bounded
        · exact ordered.stored
        · intro sent member
          rcases List.mem_append.mp member with old | new
          · obtain ⟨sentBefore, number⟩ := ordered.known sent old
            exact ⟨sentBefore, Nat.lt_of_lt_of_le number forward⟩
          · have found := Option.mem_toList.mp new
            have here : sent.number = notifier.nextSeq - 1 := number sent found
            refine ⟨found_transmitted ordered found, ?_⟩
            show sent.number < notifier.nextSeq
            omega
        · apply List.pairwise_append.mpr
          refine ⟨ordered.increasing, ?_, ?_⟩
          · cases ({ channel with notifier := notifier, previousIndex := info.blockIndex }.found info.blockIndex)
            · exact List.Pairwise.nil
            · exact List.pairwise_singleton _ _
          · intro earlier old later new
            have here : later.number = notifier.nextSeq - 1 := number later (Option.mem_toList.mp new)
            have before := (ordered.known earlier old).2
            omega
      · obtain rfl := Option.some.inj taken
        exact ordered.frame rfl (Nat.le_refl _) (fun _ => Nat.le_refl _) rfl rfl forward

theorem Ordered.step {event : ChannelEvent Writer} (finds : channel.FindsNotified hostId channelId event)
    (taken : step hostId channelId channel event = some next) (ordered : channel.Ordered) : next.Ordered := by
  cases event with
  | transmit writer msgSize => exact ordered.transmit taken
  | notifyOther info =>
    unfold ShmChannel.step at taken
    simp only at taken
    split at taken
    · obtain rfl := Option.some.inj taken
      have grown : channel.indicator.nextSeq ≤ (notify channel.indicator info).nextSeq := by
        rw [notify_nextSeq]
        exact Nat.le_succ _
      exact ordered.frame rfl grown (fun _ => Nat.le_refl _) rfl rfl (Nat.le_refl _)
    · cases taken
  | addSegment =>
    obtain rfl := Option.some.inj taken
    exact ordered.frame rfl (Nat.le_refl _) (fun _ => Nat.le_refl _) rfl rfl (Nat.le_refl _)
  | iterate => exact ordered.iterate finds taken

omit [DecidableEq Writer] in
theorem Ordered.inOrderOnce (ordered : channel.Ordered) : InOrderOnce channel.handed := by
  have inOrder : channel.handed.Pairwise fun earlier later =>
      earlier.writer = later.writer → earlier.seqNum < later.seqNum := by
    apply ordered.increasing.imp_of_mem
    intro earlier later member member' before
    exact ordered.sorted earlier (ordered.known earlier member).1 later (ordered.known later member').1 before
  apply InOrderOnce.mk _ inOrder
  apply List.pairwise_map.mpr
  apply inOrder.imp
  intro earlier later before same
  have strict := before (congrArg Prod.fst same)
  exact absurd (congrArg Prod.snd same) (Nat.ne_of_lt strict)

/-- Where the dispatcher never finds a block rewritten, it hands over every message at most once and the messages of each
    writer in their order. -/
theorem handed_inOrderOnce {events : List (ChannelEvent Writer)}
    (finds : Meets (step hostId channelId) (FindsNotified hostId channelId) {} events)
    (ran : run (step hostId channelId) {} events = some channel) : InOrderOnce channel.handed :=
  (Meets.preserves Ordered (fun _ _ _ => Ordered.step) ordered_start finds ran).inOrderOnce

instance (channel : ShmChannel Writer) :
    (event : ChannelEvent Writer) → Decidable (channel.FindsNotified hostId channelId event)
  | .iterate => inferInstanceAs (Decidable (∀ heard ∈ channel.notifier.listen channel.indicator 100,
      heard.1.hostId = hostId → heard.1.channelId = channelId → channel.hasSegment = true →
        ∀ sent ∈ channel.found heard.1.blockIndex, sent.number = heard.2.nextSeq - 1))
  | .transmit _ _ | .notifyOther _ | .addSegment => isTrue trivial

def keptUp : List (ChannelEvent Bool) :=
  [.addSegment, .transmit true 10, .transmit false 20, .iterate, .notifyOther ⟨1, 0, 9⟩, .iterate, .transmit true 30,
    .iterate, .iterate]

theorem keptUp_inOrderOnce : ∃ channel, run (step 1 2) {} keptUp = some channel ∧
    channel.handed.map Sent.number = [0, 1, 3] ∧ InOrderOnce channel.handed := by
  have reached : (run (step 1 2) {} keptUp).any (fun channel =>
      decide (channel.handed.map Sent.number = [0, 1, 3])) = true := by decide +kernel
  obtain ⟨channel, ran, numbers⟩ := (Option.any_eq_true _ _).mp reached
  have finds : Meets (step 1 2) (FindsNotified 1 2) ({} : ShmChannel Bool) keptUp := by decide +kernel
  exact ⟨channel, ran, of_decide_eq_true numbers, handed_inOrderOnce finds ran⟩

/-- One message more than the segment has blocks, before the dispatcher gets to the first one. -/
def laggedBehind : List (ChannelEvent Unit) :=
  .addSegment :: List.replicate 9 (.transmit () 20000000) ++ [.iterate, .iterate]

theorem laggedBehind_reorders : ¬∀ (events : List (ChannelEvent Unit)) channel, run (step 1 2) {} events = some channel →
    InOrderOnce channel.handed := by
  intro always
  have reached : (run (step 1 2) {} laggedBehind).any (fun channel =>
      decide (channel.handed.map Sent.seqNum = [9, 2])) = true := by decide +kernel
  obtain ⟨channel, ran, facts⟩ := (Option.any_eq_true _ _).mp reached
  have seqNums := of_decide_eq_true facts
  have inOrder := (always laggedBehind channel ran).inOrder
  have sorted : (channel.handed.map Sent.seqNum).Pairwise (· < ·) :=
    List.pairwise_map.mpr (inOrder.imp fun before => before rfl)
  rw [seqNums] at sorted
  exact absurd sorted (by decide)

end ShmChannel

end CyberRT.Shm

import Mathlib.Algebra.Order.Group.Nat
import CyberRT.Shm.Segment

namespace CyberRT.Shm

open Execution

/-- `MessageInfo::kSize`: two identities of 8 bytes and the sequence number. -/
def messageInfoKSize : Nat := 2 * 8 + 8

/-- What a process does next in `AcquireBlockToWrite` for a message of `msgSize` bytes; `writing` is what it returns true
    with. -/
inductive WriteStage where
  | idle
  | open (msgSize : Nat)
  | needRemap (msgSize : Nat)
  | remap (msgSize : Nat)
  | compare (msgSize : Nat) (result : Bool)
  | setNeedRemap (msgSize : Nat)
  | remove (msgSize : Nat)
  | openOrCreate (msgSize : Nat)
  | fetchAddSeq (msgSize : Nat)
  | tryLockForWrite (msgSize : Nat) (tryIdx : Nat)
  | writing (msgSize : Nat) (index : Nat)
  deriving DecidableEq, Repr

structure WriteCalls (Process : Type) where
  memory : SharedMemory Process := {}
  stages : Process → WriteStage := fun _ => .idle

/-- `next` is the next access of the process within `AcquireBlockToWrite`; the other calls are one step. `spurious` lets
    the weak exchange of `TryLockForWrite` fail. -/
inductive WriteCall (Process : Type) where
  | acquireBlockToWrite (process : Process) (msgSize : Nat)
  | next (process : Process) (spurious : Bool)
  | releaseWrittenBlock (process : Process)
  | acquireBlockToRead (process : Process) (index : Nat)
  | releaseReadBlock (process : Process) (index : Nat)
  | destroy (process : Process)
  deriving DecidableEq, Repr

namespace WriteCalls

variable {Process : Type} [DecidableEq Process]

def advance (calls : WriteCalls Process) (process : Process) (memory : SharedMemory Process) (stage : WriteStage) :
    WriteCalls Process :=
  ⟨memory, Function.update calls.stages process stage⟩

/-- The first accesses of `Recreate`, up to `Reset`. -/
def leave (memory : SharedMemory Process) (process : Process) : SharedMemory Process :=
  ((memory.setInit process false).setNeedRemap process).reset process

/-- The State is accessed through `state_`, which is null after a failed `Remap`. -/
def nextStep (calls : WriteCalls Process) (process : Process) (spurious : Bool) : Option (WriteCalls Process) :=
  let memory := calls.memory
  let view := memory.views process
  match calls.stages process with
  | .idle | .writing _ _ => none
  | .open msgSize =>
    let opened := memory.openToWrite process
    some (calls.advance process opened.2 (if opened.1 then .needRemap msgSize else .idle))
  | .needRemap msgSize => view.state.map fun id =>
    calls.advance process memory (if (memory.segments id).needRemap then .remap msgSize else .compare msgSize true)
  | .remap msgSize =>
    let remapped := memory.remap process
    some (calls.advance process remapped.2 (.compare msgSize remapped.1))
  | .compare msgSize result =>
    some (calls.advance process memory
      (if view.conf.ceilingMsgSize < msgSize then .setNeedRemap msgSize
        else if result then .fetchAddSeq msgSize else .idle))
  | .setNeedRemap msgSize => view.state.map fun _ => calls.advance process (leave memory process) (.remove msgSize)
  | .remove msgSize => some (calls.advance process memory.remove.2 (.openOrCreate msgSize))
  | .openOrCreate msgSize =>
    let opened := (memory.updateConf process msgSize).openOrCreate process
    some (calls.advance process opened.2 (if opened.1 then .fetchAddSeq msgSize else .idle))
  | .fetchAddSeq msgSize => view.state.map fun id =>
    let segment := memory.segments id
    calls.advance process (memory.setSegment id { segment with seq := segment.seq + 1 })
      (.tryLockForWrite msgSize (segment.seq % view.conf.blockNum))
  | .tryLockForWrite msgSize tryIdx => view.state.map fun id =>
    let segment := memory.segments id
    if segment.lockNum tryIdx = 0 ∧ spurious = false then
      calls.advance process
        (memory.setSegment id { segment with lockNum := Function.update segment.lockNum tryIdx (-1) })
        (.writing msgSize tryIdx)
    else calls.advance process memory (.fetchAddSeq msgSize)

def step (calls : WriteCalls Process) : WriteCall Process → Option (WriteCalls Process)
  | .acquireBlockToWrite process msgSize =>
    if calls.stages process = .idle then some (calls.advance process calls.memory (.open msgSize)) else none
  | .next process spurious => calls.nextStep process spurious
  | .releaseWrittenBlock process =>
    match calls.stages process with
    | .writing _ index => (calls.memory.releaseBlock process index 1).map fun memory => calls.advance process memory .idle
    | _ => none
  | .acquireBlockToRead process index =>
    if calls.stages process = .idle then
      some (calls.advance process (calls.memory.acquireBlockToRead process index).2 .idle)
    else none
  | .releaseReadBlock process index =>
    if calls.stages process = .idle then
      (calls.memory.releaseBlock process index (-1)).map fun memory => calls.advance process memory .idle
    else none
  | .destroy process =>
    if calls.stages process = .idle then some (calls.advance process (calls.memory.destroy process) .idle) else none

/-- The block that the process has acquired is one of a segment that it has mapped, and its buffer takes the message and
    the MessageInfo behind it. -/
def Roomy (calls : WriteCalls Process) (process : Process) (msgSize index : Nat) : Prop :=
  let view := calls.memory.views process
  view.init = true ∧ index < view.conf.blockNum ∧ msgSize + messageInfoKSize ≤ view.conf.blockBufSize ∧
    ∃ id, view.state = some id ∧ view.conf = .update (calls.memory.segments id).ceilingMsgSize

/-- The size class of the segment that an `OpenOrCreate` within `Recreate` opens or creates. -/
def recreatedCeiling (memory : SharedMemory Process) (msgSize : Nat) : Nat :=
  match memory.bound with
  | some id => (memory.segments id).ceilingMsgSize
  | none => ShmConf.getCeilingMessageSize msgSize

/-- The segment that `Recreate` is about to create or to open takes the message and its MessageInfo. -/
def RecreatesRoomy (calls : WriteCalls Process) : WriteCall Process → Prop
  | .next process _ =>
    match calls.stages process with
    | .openOrCreate msgSize =>
      msgSize + messageInfoKSize ≤ ShmConf.getBlockBufSize (recreatedCeiling calls.memory msgSize)
    | _ => True
  | _ => True

end WriteCalls

namespace ShmConf

/-- The size classes. -/
theorem getCeilingMessageSize_class (size : Nat) :
    getCeilingMessageSize size = messageSize16K ∨ getCeilingMessageSize size = messageSize128K ∨
      getCeilingMessageSize size = messageSize1M ∨ getCeilingMessageSize size = messageSize8M ∨
      getCeilingMessageSize size = messageSize16M ∨ getCeilingMessageSize size = messageSizeMore := by
  unfold getCeilingMessageSize
  repeat' split
  all_goals simp only [true_or, or_true]

theorem getCeilingMessageSize_idem (size : Nat) :
    getCeilingMessageSize (getCeilingMessageSize size) = getCeilingMessageSize size := by
  rcases getCeilingMessageSize_class size with same | same | same | same | same | same
  all_goals
    rw [same]
    decide

theorem update_blockNum_pos (size : Nat) : 0 < (ShmConf.update size).blockNum := by
  show 0 < getBlockNum (getCeilingMessageSize size)
  rcases getCeilingMessageSize_class size with same | same | same | same | same | same
  all_goals
    rw [same]
    decide

end ShmConf

end CyberRT.Shm

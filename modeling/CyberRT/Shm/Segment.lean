import Mathlib.Logic.Function.Basic
import CyberRT.Execution.Run

namespace CyberRT.Shm

open Execution

structure ShmConf where
  ceilingMsgSize : Nat
  blockBufSize : Nat
  blockNum : Nat
  managedShmSize : Nat
  deriving DecidableEq, Repr

namespace ShmConf

def extraSize : Nat := 1024 * 4

def stateSize : Nat := 1024

def blockSize : Nat := 1024

def messageInfoSize : Nat := 1024

def messageSize16K : Nat := 1024 * 16

def messageSize128K : Nat := 1024 * 128

def messageSize1M : Nat := 1024 * 1024

def messageSize8M : Nat := 1024 * 1024 * 8

def messageSize16M : Nat := 1024 * 1024 * 16

def messageSizeMore : Nat := 1024 * 1024 * 32

def getCeilingMessageSize (realMsgSize : Nat) : Nat :=
  if realMsgSize ≤ messageSize16K then messageSize16K
  else if realMsgSize ≤ messageSize128K then messageSize128K
  else if realMsgSize ≤ messageSize1M then messageSize1M
  else if realMsgSize ≤ messageSize8M then messageSize8M
  else if realMsgSize ≤ messageSize16M then messageSize16M
  else messageSizeMore

def getBlockBufSize (ceilingMsgSize : Nat) : Nat := ceilingMsgSize + messageInfoSize

def getBlockNum (ceilingMsgSize : Nat) : Nat :=
  if ceilingMsgSize = messageSize16K then 512
  else if ceilingMsgSize = messageSize128K then 128
  else if ceilingMsgSize = messageSize1M then 64
  else if ceilingMsgSize = messageSize8M then 32
  else if ceilingMsgSize = messageSize16M then 16
  else if ceilingMsgSize = messageSizeMore then 8
  else 0

def update (realMsgSize : Nat) : ShmConf :=
  let ceilingMsgSize := getCeilingMessageSize realMsgSize
  let blockBufSize := getBlockBufSize ceilingMsgSize
  let blockNum := getBlockNum ceilingMsgSize
  ⟨ceilingMsgSize, blockBufSize, blockNum, extraSize + stateSize + (blockSize + blockBufSize) * blockNum⟩

end ShmConf

/-- A segment of shared memory: its `State` and the `lock_num_` of its blocks. -/
structure SharedSegment where
  ceilingMsgSize : Nat := 0
  needRemap : Bool := false
  seq : Nat := 0
  referenceCount : Nat := 0
  lockNum : Nat → Int := fun _ => 0

/-- The `Segment` object of a process; `state_` is the number of the segment it points into. -/
structure Segment where
  init : Bool := false
  conf : ShmConf := .update ShmConf.messageSize16K
  state : Option Nat := none
  deriving DecidableEq, Repr

/-- The segments of one key, in the order they were created, the one that the key denotes, and the objects of the
    processes. -/
structure SharedMemory (Process : Type) where
  bound : Option Nat := none
  created : Nat := 0
  segments : Nat → SharedSegment := fun _ => {}
  views : Process → Segment := fun _ => {}

namespace SharedMemory

variable {Process : Type} [DecidableEq Process]

def setView (memory : SharedMemory Process) (process : Process) (view : Segment) : SharedMemory Process :=
  { memory with views := Function.update memory.views process view }

def setSegment (memory : SharedMemory Process) (id : Nat) (segment : SharedSegment) : SharedMemory Process :=
  { memory with segments := Function.update memory.segments id segment }

/-- Maps the segment and takes its configuration: the common end of `OpenOnly` and `OpenOrCreate`. -/
def attach (memory : SharedMemory Process) (process : Process) (id : Nat) : SharedMemory Process :=
  let segment := memory.segments id
  (memory.setSegment id { segment with referenceCount := segment.referenceCount + 1 }).setView process
    ⟨true, .update segment.ceilingMsgSize, some id⟩

def openOnly (memory : SharedMemory Process) (process : Process) : Bool × SharedMemory Process :=
  if (memory.views process).init then (true, memory)
  else match memory.bound with
    | some id => (true, memory.attach process id)
    | none => (false, memory)

def openOrCreate (memory : SharedMemory Process) (process : Process) : Bool × SharedMemory Process :=
  if (memory.views process).init then (true, memory)
  else match memory.bound with
    | some _ => memory.openOnly process
    | none =>
      let fresh : SharedSegment := { ceilingMsgSize := (memory.views process).conf.ceilingMsgSize }
      let named := { memory.setSegment memory.created fresh with
        bound := some memory.created, created := memory.created + 1 }
      (true, named.attach process memory.created)

def remove (memory : SharedMemory Process) : Bool × SharedMemory Process :=
  (memory.bound.isSome, { memory with bound := none })

def reset (memory : SharedMemory Process) (process : Process) : SharedMemory Process :=
  memory.setView process { memory.views process with state := none }

def setInit (memory : SharedMemory Process) (process : Process) (init : Bool) : SharedMemory Process :=
  memory.setView process { memory.views process with init := init }

def needRemap (memory : SharedMemory Process) (process : Process) : Bool :=
  match (memory.views process).state with
  | some id => (memory.segments id).needRemap
  | none => false

def setNeedRemap (memory : SharedMemory Process) (process : Process) : SharedMemory Process :=
  match (memory.views process).state with
  | some id => memory.setSegment id { memory.segments id with needRemap := true }
  | none => memory

def remap (memory : SharedMemory Process) (process : Process) : Bool × SharedMemory Process :=
  ((memory.setInit process false).reset process).openOnly process

def updateConf (memory : SharedMemory Process) (process : Process) (msgSize : Nat) : SharedMemory Process :=
  memory.setView process { memory.views process with conf := .update msgSize }

def recreate (memory : SharedMemory Process) (process : Process) (msgSize : Nat) : Bool × SharedMemory Process :=
  let left := ((memory.setInit process false).setNeedRemap process).reset process
  (left.remove.2.updateConf process msgSize).openOrCreate process

/-- The loop over `FetchAddSeq` and `TryLockForWrite`; `none` when no block is free, which keeps the loop going. -/
def getNextWritableBlockIndex (memory : SharedMemory Process) (process : Process) :
    Option (Nat × SharedMemory Process) :=
  (memory.views process).state.bind fun id =>
    let segment := memory.segments id
    let blockNum := (memory.views process).conf.blockNum
    let free := (List.range blockNum).find? fun tries => segment.lockNum ((segment.seq + tries) % blockNum) = 0
    free.map fun tries =>
      let index := (segment.seq + tries) % blockNum
      (index, memory.setSegment id { segment with
        seq := segment.seq + tries + 1, lockNum := Function.update segment.lockNum index (-1) })

def openToWrite (memory : SharedMemory Process) (process : Process) : Bool × SharedMemory Process :=
  if (memory.views process).init then (true, memory) else memory.openOrCreate process

def openToRead (memory : SharedMemory Process) (process : Process) : Bool × SharedMemory Process :=
  if (memory.views process).init then (true, memory) else memory.openOnly process

def remapIfNeeded (memory : SharedMemory Process) (process : Process) : Bool × SharedMemory Process :=
  if memory.needRemap process then memory.remap process else (true, memory)

def recreateIfLarger (memory : SharedMemory Process) (process : Process) (msgSize : Nat) :
    Bool × SharedMemory Process :=
  if (memory.views process).conf.ceilingMsgSize < msgSize then memory.recreate process msgSize else (true, memory)

/-- Returns the index of the block; a call whose `Remap` finds no segment stops there. -/
def acquireBlockToWrite (memory : SharedMemory Process) (process : Process) (msgSize : Nat) :
    Option (Option Nat × SharedMemory Process) :=
  let opened := memory.openToWrite process
  if opened.1 = false then some (none, opened.2)
  else
    let remapped := opened.2.remapIfNeeded process
    if remapped.1 = false then some (none, remapped.2)
    else
      let recreated := remapped.2.recreateIfLarger process msgSize
      if recreated.1 = false then some (none, recreated.2)
      else (recreated.2.getNextWritableBlockIndex process).map fun acquired => (some acquired.1, acquired.2)

def tryLockForRead (memory : SharedMemory Process) (process : Process) (index : Nat) : Bool × SharedMemory Process :=
  match (memory.views process).state with
  | none => (false, memory)
  | some id =>
    let segment := memory.segments id
    if segment.lockNum index < 0 then (false, memory)
    else (true, memory.setSegment id { segment with
      lockNum := Function.update segment.lockNum index (segment.lockNum index + 1) })

def acquireBlockToRead (memory : SharedMemory Process) (process : Process) (index : Nat) :
    Bool × SharedMemory Process :=
  let opened := memory.openToRead process
  if opened.1 = false then opened
  else if (opened.2.views process).conf.blockNum ≤ index then (false, opened.2)
  else
    let remapped := opened.2.remapIfNeeded process
    if remapped.1 = false then remapped else remapped.2.tryLockForRead process index

/-- `ReleaseWrittenBlock` and `ReleaseReadBlock` add 1 or -1 to the lock of a block; `none` without a mapping. -/
def releaseBlock (memory : SharedMemory Process) (process : Process) (index : Nat) (change : Int) :
    Option (SharedMemory Process) :=
  if (memory.views process).conf.blockNum ≤ index then some memory
  else (memory.views process).state.map fun id =>
    let segment := memory.segments id
    memory.setSegment id { segment with
      lockNum := Function.update segment.lockNum index (segment.lockNum index + change) }

def decreaseReferenceCounts (memory : SharedMemory Process) (id : Nat) : SharedMemory Process :=
  let segment := memory.segments id
  memory.setSegment id { segment with referenceCount := segment.referenceCount - 1 }

def destroy (memory : SharedMemory Process) (process : Process) : SharedMemory Process :=
  if (memory.views process).init then
    match (memory.views process).state with
    | none => memory.setInit process false
    | some id =>
      let left := (memory.setInit process false).decreaseReferenceCounts id
      if (left.segments id).referenceCount = 0 then left.remove.2 else left
  else memory

end SharedMemory

inductive SegmentEvent (Process : Type) where
  | acquireBlockToWrite (process : Process) (msgSize : Nat)
  | acquireBlockToRead (process : Process) (index : Nat)
  | releaseWrittenBlock (process : Process) (index : Nat)
  | releaseReadBlock (process : Process) (index : Nat)
  | destroy (process : Process)
  deriving DecidableEq, Repr

namespace SharedMemory

variable {Process : Type} [DecidableEq Process]

def step (memory : SharedMemory Process) : SegmentEvent Process → Option (SharedMemory Process)
  | .acquireBlockToWrite process msgSize => (memory.acquireBlockToWrite process msgSize).map Prod.snd
  | .acquireBlockToRead process index => some (memory.acquireBlockToRead process index).2
  | .releaseWrittenBlock process index => memory.releaseBlock process index 1
  | .releaseReadBlock process index => memory.releaseBlock process index (-1)
  | .destroy process => some (memory.destroy process)

end SharedMemory

end CyberRT.Shm

import CyberRT.Bytes.Buffer
import CyberRT.Bytes.File
import CyberRT.Shm.WriteCalls

namespace CyberRT.Shm

open Execution

def idSize : Nat := 8

/-- The `data_` of an `Identity`. -/
structure Identity where
  data : List UInt8
  size : data.length = idSize
  deriving DecidableEq, Repr

/-- What a `MessageInfo` serializes; `channel_id_` stays behind. -/
structure MessageInfo where
  senderId : Identity
  seqNum : UInt64
  spareId : Identity
  deriving DecidableEq, Repr

namespace MessageInfo

def serializeTo (info : MessageInfo) : List UInt8 :=
  info.senderId.data ++ (Bytes.encode 8 info.seqNum.toNat ++ info.spareId.data)

@[simp] theorem length_serializeTo (info : MessageInfo) : info.serializeTo.length = messageInfoKSize := by
  simp [serializeTo, info.senderId.size, info.spareId.size, messageInfoKSize, idSize]

/-- The size is the one that the caller gives, which must be `kSize`. -/
def deserializeFrom (src : List UInt8) (len : Nat) : Option MessageInfo :=
  if size : src.length = messageInfoKSize ∧ len = messageInfoKSize then
    some {
      senderId := ⟨src.take 8, by simp [size.1, messageInfoKSize, idSize]⟩
      seqNum := UInt64.ofNat (Bytes.decode ((src.drop 8).take 8))
      spareId := ⟨src.drop 16, by simp [size.1, messageInfoKSize, idSize]⟩ }
  else none

theorem deserializeFrom_serializeTo (info : MessageInfo) :
    deserializeFrom info.serializeTo messageInfoKSize = some info := by
  obtain ⟨⟨sender, senderSize⟩, seqNum, ⟨spare, spareSize⟩⟩ := info
  have sender8 : sender.length = 8 := senderSize
  have seq8 : (Bytes.encode 8 seqNum.toNat).length = 8 := Bytes.length_encode _ _
  have seq : UInt64.ofNat (Bytes.decode (Bytes.encode 8 seqNum.toNat)) = seqNum := by
    rw [Bytes.decode_encode seqNum.toNat_lt, UInt64.ofNat_toNat]
  unfold deserializeFrom
  rw [dif_pos ⟨length_serializeTo _, rfl⟩]
  simp [serializeTo, List.take_left' sender8, List.drop_left' sender8, List.drop_append, sender8, seq8, seq]

end MessageInfo

structure Block where
  lockNum : Int := 0
  msgSize : Nat := 0
  msgInfoSize : Nat := 0
  buf : Bytes.Buffer

/-- What one call of `Transmit` sends: the serialized message and its MessageInfo. -/
structure Transmission where
  payload : List UInt8
  info : MessageInfo
  deriving DecidableEq, Repr

/-- What a writer does next in `Transmit`. -/
inductive TransmitPoint where
  | idle
  | fetchAddSeq (sent : Transmission)
  | tryLockForWrite (sent : Transmission) (index : Nat)
  | serializeToArray (sent : Transmission) (index : Nat)
  | setMsgSize (sent : Transmission) (index : Nat)
  | serializeTo (sent : Transmission) (index : Nat)
  | setMsgInfoSize (sent : Transmission) (index : Nat)
  | releaseWriteLock (sent : Transmission) (index : Nat)
  | notify (sent : Transmission) (index : Nat)
  deriving DecidableEq, Repr

/-- What a dispatcher does next in `ReadMessage`: the exchange of `TryLockForRead`, the accesses of `ReadMessage` itself and
    those of the adapter that every listener is wrapped in. -/
inductive ReadPoint where
  | idle
  | loadLockNum (index tryTimes : Nat)
  | exchangeLockNum (index tryTimes : Nat) (lockNum : Int)
  | msgSize (index : Nat)
  | msgInfoSize (index addr : Nat)
  | deserializeFrom (index addr len : Nat)
  | onMessage (index : Nat) (info : MessageInfo)
  | parseFromArray (index : Nat) (info : MessageInfo) (size : Nat)
  | releaseReadLock (index : Nat)
  deriving DecidableEq, Repr

/-- The block that the writer holds exclusively. -/
def TransmitPoint.block : TransmitPoint → Option Nat
  | .serializeToArray _ index | .setMsgSize _ index | .serializeTo _ index | .setMsgInfoSize _ index
  | .releaseWriteLock _ index => some index
  | .idle | .fetchAddSeq _ | .tryLockForWrite _ _ | .notify _ _ => none

/-- The block that the reader shares. -/
def ReadPoint.block : ReadPoint → Option Nat
  | .msgSize index | .msgInfoSize index _ | .deserializeFrom index _ _ | .onMessage index _ | .parseFromArray index _ _
  | .releaseReadLock index => some index
  | .idle | .loadLockNum _ _ | .exchangeLockNum _ _ _ => none

/-- One segment, its writers and its readers. -/
structure SegmentUse (Writer Reader : Type) where
  seq : Nat := 0
  blocks : Nat → Block
  writer : Writer → TransmitPoint := fun _ => .idle
  reader : Reader → ReadPoint := fun _ => .idle
  transmitted : List Transmission := []
  notified : List Nat := []
  handed : List Transmission := []

/-- `writer` and `reader` are the next access of that process; the flag lets a weak exchange fail, or runs one more
    listener. -/
inductive UseEvent (Writer Reader : Type) where
  | transmit (writer : Writer) (sent : Transmission)
  | writer (writer : Writer) (spurious : Bool)
  | readMessage (reader : Reader) (index : Nat)
  | reader (reader : Reader) (choice : Bool)
  deriving DecidableEq

def kMaxTryLockTimes : Nat := 5

namespace SegmentUse

variable {Writer Reader : Type} [DecidableEq Writer] [DecidableEq Reader] (conf : ShmConf)
  (use : SegmentUse Writer Reader)

def toWriter (writer : Writer) (point : TransmitPoint) : SegmentUse Writer Reader :=
  { use with writer := Function.update use.writer writer point }

def toReader (reader : Reader) (point : ReadPoint) : SegmentUse Writer Reader :=
  { use with reader := Function.update use.reader reader point }

def setBlock (index : Nat) (block : Block) : SegmentUse Writer Reader :=
  { use with blocks := Function.update use.blocks index block }

/-- A larger message makes the writer leave the segment. -/
def transmit (writer : Writer) (sent : Transmission) : Option (SegmentUse Writer Reader) :=
  if use.writer writer = .idle ∧ sent.payload.length ≤ conf.ceilingMsgSize then
    some { use.toWriter writer (.fetchAddSeq sent) with transmitted := use.transmitted ++ [sent] }
  else none

def writerStep (writer : Writer) (spurious : Bool) : Option (SegmentUse Writer Reader) :=
  match use.writer writer with
  | .idle => none
  | .fetchAddSeq sent =>
    some { use.toWriter writer (.tryLockForWrite sent (use.seq % conf.blockNum)) with seq := use.seq + 1 }
  | .tryLockForWrite sent index =>
    let block := use.blocks index
    if block.lockNum = 0 ∧ spurious = false then
      some ((use.setBlock index { block with lockNum := -1 }).toWriter writer (.serializeToArray sent index))
    else some (use.toWriter writer (.fetchAddSeq sent))
  | .serializeToArray sent index =>
    let block := use.blocks index
    some ((use.setBlock index { block with buf := block.buf.write 0 sent.payload }).toWriter writer
      (.setMsgSize sent index))
  | .setMsgSize sent index =>
    some ((use.setBlock index { use.blocks index with msgSize := sent.payload.length }).toWriter writer
      (.serializeTo sent index))
  | .serializeTo sent index =>
    let block := use.blocks index
    some ((use.setBlock index { block with
      buf := block.buf.write sent.payload.length sent.info.serializeTo }).toWriter writer (.setMsgInfoSize sent index))
  | .setMsgInfoSize sent index =>
    some ((use.setBlock index { use.blocks index with msgInfoSize := messageInfoKSize }).toWriter writer
      (.releaseWriteLock sent index))
  | .releaseWriteLock sent index =>
    let block := use.blocks index
    some ((use.setBlock index { block with lockNum := block.lockNum + 1 }).toWriter writer (.notify sent index))
  | .notify _ index => some { use.toWriter writer .idle with notified := use.notified ++ [index] }

def readMessage (reader : Reader) (index : Nat) : Option (SegmentUse Writer Reader) :=
  if use.reader reader = .idle then
    some (use.toReader reader (if conf.blockNum ≤ index then .idle else .loadLockNum index 0))
  else none

def readerStep (reader : Reader) (choice : Bool) : Option (SegmentUse Writer Reader) :=
  match use.reader reader with
  | .idle => none
  | .loadLockNum index tryTimes =>
    let lockNum := (use.blocks index).lockNum
    some (use.toReader reader (if lockNum < 0 then .idle else .exchangeLockNum index tryTimes lockNum))
  | .exchangeLockNum index tryTimes lockNum =>
    let block := use.blocks index
    if block.lockNum = lockNum ∧ choice = false then
      some ((use.setBlock index { block with lockNum := lockNum + 1 }).toReader reader (.msgSize index))
    else some (use.toReader reader
      (if tryTimes + 1 = kMaxTryLockTimes then .idle else .loadLockNum index (tryTimes + 1)))
  | .msgSize index => some (use.toReader reader (.msgInfoSize index (use.blocks index).msgSize))
  | .msgInfoSize index addr => some (use.toReader reader (.deserializeFrom index addr (use.blocks index).msgInfoSize))
  | .deserializeFrom index addr len =>
    some (use.toReader reader
      (match MessageInfo.deserializeFrom ((use.blocks index).buf.read addr messageInfoKSize) len with
      | some info => .onMessage index info
      | none => .releaseReadLock index))
  | .onMessage index info =>
    some (use.toReader reader
      (if choice then .parseFromArray index info (use.blocks index).msgSize else .releaseReadLock index))
  | .parseFromArray index info size =>
    some { use.toReader reader (.onMessage index info) with
      handed := use.handed ++ [⟨(use.blocks index).buf.read 0 size, info⟩] }
  | .releaseReadLock index =>
    let block := use.blocks index
    some ((use.setBlock index { block with lockNum := block.lockNum - 1 }).toReader reader .idle)

def step (conf : ShmConf) (use : SegmentUse Writer Reader) : UseEvent Writer Reader → Option (SegmentUse Writer Reader)
  | .transmit writer sent => use.transmit conf writer sent
  | .writer writer spurious => use.writerStep conf writer spurious
  | .readMessage reader index => use.readMessage conf reader index
  | .reader reader choice => use.readerStep reader choice

/-- A new segment, with whatever the memory held. -/
def start (garbage : Nat → Bytes.Buffer) : SegmentUse Writer Reader where
  blocks index := { buf := garbage index }

end SegmentUse

end CyberRT.Shm

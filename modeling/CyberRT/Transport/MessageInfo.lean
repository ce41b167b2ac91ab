import CyberRT.Shm.BlockSteps

namespace CyberRT.Transport

open Bytes

/-- The bytes of `data_` with their hash; an identity that is not generated has zeros and no hash. -/
structure Identity extends Shm.Identity where
  hashValue : UInt64
  deriving DecidableEq, Repr

namespace Identity

def blank : Identity := ⟨⟨List.replicate Shm.idSize 0, by simp⟩, 0⟩

/-- `set_data` with the eight bytes at a position of a memory, and `Update`. -/
def setData (hash : List UInt8 → UInt64) (memory : Buffer) (pos : Nat) : Identity :=
  ⟨⟨memory.read pos Shm.idSize, by simp⟩, hash (memory.read pos Shm.idSize)⟩

/-- `operator==` compares the bytes. -/
def Same (identity other : Identity) : Prop := identity.data = other.data

end Identity

structure MessageInfo where
  senderId : Identity
  channelId : UInt64 := 0
  seqNum : UInt64
  spareId : Identity
  deriving DecidableEq, Repr

/-- The member of a listener before its first message. -/
def MessageInfo.blank : MessageInfo := { senderId := .blank, seqNum := 0, spareId := .blank }

namespace MessageInfo

def kSize : Nat := 2 * Shm.idSize + 8

def bytes (info : MessageInfo) : List UInt8 := info.senderId.data ++ encode 8 info.seqNum.toNat ++ info.spareId.data

/-- What `SerializeTo` leaves in the string that it is given, and whether there is one. -/
def serializeToString (info : MessageInfo) : Option (List UInt8) → Bool × Option (List UInt8)
  | none => (false, none)
  | some _ => (true, some info.bytes)

/-- The overload of `SerializeTo` for memory of a given length. -/
def serializeToArray (info : MessageInfo) (dst : Option Buffer) (len : Nat) : Bool × Option Buffer :=
  match dst with
  | none => (false, none)
  | some dst =>
    if len < kSize then (false, some dst)
    else
      let dst := dst.write 0 info.senderId.data
      let dst := dst.write Shm.idSize (encode 8 info.seqNum.toNat)
      (true, some (dst.write (Shm.idSize + 8) info.spareId.data))

def deserializeFromArray (hash : List UInt8 → UInt64) (info : MessageInfo) (src : Option Buffer) (len : Nat) :
    Bool × MessageInfo :=
  match src with
  | none => (false, info)
  | some src =>
    if len ≠ kSize then (false, info)
    else (true, { info with
      senderId := .setData hash src 0
      seqNum := UInt64.ofNat (decode (src.read Shm.idSize 8))
      spareId := .setData hash src (Shm.idSize + 8) })

def deserializeFromString (hash : List UInt8 → UInt64) (info : MessageInfo) (src : List UInt8) : Bool × MessageInfo :=
  info.deserializeFromArray hash (some (.ofList src)) src.length

/-- What travels with a message; `channel_id_` stays behind. -/
structure Recovers (info received : MessageInfo) : Prop where
  senderId : received.senderId.Same info.senderId
  spareId : received.spareId.Same info.spareId
  seqNum : received.seqNum = info.seqNum

end MessageInfo

/-- `SampleIdentity` of the middleware in memory: the `writer_guid` of 16 bytes and the two halves of the
    `sequence_number` behind it. -/
structure SampleIdentity where
  memory : Buffer

namespace SampleIdentity

def guidSize : Nat := 16

def setHigh (identity : SampleIdentity) (high : Int32) : SampleIdentity :=
  ⟨identity.memory.write guidSize (encode 4 high.toUInt32.toNat)⟩

def high (identity : SampleIdentity) : Int32 := (UInt32.ofNat (decode (identity.memory.read guidSize 4))).toInt32

def setLow (identity : SampleIdentity) (low : UInt32) : SampleIdentity :=
  ⟨identity.memory.write (guidSize + 4) (encode 4 low.toNat)⟩

def low (identity : SampleIdentity) : UInt32 := UInt32.ofNat (decode (identity.memory.read (guidSize + 4) 4))

end SampleIdentity

structure RtpsTransmitter where
  enabled : Bool
  isShutdown : Bool

/-- What `RtpsTransmitter::Transmit` hands to `publisher_->write`. `serialized` is what `SerializeToString` makes of the
    message, and `related` the identity that the `WriteParams` have at first. -/
def RtpsTransmitter.transmit (transmitter : RtpsTransmitter) (serialized : Option (List UInt8)) (related : SampleIdentity)
    (info : MessageInfo) : Option (List UInt8 × SampleIdentity) :=
  if transmitter.enabled = false then none
  else serialized.bind fun data =>
    let related : SampleIdentity := ⟨related.memory.write 0 info.senderId.data⟩
    let related : SampleIdentity := ⟨related.memory.write Shm.idSize info.spareId.data⟩
    let related := related.setHigh ((info.seqNum &&& 0xFFFFFFFF00000000) >>> 32).toUInt32.toInt32
    let related := related.setLow (info.seqNum &&& 0xFFFFFFFF).toUInt32.toInt32.toUInt32
    if transmitter.isShutdown then none else some (data, related)

/-- A sample that `takeNextData` takes. -/
structure UnderlaySample where
  data : List UInt8
  alive : Bool
  relatedSampleIdentity : SampleIdentity

/-- The subscriber of a topic with the sample that is next. -/
structure Subscriber where
  topicName : List UInt8
  next : Option UnderlaySample

structure SubListener where
  callback : Bool
  msgInfo : MessageInfo := .blank

/-- What the callback is called with. -/
structure Notification where
  channelId : UInt64
  msgStr : List UInt8
  msgInfo : MessageInfo

/-- `SubListener::onNewDataMessage`. -/
def SubListener.onNewDataMessage (hash : List UInt8 → UInt64) (listener : SubListener) (sub : Option Subscriber) :
    SubListener × Option Notification :=
  match sub with
  | none => (listener, none)
  | some sub =>
    if listener.callback = false then (listener, none)
    else
      match sub.next with
      | none => (listener, none)
      | some sample =>
        if sample.alive = false then (listener, none)
        else
          let related := sample.relatedSampleIdentity
          let seqNum := ((related.high.toInt64 <<< 32) ||| related.low.toUInt64.toInt64).toUInt64
          let msgInfo := { listener.msgInfo with
            senderId := .setData hash related.memory 0
            spareId := .setData hash related.memory Shm.idSize
            seqNum := seqNum }
          ({ listener with msgInfo }, some ⟨hash sub.topicName, sample.data, msgInfo⟩)

theorem toBitVec_high (seqNum : UInt64) :
    (((seqNum &&& 0xFFFFFFFF00000000) >>> 32).toUInt32.toInt32).toBitVec = (seqNum.toBitVec >>> 32).setWidth 32 := by
  have mask : ∀ i : Fin 32, (18446744069414584320#64).getLsbD (32 + i) = true := by decide
  apply BitVec.eq_of_getLsbD_eq
  intro i below
  simp [mask ⟨i, below⟩]

theorem toBitVec_low (seqNum : UInt64) :
    ((seqNum &&& 0xFFFFFFFF).toUInt32.toInt32.toUInt32).toBitVec = seqNum.toBitVec.setWidth 32 := by
  have mask : ∀ i : Fin 32, (4294967295#32).getLsbD i = true := by decide
  apply BitVec.eq_of_getLsbD_eq
  intro i below
  simp [mask ⟨i, below⟩]

/-- The halves of a number that are put together again. The sign of the high half is shifted out. -/
theorem join_halves {seqNum : UInt64} {high : Int32} {low : UInt32}
    (upper : high.toBitVec = (seqNum.toBitVec >>> 32).setWidth 32) (lower : low.toBitVec = seqNum.toBitVec.setWidth 32) :
    ((high.toInt64 <<< 32) ||| low.toUInt64.toInt64).toUInt64 = seqNum := by
  apply UInt64.toBitVec_inj.mp
  apply BitVec.eq_of_getLsbD_eq
  intro i below
  show (high.toInt64 <<< 32 ||| low.toUInt64.toInt64).toBitVec.getLsbD i = seqNum.toBitVec.getLsbD i
  rw [Int64.toBitVec_or, Int64.toBitVec_shiftLeft]
  by_cases first : i < 32
  · simp [lower, first, below]
  · have within : i - 32 < 32 := by omega
    have inside : i - 32 < 64 := by omega
    have place : 32 + (i - 32) = i := by omega
    have bit : (BitVec.signExtend 64 high.toBitVec).getLsbD (i - 32) = seqNum.toBitVec.getLsbD i := by
      rw [BitVec.getLsbD_signExtend, if_pos within, upper, BitVec.getLsbD_setWidth, BitVec.getLsbD_ushiftRight, place]
      simp [within, inside]
    have beyond : low.toBitVec.getLsbD i = false := BitVec.getLsbD_of_ge _ _ (by omega)
    simpa [first, below, beyond, inside] using bit

namespace MessageInfo

variable (hash : List UInt8 → UInt64) (info received : MessageInfo)

theorem length_bytes : info.bytes.length = kSize := by
  simp [bytes, kSize, info.senderId.size, info.spareId.size, Shm.idSize]

/-- The shared memory model sends the same bytes. -/
theorem bytes_eq_serializeTo :
    info.bytes = Shm.MessageInfo.serializeTo ⟨info.senderId.toIdentity, info.seqNum, info.spareId.toIdentity⟩ := by
  rw [bytes, Shm.MessageInfo.serializeTo, List.append_assoc]

theorem serializeToArray_eq (dst : Buffer) {len : Nat} (room : kSize ≤ len) :
    ∃ written, info.serializeToArray (some dst) len = (true, some written) ∧ written.read 0 kSize = info.bytes ∧
      ∀ pos, kSize ≤ pos → written pos = dst pos := by
  have sender : info.senderId.data.length = Shm.idSize := info.senderId.size
  have spare : info.spareId.data.length = Shm.idSize := info.spareId.size
  have number : (encode 8 info.seqNum.toNat).length = 8 := length_encode _ _
  have size : kSize = Shm.idSize + 8 + Shm.idSize := rfl
  refine ⟨_, by rw [serializeToArray, if_neg (by omega)], ?_, ?_⟩
  · rw [size, Buffer.read_add, Buffer.read_add, Nat.zero_add, Nat.zero_add]
    rw [Buffer.read_write_before _ _ _ _ _ (by omega), Buffer.read_write_before _ _ _ _ _ (by omega),
      Buffer.read_write_before _ _ _ _ _ (Nat.le_refl _)]
    have first := Buffer.read_write dst 0 info.senderId.data
    have second := Buffer.read_write (dst.write 0 info.senderId.data) Shm.idSize (encode 8 info.seqNum.toNat)
    have third := Buffer.read_write ((dst.write 0 info.senderId.data).write Shm.idSize (encode 8 info.seqNum.toNat))
      (Shm.idSize + 8) info.spareId.data
    rw [sender] at first
    rw [number] at second
    rw [spare] at third
    rw [first, second, third, bytes]
  · intro pos behind
    rw [Buffer.write_outside _ (by omega), Buffer.write_outside _ (by omega), Buffer.write_outside _ (by omega)]

/-- A memory that starts with the bytes of an info is read back. -/
theorem deserializeFromArray_eq {src : Buffer} (holds : src.read 0 kSize = info.bytes) :
    ∃ found, received.deserializeFromArray hash (some src) kSize = (true, found) ∧ info.Recovers found := by
  have size : kSize = Shm.idSize + 8 + Shm.idSize := rfl
  rw [size, Buffer.read_add, Buffer.read_add, Nat.zero_add, Nat.zero_add, bytes] at holds
  obtain ⟨front, spare⟩ := List.append_inj holds (by simp [info.senderId.size])
  obtain ⟨sender, number⟩ := List.append_inj front (by simp [info.senderId.size])
  refine ⟨_, by rw [deserializeFromArray, if_neg (not_not.mpr rfl)], ?_, ?_, ?_⟩
  · exact sender
  · exact spare
  show UInt64.ofNat (decode (src.read Shm.idSize 8)) = info.seqNum
  rw [number, decode_encode info.seqNum.toNat_lt, UInt64.ofNat_toNat]

theorem deserializeFromArray_accepts (src : Buffer) (len : Nat) :
    (received.deserializeFromArray hash (some src) len).1 = true ↔ len = kSize := by
  rw [deserializeFromArray]
  by_cases size : len = kSize
  · simp [size]
  · simp [size]

end MessageInfo

/-- What an enabled transmitter writes into the sample identity is read back by the listener of the topic. -/
theorem onNewDataMessage_transmit (hash : List UInt8 → UInt64) (info received : MessageInfo) (related : SampleIdentity)
    (topicName data : List UInt8) :
    ∃ sample, RtpsTransmitter.transmit ⟨true, false⟩ (some data) related info = some (data, sample) ∧
      ∃ found, (SubListener.onNewDataMessage hash ⟨true, received⟩ (some ⟨topicName, some ⟨data, true, sample⟩⟩)).2 =
        some ⟨hash topicName, data, found⟩ ∧ info.Recovers found := by
  have sender : info.senderId.data.length = Shm.idSize := info.senderId.size
  have spare : info.spareId.data.length = Shm.idSize := info.spareId.size
  have guid : SampleIdentity.guidSize = Shm.idSize + Shm.idSize := rfl
  let high := ((info.seqNum &&& 0xFFFFFFFF00000000) >>> 32).toUInt32.toInt32
  let low := (info.seqNum &&& 0xFFFFFFFF).toUInt32.toInt32.toUInt32
  let withSender := related.memory.write 0 info.senderId.data
  let withSpare := withSender.write Shm.idSize info.spareId.data
  let withHigh := withSpare.write SampleIdentity.guidSize (encode 4 high.toUInt32.toNat)
  let sample : SampleIdentity := ⟨withHigh.write (SampleIdentity.guidSize + 4) (encode 4 low.toNat)⟩
  refine ⟨sample, rfl, _, rfl, ?_, ?_, ?_⟩
  · show sample.memory.read 0 Shm.idSize = info.senderId.data
    rw [Buffer.read_write_before _ _ _ _ _ (by omega), Buffer.read_write_before _ _ _ _ _ (by omega),
      Buffer.read_write_before _ _ _ _ _ (by omega), ← sender]
    exact Buffer.read_write related.memory 0 info.senderId.data
  · show sample.memory.read Shm.idSize Shm.idSize = info.spareId.data
    rw [Buffer.read_write_before _ _ _ _ _ (by omega), Buffer.read_write_before _ _ _ _ _ (by omega)]
    have here := Buffer.read_write withSender Shm.idSize info.spareId.data
    rwa [spare] at here
  · have upper : sample.high = high := by
      have here := Buffer.read_write withSpare SampleIdentity.guidSize (encode 4 high.toUInt32.toNat)
      rw [length_encode] at here
      unfold SampleIdentity.high
      rw [Buffer.read_write_before _ _ _ _ _ (Nat.le_refl _), here, decode_encode high.toUInt32.toNat_lt,
        UInt32.ofNat_toNat]
      rfl
    have lower : sample.low = low := by
      have here := Buffer.read_write withHigh (SampleIdentity.guidSize + 4) (encode 4 low.toNat)
      rw [length_encode] at here
      unfold SampleIdentity.low
      rw [here, decode_encode low.toNat_lt, UInt32.ofNat_toNat]
    show ((sample.high.toInt64 <<< 32) ||| sample.low.toUInt64.toInt64).toUInt64 = info.seqNum
    rw [upper, lower]
    exact join_halves (toBitVec_high info.seqNum) (toBitVec_low info.seqNum)

/-- Both overloads of `SerializeTo` make the same `kSize` bytes, `DeserializeFrom` takes inputs of just that size, and an
    info gets through the shared memory and through the sample identity alike. -/
theorem infos_recovered (hash : List UInt8 → UInt64) (info received : MessageInfo) :
    info.bytes.length = MessageInfo.kSize ∧
    (∀ dst, info.serializeToString (some dst) = (true, some info.bytes)) ∧
    (∀ dst len, MessageInfo.kSize ≤ len → ∃ written, info.serializeToArray (some dst) len = (true, some written) ∧
      written.read 0 MessageInfo.kSize = info.bytes ∧
      ∃ found, received.deserializeFromArray hash (some written) MessageInfo.kSize = (true, found) ∧
        info.Recovers found) ∧
    (∃ found, received.deserializeFromString hash info.bytes = (true, found) ∧ info.Recovers found) ∧
    (∀ src len, (received.deserializeFromArray hash (some src) len).1 = true ↔ len = MessageInfo.kSize) ∧
    (∀ src, (received.deserializeFromString hash src).1 = true ↔ src.length = MessageInfo.kSize) ∧
    ∀ related topicName data,
      ∃ sample, RtpsTransmitter.transmit ⟨true, false⟩ (some data) related info = some (data, sample) ∧
        ∃ found, (SubListener.onNewDataMessage hash ⟨true, received⟩ (some ⟨topicName, some ⟨data, true, sample⟩⟩)).2 =
          some ⟨hash topicName, data, found⟩ ∧ info.Recovers found := by
  have length := info.length_bytes
  refine ⟨length, fun _ => rfl, ?_, ?_, ?_, ?_, ?_⟩
  · intro dst len room
    obtain ⟨written, serialized, holds, _⟩ := info.serializeToArray_eq dst room
    exact ⟨written, serialized, holds, info.deserializeFromArray_eq hash received holds⟩
  · have holds := Buffer.read_ofList info.bytes
    rw [length] at holds
    obtain ⟨found, deserialized, recovers⟩ := info.deserializeFromArray_eq hash received holds
    exact ⟨found, by rw [MessageInfo.deserializeFromString, length, deserialized], recovers⟩
  · exact received.deserializeFromArray_accepts hash
  · exact fun src => received.deserializeFromArray_accepts hash _ _
  · exact onNewDataMessage_transmit hash info received

end CyberRT.Transport

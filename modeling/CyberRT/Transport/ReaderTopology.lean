import CyberRT.Execution.Run
import CyberRT.Transport.Hybrid

namespace CyberRT.Transport

open Execution

structure Writer (M : Type) where
  roleAttr : RoleAttributes
  transmitter : HybridTransmitter M

namespace Writer

variable {M : Type}

def init (attr : RoleAttributes) (mode : CommunicationMode) (rtpsReady : Bool) (maxDepth : Nat) : Writer M :=
  ⟨attr, .init attr mode rtpsReady maxDepth⟩

def onChannelChange (writer : Writer M) (change : ChangeMsg) : Writer M :=
  if change.roleType ≠ .reader then writer
  else if change.roleAttr.channelName ≠ writer.roleAttr.channelName then writer
  else match change.operateType with
    | .join => { writer with transmitter := (writer.transmitter.enable change.roleAttr).1 }
    | .leave => { writer with transmitter := writer.transmitter.disable change.roleAttr }

end Writer

/-- One entry of `receiver_map_` of the `ReceiverManager<MessageT>` of a process. -/
structure ReceiverKey where
  hostIp : String
  processId : Int
  messageType : String
  channelName : String
  deriving DecidableEq, Repr

def RoleAttributes.receiverKey (attr : RoleAttributes) : ReceiverKey :=
  ⟨attr.hostIp, attr.processId, attr.messageType, attr.channelName⟩

/-- A `Reader` object between `Init` and `Shutdown`, with the `role_attr_` it joined with. -/
structure InitReader where
  reader : Nat
  roleAttr : RoleAttributes
  deriving DecidableEq, Repr

/-- One writer and the readers of all processes that have joined the topology. -/
structure ReaderTopology (M : Type) where
  writer : Writer M
  receiverMap : ReceiverKey → Option UInt64
  readers : List InitReader

/-- `newId` is the hash of the identity that a receiver gets if one has to be created. -/
inductive ReaderEvent where
  | init (reader : Nat) (attr : RoleAttributes) (newId : UInt64)
  | shutdown (reader : Nat)
  deriving DecidableEq, Repr

namespace ReaderTopology

variable {M : Type}

def getReceiver (topology : ReaderTopology M) (attr : RoleAttributes) (newId : UInt64) :
    UInt64 × (ReceiverKey → Option UInt64) :=
  match topology.receiverMap attr.receiverKey with
  | some id => (id, topology.receiverMap)
  | none => (newId, Function.update topology.receiverMap attr.receiverKey (some newId))

def find (topology : ReaderTopology M) (reader : Nat) : Option InitReader :=
  topology.readers.find? fun joined => joined.reader = reader

def initReader (topology : ReaderTopology M) (reader : Nat) (attr : RoleAttributes) (newId : UInt64) :
    ReaderTopology M :=
  let receiver := topology.getReceiver attr newId
  let roleAttr := { attr with id := receiver.1 }
  { writer := topology.writer.onChannelChange ⟨.reader, .join, roleAttr⟩
    receiverMap := receiver.2
    readers := ⟨reader, roleAttr⟩ :: topology.readers }

def shutdownReader (topology : ReaderTopology M) (joined : InitReader) : ReaderTopology M :=
  { topology with
    writer := topology.writer.onChannelChange ⟨.reader, .leave, joined.roleAttr⟩
    readers := topology.readers.filter fun other => other.reader ≠ joined.reader }

def step (topology : ReaderTopology M) : ReaderEvent → Option (ReaderTopology M)
  | .init reader attr newId =>
    match topology.find reader with
    | some _ => some topology
    | none => some (topology.initReader reader attr newId)
  | .shutdown reader =>
    match topology.find reader with
    | none => some topology
    | some joined => some (topology.shutdownReader joined)

def initial (writer : Writer M) : ReaderTopology M := ⟨writer, fun _ => none, []⟩

/-- The mode under which the writer's transmitter serves a joined reader. -/
def modeOf (topology : ReaderTopology M) (joined : InitReader) : Option OptionalMode :=
  topology.writer.transmitter.select joined.roleAttr

structure Consistent (topology : ReaderTopology M) : Prop where
  tracks : topology.writer.transmitter.Tracks
  channel : topology.writer.transmitter.attr.channelName = topology.writer.roleAttr.channelName
  ready : topology.writer.transmitter.rtpsReady = true
  distinct : ∀ left ∈ topology.readers, ∀ right ∈ topology.readers, left.reader = right.reader → left = right
  members : ∀ m id, id ∈ topology.writer.transmitter.receivers m ↔
    ∃ joined ∈ topology.readers, topology.modeOf joined = some m ∧ joined.roleAttr.id = id

theorem Consistent.unrelated {topology : ReaderTopology M} (consistent : topology.Consistent)
    {attr : RoleAttributes} (foreign : attr.channelName ≠ topology.writer.roleAttr.channelName) :
    topology.writer.transmitter.select attr = none := by
  have relation := (getRelation_noRelation topology.writer.transmitter.attr attr).mpr
    (by rw [consistent.channel]; exact foreign)
  simp [HybridTransmitter.select, CommunicationMode.select, relation]

/-- A change of a reader on another channel would be dropped by `NO_RELATION` too. -/
theorem Consistent.onChannelChange_join {topology : ReaderTopology M} (consistent : topology.Consistent)
    (attr : RoleAttributes) : (topology.writer.onChannelChange ⟨.reader, .join, attr⟩).transmitter =
      (topology.writer.transmitter.enable attr).1 := by
  by_cases foreign : attr.channelName = topology.writer.roleAttr.channelName
  · simp [Writer.onChannelChange, foreign]
  · rw [HybridTransmitter.enable_none (consistent.unrelated foreign)]
    simp [Writer.onChannelChange, foreign]

theorem Consistent.onChannelChange_leave {topology : ReaderTopology M} (consistent : topology.Consistent)
    (attr : RoleAttributes) : (topology.writer.onChannelChange ⟨.reader, .leave, attr⟩).transmitter =
      topology.writer.transmitter.disable attr := by
  by_cases foreign : attr.channelName = topology.writer.roleAttr.channelName
  · simp [Writer.onChannelChange, foreign]
  · rw [HybridTransmitter.disable_none (consistent.unrelated foreign)]
    simp [Writer.onChannelChange, foreign]

theorem onChannelChange_roleAttr (writer : Writer M) (change : ChangeMsg) :
    (writer.onChannelChange change).roleAttr = writer.roleAttr := by
  unfold Writer.onChannelChange
  split
  · rfl
  · split
    · rfl
    · split <;> rfl

theorem Consistent.initReader {topology : ReaderTopology M} (consistent : topology.Consistent)
    {reader : Nat} (fresh : topology.find reader = none) (attr : RoleAttributes) (newId : UInt64) :
    (topology.initReader reader attr newId).Consistent := by
  let roleAttr := { attr with id := (topology.getReceiver attr newId).1 }
  have transmitter : (topology.initReader reader attr newId).writer.transmitter =
      (topology.writer.transmitter.enable roleAttr).1 := consistent.onChannelChange_join roleAttr
  have role : (topology.initReader reader attr newId).writer.roleAttr = topology.writer.roleAttr :=
    onChannelChange_roleAttr _ _
  have readers : (topology.initReader reader attr newId).readers = ⟨reader, roleAttr⟩ :: topology.readers := rfl
  have same := HybridTransmitter.enable_sameRole topology.writer.transmitter roleAttr
  have modes : ∀ joined, (topology.initReader reader attr newId).modeOf joined = topology.modeOf joined := by
    intro joined
    unfold modeOf
    rw [transmitter]
    exact same.select joined.roleAttr
  have absent : ∀ joined ∈ topology.readers, joined.reader ≠ reader := by
    intro joined present
    simpa using List.find?_eq_none.mp fresh joined present
  refine ⟨?_, ?_, ?_, ?_, ?_⟩
  · rw [transmitter]
    exact consistent.tracks.enable consistent.ready roleAttr
  · rw [transmitter, role, same.attr]
    exact consistent.channel
  · rw [transmitter, same.rtpsReady]
    exact consistent.ready
  · rw [readers]
    intro left hl right hr equal
    rcases List.mem_cons.mp hl with rfl | hl <;> rcases List.mem_cons.mp hr with rfl | hr
    · rfl
    · exact absurd equal.symm (absent right hr)
    · exact absurd equal (absent left hl)
    · exact consistent.distinct left hl right hr equal
  · intro m id
    rw [transmitter, HybridTransmitter.mem_receivers_enable, consistent.members m id, readers]
    simp only [modes, List.mem_cons, exists_eq_or_imp]
    constructor
    · rintro (old | ⟨selected, rfl⟩)
      · exact .inr old
      · exact .inl ⟨selected, rfl⟩
    · rintro (⟨selected, rfl⟩ | old)
      · exact .inr ⟨selected, rfl⟩
      · exact .inl old

theorem Consistent.shutdownReader {topology : ReaderTopology M} (consistent : topology.Consistent)
    {joined : InitReader} (present : joined ∈ topology.readers)
    (alone : ∀ other ∈ topology.readers, other.reader ≠ joined.reader →
      topology.modeOf other = topology.modeOf joined → other.roleAttr.id ≠ joined.roleAttr.id) :
    (topology.shutdownReader joined).Consistent := by
  have transmitter : (topology.shutdownReader joined).writer.transmitter =
      topology.writer.transmitter.disable joined.roleAttr := consistent.onChannelChange_leave joined.roleAttr
  have role : (topology.shutdownReader joined).writer.roleAttr = topology.writer.roleAttr :=
    onChannelChange_roleAttr _ _
  have remaining : ∀ other, other ∈ (topology.shutdownReader joined).readers ↔
      other ∈ topology.readers ∧ other.reader ≠ joined.reader := by
    intro other
    simp [ReaderTopology.shutdownReader]
  have same := HybridTransmitter.disable_sameRole topology.writer.transmitter joined.roleAttr
  have modes : ∀ other, (topology.shutdownReader joined).modeOf other = topology.modeOf other := by
    intro other
    unfold modeOf
    rw [transmitter]
    exact same.select other.roleAttr
  refine ⟨?_, ?_, ?_, ?_, ?_⟩
  · rw [transmitter]
    exact consistent.tracks.disable joined.roleAttr
  · rw [transmitter, role, same.attr]
    exact consistent.channel
  · rw [transmitter, same.rtpsReady]
    exact consistent.ready
  · intro left hl right hr equal
    exact consistent.distinct left ((remaining left).mp hl).1 right ((remaining right).mp hr).1 equal
  · intro m id
    rw [transmitter, HybridTransmitter.mem_receivers_disable, consistent.members m id]
    simp only [modes, remaining]
    constructor
    · rintro ⟨⟨other, member, selected, rfl⟩, kept⟩
      refine ⟨other, ⟨member, ?_⟩, selected, rfl⟩
      intro equal
      have identical := consistent.distinct other member joined present equal
      subst identical
      exact kept ⟨selected, rfl⟩
    · rintro ⟨other, ⟨member, different⟩, selected, rfl⟩
      refine ⟨⟨other, member, selected, rfl⟩, ?_⟩
      rintro ⟨joinedMode, equal⟩
      exact alone other member different (selected.trans joinedMode.symm) equal

end ReaderTopology

end CyberRT.Transport

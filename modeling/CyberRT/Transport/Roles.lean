import Mathlib.Data.List.Nodup

namespace CyberRT.Transport

inductive QosHistoryPolicy where
  | systemDefault | keepLast | keepAll
  deriving DecidableEq, Repr

inductive QosDurabilityPolicy where
  | systemDefault | transientLocal | volatile
  deriving DecidableEq, Repr

structure QosProfile where
  history : QosHistoryPolicy := .keepLast
  depth : Nat := 1
  durability : QosDurabilityPolicy := .volatile
  deriving DecidableEq, Repr

structure RoleAttributes where
  hostIp : String
  processId : Int
  channelName : String
  channelId : UInt64
  messageType : String
  id : UInt64
  qosProfile : QosProfile := {}
  deriving DecidableEq, Repr

inductive Relation where
  | noRelation | diffHost | diffProc | sameProc
  deriving DecidableEq, Repr

/-- `GetRelation` of `HybridTransmitter` and `HybridReceiver`, which have the same body. -/
def getRelation (attr opposite : RoleAttributes) : Relation :=
  if opposite.channelName ≠ attr.channelName then .noRelation
  else if opposite.hostIp ≠ attr.hostIp then .diffHost
  else if opposite.processId ≠ attr.processId then .diffProc
  else .sameProc

theorem getRelation_noRelation (attr opposite : RoleAttributes) :
    getRelation attr opposite = .noRelation ↔ opposite.channelName ≠ attr.channelName := by
  unfold getRelation
  split
  · simp [*]
  · split
    · simp [*]
    · split <;> simp [*]

inductive OptionalMode where
  | hybrid | intra | shm | rtps
  deriving DecidableEq, Repr

structure CommunicationMode where
  sameProc : OptionalMode := .intra
  diffProc : OptionalMode := .shm
  diffHost : OptionalMode := .rtps
  deriving DecidableEq, Repr

/-- `mapping_table_`; the entry for `NO_RELATION` is never read. -/
def CommunicationMode.mappingTable (mode : CommunicationMode) : Relation → OptionalMode
  | .noRelation => .hybrid
  | .diffHost => mode.diffHost
  | .diffProc => mode.diffProc
  | .sameProc => mode.sameProc

/-- The `std::set` of modes that `InitTransmitters` and `InitReceivers` build. -/
def CommunicationMode.modes (mode : CommunicationMode) : List OptionalMode :=
  [.hybrid, .intra, .shm, .rtps].filter fun m =>
    m = mode.sameProc ∨ m = mode.diffProc ∨ m = mode.diffHost

theorem CommunicationMode.modes_nodup (mode : CommunicationMode) : mode.modes.Nodup :=
  List.Nodup.filter _ (by decide)

/-- The mode under which a pair of roles communicates, if they are on one channel. -/
def CommunicationMode.select (mode : CommunicationMode) (attr opposite : RoleAttributes) :
    Option OptionalMode :=
  if getRelation attr opposite = .noRelation then none
  else some (mode.mappingTable (getRelation attr opposite))

inductive RoleType where
  | node | writer | reader | server | client | participant
  deriving DecidableEq, Repr

inductive OperateType where
  | join | leave
  deriving DecidableEq, Repr

structure ChangeMsg where
  roleType : RoleType
  operateType : OperateType
  roleAttr : RoleAttributes
  deriving DecidableEq, Repr

end CyberRT.Transport

import Mathlib.Data.List.AList

namespace CyberRT.Discovery

/-- The fields of the protobuf message that the managers look at, each of them optional. -/
structure RoleAttributes where
  hostName : Option String := none
  processId : Option Int := none
  nodeName : Option String := none
  nodeId : Option UInt64 := none
  channelName : Option String := none
  channelId : Option UInt64 := none
  id : Option UInt64 := none
  serviceName : Option String := none
  serviceId : Option UInt64 := none
  deriving DecidableEq, Repr

namespace RoleAttributes

/-- What the accessors of an optional field give: the default of its type when it is not set. -/
def getHostName (attr : RoleAttributes) : String := attr.hostName.getD ""

def getProcessId (attr : RoleAttributes) : Int := attr.processId.getD 0

def getNodeName (attr : RoleAttributes) : String := attr.nodeName.getD ""

def getNodeId (attr : RoleAttributes) : UInt64 := attr.nodeId.getD 0

def getChannelName (attr : RoleAttributes) : String := attr.channelName.getD ""

def getChannelId (attr : RoleAttributes) : UInt64 := attr.channelId.getD 0

def getId (attr : RoleAttributes) : UInt64 := attr.id.getD 0

def getServiceId (attr : RoleAttributes) : UInt64 := attr.serviceId.getD 0

end RoleAttributes

inductive RoleType where
  | node | writer | reader | server | client | participant
  deriving DecidableEq, Repr

inductive OperateType where
  | join | leave
  deriving DecidableEq, Repr

inductive ChangeType where
  | node | channel | service | participant
  deriving DecidableEq, Repr

structure ChangeMsg where
  timestamp : Nat
  changeType : ChangeType
  operateType : OperateType
  roleType : RoleType
  roleAttr : RoleAttributes
  deriving DecidableEq, Repr

structure Role where
  attributes : RoleAttributes
  timestampNs : Nat := 0
  deriving DecidableEq, Repr

namespace Role

/-- A field that the target does not set matches every role. -/
def fieldMatches {Value : Type} [DecidableEq Value] (target : Option Value) (own : Value) : Bool :=
  target.all fun value => value = own

/-- `RoleBase::Match`. -/
def matchBase (role : Role) (target : RoleAttributes) : Bool :=
  fieldMatches target.nodeId role.attributes.getNodeId &&
    fieldMatches target.processId role.attributes.getProcessId &&
    fieldMatches target.hostName role.attributes.getHostName

/-- `RoleWriter::Match`, which `RoleReader` shares. -/
def matchWriter (role : Role) (target : RoleAttributes) : Bool :=
  fieldMatches target.channelId role.attributes.getChannelId &&
    fieldMatches target.id role.attributes.getId && role.matchBase target

/-- `RoleServer::Match`, which `RoleClient` shares. -/
def matchServer (role : Role) (target : RoleAttributes) : Bool :=
  fieldMatches target.serviceId role.attributes.getServiceId && role.matchBase target

def isEarlierThan (role other : Role) : Bool := role.timestampNs < other.timestampNs

end Role

/-- The entries of an `unordered_multimap` of roles; `matchRole` is the `Match` of their class. -/
structure MultiValueWarehouse where
  roles : List (UInt64 × Role) := []
  deriving DecidableEq, Repr

namespace MultiValueWarehouse

/-- `Add` with `ignore_if_exist` as it is called, true. -/
def add (warehouse : MultiValueWarehouse) (key : UInt64) (role : Role) : MultiValueWarehouse :=
  ⟨warehouse.roles ++ [(key, role)]⟩

def remove (matchRole : Role → RoleAttributes → Bool) (warehouse : MultiValueWarehouse) (key : UInt64)
    (role : Role) : MultiValueWarehouse :=
  ⟨warehouse.roles.filter fun entry => !(entry.1 = key && matchRole entry.2 role.attributes)⟩

def searchKey (warehouse : MultiValueWarehouse) (key : UInt64) : List Role :=
  (warehouse.roles.filter fun entry => entry.1 = key).map Prod.snd

def search (matchRole : Role → RoleAttributes → Bool) (warehouse : MultiValueWarehouse) (target : RoleAttributes) :
    List Role :=
  (warehouse.roles.filter fun entry => matchRole entry.2 target).map Prod.snd

def getAllRoles (warehouse : MultiValueWarehouse) : List Role := warehouse.roles.map Prod.snd

end MultiValueWarehouse

structure SingleValueWarehouse where
  roles : AList (fun _ : UInt64 => Role) := ∅

namespace SingleValueWarehouse

def removeKey (warehouse : SingleValueWarehouse) (key : UInt64) : SingleValueWarehouse := ⟨warehouse.roles.erase key⟩

def add (warehouse : SingleValueWarehouse) (key : UInt64) (role : Role) (ignoreIfExist : Bool) :
    Bool × SingleValueWarehouse :=
  if ignoreIfExist = false ∧ key ∈ warehouse.roles then (false, warehouse)
  else (true, ⟨warehouse.roles.insert key role⟩)

def searchKey (warehouse : SingleValueWarehouse) (key : UInt64) : Option Role := warehouse.roles.lookup key

def search (matchRole : Role → RoleAttributes → Bool) (warehouse : SingleValueWarehouse) (target : RoleAttributes) :
    List Role :=
  (warehouse.roles.entries.filter fun entry => matchRole entry.2 target).map fun entry => entry.2

def getAllRoles (warehouse : SingleValueWarehouse) : List Role := warehouse.roles.entries.map fun entry => entry.2

end SingleValueWarehouse

end CyberRT.Discovery

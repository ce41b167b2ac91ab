import CyberRT.Discovery.Roles

namespace CyberRT.Discovery

/-- What the managers have in common, over the containers `Roles` of each of them: the messages given to the change
    listeners and those written to the discovery topic are kept in order. -/
structure Manager (Roles : Type) where
  hostName : String
  processId : Int
  isShutdown : Bool := false
  isDiscoveryStarted : Bool := false
  roles : Roles
  notified : List ChangeMsg := []
  published : List ChangeMsg := []

/-- What a manager defines of its own: the roles it allows, its `Check`, and how it disposes of a change. -/
structure Manager.Specific (Roles : Type) where
  allowedRole : RoleType → Bool
  changeType : ChangeType
  check : RoleAttributes → Bool
  disposeJoin : Manager Roles → ChangeMsg → Roles
  disposeLeave : Roles → ChangeMsg → Roles

namespace Manager

variable {Roles : Type}

def convert (manager : Manager Roles) (changeType : ChangeType) (now : Nat) (attr : RoleAttributes) (role : RoleType)
    (opt : OperateType) : ChangeMsg where
  timestamp := now
  changeType := changeType
  operateType := opt
  roleType := role
  roleAttr := { attr with
    hostName := some (attr.hostName.getD manager.hostName)
    processId := some (attr.processId.getD manager.processId) }

def notify (manager : Manager Roles) (msg : ChangeMsg) : Manager Roles :=
  { manager with notified := manager.notified ++ [msg] }

/-- `Publish` once serialization has succeeded. -/
def publish (manager : Manager Roles) (msg : ChangeMsg) : Bool × Manager Roles :=
  if manager.isDiscoveryStarted then (true, { manager with published := manager.published ++ [msg] })
  else (false, manager)

/-- The three `Dispose` have the same body. -/
def dispose (specific : Specific Roles) (manager : Manager Roles) (msg : ChangeMsg) : Manager Roles :=
  let roles := match msg.operateType with
    | .join => specific.disposeJoin manager msg
    | .leave => specific.disposeLeave manager.roles msg
  { manager with roles := roles }.notify msg

def join (specific : Specific Roles) (manager : Manager Roles) (now : Nat) (attr : RoleAttributes) (role : RoleType)
    (needPublish : Bool) : Bool × Manager Roles :=
  if manager.isShutdown then (false, manager)
  else if specific.allowedRole role = false then (false, manager)
  else if specific.check attr = false then (false, manager)
  else
    let msg := manager.convert specific.changeType now attr role .join
    let disposed := manager.dispose specific msg
    if needPublish then disposed.publish msg else (true, disposed)

def leave (specific : Specific Roles) (manager : Manager Roles) (now : Nat) (attr : RoleAttributes) (role : RoleType) :
    Bool × Manager Roles :=
  if manager.isShutdown then (false, manager)
  else if specific.allowedRole role = false then (false, manager)
  else if specific.check attr = false then (false, manager)
  else
    let msg := manager.convert specific.changeType now attr role .leave
    (manager.dispose specific msg).publish msg

def isFromSameProcess (manager : Manager Roles) (msg : ChangeMsg) : Bool :=
  msg.roleAttr.getProcessId = manager.processId && msg.roleAttr.getHostName = manager.hostName

/-- `OnRemoteChange` once the message has been parsed. -/
def onRemoteChange (specific : Specific Roles) (manager : Manager Roles) (msg : ChangeMsg) : Manager Roles :=
  if manager.isShutdown then manager
  else if manager.isFromSameProcess msg then manager
  else if specific.check msg.roleAttr = false then manager
  else manager.dispose specific msg

end Manager

/-- The attributes that `OnTopoModuleLeave` searches for. -/
def moduleAttr (hostName : String) (processId : Int) : RoleAttributes :=
  { hostName := some hostName, processId := some processId }

inductive ManagerEvent where
  | startDiscovery
  | stopDiscovery
  | shutdown
  | join (now : Nat) (attr : RoleAttributes) (role : RoleType) (needPublish : Bool)
  | leave (now : Nat) (attr : RoleAttributes) (role : RoleType)
  | onRemoteChange (msg : ChangeMsg)
  | onTopoModuleLeave (now : Nat) (hostName : String) (processId : Int)
  deriving DecidableEq, Repr

/-- An event, with the manager's own `OnTopoModuleLeave`. -/
def Manager.handle {Roles : Type} (specific : Manager.Specific Roles)
    (moduleLeave : Manager Roles → Nat → String → Int → Manager Roles) (manager : Manager Roles) :
    ManagerEvent → Manager Roles
  | .startDiscovery => { manager with isDiscoveryStarted := true }
  | .stopDiscovery => { manager with isDiscoveryStarted := false }
  | .shutdown =>
    if manager.isShutdown then manager else { manager with isShutdown := true, isDiscoveryStarted := false }
  | .join now attr role needPublish => (manager.join specific now attr role needPublish).2
  | .leave now attr role => (manager.leave specific now attr role).2
  | .onRemoteChange msg => manager.onRemoteChange specific msg
  | .onTopoModuleLeave now hostName processId => moduleLeave manager now hostName processId

end CyberRT.Discovery

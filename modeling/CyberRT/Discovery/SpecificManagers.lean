import Mathlib.Data.List.Dedup
import CyberRT.Discovery.Graph
import CyberRT.Discovery.Manager

namespace CyberRT.Discovery

structure ChannelRoles where
  nodeGraph : Graph := {}
  nodeWriters : MultiValueWarehouse := {}
  channelWriters : MultiValueWarehouse := {}
  nodeReaders : MultiValueWarehouse := {}
  channelReaders : MultiValueWarehouse := {}

namespace ChannelRoles

def check (attr : RoleAttributes) : Bool := attr.channelName.isSome && attr.channelId.isSome && attr.id.isSome

def disposeJoin (roles : ChannelRoles) (msg : ChangeMsg) : ChannelRoles :=
  let v : Vertice := ⟨msg.roleAttr.getNodeName⟩
  let value := msg.roleAttr.getChannelName
  let role : Role := ⟨msg.roleAttr, msg.timestamp⟩
  match msg.roleType with
  | .writer => { roles with
      nodeWriters := roles.nodeWriters.add role.attributes.getNodeId role
      channelWriters := roles.channelWriters.add role.attributes.getChannelId role
      nodeGraph := roles.nodeGraph.insert ⟨v, {}, value⟩ }
  | _ => { roles with
      nodeReaders := roles.nodeReaders.add role.attributes.getNodeId role
      channelReaders := roles.channelReaders.add role.attributes.getChannelId role
      nodeGraph := roles.nodeGraph.insert ⟨{}, v, value⟩ }

def disposeLeave (roles : ChannelRoles) (msg : ChangeMsg) : ChannelRoles :=
  let v : Vertice := ⟨msg.roleAttr.getNodeName⟩
  let value := msg.roleAttr.getChannelName
  let role : Role := { attributes := msg.roleAttr }
  match msg.roleType with
  | .writer => { roles with
      nodeWriters := roles.nodeWriters.remove Role.matchWriter role.attributes.getNodeId role
      channelWriters := roles.channelWriters.remove Role.matchWriter role.attributes.getChannelId role
      nodeGraph := roles.nodeGraph.delete ⟨v, {}, value⟩ }
  | _ => { roles with
      nodeReaders := roles.nodeReaders.remove Role.matchWriter role.attributes.getNodeId role
      channelReaders := roles.channelReaders.remove Role.matchWriter role.attributes.getChannelId role
      nodeGraph := roles.nodeGraph.delete ⟨{}, v, value⟩ }

def getFlowDirection (fuel : Nat) (roles : ChannelRoles) (lhsNodeName rhsNodeName : String) :
    Option (FlowDirection × Graph) :=
  Graph.getDirectionOf fuel roles.nodeGraph ⟨lhsNodeName⟩ ⟨rhsNodeName⟩

end ChannelRoles

/-- The ids that `GlobalData::RegisterNode` and `RegisterChannel` give to names. -/
structure NameIds where
  node : String → UInt64
  channel : String → UInt64

namespace ChannelRoles

variable (ids : NameIds) (roles : ChannelRoles)

def getWritersOfNode (nodeName : String) : List Role := roles.nodeWriters.searchKey (ids.node nodeName)

def getWritersOfChannel (channelName : String) : List Role := roles.channelWriters.searchKey (ids.channel channelName)

def getReadersOfNode (nodeName : String) : List Role := roles.nodeReaders.searchKey (ids.node nodeName)

def getReadersOfChannel (channelName : String) : List Role := roles.channelReaders.searchKey (ids.channel channelName)

/-- The map from the name of a node to its attributes that the two functions below fill. -/
def nodesOf (found : List Role) : StringMap RoleAttributes :=
  found.foldl (fun nodes role =>
    let attr : RoleAttributes := {
      hostName := some role.attributes.getHostName
      processId := some role.attributes.getProcessId
      nodeName := some role.attributes.getNodeName
      nodeId := some role.attributes.getNodeId }
    nodes.insert attr.getNodeName attr) ∅

def getUpstreamOfNode (nodeName : String) : List RoleAttributes :=
  let readers := roles.getReadersOfNode ids nodeName
  let channels := (readers.map fun reader => reader.attributes.getChannelName).dedup
  let writers := channels.flatMap fun channel => roles.getWritersOfChannel ids channel
  (nodesOf writers).entries.map fun item => item.2

def getDownstreamOfNode (nodeName : String) : List RoleAttributes :=
  let writers := roles.getWritersOfNode ids nodeName
  let channels := (writers.map fun writer => writer.attributes.getChannelName).dedup
  let readers := channels.flatMap fun channel => roles.getReadersOfChannel ids channel
  (nodesOf readers).entries.map fun item => item.2

end ChannelRoles

abbrev ChannelManager := Manager ChannelRoles

namespace ChannelManager

def specific : Manager.Specific ChannelRoles where
  allowedRole role := role = .writer || role = .reader
  changeType := .channel
  check := ChannelRoles.check
  disposeJoin manager msg := manager.roles.disposeJoin msg
  disposeLeave := ChannelRoles.disposeLeave

/-- `Convert`, `DisposeLeave` and `Notify` for one role to remove. -/
def removeRole (now : Nat) (type : RoleType) (manager : ChannelManager) (role : Role) : ChannelManager :=
  let msg := manager.convert .channel now role.attributes type .leave
  { manager with roles := manager.roles.disposeLeave msg }.notify msg

def onTopoModuleLeave (manager : ChannelManager) (now : Nat) (hostName : String) (processId : Int) : ChannelManager :=
  if manager.isDiscoveryStarted then
    let attr := moduleAttr hostName processId
    let writersToRemove := manager.roles.channelWriters.search Role.matchWriter attr
    let readersToRemove := manager.roles.channelReaders.search Role.matchWriter attr
    readersToRemove.foldl (removeRole now .reader) (writersToRemove.foldl (removeRole now .writer) manager)
  else manager

def step (manager : ChannelManager) (event : ManagerEvent) : Option ChannelManager :=
  some (manager.handle specific onTopoModuleLeave event)

end ChannelManager

/-- `asyncShutdown` is set once a duplicated node of this process has called `AsyncShutdown`. -/
structure NodeRoles where
  nodes : SingleValueWarehouse := {}
  asyncShutdown : Bool := false

abbrev NodeManager := Manager NodeRoles

namespace NodeManager

def check (attr : RoleAttributes) : Bool := attr.nodeName.isSome && attr.nodeId.isSome

def disposeJoin (manager : NodeManager) (msg : ChangeMsg) : NodeRoles :=
  let node : Role := ⟨msg.roleAttr, msg.timestamp⟩
  let key := node.attributes.getNodeId
  let added := manager.roles.nodes.add key node false
  if added.1 then { manager.roles with nodes := added.2 }
  else match manager.roles.nodes.searchKey key with
    | none => { manager.roles with nodes := (manager.roles.nodes.add key node true).2 }
    | some existing =>
      let earlier := node.isEarlierThan existing
      let newer := if earlier then existing else node
      let terminated := newer.attributes.getProcessId = manager.processId &&
        newer.attributes.getHostName = manager.hostName
      { nodes := if earlier then (manager.roles.nodes.add key node true).2 else manager.roles.nodes
        asyncShutdown := manager.roles.asyncShutdown || terminated }

def disposeLeave (roles : NodeRoles) (msg : ChangeMsg) : NodeRoles :=
  { roles with nodes := roles.nodes.removeKey msg.roleAttr.getNodeId }

def specific : Manager.Specific NodeRoles where
  allowedRole role := role = .node
  changeType := .node
  check := check
  disposeJoin := disposeJoin
  disposeLeave := disposeLeave

def onTopoModuleLeave (manager : NodeManager) (now : Nat) (hostName : String) (processId : Int) : NodeManager :=
  if manager.isDiscoveryStarted then
    let nodesToRemove := manager.roles.nodes.search Role.matchBase (moduleAttr hostName processId)
    let nodes := nodesToRemove.foldl (fun nodes node => nodes.removeKey node.attributes.getNodeId) manager.roles.nodes
    let removed := { manager with roles := { manager.roles with nodes := nodes } }
    nodesToRemove.foldl (fun manager node =>
      manager.notify (manager.convert .node now node.attributes .node .leave)) removed
  else manager

def step (manager : NodeManager) (event : ManagerEvent) : Option NodeManager :=
  some (manager.handle specific onTopoModuleLeave event)

end NodeManager

structure ServiceRoles where
  servers : SingleValueWarehouse := {}
  clients : MultiValueWarehouse := {}

abbrev ServiceManager := Manager ServiceRoles

namespace ServiceManager

def check (attr : RoleAttributes) : Bool := attr.serviceName.isSome && attr.serviceId.isSome

def disposeJoin (roles : ServiceRoles) (msg : ChangeMsg) : ServiceRoles :=
  let role : Role := { attributes := msg.roleAttr }
  match msg.roleType with
  | .server => { roles with servers := (roles.servers.add role.attributes.getServiceId role true).2 }
  | _ => { roles with clients := roles.clients.add role.attributes.getServiceId role }

def disposeLeave (roles : ServiceRoles) (msg : ChangeMsg) : ServiceRoles :=
  let role : Role := { attributes := msg.roleAttr }
  match msg.roleType with
  | .server => { roles with servers := roles.servers.removeKey role.attributes.getServiceId }
  | _ => { roles with clients := roles.clients.remove Role.matchServer role.attributes.getServiceId role }

def specific : Manager.Specific ServiceRoles where
  allowedRole role := role = .server || role = .client
  changeType := .service
  check := check
  disposeJoin manager msg := disposeJoin manager.roles msg
  disposeLeave := disposeLeave

def onTopoModuleLeave (manager : ServiceManager) (now : Nat) (hostName : String) (processId : Int) : ServiceManager :=
  if manager.isDiscoveryStarted then
    let attr := moduleAttr hostName processId
    let serversToRemove := manager.roles.servers.search Role.matchServer attr
    let servers := serversToRemove.foldl
      (fun servers server => servers.removeKey server.attributes.getServiceId) manager.roles.servers
    let clientsToRemove := manager.roles.clients.search Role.matchServer attr
    let clients := clientsToRemove.foldl
      (fun clients client => clients.remove Role.matchServer client.attributes.getServiceId client) manager.roles.clients
    let removed : ServiceManager := { manager with roles := ⟨servers, clients⟩ }
    let told := serversToRemove.foldl (fun manager server =>
      manager.notify (manager.convert .service now server.attributes .server .leave)) removed
    clientsToRemove.foldl (fun manager client =>
      manager.notify (manager.convert .service now client.attributes .client .leave)) told
  else manager

def step (manager : ServiceManager) (event : ManagerEvent) : Option ServiceManager :=
  some (manager.handle specific onTopoModuleLeave event)

end ServiceManager

end CyberRT.Discovery

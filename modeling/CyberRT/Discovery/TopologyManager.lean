import CyberRT.Discovery.SpecificManagers
import CyberRT.Scheduler.PinThread

namespace CyberRT.Discovery

inductive DiscoveryStatus where
  | discoveredParticipant | changedQosParticipant | removedParticipant | droppedParticipant
  deriving DecidableEq, Repr

/-- `ParticipantDiscoveryInfo`; the guids are numbers. -/
structure PartInfo where
  guid : Nat
  participantName : String
  status : DiscoveryStatus
  deriving DecidableEq, Repr

/-- `participantNames` has the names in `participant_names_`, and `notified` what `change_signal_` has emitted. -/
structure TopologyManager where
  init : Bool
  nodeManager : NodeManager
  channelManager : ChannelManager
  serviceManager : ServiceManager
  participantNames : Nat → Option String := fun _ => none
  notified : List ChangeMsg := []

inductive TopologyEvent where
  /-- `clock` has the time at each of the managers, and at the participants' own message. -/
  | participantChange (info : PartInfo) (clock : ChangeType → Nat)
  | nodeChange (event : ManagerEvent)
  | channelChange (event : ManagerEvent)
  | serviceChange (event : ManagerEvent)
  | shutdown

/-- Joins, leaves and messages of other processes; the other events of a manager are caused by the topology manager. -/
def ManagerEvent.isChange : ManagerEvent → Bool
  | .join .. | .leave .. | .onRemoteChange _ => true
  | _ => false

namespace TopologyManager

/-- The manager behind an `Init` that has succeeded. -/
def create (hostName : String) (processId : Int) : TopologyManager where
  init := true
  nodeManager := { hostName, processId, isDiscoveryStarted := true, roles := {} }
  channelManager := { hostName, processId, isDiscoveryStarted := true, roles := {} }
  serviceManager := { hostName, processId, isDiscoveryStarted := true, roles := {} }

/-- The name that `CreateParticipant` gives the participant of a process. -/
def participantName (hostName : String) (processId : Nat) : String := hostName ++ "+" ++ processId.repr

def parseParticipantName (participantName : String) : Option (String × Int) :=
  let hostName := participantName.toList.takeWhile (· ≠ '+')
  match participantName.toList.dropWhile (· ≠ '+') with
  | [] => none
  | _ :: pidStr =>
    match PinThread.stoi pidStr with
    | .ok processId => some (String.ofList hostName, processId)
    | .error _ => none

def convert (topology : TopologyManager) (info : PartInfo) (now : Nat) : Option ChangeMsg × TopologyManager :=
  let (participantName, optType, names) : String × OperateType × (Nat → Option String) :=
    match info.status with
    | .discoveredParticipant =>
      (info.participantName, .join, Function.update topology.participantNames info.guid (some info.participantName))
    | .removedParticipant | .droppedParticipant =>
      ((topology.participantNames info.guid).getD "", .leave, Function.update topology.participantNames info.guid none)
    | .changedQosParticipant => ("", .join, topology.participantNames)
  let msg := (parseParticipantName participantName).map fun (hostName, processId) =>
    { timestamp := now
      changeType := .participant
      operateType := optType
      roleType := .participant
      roleAttr := moduleAttr hostName processId }
  (msg, { topology with participantNames := names })

def onParticipantChange (topology : TopologyManager) (info : PartInfo) (clock : ChangeType → Nat) : TopologyManager :=
  match topology.convert info (clock .participant) with
  | (none, converted) => converted
  | (some msg, converted) =>
    if !converted.init then converted
    else
      let left := if msg.operateType = .leave then
          let hostName := msg.roleAttr.getHostName
          let processId := msg.roleAttr.getProcessId
          { converted with
            nodeManager := converted.nodeManager.onTopoModuleLeave (clock .node) hostName processId
            channelManager := converted.channelManager.onTopoModuleLeave (clock .channel) hostName processId
            serviceManager := converted.serviceManager.onTopoModuleLeave (clock .service) hostName processId }
        else converted
      { left with notified := left.notified ++ [msg] }

def step (topology : TopologyManager) : TopologyEvent → Option TopologyManager
  | .participantChange info clock => some (topology.onParticipantChange info clock)
  | .nodeChange event =>
    if event.isChange then (topology.nodeManager.step event).map fun manager => { topology with nodeManager := manager }
    else none
  | .channelChange event =>
    if event.isChange then
      (topology.channelManager.step event).map fun manager => { topology with channelManager := manager }
    else none
  | .serviceChange event =>
    if event.isChange then
      (topology.serviceManager.step event).map fun manager => { topology with serviceManager := manager }
    else none
  | .shutdown =>
    if !topology.init then some topology
    else
      (topology.nodeManager.step .shutdown).bind fun nodeManager =>
        (topology.channelManager.step .shutdown).bind fun channelManager =>
          (topology.serviceManager.step .shutdown).map fun serviceManager =>
            { topology with
              init := false, nodeManager := nodeManager, channelManager := channelManager
              serviceManager := serviceManager }

end TopologyManager

end CyberRT.Discovery

import CyberRT.Discovery.ModuleLeave
import CyberRT.Discovery.TopologyManager

namespace CyberRT.Discovery

open Execution MultiValueWarehouse

/-- The attributes of a message that `Convert` has made name the process. -/
def RoleAttributes.NamesProcess (attr : RoleAttributes) : Prop := attr.hostName.isSome ∧ attr.processId.isSome

/-- Messages of other processes name the process, and a writer or reader leaves with its node id. -/
def TopologyEvent.Complete : TopologyEvent → Prop
  | .nodeChange (.onRemoteChange msg) | .serviceChange (.onRemoteChange msg) => msg.roleAttr.NamesProcess
  | .channelChange (.onRemoteChange msg) =>
    msg.roleAttr.NamesProcess ∧ (msg.operateType = .leave → msg.roleAttr.nodeId.isSome)
  | .channelChange (.leave _ attr _) => attr.nodeId.isSome
  | _ => True

namespace SingleValueWarehouse

variable {key : RoleAttributes → UInt64} {warehouse : SingleValueWarehouse}

def Named (warehouse : SingleValueWarehouse) : Prop := ∀ value role, warehouse.searchKey value = some role → role.Carries

theorem named_empty : Named {} := by
  intro value role found
  simp [searchKey] at found

theorem Named.add (named : warehouse.Named) {role : Role} (carries : role.Carries) (value : UInt64)
    (ignoreIfExist : Bool) : (warehouse.add value role ignoreIfExist).2.Named := by
  rw [SingleValueWarehouse.add]
  split
  · exact named
  · intro other found here
    simp only [searchKey] at here
    by_cases same : other = value
    · subst same
      rw [AList.lookup_insert] at here
      exact Option.some.inj here ▸ carries
    · rw [AList.lookup_insert_ne same] at here
      exact named other found here

theorem Named.removeKey (named : warehouse.Named) (value : UInt64) : (warehouse.removeKey value).Named := by
  intro other role found
  rw [searchKey_removeKey] at found
  split at found
  · cases found
  · exact named other role found

theorem Cleared.named {before after : SingleValueWarehouse} {hostName : String} {processId : Int}
    (cleared : before.Cleared hostName processId after) (named : before.Named) : after.Named := by
  intro value role found
  rw [cleared value] at found
  obtain ⟨here, _⟩ := Option.filter_eq_some_iff.mp found
  exact named value role here

theorem Named.getAllRoles (named : warehouse.Named) : ∀ role ∈ warehouse.getAllRoles, role.Carries := by
  intro role member
  obtain ⟨value, found⟩ := mem_getAllRoles.mp member
  exact named value role found

end SingleValueWarehouse

namespace Manager

variable {Roles : Type} {specific : Specific Roles} {manager : Manager Roles} {event : ManagerEvent}

theorem disposal_names {msg : ChangeMsg} (remote : ∀ msg, event = .onRemoteChange msg → msg.roleAttr.NamesProcess)
    (disposed : manager.disposal specific event = some msg) : msg.roleAttr.NamesProcess := by
  rcases disposal_cases disposed with ⟨_, _, _, _, _, _, rfl⟩ | ⟨_, _, _, _, _, rfl⟩ | ⟨here, _⟩
  · exact ⟨rfl, rfl⟩
  · exact ⟨rfl, rfl⟩
  · exact remote msg here

/-- A property of the roles that messages with a process keep holds behind every change. -/
theorem change_keeps {moduleLeave : Manager Roles → Nat → String → Int → Manager Roles} (Holds : Roles → Prop)
    (join : ∀ (manager : Manager Roles) msg, msg.roleAttr.NamesProcess → Holds manager.roles →
      Holds (specific.disposeJoin manager msg))
    (leave : ∀ roles msg, Holds roles → Holds (specific.disposeLeave roles msg)) (change : event.isChange = true)
    (remote : ∀ msg, event = .onRemoteChange msg → msg.roleAttr.NamesProcess) (holds : Holds manager.roles) :
    Holds (manager.handle specific moduleLeave event).roles := by
  have disposed : Holds ((manager.disposal specific event).elim manager.roles fun msg =>
      (manager.dispose specific msg).roles) := by
    cases here : manager.disposal specific event with
    | none => exact holds
    | some msg =>
      have names := disposal_names remote here
      simp only [Option.elim_some, dispose, notify]
      cases msg.operateType with
      | join => exact join manager msg names holds
      | leave => exact leave manager.roles msg holds
  rw [handle_roles]
  cases event with
  | join | leave | onRemoteChange => exact disposed
  | startDiscovery | stopDiscovery | shutdown | onTopoModuleLeave => cases change

theorem publish_started (manager : Manager Roles) (msg : ChangeMsg) :
    (manager.publish msg).2.isDiscoveryStarted = manager.isDiscoveryStarted := by
  rw [publish]
  split <;> rfl

theorem change_started (moduleLeave : Manager Roles → Nat → String → Int → Manager Roles)
    (change : event.isChange = true) :
    (manager.handle specific moduleLeave event).isDiscoveryStarted = manager.isDiscoveryStarted := by
  cases event with
  | join now attr role needPublish =>
    simp only [handle, Manager.join]
    cases manager.isShutdown <;> cases specific.allowedRole role <;> cases specific.check attr <;>
      cases needPublish <;> simp [publish_started, dispose, notify]
  | leave now attr role =>
    simp only [handle, Manager.leave]
    cases manager.isShutdown <;> cases specific.allowedRole role <;> cases specific.check attr <;>
      simp [publish_started, dispose, notify]
  | onRemoteChange msg =>
    simp only [handle, onRemoteChange]
    cases manager.isShutdown <;> cases manager.isFromSameProcess msg <;> cases specific.check msg.roleAttr <;>
      simp [dispose, notify]
  | startDiscovery | stopDiscovery | shutdown | onTopoModuleLeave => cases change

theorem shutdown_roles (moduleLeave : Manager Roles → Nat → String → Int → Manager Roles) :
    (manager.handle specific moduleLeave .shutdown).roles = manager.roles := by
  rw [handle]
  split <;> rfl

theorem foldl_started {Item : Type} (manager : Manager Roles) (tell : Manager Roles → Item → Manager Roles)
    (same : ∀ manager item, (tell manager item).isDiscoveryStarted = manager.isDiscoveryStarted) (items : List Item) :
    (items.foldl tell manager).isDiscoveryStarted = manager.isDiscoveryStarted := by
  induction items generalizing manager with
  | nil => rfl
  | cons item items ih => rw [List.foldl_cons, ih, same]

end Manager

namespace TopologyManager

variable {topology next : TopologyManager}

/-- The warehouses are keyed by their ids, every role names its process, and the managers discover until the shutdown. -/
structure Sound (topology : TopologyManager) : Prop where
  nodes : topology.nodeManager.roles.nodes.Keyed RoleAttributes.getNodeId
  nodesNamed : topology.nodeManager.roles.nodes.Named
  channels : ∃ writers readers, topology.channelManager.roles.Mirrored writers readers ∧
    ∀ role ∈ writers ++ readers, role.Carries
  services : ServiceManager.Filed topology.serviceManager.roles
  serversNamed : topology.serviceManager.roles.servers.Named
  clientsNamed : ∀ role ∈ topology.serviceManager.roles.clients.getAllRoles, role.Carries
  started : topology.init = true → topology.nodeManager.isDiscoveryStarted = true ∧
    topology.channelManager.isDiscoveryStarted = true ∧ topology.serviceManager.isDiscoveryStarted = true

theorem create_sound (hostName : String) (processId : Int) : (create hostName processId).Sound where
  nodes := SingleValueWarehouse.keyed_empty _
  nodesNamed := SingleValueWarehouse.named_empty
  channels := ⟨[], [], ⟨keyed_empty _, keyed_empty _, keyed_empty _, keyed_empty _⟩, by simp⟩
  services := ⟨SingleValueWarehouse.keyed_empty _, [], keyed_empty _⟩
  serversNamed := SingleValueWarehouse.named_empty
  clientsNamed := by simp [create, MultiValueWarehouse.getAllRoles]
  started _ := ⟨rfl, rfl, rfl⟩

theorem Sound.nodeChange (sound : topology.Sound) {event : ManagerEvent} (change : event.isChange = true)
    (remote : ∀ msg, event = .onRemoteChange msg → msg.roleAttr.NamesProcess) {manager : NodeManager}
    (taken : topology.nodeManager.step event = some manager) : { topology with nodeManager := manager }.Sound := by
  have keyed := NodeManager.keyed_step topology.nodeManager event manager taken sound.nodes
  obtain rfl := Option.some.inj taken
  refine ⟨keyed, ?_, sound.channels, sound.services, sound.serversNamed, sound.clientsNamed, ?_⟩
  · apply Manager.change_keeps (fun roles : NodeRoles => roles.nodes.Named) _ _ change remote sound.nodesNamed
    · intro manager msg names named
      have carries : (⟨msg.roleAttr, msg.timestamp⟩ : Role).Carries := names
      have first := named.add carries msg.roleAttr.getNodeId false
      have again := named.add carries msg.roleAttr.getNodeId true
      show (NodeManager.disposeJoin manager msg).nodes.Named
      simp only [NodeManager.disposeJoin]
      split
      · exact first
      · split
        · exact again
        · simp only
          split
          · exact again
          · exact named
    · intro roles msg named
      exact named.removeKey _
  · intro init
    refine ⟨?_, (sound.started init).2⟩
    rw [← (sound.started init).1]
    exact Manager.change_started _ change

/-- The servers and the clients name their processes. -/
def ServicesNamed (roles : ServiceRoles) : Prop :=
  roles.servers.Named ∧ ∀ role ∈ roles.clients.getAllRoles, role.Carries

theorem servicesNamed_join {roles : ServiceRoles} (named : ServicesNamed roles) {msg : ChangeMsg}
    (names : msg.roleAttr.NamesProcess) : ServicesNamed (ServiceManager.disposeJoin roles msg) := by
  obtain ⟨servers, clients⟩ := named
  have carries : ({ attributes := msg.roleAttr } : Role).Carries := names
  rw [ServiceManager.disposeJoin]
  split
  · exact ⟨servers.add carries _ true, clients⟩
  · refine ⟨servers, ?_⟩
    intro role member
    simp only [MultiValueWarehouse.add, MultiValueWarehouse.getAllRoles, List.map_append, List.map_cons, List.map_nil]
      at member
    rcases List.mem_append.mp member with old | new
    · exact clients role old
    · exact List.mem_singleton.mp new ▸ carries

theorem servicesNamed_leave {roles : ServiceRoles} (named : ServicesNamed roles) (msg : ChangeMsg) :
    ServicesNamed (ServiceManager.disposeLeave roles msg) := by
  obtain ⟨servers, clients⟩ := named
  rw [ServiceManager.disposeLeave]
  split
  · exact ⟨servers.removeKey _, clients⟩
  · refine ⟨servers, ?_⟩
    intro role member
    obtain ⟨entry, kept, rfl⟩ := List.mem_map.mp member
    exact clients _ (List.mem_map_of_mem (List.mem_of_mem_filter kept))

theorem Sound.serviceChange (sound : topology.Sound) {event : ManagerEvent} (change : event.isChange = true)
    (remote : ∀ msg, event = .onRemoteChange msg → msg.roleAttr.NamesProcess) {manager : ServiceManager}
    (taken : topology.serviceManager.step event = some manager) : { topology with serviceManager := manager }.Sound := by
  have filed := ServiceManager.filed_step topology.serviceManager event manager taken sound.services
  obtain rfl := Option.some.inj taken
  have named : ServicesNamed
      (topology.serviceManager.handle ServiceManager.specific ServiceManager.onTopoModuleLeave event).roles :=
    Manager.change_keeps ServicesNamed (fun _ _ names named => servicesNamed_join named names)
      (fun _ msg named => servicesNamed_leave named msg) change remote ⟨sound.serversNamed, sound.clientsNamed⟩
  refine ⟨sound.nodes, sound.nodesNamed, sound.channels, filed, named.1, named.2, ?_⟩
  intro init
  obtain ⟨nodes, channels, services⟩ := sound.started init
  refine ⟨nodes, channels, ?_⟩
  rw [← services]
  exact Manager.change_started _ change

theorem pinpoints_of_nodeId {attr : RoleAttributes} (given : attr.nodeId.isSome) (held : List Role) :
    ChannelRoles.Pinpoints attr held := by
  intro role _ matched
  obtain ⟨value, same⟩ := Option.isSome_iff_exists.mp given
  have base : role.matchBase attr = true := (Bool.and_eq_true _ _ ▸ matched : _ ∧ _).2
  rw [Role.matchBase, Bool.and_eq_true, Bool.and_eq_true, same, Role.fieldMatches_some] at base
  rw [← base.1.1, RoleAttributes.getNodeId, same]
  rfl

theorem Sound.channelChange (sound : topology.Sound) {event : ManagerEvent} (change : event.isChange = true)
    (complete : (TopologyEvent.channelChange event).Complete) {manager : ChannelManager}
    (taken : topology.channelManager.step event = some manager) : { topology with channelManager := manager }.Sound := by
  obtain ⟨writers, readers, mirrored, carries⟩ := sound.channels
  have remote : ∀ msg, event = .onRemoteChange msg → msg.roleAttr.NamesProcess := by
    rintro msg rfl
    exact complete.1
  have pinpoints : ∀ msg, topology.channelManager.disposal ChannelManager.specific event = some msg →
      msg.operateType = .leave →
      ChannelRoles.Pinpoints msg.roleAttr (ChannelManager.heldRoles topology.channelManager.roles msg.roleType) := by
    intro msg disposed leaves
    apply pinpoints_of_nodeId
    rcases Manager.disposal_cases disposed with ⟨_, _, _, _, _, _, rfl⟩ | ⟨_, attr, _, rfl, _, rfl⟩ | ⟨rfl, _⟩
    · cases leaves
    · exact complete
    · exact complete.2 leaves
  have steady : topology.channelManager.Steady event := by
    cases event with
    | join | leave | onRemoteChange => exact pinpoints
    | startDiscovery | stopDiscovery | shutdown | onTopoModuleLeave => cases change
  obtain ⟨writers', readers', kept, origin⟩ := ChannelManager.step_mirrored mirrored steady taken
  refine ⟨sound.nodes, sound.nodesNamed, ⟨writers', readers', kept, ?_⟩, sound.services, sound.serversNamed,
    sound.clientsNamed, ?_⟩
  · intro role member
    rcases origin role member with old | ⟨msg, disposed, same⟩
    · exact carries role old
    · have names := Manager.disposal_names remote disposed
      rw [← same] at names
      exact names
  · intro init
    obtain ⟨nodes, channels, services⟩ := sound.started init
    refine ⟨nodes, ?_, services⟩
    obtain rfl := Option.some.inj taken
    rw [← channels]
    exact Manager.change_started _ change

/-- The three managers behind the leave of a participant. -/
def moduleLeft (topology : TopologyManager) (clock : ChangeType → Nat) (hostName : String) (processId : Int) :
    TopologyManager :=
  { topology with
    nodeManager := topology.nodeManager.onTopoModuleLeave (clock .node) hostName processId
    channelManager := topology.channelManager.onTopoModuleLeave (clock .channel) hostName processId
    serviceManager := topology.serviceManager.onTopoModuleLeave (clock .service) hostName processId }

/-- The three managers have lost the roles of the process, and no others. -/
structure ModuleGone (clock : ChangeType → Nat) (hostName : String) (processId : Int) (before after : TopologyManager) :
    Prop where
  nodes : before.nodeManager.ModuleGone (clock .node) hostName processId after.nodeManager
  channels : before.channelManager.ModuleGone (clock .channel) hostName processId after.channelManager
  services : before.serviceManager.ModuleGone (clock .service) hostName processId after.serviceManager

theorem Sound.moduleGone (sound : topology.Sound) (init : topology.init = true) (clock : ChangeType → Nat)
    (hostName : String) (processId : Int) :
    ModuleGone clock hostName processId topology (topology.moduleLeft clock hostName processId) := by
  obtain ⟨nodes, channels, services⟩ := sound.started init
  obtain ⟨writers, readers, mirrored, carries⟩ := sound.channels
  refine ⟨NodeManager.moduleGone sound.nodes nodes sound.nodesNamed.getAllRoles _ _ _,
    ChannelManager.moduleGone mirrored channels carries _ _ _, ServiceManager.moduleGone sound.services services ?_ _ _ _⟩
  intro role member
  rcases List.mem_append.mp member with server | client
  · exact sound.serversNamed.getAllRoles role server
  · exact sound.clientsNamed role client

theorem Sound.moduleLeft (sound : topology.Sound) (init : topology.init = true) (clock : ChangeType → Nat)
    (hostName : String) (processId : Int) : (topology.moduleLeft clock hostName processId).Sound := by
  obtain ⟨nodes, channels, services⟩ := sound.started init
  have gone := sound.moduleGone init clock hostName processId
  obtain ⟨writers, readers, mirrored, carries⟩ := sound.channels
  have named := fun role member (_ : role.ofModule hostName processId = true) => carries role member
  refine ⟨NodeManager.keyed_step topology.nodeManager (.onTopoModuleLeave _ _ _) _ rfl sound.nodes,
    gone.nodes.nodes.named sound.nodesNamed,
    ⟨_, _, ChannelManager.onTopoModuleLeave_mirrored mirrored channels _ named, ?_⟩,
    ServiceManager.filed_step topology.serviceManager (.onTopoModuleLeave _ _ _) _ rfl sound.services,
    gone.services.servers.named sound.serversNamed, ?_, ?_⟩
  · intro role member
    apply carries role
    rcases List.mem_append.mp member with writer | reader
    · exact List.mem_append_left _ (List.mem_of_mem_filter writer)
    · exact List.mem_append_right _ (List.mem_of_mem_filter reader)
  · intro role member
    obtain ⟨entry, kept, rfl⟩ := List.mem_map.mp member
    rw [gone.services.clients] at kept
    exact sound.clientsNamed _ (List.mem_map_of_mem (List.mem_of_mem_filter kept))
  · intro _
    refine ⟨?_, ?_, ?_⟩
    · show (topology.nodeManager.onTopoModuleLeave (clock .node) hostName processId).isDiscoveryStarted = true
      rw [NodeManager.onTopoModuleLeave, if_pos nodes, Manager.foldl_started]
      · exact nodes
      · exact fun _ _ => rfl
    · show (topology.channelManager.onTopoModuleLeave (clock .channel) hostName processId).isDiscoveryStarted = true
      rw [ChannelManager.onTopoModuleLeave, if_pos channels, Manager.foldl_started, Manager.foldl_started]
      · exact channels
      · exact fun _ _ => rfl
      · exact fun _ _ => rfl
    · show (topology.serviceManager.onTopoModuleLeave (clock .service) hostName processId).isDiscoveryStarted = true
      rw [ServiceManager.onTopoModuleLeave, if_pos services, Manager.foldl_started, Manager.foldl_started]
      · exact services
      · exact fun _ _ => rfl
      · exact fun _ _ => rfl

theorem convert_managers (topology : TopologyManager) (info : PartInfo) (now : Nat) :
    (topology.convert info now).2 = { topology with
      participantNames := (topology.convert info now).2.participantNames } := rfl

/-- What a change of a participant does to the managers: nothing, or the process of the participant has left. -/
theorem onParticipantChange_cases (topology : TopologyManager) (info : PartInfo) (clock : ChangeType → Nat) :
    (∃ names notified, topology.onParticipantChange info clock =
      { topology with participantNames := names, notified := notified }) ∨
    ∃ hostName processId names notified, topology.init = true ∧ topology.onParticipantChange info clock =
      { topology.moduleLeft clock hostName processId with participantNames := names, notified := notified } := by
  unfold onParticipantChange
  have keeps := topology.convert_managers info (clock .participant)
  revert keeps
  generalize topology.convert info (clock .participant) = result
  obtain ⟨msg, converted⟩ := result
  intro keeps
  have same : converted = { topology with participantNames := converted.participantNames } := keeps
  rw [same]
  cases msg with
  | none => exact .inl ⟨_, _, rfl⟩
  | some msg =>
    dsimp only
    split
    · exact .inl ⟨_, _, rfl⟩
    · rename_i init
      split
      · exact .inr ⟨_, _, _, _, by simpa using init, rfl⟩
      · exact .inl ⟨_, _, rfl⟩

theorem Sound.participantChange (sound : topology.Sound) (info : PartInfo) (clock : ChangeType → Nat) :
    (topology.onParticipantChange info clock).Sound := by
  rcases topology.onParticipantChange_cases info clock with
    ⟨names, notified, same⟩ | ⟨hostName, processId, names, notified, init, same⟩
  · rw [same]
    exact ⟨sound.nodes, sound.nodesNamed, sound.channels, sound.services, sound.serversNamed, sound.clientsNamed,
      sound.started⟩
  · rw [same]
    have left := sound.moduleLeft init clock hostName processId
    exact ⟨left.nodes, left.nodesNamed, left.channels, left.services, left.serversNamed, left.clientsNamed, left.started⟩

theorem Sound.shutdown (sound : topology.Sound) (taken : topology.step .shutdown = some next) : next.Sound := by
  simp only [TopologyManager.step] at taken
  split at taken
  · exact Option.some.inj taken ▸ sound
  · obtain rfl := Option.some.inj taken
    refine ⟨?_, ?_, ?_, ?_, ?_, ?_, nofun⟩
    all_goals dsimp only
    all_goals rw [Manager.shutdown_roles]
    · exact sound.nodes
    · exact sound.nodesNamed
    · exact sound.channels
    · exact sound.services
    · exact sound.serversNamed
    · exact sound.clientsNamed

theorem Sound.step (sound : topology.Sound) {event : TopologyEvent} (complete : event.Complete)
    (taken : topology.step event = some next) : next.Sound := by
  cases event with
  | participantChange info clock => exact Option.some.inj taken ▸ sound.participantChange info clock
  | nodeChange event =>
    simp only [TopologyManager.step, Option.ite_none_right_eq_some] at taken
    obtain ⟨change, taken⟩ := taken
    obtain ⟨manager, stepped, rfl⟩ := Option.map_eq_some_iff.mp taken
    refine sound.nodeChange change ?_ stepped
    rintro msg rfl
    exact complete
  | channelChange event =>
    simp only [TopologyManager.step, Option.ite_none_right_eq_some] at taken
    obtain ⟨change, taken⟩ := taken
    obtain ⟨manager, stepped, rfl⟩ := Option.map_eq_some_iff.mp taken
    exact sound.channelChange change complete stepped
  | serviceChange event =>
    simp only [TopologyManager.step, Option.ite_none_right_eq_some] at taken
    obtain ⟨change, taken⟩ := taken
    obtain ⟨manager, stepped, rfl⟩ := Option.map_eq_some_iff.mp taken
    refine sound.serviceChange change ?_ stepped
    rintro msg rfl
    exact complete
  | shutdown => exact sound.shutdown taken

section

variable {host hostName : String} {process : Int} {processId guid : Nat} {events before between : List TopologyEvent}

theorem reached (ran : run step (create host process) events = some topology)
    (complete : ∀ event ∈ events, event.Complete) : topology.Sound := by
  have held : (∀ event ∈ events, event.Complete) → topology.Sound := by
    refine run_invariant (fun topology past => (∀ event ∈ past, event.Complete) → topology.Sound) ?_
      (fun _ => create_sound host process) ran
    intro topology past event next taken sound complete
    refine (sound fun event member => complete event (List.mem_append_left _ member)).step ?_ taken
    exact complete event (by simp)
  exact held complete

end

end TopologyManager

end CyberRT.Discovery

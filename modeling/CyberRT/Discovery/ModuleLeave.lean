import CyberRT.Discovery.Indexes

namespace CyberRT.Discovery

open Execution MultiValueWarehouse

/-- Exactly the roles of the participant are gone from the warehouse. -/
def MultiValueWarehouse.Cleared (hostName : String) (processId : Int) (before after : MultiValueWarehouse) : Prop :=
  after.roles = before.roles.filter fun entry => !entry.2.ofModule hostName processId

def SingleValueWarehouse.Cleared (hostName : String) (processId : Int) (before after : SingleValueWarehouse) : Prop :=
  ∀ key, after.searchKey key = (before.searchKey key).filter fun role => !role.ofModule hostName processId

theorem MultiValueWarehouse.Keyed.cleared {key : RoleAttributes → UInt64} {before after : MultiValueWarehouse}
    {held : List Role} {hostName : String} {processId : Int} (keyed : Keyed key before held)
    (kept : Keyed key after (held.filter fun role => !role.ofModule hostName processId)) :
    before.Cleared hostName processId after := by
  rw [MultiValueWarehouse.Cleared, kept, keyed, List.filter_map]
  rfl

/-- The manager has lost the roles of the participant, no others, and has told its listeners of each of them. -/
structure ChannelManager.ModuleGone (now : Nat) (hostName : String) (processId : Int)
    (before after : ChannelManager) : Prop where
  nodeWriters : before.roles.nodeWriters.Cleared hostName processId after.roles.nodeWriters
  channelWriters : before.roles.channelWriters.Cleared hostName processId after.roles.channelWriters
  nodeReaders : before.roles.nodeReaders.Cleared hostName processId after.roles.nodeReaders
  channelReaders : before.roles.channelReaders.Cleared hostName processId after.roles.channelReaders
  notified : after.notified = before.notified ++
    (before.roles.channelWriters.getAllRoles.filter fun role => role.ofModule hostName processId).map
      (leaveMsg .channel now .writer) ++
    (before.roles.channelReaders.getAllRoles.filter fun role => role.ofModule hostName processId).map
      (leaveMsg .channel now .reader)

structure NodeManager.ModuleGone (now : Nat) (hostName : String) (processId : Int)
    (before after : NodeManager) : Prop where
  nodes : before.roles.nodes.Cleared hostName processId after.roles.nodes
  notified : after.notified = before.notified ++
    (before.roles.nodes.getAllRoles.filter fun role => role.ofModule hostName processId).map
      (leaveMsg .node now .node)

structure ServiceManager.ModuleGone (now : Nat) (hostName : String) (processId : Int)
    (before after : ServiceManager) : Prop where
  servers : before.roles.servers.Cleared hostName processId after.roles.servers
  clients : before.roles.clients.Cleared hostName processId after.roles.clients
  notified : after.notified = before.notified ++
    (before.roles.servers.getAllRoles.filter fun role => role.ofModule hostName processId).map
      (leaveMsg .service now .server) ++
    (before.roles.clients.getAllRoles.filter fun role => role.ofModule hostName processId).map
      (leaveMsg .service now .client)

theorem ChannelManager.moduleGone {manager : ChannelManager} {writers readers : List Role}
    (mirrored : manager.roles.Mirrored writers readers) (started : manager.isDiscoveryStarted = true)
    (carries : ∀ role ∈ writers ++ readers, role.Carries) (now : Nat) (hostName : String) (processId : Int) :
    manager.ModuleGone now hostName processId (manager.onTopoModuleLeave now hostName processId) := by
  have named := fun role member (_ : role.ofModule hostName processId = true) => carries role member
  have kept := onTopoModuleLeave_mirrored mirrored started now named
  refine ⟨mirrored.nodeWriters.cleared kept.nodeWriters, mirrored.channelWriters.cleared kept.channelWriters,
    mirrored.nodeReaders.cleared kept.nodeReaders, mirrored.channelReaders.cleared kept.channelReaders, ?_⟩
  rw [onTopoModuleLeave_eq mirrored.channelWriters mirrored.channelReaders started now named,
    mirrored.channelWriters.getAllRoles, mirrored.channelReaders.getAllRoles]

namespace SingleValueWarehouse

def Keyed (key : RoleAttributes → UInt64) (warehouse : SingleValueWarehouse) : Prop :=
  ∀ value role, warehouse.searchKey value = some role → key role.attributes = value

variable {key : RoleAttributes → UInt64} {warehouse : SingleValueWarehouse}

theorem keyed_empty (key : RoleAttributes → UInt64) : Keyed key {} := by
  intro value role found
  simp [searchKey] at found

theorem searchKey_removeKey (warehouse : SingleValueWarehouse) (value other : UInt64) :
    (warehouse.removeKey value).searchKey other = if other = value then none else warehouse.searchKey other := by
  rw [searchKey, removeKey]
  split
  · rename_i same
    subst same
    exact AList.lookup_erase other warehouse.roles
  · rename_i differs
    exact AList.lookup_erase_ne differs

theorem Keyed.removeKey (keyed : Keyed key warehouse) (value : UInt64) : Keyed key (warehouse.removeKey value) := by
  intro other role found
  rw [searchKey_removeKey] at found
  split at found
  · cases found
  · exact keyed other role found

theorem Keyed.add (keyed : Keyed key warehouse) (role : Role) (ignoreIfExist : Bool) :
    Keyed key (warehouse.add (key role.attributes) role ignoreIfExist).2 := by
  rw [SingleValueWarehouse.add]
  split
  · exact keyed
  · intro other found here
    simp only [searchKey] at here
    by_cases same : other = key role.attributes
    · subst same
      rw [AList.lookup_insert] at here
      rw [← Option.some.inj here]
    · rw [AList.lookup_insert_ne same] at here
      exact keyed other found here

def removeKeys (key : RoleAttributes → UInt64) (warehouse : SingleValueWarehouse) (targets : List Role) :
    SingleValueWarehouse :=
  targets.foldl (fun warehouse role => warehouse.removeKey (key role.attributes)) warehouse

theorem Keyed.removeKeys (keyed : Keyed key warehouse) (targets : List Role) :
    Keyed key (warehouse.removeKeys key targets) := by
  induction targets generalizing warehouse with
  | nil => exact keyed
  | cons role targets ih => exact ih (keyed.removeKey _)

theorem searchKey_removeKeys (warehouse : SingleValueWarehouse) (targets : List Role) (value : UInt64) :
    (warehouse.removeKeys key targets).searchKey value =
      if ∃ role ∈ targets, key role.attributes = value then none else warehouse.searchKey value := by
  induction targets generalizing warehouse with
  | nil => simp [removeKeys]
  | cons role targets ih =>
    refine (ih _).trans ?_
    rw [searchKey_removeKey]
    simp only [List.mem_cons, exists_eq_or_imp]
    by_cases later : ∃ role ∈ targets, key role.attributes = value
    · simp [later]
    · by_cases here : key role.attributes = value
      · simp [here, later]
      · simp [here, Ne.symm here, later]

theorem mem_getAllRoles {role : Role} : role ∈ warehouse.getAllRoles ↔ ∃ value, warehouse.searchKey value = some role := by
  rw [getAllRoles, List.mem_map]
  constructor
  · rintro ⟨⟨value, found⟩, member, rfl⟩
    exact ⟨value, AList.mem_lookup_iff.mpr member⟩
  · rintro ⟨value, found⟩
    exact ⟨⟨value, role⟩, AList.mem_lookup_iff.mp found, rfl⟩

theorem search_eq (matchRole : Role → RoleAttributes → Bool) (warehouse : SingleValueWarehouse)
    (target : RoleAttributes) :
    warehouse.search matchRole target = warehouse.getAllRoles.filter fun role => matchRole role target := by
  rw [search, getAllRoles, List.filter_map]
  rfl

theorem Keyed.cleared (keyed : Keyed key warehouse) (hostName : String) (processId : Int) :
    warehouse.Cleared hostName processId
      (warehouse.removeKeys key (warehouse.getAllRoles.filter fun role => role.ofModule hostName processId)) := by
  intro value
  rw [searchKey_removeKeys]
  cases found : warehouse.searchKey value with
  | none => simp
  | some role =>
    rw [Option.filter_some]
    have own : (∃ other ∈ warehouse.getAllRoles.filter fun role => role.ofModule hostName processId,
        key other.attributes = value) ↔ role.ofModule hostName processId = true := by
      constructor
      · rintro ⟨other, member, same⟩
        obtain ⟨held, gone⟩ := List.mem_filter.mp member
        obtain ⟨value', found'⟩ := mem_getAllRoles.mp held
        have sameKey : value' = value := (keyed value' other found').symm.trans same
        rw [sameKey, found] at found'
        rw [Option.some.inj found']
        exact gone
      · intro gone
        exact ⟨role, List.mem_filter.mpr ⟨mem_getAllRoles.mpr ⟨value, found⟩, gone⟩, keyed value role found⟩
    by_cases gone : role.ofModule hostName processId = true
    · rw [if_pos (own.mpr gone)]
      simp [gone]
    · rw [if_neg (fun found => gone (own.mp found))]
      simp [gone]

end SingleValueWarehouse

theorem Manager.foldl_notify {Roles : Type} (manager : Manager Roles) (changeType : ChangeType) (now : Nat)
    (type : RoleType) {targets : List Role} (carries : ∀ role ∈ targets, role.Carries) :
    targets.foldl (fun manager role => manager.notify (manager.convert changeType now role.attributes type .leave))
        manager =
      { manager with notified := manager.notified ++ targets.map (leaveMsg changeType now type) } := by
  induction targets generalizing manager with
  | nil => simp
  | cons role targets ih =>
    rw [List.foldl_cons, ih _ fun later member => carries later (List.mem_cons_of_mem _ member),
      manager.convert_carries (carries role List.mem_cons_self)]
    simp only [notify, List.map_cons, List.append_assoc, List.singleton_append, leaveMsg]

theorem Manager.foldl_notify_roles {Roles : Type} (manager : Manager Roles) (changeType : ChangeType) (now : Nat)
    (type : RoleType) (targets : List Role) :
    (targets.foldl (fun manager role => manager.notify (manager.convert changeType now role.attributes type .leave))
      manager).roles = manager.roles := by
  induction targets generalizing manager with
  | nil => rfl
  | cons role targets ih => exact ih _

/-- A property of the roles that every message and every module leave keeps holds after any events. -/
theorem Manager.handle_keeps {Roles : Type} {specific : Specific Roles}
    {moduleLeave : Manager Roles → Nat → String → Int → Manager Roles} (Holds : Roles → Prop)
    (join : ∀ (manager : Manager Roles) msg, Holds manager.roles → Holds (specific.disposeJoin manager msg))
    (leave : ∀ roles msg, Holds roles → Holds (specific.disposeLeave roles msg))
    (cleared : ∀ manager now hostName processId, Holds manager.roles →
      Holds (moduleLeave manager now hostName processId).roles)
    (manager : Manager Roles) (event : ManagerEvent) (holds : Holds manager.roles) :
    Holds (manager.handle specific moduleLeave event).roles := by
  have disposed : ∀ event, Holds ((manager.disposal specific event).elim manager.roles fun msg =>
      (manager.dispose specific msg).roles) := by
    intro event
    cases manager.disposal specific event with
    | none => exact holds
    | some msg =>
      simp only [Option.elim_some, dispose, notify]
      cases msg.operateType with
      | join => exact join manager msg holds
      | leave => exact leave manager.roles msg holds
  rw [handle_roles]
  cases event with
  | onTopoModuleLeave now hostName processId => exact cleared manager now hostName processId holds
  | startDiscovery | stopDiscovery | shutdown | join | leave | onRemoteChange => exact disposed _

namespace NodeManager

def start (hostName : String) (processId : Int) : NodeManager := { hostName, processId, roles := {} }

theorem disposeJoin_keyed {manager : NodeManager} (msg : ChangeMsg)
    (keyed : manager.roles.nodes.Keyed RoleAttributes.getNodeId) :
    (disposeJoin manager msg).nodes.Keyed RoleAttributes.getNodeId := by
  have first := keyed.add ⟨msg.roleAttr, msg.timestamp⟩ false
  have again := keyed.add ⟨msg.roleAttr, msg.timestamp⟩ true
  simp only [disposeJoin]
  split
  · exact first
  · split
    · exact again
    · simp only
      split
      · exact again
      · exact keyed

theorem onTopoModuleLeave_roles (manager : NodeManager) (now : Nat) (hostName : String) (processId : Int) :
    (manager.onTopoModuleLeave now hostName processId).roles =
      if manager.isDiscoveryStarted then { manager.roles with
        nodes := manager.roles.nodes.removeKeys RoleAttributes.getNodeId
          (manager.roles.nodes.search Role.matchBase (moduleAttr hostName processId)) }
      else manager.roles := by
  rw [onTopoModuleLeave]
  split
  · exact Manager.foldl_notify_roles ..
  · rfl

theorem keyed_step (manager : NodeManager) (event : ManagerEvent) (next : NodeManager)
    (taken : manager.step event = some next) (keyed : manager.roles.nodes.Keyed RoleAttributes.getNodeId) :
    next.roles.nodes.Keyed RoleAttributes.getNodeId := by
  obtain rfl := Option.some.inj taken
  apply Manager.handle_keeps (fun roles : NodeRoles => roles.nodes.Keyed RoleAttributes.getNodeId) _ _ _ _ _ keyed
  · intro manager msg keyed
    exact disposeJoin_keyed msg keyed
  · intro roles msg keyed
    exact keyed.removeKey _
  · intro manager now hostName processId keyed
    rw [onTopoModuleLeave_roles]
    split
    · exact keyed.removeKeys _
    · exact keyed

theorem keyed_start (hostName : String) (processId : Int) :
    (start hostName processId).roles.nodes.Keyed RoleAttributes.getNodeId :=
  SingleValueWarehouse.keyed_empty _

theorem keyed_run {hostName : String} {processId : Int} {manager : NodeManager} {events : List ManagerEvent}
    (ran : run step (start hostName processId) events = some manager) :
    manager.roles.nodes.Keyed RoleAttributes.getNodeId :=
  run_invariant (fun manager _ => manager.roles.nodes.Keyed RoleAttributes.getNodeId)
    (fun manager _ event next taken keyed => keyed_step manager event next taken keyed)
    (keyed_start hostName processId) ran

theorem moduleGone {manager : NodeManager} (keyed : manager.roles.nodes.Keyed RoleAttributes.getNodeId)
    (started : manager.isDiscoveryStarted = true) (carries : ∀ role ∈ manager.roles.nodes.getAllRoles, role.Carries)
    (now : Nat) (hostName : String) (processId : Int) :
    manager.ModuleGone now hostName processId (manager.onTopoModuleLeave now hostName processId) := by
  have found : manager.roles.nodes.search Role.matchBase (moduleAttr hostName processId) =
      manager.roles.nodes.getAllRoles.filter fun role => role.ofModule hostName processId := by
    rw [SingleValueWarehouse.search_eq]
    simp only [Role.matchBase_moduleAttr]
  constructor
  · rw [onTopoModuleLeave_roles, if_pos started, found]
    exact keyed.cleared hostName processId
  · rw [onTopoModuleLeave, if_pos started]
    simp only [found]
    rw [Manager.foldl_notify _ _ _ _ fun role member => carries role (List.mem_of_mem_filter member)]

end NodeManager

namespace ServiceManager

def start (hostName : String) (processId : Int) : ServiceManager := { hostName, processId, roles := {} }

def Filed (roles : ServiceRoles) : Prop :=
  roles.servers.Keyed RoleAttributes.getServiceId ∧ ∃ held, Keyed RoleAttributes.getServiceId roles.clients held

theorem disposeJoin_filed {roles : ServiceRoles} (filed : Filed roles) (msg : ChangeMsg) :
    Filed (disposeJoin roles msg) := by
  obtain ⟨servers, held, clients⟩ := filed
  rw [disposeJoin]
  split
  · exact ⟨servers.add { attributes := msg.roleAttr } true, held, clients⟩
  · exact ⟨servers, _, clients.add { attributes := msg.roleAttr }⟩

theorem disposeLeave_filed {roles : ServiceRoles} (filed : Filed roles) (msg : ChangeMsg) :
    Filed (disposeLeave roles msg) := by
  obtain ⟨servers, held, clients⟩ := filed
  rw [disposeLeave]
  split
  · exact ⟨servers.removeKey _, held, clients⟩
  · exact ⟨servers, _, clients.remove Role.matchServer { attributes := msg.roleAttr }⟩

theorem onTopoModuleLeave_roles (manager : ServiceManager) (now : Nat) (hostName : String) (processId : Int) :
    (manager.onTopoModuleLeave now hostName processId).roles =
      if manager.isDiscoveryStarted then
        { servers := manager.roles.servers.removeKeys RoleAttributes.getServiceId
            (manager.roles.servers.search Role.matchServer (moduleAttr hostName processId))
          clients := manager.roles.clients.removeAll RoleAttributes.getServiceId Role.matchServer
            ((manager.roles.clients.search Role.matchServer (moduleAttr hostName processId)).map
              fun client => client.attributes) }
      else manager.roles := by
  rw [onTopoModuleLeave]
  split
  · refine (Manager.foldl_notify_roles ..).trans ((Manager.foldl_notify_roles ..).trans ?_)
    rw [removeAll, List.foldl_map]
    rfl
  · rfl

theorem filed_step (manager : ServiceManager) (event : ManagerEvent) (next : ServiceManager)
    (taken : manager.step event = some next) (filed : Filed manager.roles) : Filed next.roles := by
  obtain rfl := Option.some.inj taken
  apply Manager.handle_keeps Filed _ _ _ _ _ filed
  · intro manager msg filed
    exact disposeJoin_filed filed msg
  · intro roles msg filed
    exact disposeLeave_filed filed msg
  · rintro manager now hostName processId ⟨servers, held, clients⟩
    rw [onTopoModuleLeave_roles]
    split
    · exact ⟨servers.removeKeys _, _, clients.removeAll Role.matchServer _⟩
    · exact ⟨servers, held, clients⟩

theorem filed_start (hostName : String) (processId : Int) : Filed (start hostName processId).roles :=
  ⟨SingleValueWarehouse.keyed_empty _, [], keyed_empty _⟩

theorem filed_run {hostName : String} {processId : Int} {manager : ServiceManager} {events : List ManagerEvent}
    (ran : run step (start hostName processId) events = some manager) : Filed manager.roles :=
  run_invariant (fun manager _ => Filed manager.roles)
    (fun manager _ event next taken filed => filed_step manager event next taken filed)
    (filed_start hostName processId) ran

theorem moduleGone {manager : ServiceManager} (filed : Filed manager.roles)
    (started : manager.isDiscoveryStarted = true)
    (carries : ∀ role ∈ manager.roles.servers.getAllRoles ++ manager.roles.clients.getAllRoles, role.Carries)
    (now : Nat) (hostName : String) (processId : Int) :
    manager.ModuleGone now hostName processId (manager.onTopoModuleLeave now hostName processId) := by
  obtain ⟨servers, held, clients⟩ := filed
  rw [clients.getAllRoles] at carries
  have found : manager.roles.servers.search Role.matchServer (moduleAttr hostName processId) =
      manager.roles.servers.getAllRoles.filter fun role => role.ofModule hostName processId := by
    rw [SingleValueWarehouse.search_eq]
    simp only [Role.matchServer_moduleAttr]
  have found' : manager.roles.clients.search Role.matchServer (moduleAttr hostName processId) =
      held.filter fun role => role.ofModule hostName processId := by
    rw [clients.search]
    simp only [Role.matchServer_moduleAttr]
  constructor
  · rw [onTopoModuleLeave_roles, if_pos started, found]
    exact servers.cleared hostName processId
  · rw [onTopoModuleLeave_roles, if_pos started, found']
    apply clients.cleared
    apply clients.removeModule Role.matchServer_self Role.matchServer_base
    intro role member _
    exact carries role (List.mem_append_right _ member)
  · rw [onTopoModuleLeave, if_pos started, clients.getAllRoles]
    simp only [found, found']
    rw [Manager.foldl_notify _ _ _ _ fun role member =>
        carries role (List.mem_append_left _ (List.mem_of_mem_filter member)),
      Manager.foldl_notify _ _ _ _ fun role member =>
        carries role (List.mem_append_right _ (List.mem_of_mem_filter member))]

end ServiceManager

/-- In every state that the managers reach while each leave at the channel manager matches only roles of its own node
    id, `OnTopoModuleLeave` takes the roles of the participant and no others out of every warehouse, and one leave
    message is notified for each of them. -/
theorem module_leave_clears {host : String} {process : Int} {nodeEvents channelEvents serviceEvents : List ManagerEvent}
    {nodes : NodeManager} {channels : ChannelManager} {services : ServiceManager}
    (ranNodes : run NodeManager.step (NodeManager.start host process) nodeEvents = some nodes)
    (ranChannels : run ChannelManager.step (ChannelManager.start host process) channelEvents = some channels)
    (ranServices : run ServiceManager.step (ServiceManager.start host process) serviceEvents = some services)
    (steady : Meets ChannelManager.step ChannelManager.Steady (ChannelManager.start host process) channelEvents)
    (started : nodes.isDiscoveryStarted = true ∧ channels.isDiscoveryStarted = true ∧
      services.isDiscoveryStarted = true)
    (carries : ∀ role ∈ nodes.roles.nodes.getAllRoles ++
      (channels.roles.channelWriters.getAllRoles ++ channels.roles.channelReaders.getAllRoles) ++
      (services.roles.servers.getAllRoles ++ services.roles.clients.getAllRoles), role.Carries)
    (now : Nat) (hostName : String) (processId : Int) :
    nodes.ModuleGone now hostName processId (nodes.onTopoModuleLeave now hostName processId) ∧
    channels.ModuleGone now hostName processId (channels.onTopoModuleLeave now hostName processId) ∧
    services.ModuleGone now hostName processId (services.onTopoModuleLeave now hostName processId) := by
  refine ⟨?_, ?_, ?_⟩
  · apply NodeManager.moduleGone (NodeManager.keyed_run ranNodes) started.1
    intro role member
    exact carries role (List.mem_append_left _ (List.mem_append_left _ member))
  · obtain ⟨writers, readers, mirrored⟩ := ChannelManager.mirrored_run steady ranChannels
    apply ChannelManager.moduleGone mirrored started.2.1
    rw [mirrored.channelWriters.getAllRoles, mirrored.channelReaders.getAllRoles] at carries
    intro role member
    exact carries role (List.mem_append_left _ (List.mem_append_right _ member))
  · apply ServiceManager.moduleGone (ServiceManager.filed_run ranServices) started.2.2
    intro role member
    exact carries role (List.mem_append_right _ member)

def fullRole : RoleAttributes where
  hostName := some "host"
  processId := some 1
  nodeName := some "A"
  nodeId := some 1
  channelName := some "c"
  channelId := some 7
  id := some 10
  serviceName := some "s"
  serviceId := some 5

def joined (role : RoleType) : List ManagerEvent := [.startDiscovery, .join 1 fullRole role true]

theorem joined_module_leaves :
    ∃ nodes channels services,
      run NodeManager.step (NodeManager.start "host" 1) (joined .node) = some nodes ∧
      run ChannelManager.step (ChannelManager.start "host" 1) (joined .writer) = some channels ∧
      run ServiceManager.step (ServiceManager.start "host" 1) (joined .server) = some services ∧
      channels.roles.nodeWriters.getAllRoles = [⟨fullRole, 1⟩] ∧
      nodes.ModuleGone 2 "host" 1 (nodes.onTopoModuleLeave 2 "host" 1) ∧
      channels.ModuleGone 2 "host" 1 (channels.onTopoModuleLeave 2 "host" 1) ∧
      services.ModuleGone 2 "host" 1 (services.onTopoModuleLeave 2 "host" 1) := by
  have steady : Meets ChannelManager.step ChannelManager.Steady (ChannelManager.start "host" 1) (joined .writer) := by
    refine ⟨?_, fun next _ => ⟨?_, fun _ _ => trivial⟩⟩
    · intro msg disposed
      cases disposed
    · intro msg disposed leaves
      simp only [Manager.disposal, Option.ite_none_right_eq_some] at disposed
      obtain rfl := Option.some.inj disposed.2
      cases leaves
  refine ⟨_, _, _, rfl, rfl, rfl, by decide +kernel, ?_⟩
  exact @module_leave_clears "host" 1 (joined .node) (joined .writer) (joined .server) _ _ _ rfl rfl rfl steady
    (by decide +kernel) (by decide +kernel) 2 "host" 1

/-- A writer joins and leaves; the attributes of its leave pass `Check` without a node id. -/
def leftWithoutNode : List ManagerEvent :=
  joined .writer ++ [.leave 2 { fullRole with nodeId := none } .writer]

theorem leftWithoutNode_remains :
    ¬∀ (events : List ManagerEvent) (channels : ChannelManager),
      run ChannelManager.step (ChannelManager.start "host" 1) events = some channels →
      channels.isDiscoveryStarted = true →
      (∀ role ∈ channels.roles.nodeWriters.getAllRoles ++ channels.roles.channelWriters.getAllRoles ++
        channels.roles.nodeReaders.getAllRoles ++ channels.roles.channelReaders.getAllRoles, role.Carries) →
      ∀ now hostName processId, ∀ role ∈
        (channels.onTopoModuleLeave now hostName processId).roles.nodeWriters.getAllRoles,
        role.ofModule hostName processId = false := by
  intro clears
  have remains := clears leftWithoutNode _ rfl (by decide +kernel) (by decide +kernel) 3 "host" 1
  revert remains
  decide +kernel

end CyberRT.Discovery

import CyberRT.Discovery.SpecificManagers
import CyberRT.Discovery.Warehouses
import CyberRT.Execution.Run

namespace CyberRT.Discovery

open Execution

namespace Manager

variable {Roles : Type}

/-- The message that the manager disposes of at an event other than `OnTopoModuleLeave`. -/
def disposal (specific : Specific Roles) (manager : Manager Roles) : ManagerEvent → Option ChangeMsg
  | .join now attr role _ =>
    if manager.isShutdown = false ∧ specific.allowedRole role = true ∧ specific.check attr = true then
      some (manager.convert specific.changeType now attr role .join)
    else none
  | .leave now attr role =>
    if manager.isShutdown = false ∧ specific.allowedRole role = true ∧ specific.check attr = true then
      some (manager.convert specific.changeType now attr role .leave)
    else none
  | .onRemoteChange msg =>
    if manager.isShutdown = false ∧ manager.isFromSameProcess msg = false ∧ specific.check msg.roleAttr = true then
      some msg
    else none
  | _ => none

theorem disposal_cases {specific : Specific Roles} {manager : Manager Roles} {event : ManagerEvent} {msg : ChangeMsg}
    (disposed : manager.disposal specific event = some msg) :
    (∃ now attr role needPublish, event = .join now attr role needPublish ∧ specific.check attr = true ∧
      msg = manager.convert specific.changeType now attr role .join) ∨
    (∃ now attr role, event = .leave now attr role ∧ specific.check attr = true ∧
      msg = manager.convert specific.changeType now attr role .leave) ∨
    event = .onRemoteChange msg ∧ specific.check msg.roleAttr = true := by
  cases event with
  | join now attr role needPublish =>
    simp only [disposal, Option.ite_none_right_eq_some, Option.some.injEq] at disposed
    exact Or.inl ⟨now, attr, role, needPublish, rfl, disposed.1.2.2, disposed.2.symm⟩
  | leave now attr role =>
    simp only [disposal, Option.ite_none_right_eq_some, Option.some.injEq] at disposed
    exact Or.inr (Or.inl ⟨now, attr, role, rfl, disposed.1.2.2, disposed.2.symm⟩)
  | onRemoteChange received =>
    simp only [disposal, Option.ite_none_right_eq_some, Option.some.injEq] at disposed
    obtain ⟨⟨_, _, checked⟩, rfl⟩ := disposed
    exact Or.inr (Or.inr ⟨rfl, checked⟩)
  | startDiscovery | stopDiscovery | shutdown | onTopoModuleLeave => cases disposed

theorem publish_roles (manager : Manager Roles) (msg : ChangeMsg) : (manager.publish msg).2.roles = manager.roles := by
  rw [publish]
  split <;> rfl

/-- An event leaves the roles alone, or disposes of a message, or is an `OnTopoModuleLeave`. -/
theorem handle_roles (specific : Specific Roles) (moduleLeave : Manager Roles → Nat → String → Int → Manager Roles)
    (manager : Manager Roles) (event : ManagerEvent) :
    (manager.handle specific moduleLeave event).roles =
      match event with
      | .onTopoModuleLeave now hostName processId => (moduleLeave manager now hostName processId).roles
      | event => (manager.disposal specific event).elim manager.roles fun msg =>
          (manager.dispose specific msg).roles := by
  cases event with
  | startDiscovery => rfl
  | stopDiscovery => rfl
  | shutdown =>
    simp only [handle, disposal, Option.elim]
    split <;> rfl
  | join now attr role needPublish =>
    simp only [handle, join, disposal]
    cases manager.isShutdown <;> cases specific.allowedRole role <;> cases specific.check attr <;>
      cases needPublish <;> simp [publish_roles]
  | leave now attr role =>
    simp only [handle, leave, disposal]
    cases manager.isShutdown <;> cases specific.allowedRole role <;> cases specific.check attr <;>
      simp [publish_roles]
  | onRemoteChange msg =>
    simp only [handle, onRemoteChange, disposal]
    cases manager.isShutdown <;> cases manager.isFromSameProcess msg <;> cases specific.check msg.roleAttr <;> simp
  | onTopoModuleLeave now hostName processId => rfl

end Manager

theorem Role.matchBase_moduleAttr (role : Role) (hostName : String) (processId : Int) :
    role.matchBase (moduleAttr hostName processId) = role.ofModule hostName processId := by
  simp [matchBase, moduleAttr, fieldMatches, ofModule, Bool.and_comm, eq_comm]

theorem Role.matchWriter_moduleAttr (role : Role) (hostName : String) (processId : Int) :
    role.matchWriter (moduleAttr hostName processId) = role.ofModule hostName processId := by
  rw [matchWriter, matchBase_moduleAttr]
  simp [moduleAttr, fieldMatches]

theorem Role.matchServer_moduleAttr (role : Role) (hostName : String) (processId : Int) :
    role.matchServer (moduleAttr hostName processId) = role.ofModule hostName processId := by
  rw [matchServer, matchBase_moduleAttr]
  simp [moduleAttr, fieldMatches]

theorem Manager.convert_carries {Roles : Type} (manager : Manager Roles) {role : Role} (carries : role.Carries)
    (changeType : ChangeType) (now : Nat) (type : RoleType) (opt : OperateType) :
    manager.convert changeType now role.attributes type opt = ⟨now, changeType, opt, type, role.attributes⟩ := by
  have attributes : ({ role.attributes with
      hostName := some (role.attributes.hostName.getD manager.hostName)
      processId := some (role.attributes.processId.getD manager.processId) } : RoleAttributes) = role.attributes := by
    rw [carries.hostName, carries.processId]
    simp only [Option.getD_some]
    rw [← carries.hostName, ← carries.processId]
  rw [convert, attributes]

def leaveMsg (changeType : ChangeType) (now : Nat) (type : RoleType) (role : Role) : ChangeMsg :=
  ⟨now, changeType, .leave, type, role.attributes⟩

namespace ChannelRoles

open MultiValueWarehouse

/-- The warehouses by node and by channel hold the same roles, each under its own key. -/
structure Mirrored (roles : ChannelRoles) (writers readers : List Role) : Prop where
  nodeWriters : Keyed RoleAttributes.getNodeId roles.nodeWriters writers
  channelWriters : Keyed RoleAttributes.getChannelId roles.channelWriters writers
  nodeReaders : Keyed RoleAttributes.getNodeId roles.nodeReaders readers
  channelReaders : Keyed RoleAttributes.getChannelId roles.channelReaders readers

/-- Every role that matches the attributes has their node id. -/
def Pinpoints (attr : RoleAttributes) (held : List Role) : Prop :=
  ∀ role ∈ held, role.matchWriter attr = true → role.attributes.getNodeId = attr.getNodeId

theorem matchWriter_channelId {role : Role} {attr : RoleAttributes} (checked : check attr = true)
    (matched : role.matchWriter attr = true) : role.attributes.getChannelId = attr.getChannelId := by
  rw [check, Bool.and_eq_true, Bool.and_eq_true] at checked
  obtain ⟨value, same⟩ := Option.isSome_iff_exists.mp checked.1.2
  rw [Role.matchWriter, Bool.and_eq_true, Bool.and_eq_true, same, Role.fieldMatches_some] at matched
  rw [← matched.1.1, RoleAttributes.getChannelId, same]
  rfl

theorem keyed_remove_matching {key : RoleAttributes → UInt64} {warehouse : MultiValueWarehouse} {held : List Role}
    (keyed : Keyed key warehouse held) {attr : RoleAttributes}
    (own : ∀ role ∈ held, role.matchWriter attr = true → key role.attributes = key attr) :
    Keyed key (warehouse.remove Role.matchWriter (key attr) { attributes := attr })
      (held.filter fun role => !role.matchWriter attr) := by
  have removed := keyed.remove Role.matchWriter { attributes := attr }
  have same : (held.filter fun role => !role.matchWriter attr) =
      held.filter fun role => !(key role.attributes = key attr && role.matchWriter attr) := by
    apply List.filter_congr
    intro role member
    cases matched : role.matchWriter attr with
    | false => simp
    | true => simp [own role member matched]
  rw [same]
  exact removed

theorem Mirrored.disposeJoin {roles : ChannelRoles} {writers readers : List Role}
    (mirrored : roles.Mirrored writers readers) (msg : ChangeMsg) :
    (roles.disposeJoin msg).Mirrored
      (if msg.roleType = .writer then writers ++ [⟨msg.roleAttr, msg.timestamp⟩] else writers)
      (if msg.roleType = .writer then readers else readers ++ [⟨msg.roleAttr, msg.timestamp⟩]) := by
  cases type : msg.roleType with
  | writer =>
    simp only [ChannelRoles.disposeJoin, type, if_true]
    exact ⟨mirrored.nodeWriters.add ⟨msg.roleAttr, msg.timestamp⟩,
      mirrored.channelWriters.add ⟨msg.roleAttr, msg.timestamp⟩, mirrored.nodeReaders, mirrored.channelReaders⟩
  | node | reader | server | client | participant =>
    simp only [ChannelRoles.disposeJoin, type, reduceCtorEq, if_false]
    exact ⟨mirrored.nodeWriters, mirrored.channelWriters, mirrored.nodeReaders.add ⟨msg.roleAttr, msg.timestamp⟩,
      mirrored.channelReaders.add ⟨msg.roleAttr, msg.timestamp⟩⟩

theorem Mirrored.disposeLeave {roles : ChannelRoles} {writers readers : List Role}
    (mirrored : roles.Mirrored writers readers) {msg : ChangeMsg} (checked : check msg.roleAttr = true)
    (pinpoints : Pinpoints msg.roleAttr (if msg.roleType = .writer then writers else readers)) :
    (roles.disposeLeave msg).Mirrored
      (if msg.roleType = .writer then writers.filter fun role => !role.matchWriter msg.roleAttr else writers)
      (if msg.roleType = .writer then readers else readers.filter fun role => !role.matchWriter msg.roleAttr) := by
  cases type : msg.roleType with
  | writer =>
    simp only [type, if_true] at pinpoints
    simp only [ChannelRoles.disposeLeave, type, if_true]
    exact ⟨keyed_remove_matching mirrored.nodeWriters pinpoints,
      keyed_remove_matching mirrored.channelWriters fun _ _ => matchWriter_channelId checked,
      mirrored.nodeReaders, mirrored.channelReaders⟩
  | node | reader | server | client | participant =>
    simp only [type, reduceCtorEq, if_false] at pinpoints
    simp only [ChannelRoles.disposeLeave, type, reduceCtorEq, if_false]
    exact ⟨mirrored.nodeWriters, mirrored.channelWriters, keyed_remove_matching mirrored.nodeReaders pinpoints,
      keyed_remove_matching mirrored.channelReaders fun _ _ => matchWriter_channelId checked⟩

theorem foldl_disposeLeave_writers (roles : ChannelRoles) (msgs : List ChangeMsg)
    (writers : ∀ msg ∈ msgs, msg.roleType = .writer) :
    msgs.foldl ChannelRoles.disposeLeave roles =
      { roles with
        nodeGraph := (msgs.map fun msg => msg.roleAttr).foldl
          (fun graph attr => graph.delete ⟨⟨attr.getNodeName⟩, {}, attr.getChannelName⟩) roles.nodeGraph
        nodeWriters := roles.nodeWriters.removeAll RoleAttributes.getNodeId Role.matchWriter
          (msgs.map fun msg => msg.roleAttr)
        channelWriters := roles.channelWriters.removeAll RoleAttributes.getChannelId Role.matchWriter
          (msgs.map fun msg => msg.roleAttr) } := by
  induction msgs generalizing roles with
  | nil => rfl
  | cons msg msgs ih =>
    have type := writers msg List.mem_cons_self
    rw [List.foldl_cons, ih _ fun later member => writers later (List.mem_cons_of_mem _ member)]
    simp only [ChannelRoles.disposeLeave, type, List.map_cons, List.foldl_cons, removeAll]

theorem foldl_disposeLeave_readers (roles : ChannelRoles) (msgs : List ChangeMsg)
    (readers : ∀ msg ∈ msgs, msg.roleType = .reader) :
    msgs.foldl ChannelRoles.disposeLeave roles =
      { roles with
        nodeGraph := (msgs.map fun msg => msg.roleAttr).foldl
          (fun graph attr => graph.delete ⟨{}, ⟨attr.getNodeName⟩, attr.getChannelName⟩) roles.nodeGraph
        nodeReaders := roles.nodeReaders.removeAll RoleAttributes.getNodeId Role.matchWriter
          (msgs.map fun msg => msg.roleAttr)
        channelReaders := roles.channelReaders.removeAll RoleAttributes.getChannelId Role.matchWriter
          (msgs.map fun msg => msg.roleAttr) } := by
  induction msgs generalizing roles with
  | nil => rfl
  | cons msg msgs ih =>
    have type := readers msg List.mem_cons_self
    rw [List.foldl_cons, ih _ fun later member => readers later (List.mem_cons_of_mem _ member)]
    simp only [ChannelRoles.disposeLeave, type, List.map_cons, List.foldl_cons, removeAll]

end ChannelRoles

namespace ChannelManager

open MultiValueWarehouse

theorem foldl_removeRole (manager : ChannelManager) (now : Nat) (type : RoleType) {targets : List Role}
    (carries : ∀ role ∈ targets, role.Carries) :
    targets.foldl (removeRole now type) manager =
      { manager with
        roles := (targets.map (leaveMsg .channel now type)).foldl ChannelRoles.disposeLeave manager.roles
        notified := manager.notified ++ targets.map (leaveMsg .channel now type) } := by
  induction targets generalizing manager with
  | nil => simp
  | cons role targets ih =>
    rw [List.foldl_cons, ih _ fun later member => carries later (List.mem_cons_of_mem _ member)]
    simp only [removeRole, manager.convert_carries (carries role List.mem_cons_self), Manager.notify, List.map_cons,
      List.foldl_cons, List.append_assoc, List.singleton_append, leaveMsg]

/-- What `OnTopoModuleLeave` does when the roles of the participant name it. -/
theorem onTopoModuleLeave_eq {manager : ChannelManager} {writers readers : List Role}
    (keyed : Keyed RoleAttributes.getChannelId manager.roles.channelWriters writers)
    (keyed' : Keyed RoleAttributes.getChannelId manager.roles.channelReaders readers)
    (started : manager.isDiscoveryStarted = true) (now : Nat)
    {hostName : String} {processId : Int}
    (carries : ∀ role ∈ writers ++ readers, role.ofModule hostName processId = true → role.Carries) :
    let removed := writers.filter fun role => role.ofModule hostName processId
    let removed' := readers.filter fun role => role.ofModule hostName processId
    manager.onTopoModuleLeave now hostName processId =
      { manager with
        roles :=
          { nodeGraph := removed'.foldl
              (fun graph role => graph.delete ⟨{}, ⟨role.attributes.getNodeName⟩, role.attributes.getChannelName⟩)
              (removed.foldl
                (fun graph role => graph.delete ⟨⟨role.attributes.getNodeName⟩, {}, role.attributes.getChannelName⟩)
                manager.roles.nodeGraph)
            nodeWriters := manager.roles.nodeWriters.removeAll RoleAttributes.getNodeId Role.matchWriter
              (removed.map fun role => role.attributes)
            channelWriters := manager.roles.channelWriters.removeAll RoleAttributes.getChannelId Role.matchWriter
              (removed.map fun role => role.attributes)
            nodeReaders := manager.roles.nodeReaders.removeAll RoleAttributes.getNodeId Role.matchWriter
              (removed'.map fun role => role.attributes)
            channelReaders := manager.roles.channelReaders.removeAll RoleAttributes.getChannelId Role.matchWriter
              (removed'.map fun role => role.attributes) }
        notified := manager.notified ++ removed.map (leaveMsg .channel now .writer) ++
          removed'.map (leaveMsg .channel now .reader) } := by
  intro removed removed'
  have found : manager.roles.channelWriters.search Role.matchWriter (moduleAttr hostName processId) = removed := by
    rw [keyed.search]
    simp only [Role.matchWriter_moduleAttr, removed]
  have found' : manager.roles.channelReaders.search Role.matchWriter (moduleAttr hostName processId) = removed' := by
    rw [keyed'.search]
    simp only [Role.matchWriter_moduleAttr, removed']
  have named : ∀ role ∈ removed, role.Carries := by
    intro role member
    obtain ⟨held, own⟩ := List.mem_filter.mp member
    exact carries role (List.mem_append_left _ held) own
  have named' : ∀ role ∈ removed', role.Carries := by
    intro role member
    obtain ⟨held, own⟩ := List.mem_filter.mp member
    exact carries role (List.mem_append_right _ held) own
  rw [onTopoModuleLeave, if_pos started]
  simp only [found, found']
  rw [foldl_removeRole _ _ _ named, foldl_removeRole _ _ _ named',
    ChannelRoles.foldl_disposeLeave_writers _ _ (by simp [leaveMsg]),
    ChannelRoles.foldl_disposeLeave_readers _ _ (by simp [leaveMsg])]
  simp only [List.map_map, List.foldl_map, Function.comp_def, leaveMsg]

theorem onTopoModuleLeave_mirrored {manager : ChannelManager} {writers readers : List Role}
    (mirrored : manager.roles.Mirrored writers readers) (started : manager.isDiscoveryStarted = true) (now : Nat)
    {hostName : String} {processId : Int}
    (carries : ∀ role ∈ writers ++ readers, role.ofModule hostName processId = true → role.Carries) :
    (manager.onTopoModuleLeave now hostName processId).roles.Mirrored
      (writers.filter fun role => !role.ofModule hostName processId)
      (readers.filter fun role => !role.ofModule hostName processId) := by
  have writersCarry := fun role member => carries role (List.mem_append_left readers member)
  have readersCarry := fun role member => carries role (List.mem_append_right writers member)
  rw [onTopoModuleLeave_eq mirrored.channelWriters mirrored.channelReaders started now carries]
  exact ⟨mirrored.nodeWriters.removeModule Role.matchWriter_self Role.matchWriter_base writersCarry,
    mirrored.channelWriters.removeModule Role.matchWriter_self Role.matchWriter_base writersCarry,
    mirrored.nodeReaders.removeModule Role.matchWriter_self Role.matchWriter_base readersCarry,
    mirrored.channelReaders.removeModule Role.matchWriter_self Role.matchWriter_base readersCarry⟩

/-- The roles that a message of this type is about. -/
def heldRoles (roles : ChannelRoles) (type : RoleType) : List Role :=
  if type = .writer then roles.channelWriters.getAllRoles else roles.channelReaders.getAllRoles

/-- A leave matches only roles of its own node id, and a module leaves with roles that name it. -/
def Steady (manager : ChannelManager) : ManagerEvent → Prop
  | .onTopoModuleLeave _ hostName processId =>
    ∀ type, ∀ role ∈ heldRoles manager.roles type, role.ofModule hostName processId = true → role.Carries
  | event => ∀ msg, manager.disposal specific event = some msg → msg.operateType = .leave →
      ChannelRoles.Pinpoints msg.roleAttr (heldRoles manager.roles msg.roleType)

theorem disposal_checked {manager : ChannelManager} {event : ManagerEvent} {msg : ChangeMsg}
    (disposed : manager.disposal specific event = some msg) : ChannelRoles.check msg.roleAttr = true := by
  rcases Manager.disposal_cases disposed with ⟨_, _, _, _, _, checked, rfl⟩ | ⟨_, _, _, _, checked, rfl⟩ | ⟨_, checked⟩
  · exact checked
  · exact checked
  · exact checked

theorem dispose_mirrored {manager : ChannelManager} {writers readers : List Role}
    (mirrored : manager.roles.Mirrored writers readers) {msg : ChangeMsg}
    (checked : ChannelRoles.check msg.roleAttr = true)
    (pinpoints : msg.operateType = .leave →
      ChannelRoles.Pinpoints msg.roleAttr (heldRoles manager.roles msg.roleType)) :
    ∃ writers' readers', (manager.dispose specific msg).roles.Mirrored writers' readers' ∧
      ∀ role ∈ writers' ++ readers', role ∈ writers ++ readers ∨ role.attributes = msg.roleAttr := by
  cases operate : msg.operateType with
  | join =>
    have same : (manager.dispose specific msg).roles = manager.roles.disposeJoin msg := by
      simp only [Manager.dispose, operate]
      rfl
    rw [same]
    refine ⟨_, _, mirrored.disposeJoin msg, ?_⟩
    intro role member
    split at member
    · rcases List.mem_append.mp member with member | member
      · rcases List.mem_append.mp member with member | member
        · exact Or.inl (List.mem_append_left _ member)
        · rw [List.mem_singleton.mp member]
          exact Or.inr rfl
      · exact Or.inl (List.mem_append_right _ member)
    · rcases List.mem_append.mp member with member | member
      · exact Or.inl (List.mem_append_left _ member)
      · rcases List.mem_append.mp member with member | member
        · exact Or.inl (List.mem_append_right _ member)
        · rw [List.mem_singleton.mp member]
          exact Or.inr rfl
  | leave =>
    have same : (manager.dispose specific msg).roles = manager.roles.disposeLeave msg := by
      simp only [Manager.dispose, operate]
      rfl
    have held : heldRoles manager.roles msg.roleType = if msg.roleType = .writer then writers else readers := by
      rw [heldRoles, mirrored.channelWriters.getAllRoles, mirrored.channelReaders.getAllRoles]
    rw [same]
    refine ⟨_, _, mirrored.disposeLeave checked (held ▸ pinpoints operate), ?_⟩
    intro role member
    left
    split at member
    all_goals
      simp only [List.mem_append, List.mem_filter] at member ⊢
      tauto

theorem disposal_mirrored {manager : ChannelManager} {event : ManagerEvent} {writers readers : List Role}
    (mirrored : manager.roles.Mirrored writers readers)
    (steady : ∀ msg, manager.disposal specific event = some msg → msg.operateType = .leave →
      ChannelRoles.Pinpoints msg.roleAttr (heldRoles manager.roles msg.roleType)) :
    ∃ writers' readers', ((manager.disposal specific event).elim manager.roles fun msg =>
        (manager.dispose specific msg).roles).Mirrored writers' readers' ∧
      ∀ role ∈ writers' ++ readers', role ∈ writers ++ readers ∨
        ∃ msg, manager.disposal specific event = some msg ∧ role.attributes = msg.roleAttr := by
  cases disposed : manager.disposal specific event with
  | none => exact ⟨writers, readers, mirrored, fun role member => Or.inl member⟩
  | some msg =>
    obtain ⟨writers', readers', kept, origin⟩ :=
      dispose_mirrored mirrored (disposal_checked disposed) (steady msg disposed)
    refine ⟨writers', readers', kept, ?_⟩
    intro role member
    exact (origin role member).imp_right fun same => ⟨msg, rfl, same⟩

theorem step_mirrored {manager next : ChannelManager} {event : ManagerEvent} {writers readers : List Role}
    (mirrored : manager.roles.Mirrored writers readers) (steady : manager.Steady event)
    (taken : manager.step event = some next) :
    ∃ writers' readers', next.roles.Mirrored writers' readers' ∧
      ∀ role ∈ writers' ++ readers', role ∈ writers ++ readers ∨
        ∃ msg, manager.disposal specific event = some msg ∧ role.attributes = msg.roleAttr := by
  obtain rfl := Option.some.inj taken
  rw [Manager.handle_roles]
  cases event with
  | onTopoModuleLeave now hostName processId =>
    by_cases started : manager.isDiscoveryStarted = true
    · refine ⟨_, _, onTopoModuleLeave_mirrored mirrored started now ?_, ?_⟩
      · intro role member own
        rcases List.mem_append.mp member with member | member
        · apply steady .writer role _ own
          rw [heldRoles, if_pos rfl, mirrored.channelWriters.getAllRoles]
          exact member
        · apply steady .reader role _ own
          rw [heldRoles, if_neg (by decide), mirrored.channelReaders.getAllRoles]
          exact member
      · intro role member
        left
        simp only [List.mem_append, List.mem_filter] at member ⊢
        tauto
    · simp only [onTopoModuleLeave, if_neg started]
      exact ⟨writers, readers, mirrored, fun role member => Or.inl member⟩
  | startDiscovery | stopDiscovery | shutdown | join | leave | onRemoteChange =>
    exact disposal_mirrored mirrored steady

def start (hostName : String) (processId : Int) : ChannelManager := { hostName, processId, roles := {} }

theorem mirrored_start (hostName : String) (processId : Int) : (start hostName processId).roles.Mirrored [] [] :=
  ⟨keyed_empty _, keyed_empty _, keyed_empty _, keyed_empty _⟩

theorem mirrored_run {hostName : String} {processId : Int} {manager : ChannelManager} {events : List ManagerEvent}
    (steady : Meets step Steady (start hostName processId) events)
    (ran : run step (start hostName processId) events = some manager) :
    ∃ writers readers, manager.roles.Mirrored writers readers := by
  apply Meets.preserves (fun manager : ChannelManager => ∃ writers readers, manager.roles.Mirrored writers readers)
    _ _ steady ran
  · rintro state event next meets taken ⟨writers, readers, mirrored⟩
    obtain ⟨writers', readers', kept, _⟩ := step_mirrored mirrored meets taken
    exact ⟨writers', readers', kept⟩
  · exact ⟨[], [], mirrored_start hostName processId⟩

end ChannelManager

end CyberRT.Discovery

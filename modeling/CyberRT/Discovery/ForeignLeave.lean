import CyberRT.Discovery.Claimants

namespace CyberRT.Discovery

open Execution

/-- The process that a role or a message names as its own. -/
def RoleAttributes.process (attr : RoleAttributes) : String × Int := (attr.getHostName, attr.getProcessId)

namespace Manager

variable {Roles : Type}

/-- An entry stays with the process that registered it, unless a leave of the entry or a module leave by this very
    process takes it away or an earlier claimant replaces it. -/
def Keeps (specific : Specific Roles) (entries : Roles → SingleValueWarehouse) (keyOf : RoleAttributes → UInt64)
    (moduleLeave : Manager Roles → Nat → String → Int → Manager Roles) (manager : Manager Roles)
    (event : ManagerEvent) : Prop :=
  ∀ key role, (entries manager.roles).searchKey key = some role →
    (∃ msg, manager.disposal specific event = some msg ∧ msg.operateType = .leave ∧ keyOf msg.roleAttr = key ∧
      msg.roleAttr.process = role.attributes.process) ∨
    (∃ now, event = .onTopoModuleLeave now role.attributes.getHostName role.attributes.getProcessId) ∨
    ∃ holder, (entries (manager.handle specific moduleLeave event).roles).searchKey key = some holder ∧
      (holder.attributes.process = role.attributes.process ∨ holder.isEarlierThan role = true)

variable {specific : Specific Roles} {entries : Roles → SingleValueWarehouse} {keyOf : RoleAttributes → UInt64}
  {moduleLeave : Manager Roles → Nat → String → Int → Manager Roles} {manager : Manager Roles}

theorem handle_ordinary {event : ManagerEvent} (ordinary : ∀ now host pid, event ≠ .onTopoModuleLeave now host pid) :
    (manager.handle specific moduleLeave event).roles =
      (manager.disposal specific event).elim manager.roles fun msg => (manager.dispose specific msg).roles := by
  rw [handle_roles]
  cases event with
  | onTopoModuleLeave now host pid => exact absurd rfl (ordinary now host pid)
  | startDiscovery | stopDiscovery | shutdown | join | leave | onRemoteChange => rfl

theorem ofModule_iff {role : Role} {hostName : String} {processId : Int} :
    role.ofModule hostName processId = true ↔
      role.attributes.getHostName = hostName ∧ role.attributes.getProcessId = processId := by
  simp [Role.ofModule]

/-- A module leave only takes entries that name the module. -/
theorem keeps_of_cleared {now : Nat} {hostName : String} {processId : Int}
    (cleared : manager.isDiscoveryStarted = true → (entries manager.roles).Cleared hostName processId
      (entries (moduleLeave manager now hostName processId).roles))
    (unchanged : manager.isDiscoveryStarted = false →
      (moduleLeave manager now hostName processId).roles = manager.roles) :
    Keeps specific entries keyOf moduleLeave manager (.onTopoModuleLeave now hostName processId) := by
  intro key role found
  simp only [handle]
  by_cases own : role.ofModule hostName processId = true
  · obtain ⟨rfl, rfl⟩ := ofModule_iff.mp own
    exact Or.inr (Or.inl ⟨now, rfl⟩)
  · refine Or.inr (Or.inr ⟨role, ?_, Or.inl rfl⟩)
    cases started : manager.isDiscoveryStarted with
    | true => rw [cleared started key, found, Option.filter_some, if_pos (by simp [own])]
    | false => rw [unchanged started, found]

/-- At the other events what counts is what becomes of the entries when a message is disposed of. -/
theorem keeps_of_disposed {event : ManagerEvent} (ordinary : ∀ now host pid, event ≠ .onTopoModuleLeave now host pid)
    (disposed : ∀ msg, manager.disposal specific event = some msg →
      ∀ key role, (entries manager.roles).searchKey key = some role →
        (msg.operateType = .leave ∧ keyOf msg.roleAttr = key ∧ msg.roleAttr.process = role.attributes.process) ∨
        ∃ holder, (entries (manager.dispose specific msg).roles).searchKey key = some holder ∧
          (holder.attributes.process = role.attributes.process ∨ holder.isEarlierThan role = true)) :
    Keeps specific entries keyOf moduleLeave manager event := by
  intro key role found
  rw [handle_ordinary ordinary]
  cases taken : manager.disposal specific event with
  | none => exact Or.inr (Or.inr ⟨role, found, Or.inl rfl⟩)
  | some msg =>
    rcases disposed msg taken key role found with left | kept
    · exact Or.inl ⟨msg, rfl, left⟩
    · exact Or.inr (Or.inr kept)

end Manager

namespace NodeManager

abbrev Keeps : NodeManager → ManagerEvent → Prop :=
  Manager.Keeps specific NodeRoles.nodes RoleAttributes.getNodeId onTopoModuleLeave

/-- A leave finds no node of another process under its node id. -/
def Spares (manager : NodeManager) (event : ManagerEvent) : Prop :=
  ∀ msg ∈ manager.disposal specific event, msg.operateType = .leave →
    ∀ role ∈ manager.roles.nodes.searchKey msg.roleAttr.getNodeId, role.attributes.process = msg.roleAttr.process

theorem module_keeps {manager : NodeManager} (keyed : manager.roles.nodes.Keyed RoleAttributes.getNodeId) (now : Nat)
    (hostName : String) (processId : Int) : manager.Keeps (.onTopoModuleLeave now hostName processId) := by
  apply Manager.keeps_of_cleared
  · intro started
    rw [onTopoModuleLeave_roles, if_pos started, SingleValueWarehouse.search_eq]
    simp only [Role.matchBase_moduleAttr]
    exact keyed.cleared hostName processId
  · intro stopped
    rw [onTopoModuleLeave_roles, stopped]
    rfl

theorem dispose_join {manager : NodeManager} {msg : ChangeMsg} (operate : msg.operateType = .join) (key : UInt64) :
    (manager.dispose specific msg).roles.nodes.searchKey key =
      if key = msg.roleAttr.getNodeId then
        some (survivor (manager.roles.nodes.searchKey key) ⟨msg.roleAttr, msg.timestamp⟩)
      else manager.roles.nodes.searchKey key := by
  rw [← searchKey_disposeJoin]
  simp only [Manager.dispose, Manager.notify, operate]
  rfl

theorem dispose_leave {manager : NodeManager} {msg : ChangeMsg} (operate : msg.operateType = .leave) (key : UInt64) :
    (manager.dispose specific msg).roles.nodes.searchKey key =
      if key = msg.roleAttr.getNodeId then none else manager.roles.nodes.searchKey key := by
  rw [← searchKey_disposeLeave]
  simp only [Manager.dispose, Manager.notify, operate]
  rfl

theorem survivor_keeps (existing node : Role) :
    (survivor (some existing) node).attributes.process = existing.attributes.process ∨
      (survivor (some existing) node).isEarlierThan existing = true := by
  simp only [survivor]
  split
  · rename_i earlier
    exact Or.inr earlier
  · exact Or.inl rfl

theorem keeps_of_spares {manager : NodeManager} {event : ManagerEvent}
    (ordinary : ∀ now host pid, event ≠ .onTopoModuleLeave now host pid) (spares : manager.Spares event) :
    manager.Keeps event := by
  apply Manager.keeps_of_disposed ordinary
  intro msg disposed key role found
  cases operate : msg.operateType with
  | join =>
    right
    rw [dispose_join operate, found]
    split
    · exact ⟨_, rfl, survivor_keeps role _⟩
    · exact ⟨role, rfl, Or.inl rfl⟩
  | leave =>
    rw [dispose_leave operate]
    by_cases same : key = msg.roleAttr.getNodeId
    · exact Or.inl ⟨rfl, same.symm, (spares msg disposed operate role (same ▸ found)).symm⟩
    · rw [if_neg same]
      exact Or.inr ⟨role, found, Or.inl rfl⟩

theorem spares_of_keeps {manager : NodeManager} {event : ManagerEvent}
    (ordinary : ∀ now host pid, event ≠ .onTopoModuleLeave now host pid) (keeps : manager.Keeps event) :
    manager.Spares event := by
  intro msg disposed operate role found
  rcases keeps _ role found with ⟨msg', disposed', _, _, own⟩ | ⟨now, moduleLeave⟩ | ⟨holder, here, _⟩
  · rw [Option.mem_def, disposed'] at disposed
    rw [← own, Option.some.inj disposed]
  · exact absurd moduleLeave (ordinary _ _ _)
  · rw [Manager.handle_ordinary ordinary, disposed, Option.elim_some, dispose_leave operate, if_pos rfl] at here
    cases here

theorem keeps_iff {manager : NodeManager} (keyed : manager.roles.nodes.Keyed RoleAttributes.getNodeId)
    (event : ManagerEvent) : manager.Keeps event ↔ manager.Spares event := by
  by_cases ordinary : ∀ now host pid, event ≠ .onTopoModuleLeave now host pid
  · exact ⟨spares_of_keeps ordinary, keeps_of_spares ordinary⟩
  · push Not at ordinary
    obtain ⟨now, hostName, processId, rfl⟩ := ordinary
    apply iff_of_true (module_keeps keyed now hostName processId)
    intro msg disposed
    cases disposed

end NodeManager

namespace ServiceManager

abbrev Keeps : ServiceManager → ManagerEvent → Prop :=
  Manager.Keeps specific ServiceRoles.servers RoleAttributes.getServiceId onTopoModuleLeave

/-- Neither a join nor a leave of a server finds one of another process under its service id. -/
def Spares (manager : ServiceManager) (event : ManagerEvent) : Prop :=
  ∀ msg ∈ manager.disposal specific event, msg.roleType = .server →
    ∀ role ∈ manager.roles.servers.searchKey msg.roleAttr.getServiceId, role.attributes.process = msg.roleAttr.process

theorem module_keeps {manager : ServiceManager} (filed : Filed manager.roles) (now : Nat) (hostName : String)
    (processId : Int) : manager.Keeps (.onTopoModuleLeave now hostName processId) := by
  apply Manager.keeps_of_cleared
  · intro started
    rw [onTopoModuleLeave_roles, if_pos started, SingleValueWarehouse.search_eq]
    simp only [Role.matchServer_moduleAttr]
    exact filed.1.cleared hostName processId
  · intro stopped
    rw [onTopoModuleLeave_roles, stopped]
    rfl

/-- What becomes of the servers: the message of a server replaces or removes whatever is under its service id. -/
theorem searchKey_dispose (manager : ServiceManager) (msg : ChangeMsg) (key : UInt64) :
    (manager.dispose specific msg).roles.servers.searchKey key =
      if msg.roleType = .server ∧ key = msg.roleAttr.getServiceId then
        match msg.operateType with
        | .join => some { attributes := msg.roleAttr }
        | .leave => none
      else manager.roles.servers.searchKey key := by
  simp only [Manager.dispose, Manager.notify]
  cases operate : msg.operateType with
  | join =>
    cases type : msg.roleType with
    | server => simp [specific, disposeJoin, type, SingleValueWarehouse.searchKey_insert]
    | node | writer | reader | client | participant => simp [specific, disposeJoin, type]
  | leave =>
    cases type : msg.roleType with
    | server => simp [specific, disposeLeave, type, SingleValueWarehouse.searchKey_removeKey]
    | node | writer | reader | client | participant => simp [specific, disposeLeave, type]

/-- The servers are stored without the time of their message. -/
def Untimed (roles : ServiceRoles) : Prop := ∀ key role, roles.servers.searchKey key = some role → role.timestampNs = 0

theorem untimed_step (manager : ServiceManager) (event : ManagerEvent) (next : ServiceManager)
    (taken : manager.step event = some next) (untimed : Untimed manager.roles) : Untimed next.roles := by
  obtain rfl := Option.some.inj taken
  intro key role found
  by_cases ordinary : ∀ now host pid, event ≠ .onTopoModuleLeave now host pid
  · rw [Manager.handle_ordinary ordinary] at found
    cases disposed : manager.disposal specific event with
    | none =>
      rw [disposed] at found
      exact untimed key role found
    | some msg =>
      rw [disposed, Option.elim_some, searchKey_dispose] at found
      split at found
      · split at found
        · rw [← Option.some.inj found]
        · cases found
      · exact untimed key role found
  · push Not at ordinary
    obtain ⟨now, hostName, processId, rfl⟩ := ordinary
    simp only [Manager.handle, onTopoModuleLeave_roles] at found
    split at found
    · rw [SingleValueWarehouse.searchKey_removeKeys] at found
      split at found
      · cases found
      · exact untimed key role found
    · exact untimed key role found

theorem keeps_of_spares {manager : ServiceManager} {event : ManagerEvent}
    (ordinary : ∀ now host pid, event ≠ .onTopoModuleLeave now host pid) (spares : manager.Spares event) :
    manager.Keeps event := by
  apply Manager.keeps_of_disposed ordinary
  intro msg disposed key role found
  rw [searchKey_dispose]
  by_cases same : msg.roleType = .server ∧ key = msg.roleAttr.getServiceId
  · have own := spares msg disposed same.1 role (same.2 ▸ found)
    rw [if_pos same]
    cases msg.operateType with
    | join => exact Or.inr ⟨_, rfl, Or.inl own.symm⟩
    | leave => exact Or.inl ⟨rfl, same.2.symm, own.symm⟩
  · rw [if_neg same]
    exact Or.inr ⟨role, found, Or.inl rfl⟩

theorem spares_of_keeps {manager : ServiceManager} {event : ManagerEvent} (untimed : Untimed manager.roles)
    (ordinary : ∀ now host pid, event ≠ .onTopoModuleLeave now host pid) (keeps : manager.Keeps event) :
    manager.Spares event := by
  intro msg disposed type role found
  rcases keeps _ role found with ⟨msg', disposed', _, _, own⟩ | ⟨now, moduleLeave⟩ | ⟨holder, here, holds⟩
  · rw [Option.mem_def, disposed'] at disposed
    rw [← own, Option.some.inj disposed]
  · exact absurd moduleLeave (ordinary _ _ _)
  · rw [Manager.handle_ordinary ordinary, disposed, Option.elim_some, searchKey_dispose, if_pos ⟨type, rfl⟩] at here
    split at here
    · obtain rfl := Option.some.inj here
      rcases holds with own | earlier
      · exact own.symm
      · simp [Role.isEarlierThan, untimed _ role found] at earlier
    · cases here

theorem keeps_iff {manager : ServiceManager} (filed : Filed manager.roles) (untimed : Untimed manager.roles)
    (event : ManagerEvent) : manager.Keeps event ↔ manager.Spares event := by
  by_cases ordinary : ∀ now host pid, event ≠ .onTopoModuleLeave now host pid
  · exact ⟨spares_of_keeps untimed ordinary, keeps_of_spares ordinary⟩
  · push Not at ordinary
    obtain ⟨now, hostName, processId, rfl⟩ := ordinary
    apply iff_of_true (module_keeps filed now hostName processId)
    intro msg disposed
    cases disposed

end ServiceManager

/-- The entries of both managers stay with the processes that registered them in exactly the runs in which no leave,
    nor the join of a server, finds the entry of another process under its key. -/
theorem entries_keep_iff (host : String) (process : Int) (nodeEvents serviceEvents : List ManagerEvent) :
    (Meets NodeManager.step NodeManager.Keeps (NodeManager.start host process) nodeEvents ↔
      Meets NodeManager.step NodeManager.Spares (NodeManager.start host process) nodeEvents) ∧
    (Meets ServiceManager.step ServiceManager.Keeps (ServiceManager.start host process) serviceEvents ↔
      Meets ServiceManager.step ServiceManager.Spares (ServiceManager.start host process) serviceEvents) := by
  constructor
  · exact meets_congr (fun manager : NodeManager => manager.roles.nodes.Keyed RoleAttributes.getNodeId)
      NodeManager.keyed_step (fun manager event keyed => NodeManager.keeps_iff keyed event)
      (NodeManager.keyed_start host process) nodeEvents
  · apply meets_congr
      (fun manager : ServiceManager => ServiceManager.Filed manager.roles ∧ ServiceManager.Untimed manager.roles)
    · intro manager event next taken holds
      exact ⟨ServiceManager.filed_step manager event next taken holds.1,
        ServiceManager.untimed_step manager event next taken holds.2⟩
    · exact fun manager event holds => ServiceManager.keeps_iff holds.1 holds.2 event
    · refine ⟨ServiceManager.filed_start host process, ?_⟩
      intro key role found
      simp [ServiceManager.start, SingleValueWarehouse.searchKey] at found

/-- A second process starts a node, or a server, under a name that is taken, and leaves again. -/
def duplicateLeaves (role : RoleType) (changeType : ChangeType) : List ManagerEvent :=
  let duplicate : RoleAttributes := { fullRole with processId := some 2 }
  [.startDiscovery, .join 1 fullRole role true, .onRemoteChange ⟨5, changeType, .join, role, duplicate⟩,
    .onRemoteChange ⟨6, changeType, .leave, role, duplicate⟩]

theorem duplicateLeaves_erases :
    ¬(∀ host process events,
      Meets NodeManager.step NodeManager.Keeps (NodeManager.start host process) events) ∧
    ¬∀ host process events,
      Meets ServiceManager.step ServiceManager.Keeps (ServiceManager.start host process) events := by
  constructor
  · intro keeps
    have survives := ((((keeps "host" 1 (duplicateLeaves .node .node)).2 _ rfl).2 _ rfl).2 _ rfl).1
    rcases survives 1 ⟨fullRole, 1⟩ (by decide +kernel) with ⟨msg, disposed, _, _, own⟩ | ⟨now, same⟩ |
      ⟨holder, found, _⟩
    · obtain rfl := Option.some.inj disposed
      revert own
      decide +kernel
    · cases same
    · have present := Option.isSome_of_eq_some found
      revert present
      decide +kernel
  · intro keeps
    have survives := (((keeps "host" 1 (duplicateLeaves .server .service)).2 _ rfl).2 _ rfl).1
    rcases survives 5 { attributes := fullRole } (by decide +kernel) with ⟨msg, disposed, leaves, _⟩ | ⟨now, same⟩ |
      ⟨holder, found, own⟩
    · obtain rfl := Option.some.inj disposed
      cases leaves
    · cases same
    · have replaced : holder = { attributes := { fullRole with processId := some 2 } } := by
        apply Option.some.inj
        rw [← found]
        decide +kernel
      rw [replaced] at own
      revert own
      decide +kernel

end CyberRT.Discovery

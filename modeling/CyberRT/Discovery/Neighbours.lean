import Mathlib.Data.Set.Function
import CyberRT.Discovery.Indexes

namespace CyberRT.Discovery

open Execution

/-- The attributes identify the role and its participant. -/
structure RoleAttributes.Complete (attr : RoleAttributes) : Prop where
  nodeId : attr.nodeId.isSome
  channelId : attr.channelId.isSome
  id : attr.id.isSome
  hostName : attr.hostName.isSome
  processId : attr.processId.isSome

def ManagerEvent.Complete : ManagerEvent → Prop
  | .join _ attr _ _ => attr.Complete
  | .leave _ attr _ => attr.Complete
  | .onRemoteChange msg => msg.roleAttr.Complete
  | _ => True

namespace ChannelManager

theorem disposal_complete {manager : ChannelManager} {event : ManagerEvent} (complete : event.Complete)
    {msg : ChangeMsg} (disposed : manager.disposal specific event = some msg) : msg.roleAttr.Complete := by
  rcases Manager.disposal_cases disposed with ⟨_, _, _, _, rfl, _, rfl⟩ | ⟨_, _, _, rfl, _, rfl⟩ | ⟨rfl, _⟩
  · exact ⟨complete.nodeId, complete.channelId, complete.id, rfl, rfl⟩
  · exact ⟨complete.nodeId, complete.channelId, complete.id, rfl, rfl⟩
  · exact complete

theorem pinpoints_of_complete {attr : RoleAttributes} (complete : attr.Complete) (held : List Role) :
    ChannelRoles.Pinpoints attr held := by
  intro role _ matched
  obtain ⟨value, same⟩ := Option.isSome_iff_exists.mp complete.nodeId
  simp only [Role.matchWriter, Role.matchBase, Bool.and_eq_true, same, Role.fieldMatches_some] at matched
  rw [← matched.2.1.1, RoleAttributes.getNodeId, same]
  rfl

/-- The indexes are in step and every role names its participant. -/
def Indexed (manager : ChannelManager) : Prop :=
  ∃ writers readers, manager.roles.Mirrored writers readers ∧ ∀ role ∈ writers ++ readers, role.Carries

theorem Indexed.steady {manager : ChannelManager} (indexed : manager.Indexed) {event : ManagerEvent}
    (complete : event.Complete) : manager.Steady event := by
  obtain ⟨writers, readers, mirrored, carries⟩ := indexed
  cases event with
  | onTopoModuleLeave now hostName processId =>
    intro type role member _
    rw [heldRoles, mirrored.channelWriters.getAllRoles, mirrored.channelReaders.getAllRoles] at member
    apply carries role
    split at member
    · exact List.mem_append_left _ member
    · exact List.mem_append_right _ member
  | startDiscovery | stopDiscovery | shutdown | join | leave | onRemoteChange =>
    intro msg disposed _
    exact pinpoints_of_complete (disposal_complete complete disposed) _

theorem Indexed.step {manager next : ChannelManager} {event : ManagerEvent} (indexed : manager.Indexed)
    (complete : event.Complete) (taken : manager.step event = some next) : next.Indexed := by
  have steady := indexed.steady complete
  obtain ⟨writers, readers, mirrored, carries⟩ := indexed
  obtain ⟨writers', readers', kept, origin⟩ := step_mirrored mirrored steady taken
  refine ⟨writers', readers', kept, ?_⟩
  intro role member
  rcases origin role member with before | ⟨msg, disposed, same⟩
  · exact carries role before
  · rw [Role.Carries, same]
    exact ⟨(disposal_complete complete disposed).hostName, (disposal_complete complete disposed).processId⟩

theorem indexed_run {hostName : String} {processId : Int} {manager : ChannelManager} {events : List ManagerEvent}
    (complete : ∀ event ∈ events, event.Complete)
    (ran : run step (start hostName processId) events = some manager) : manager.Indexed := by
  have meets : Meets step (fun _ event => event.Complete) (start hostName processId) events :=
    meets_of_forall (fun event member _ => complete event member) _
  apply Meets.preserves Indexed _ _ meets ran
  · intro state event next complete taken indexed
    exact indexed.step complete taken
  · exact ⟨[], [], mirrored_start hostName processId, by simp⟩

end ChannelManager

namespace ChannelRoles

def Named (nodes : StringMap RoleAttributes) : Prop :=
  ∀ name attr, nodes.lookup name = some attr → attr.getNodeName = name

theorem foldl_nodes (found : List Role) (nodes : StringMap RoleAttributes) (named : Named nodes) :
    let collected := found.foldl (fun nodes role =>
      let attr : RoleAttributes := {
        hostName := some role.attributes.getHostName
        processId := some role.attributes.getProcessId
        nodeName := some role.attributes.getNodeName
        nodeId := some role.attributes.getNodeId }
      nodes.insert attr.getNodeName attr) nodes
    Named collected ∧ ∀ name, name ∈ collected ↔ name ∈ nodes ∨ ∃ role ∈ found, role.attributes.getNodeName = name := by
  induction found generalizing nodes with
  | nil => exact ⟨named, by simp⟩
  | cons role found ih =>
    obtain ⟨named', collects⟩ := ih (nodes.insert role.attributes.getNodeName {
        hostName := some role.attributes.getHostName
        processId := some role.attributes.getProcessId
        nodeName := some role.attributes.getNodeName
        nodeId := some role.attributes.getNodeId }) (by
      intro name attr here
      rw [StringMap.lookup_insert] at here
      split at here
      · rename_i same
        obtain rfl := Option.some.inj here
        exact same.symm
      · exact named name attr here)
    refine ⟨named', fun name => (collects name).trans ?_⟩
    rw [AList.mem_insert]
    simp only [List.mem_cons, exists_eq_or_imp]
    rw [eq_comm, or_comm (a := role.attributes.getNodeName = name), or_assoc]

theorem mem_nodesOf (found : List Role) (name : String) :
    (∃ attr ∈ (nodesOf found).entries.map (fun item => item.2), attr.getNodeName = name) ↔
      ∃ role ∈ found, role.attributes.getNodeName = name := by
  obtain ⟨named, collects⟩ := foldl_nodes found ∅ (by intro name attr here; cases here)
  have only := collects name
  simp only [AList.notMem_empty, false_or] at only
  rw [← only]
  constructor
  · rintro ⟨attr, member, rfl⟩
    obtain ⟨⟨key, attr⟩, inside, rfl⟩ := List.mem_map.mp member
    have here : (nodesOf found).lookup key = some attr := AList.mem_lookup_iff.mpr inside
    have same := named key attr here
    rw [same, ← AList.lookup_isSome]
    exact Option.isSome_iff_exists.mpr ⟨attr, here⟩
  · intro member
    obtain ⟨attr, here⟩ := Option.isSome_iff_exists.mp (AList.lookup_isSome.mpr member)
    refine ⟨attr, List.mem_map.mpr ⟨⟨name, attr⟩, AList.mem_lookup_iff.mp here, rfl⟩, named name attr here⟩

end ChannelRoles

/-- The ids of the role are those of its names, which are among the names at hand. -/
structure NameIds.Fits (ids : NameIds) (nodes channels : Set String) (role : Role) : Prop where
  node : role.attributes.getNodeName ∈ nodes
  channel : role.attributes.getChannelName ∈ channels
  nodeId : role.attributes.getNodeId = ids.node role.attributes.getNodeName
  channelId : role.attributes.getChannelId = ids.channel role.attributes.getChannelName

namespace ChannelRoles

section

variable {ids : NameIds} {nodes channels : Set String} {roles : ChannelRoles} {writers readers : List Role}

theorem mem_getDownstreamOfNode (nodeInj : Set.InjOn ids.node nodes) (channelInj : Set.InjOn ids.channel channels)
    (mirrored : roles.Mirrored writers readers) (fits : ∀ role ∈ writers ++ readers, ids.Fits nodes channels role)
    {a : String} (known : a ∈ nodes) (b : String) :
    (∃ attr ∈ roles.getDownstreamOfNode ids a, attr.getNodeName = b) ↔
      ∃ writer ∈ writers, ∃ reader ∈ readers, writer.attributes.getNodeName = a ∧
        reader.attributes.getNodeName = b ∧ writer.attributes.getChannelName = reader.attributes.getChannelName := by
  rw [getDownstreamOfNode, mem_nodesOf]
  simp only [getWritersOfNode, getReadersOfChannel, mirrored.nodeWriters.searchKey, mirrored.channelReaders.searchKey,
    List.mem_flatMap, List.mem_dedup, List.mem_map, List.mem_filter, decide_eq_true_eq]
  constructor
  · rintro ⟨reader, ⟨_, ⟨writer, ⟨held, atNode⟩, rfl⟩, held', onChannel⟩, named⟩
    have fit := fits writer (List.mem_append_left _ held)
    have fit' := fits reader (List.mem_append_right _ held')
    refine ⟨writer, held, reader, held', ?_, named, ?_⟩
    · exact nodeInj fit.node known (fit.nodeId.symm.trans atNode)
    · exact channelInj fit.channel fit'.channel (onChannel.symm.trans fit'.channelId)
  · rintro ⟨writer, held, reader, held', rfl, named, sameChannel⟩
    have fit := fits writer (List.mem_append_left _ held)
    have fit' := fits reader (List.mem_append_right _ held')
    refine ⟨reader, ⟨_, ⟨writer, ⟨held, fit.nodeId⟩, rfl⟩, held', ?_⟩, named⟩
    rw [fit'.channelId, sameChannel]

theorem mem_getUpstreamOfNode (nodeInj : Set.InjOn ids.node nodes) (channelInj : Set.InjOn ids.channel channels)
    (mirrored : roles.Mirrored writers readers) (fits : ∀ role ∈ writers ++ readers, ids.Fits nodes channels role)
    (a : String) {b : String} (known : b ∈ nodes) :
    (∃ attr ∈ roles.getUpstreamOfNode ids b, attr.getNodeName = a) ↔
      ∃ writer ∈ writers, ∃ reader ∈ readers, writer.attributes.getNodeName = a ∧
        reader.attributes.getNodeName = b ∧ writer.attributes.getChannelName = reader.attributes.getChannelName := by
  rw [getUpstreamOfNode, mem_nodesOf]
  simp only [getReadersOfNode, getWritersOfChannel, mirrored.nodeReaders.searchKey, mirrored.channelWriters.searchKey,
    List.mem_flatMap, List.mem_dedup, List.mem_map, List.mem_filter, decide_eq_true_eq]
  constructor
  · rintro ⟨writer, ⟨_, ⟨reader, ⟨held', atNode⟩, rfl⟩, held, onChannel⟩, named⟩
    have fit := fits writer (List.mem_append_left _ held)
    have fit' := fits reader (List.mem_append_right _ held')
    refine ⟨writer, held, reader, held', named, ?_, ?_⟩
    · exact nodeInj fit'.node known (fit'.nodeId.symm.trans atNode)
    · exact channelInj fit.channel fit'.channel (fit.channelId.symm.trans onChannel)
  · rintro ⟨writer, held, reader, held', named, rfl, sameChannel⟩
    have fit := fits writer (List.mem_append_left _ held)
    have fit' := fits reader (List.mem_append_right _ held')
    refine ⟨writer, ⟨_, ⟨reader, ⟨held', fit'.nodeId⟩, rfl⟩, held, ?_⟩, named⟩
    rw [fit.channelId, sameChannel]

end

end ChannelRoles

namespace ChannelManager

/-- After any events whose attributes are complete, the warehouses by node and by channel hold the same roles under
    their own keys; so a node is downstream of another if and only if that one is upstream of it, when the ids of the
    names at hand do not collide. -/
theorem indexes_agree {hostName : String} {processId : Int} {manager : ChannelManager} {events : List ManagerEvent}
    (complete : ∀ event ∈ events, event.Complete)
    (ran : run step (start hostName processId) events = some manager) :
    manager.roles.nodeWriters.getAllRoles.Perm manager.roles.channelWriters.getAllRoles ∧
    manager.roles.nodeReaders.getAllRoles.Perm manager.roles.channelReaders.getAllRoles ∧
    (∀ entry ∈ manager.roles.nodeWriters.roles ++ manager.roles.nodeReaders.roles,
      entry.1 = entry.2.attributes.getNodeId) ∧
    (∀ entry ∈ manager.roles.channelWriters.roles ++ manager.roles.channelReaders.roles,
      entry.1 = entry.2.attributes.getChannelId) ∧
    ∀ (ids : NameIds) (nodes channels : Set String), Set.InjOn ids.node nodes → Set.InjOn ids.channel channels →
      (∀ role ∈ manager.roles.channelWriters.getAllRoles ++ manager.roles.channelReaders.getAllRoles,
        ids.Fits nodes channels role) →
      ∀ a ∈ nodes, ∀ b ∈ nodes,
        ((∃ attr ∈ manager.roles.getDownstreamOfNode ids a, attr.getNodeName = b) ↔
          ∃ attr ∈ manager.roles.getUpstreamOfNode ids b, attr.getNodeName = a) := by
  obtain ⟨writers, readers, mirrored, _⟩ := indexed_run complete ran
  rw [mirrored.nodeWriters.getAllRoles, mirrored.channelWriters.getAllRoles, mirrored.nodeReaders.getAllRoles,
    mirrored.channelReaders.getAllRoles]
  refine ⟨List.Perm.refl _, List.Perm.refl _, ?_, ?_, ?_⟩
  · intro entry member
    rw [mirrored.nodeWriters, mirrored.nodeReaders, ← List.map_append] at member
    obtain ⟨role, _, rfl⟩ := List.mem_map.mp member
    rfl
  · intro entry member
    rw [mirrored.channelWriters, mirrored.channelReaders, ← List.map_append] at member
    obtain ⟨role, _, rfl⟩ := List.mem_map.mp member
    rfl
  · intro ids nodes channels nodeInj channelInj fits a knownA b knownB
    rw [ChannelRoles.mem_getDownstreamOfNode nodeInj channelInj mirrored fits knownA,
      ChannelRoles.mem_getUpstreamOfNode nodeInj channelInj mirrored fits a knownB]

def roleOfA : RoleAttributes where
  hostName := some "host"
  processId := some 1
  nodeName := some "A"
  nodeId := some 1
  channelName := some "c"
  channelId := some 7
  id := some 10

def roleOfB : RoleAttributes := { roleOfA with nodeName := some "B", nodeId := some 2, id := some 11 }

/-- A writer of node A, a second one that leaves again, and a reader of node B. -/
def pairUp : List ManagerEvent :=
  [.join 1 roleOfA .writer true, .join 2 { roleOfA with id := some 12 } .writer true, .join 3 roleOfB .reader true,
    .leave 4 { roleOfA with id := some 12 } .writer]

theorem pairUp_neighbours :
    ∃ manager, run step (start "host" 1) pairUp = some manager ∧
      manager.roles.nodeWriters.getAllRoles.Perm manager.roles.channelWriters.getAllRoles ∧
      ∃ ids : NameIds, (∃ attr ∈ manager.roles.getDownstreamOfNode ids "A", attr.getNodeName = "B") ∧
        ∃ attr ∈ manager.roles.getUpstreamOfNode ids "B", attr.getNodeName = "A" := by
  let ids : NameIds := ⟨fun name => if name = "A" then 1 else 2, fun _ => 7⟩
  have complete : ∀ event ∈ pairUp, event.Complete := by
    intro event member
    simp only [pairUp, List.mem_cons, List.not_mem_nil, or_false] at member
    rcases member with rfl | rfl | rfl | rfl <;> exact ⟨rfl, rfl, rfl, rfl, rfl⟩
  have reached : (run step (start "host" 1) pairUp).any (fun manager =>
      manager.roles.channelWriters.getAllRoles ++ manager.roles.channelReaders.getAllRoles ==
        [⟨roleOfA, 1⟩, ⟨roleOfB, 3⟩] &&
      (manager.roles.getDownstreamOfNode ids "A").any fun attr => attr.getNodeName == "B") = true := by
    decide +kernel
  obtain ⟨manager, ran, holds⟩ := (Option.any_eq_true _ _).mp reached
  simp only [Bool.and_eq_true, beq_iff_eq, List.any_eq_true] at holds
  obtain ⟨held, downstream⟩ := holds
  have agree := indexes_agree complete ran
  refine ⟨manager, ran, agree.1, ids, downstream, ?_⟩
  apply (agree.2.2.2.2 ids {"A", "B"} {"c"} _ _ _ "A" (by simp) "B" (by simp)).mp downstream
  · intro name member name' member' same
    rcases member with rfl | rfl <;> rcases member' with rfl | rfl <;> first | rfl | (revert same; decide)
  · intro name member name' member' _
    exact member.trans member'.symm
  · intro role member
    rw [held] at member
    rcases List.mem_pair.mp member with rfl | rfl
    · exact ⟨Or.inl rfl, rfl, rfl, rfl⟩
    · exact ⟨Or.inr rfl, rfl, rfl, rfl⟩

end ChannelManager

end CyberRT.Discovery

import CyberRT.Discovery.Flows

namespace CyberRT.Discovery

open Execution MultiValueWarehouse

def RoleAttributes.Named (attr : RoleAttributes) : Prop := attr.getNodeName ≠ "" ∧ attr.getChannelName ≠ ""

instance (attr : RoleAttributes) : Decidable attr.Named :=
  inferInstanceAs (Decidable (attr.getNodeName ≠ "" ∧ attr.getChannelName ≠ ""))

namespace ChannelManager

/-- A role that joins has the names of its node and its channel; a leave takes the roles of its node on its channel;
    the roles of a module name it, and a module leaves with all the roles of its nodes on their channels. -/
def Orderly (manager : ChannelManager) : ManagerEvent → Prop
  | .onTopoModuleLeave _ hostName processId =>
    ∀ type, ∀ role ∈ heldRoles manager.roles type, role.ofModule hostName processId = true → role.Carries ∧
      ∀ other ∈ heldRoles manager.roles type, other.sameFlow role.attributes = true →
        other.ofModule hostName processId = true
  | event => ∀ msg, manager.disposal specific event = some msg →
      match msg.operateType with
      | .join => msg.roleAttr.Named
      | .leave => TakesFlow msg.roleAttr (fun role => role.matchWriter msg.roleAttr)
          (heldRoles manager.roles msg.roleType)

/-- The graph registers the flows of these roles, which are those of the warehouses. -/
structure Flowing (roles : ChannelRoles) (writers readers : List Role) : Prop where
  channelWriters : Keyed RoleAttributes.getChannelId roles.channelWriters writers
  channelReaders : Keyed RoleAttributes.getChannelId roles.channelReaders readers
  named : ∀ role ∈ writers ++ readers, role.attributes.Named
  refines : roles.nodeGraph.Refines (registryOf writers readers)
  closed : roles.nodeGraph.Closed

/-- What an event does to the flows: the graph follows the roles. -/
structure FlowsOn (roles : ChannelRoles) (writers readers : List Role) (next : ChannelRoles)
    (writers' readers' : List Role) : Prop where
  flowing : Flowing next writers' readers'
  follows : roles.nodeGraph.Follows (registryOf writers readers) next.nodeGraph (registryOf writers' readers')

section

variable {roles : ChannelRoles} {writers readers : List Role}

theorem Flowing.heldRoles (flowing : Flowing roles writers readers) (type : RoleType) :
    heldRoles roles type = if type = .writer then writers else readers := by
  rw [ChannelManager.heldRoles, flowing.channelWriters.getAllRoles, flowing.channelReaders.getAllRoles]

theorem Flowing.flowsOn_self (flowing : Flowing roles writers readers) :
    FlowsOn roles writers readers roles writers readers := ⟨flowing, flowing.refines.follows_self⟩

theorem Flowing.disposeJoin (flowing : Flowing roles writers readers) {msg : ChangeMsg}
    (named : msg.roleAttr.Named) :
    ∃ writers' readers', FlowsOn roles writers readers (roles.disposeJoin msg) writers' readers' := by
  let role : Role := ⟨msg.roleAttr, msg.timestamp⟩
  cases type : msg.roleType with
  | writer =>
    have follows := Graph.call_follows flowing.refines (.insert (writerEdge msg.roleAttr))
    have registered := registryOf_join_writer writers readers role
    have allNamed : ∀ other ∈ (writers ++ [role]) ++ readers, other.attributes.Named := by
      intro other member
      simp only [List.mem_append, List.mem_singleton] at member
      rcases member with (before | rfl) | before
      · exact flowing.named other (List.mem_append_left _ before)
      · exact named
      · exact flowing.named other (List.mem_append_right _ before)
    refine ⟨writers ++ [role], readers, ?_⟩
    rw [ChannelRoles.disposeJoin, type]
    exact ⟨⟨flowing.channelWriters.add role, flowing.channelReaders, allNamed, registered ▸ follows.refines,
      flowing.closed.insert _⟩, registered ▸ follows⟩
  | node | reader | server | client | participant =>
    have follows := Graph.call_follows flowing.refines (.insert (readerEdge msg.roleAttr))
    have registered := registryOf_join_reader writers readers role
    have allNamed : ∀ other ∈ writers ++ (readers ++ [role]), other.attributes.Named := by
      intro other member
      simp only [List.mem_append, List.mem_singleton] at member
      rcases member with before | before | rfl
      · exact flowing.named other (List.mem_append_left _ before)
      · exact flowing.named other (List.mem_append_right _ before)
      · exact named
    refine ⟨writers, readers ++ [role], ?_⟩
    rw [ChannelRoles.disposeJoin, type]
    exact ⟨⟨flowing.channelWriters, flowing.channelReaders.add role, allNamed, registered ▸ follows.refines,
      flowing.closed.insert _⟩, registered ▸ follows⟩

theorem Flowing.disposeLeave (flowing : Flowing roles writers readers) {msg : ChangeMsg}
    (checked : ChannelRoles.check msg.roleAttr = true)
    (takes : TakesFlow msg.roleAttr (fun role => role.matchWriter msg.roleAttr)
      (ChannelManager.heldRoles roles msg.roleType)) :
    ∃ writers' readers', FlowsOn roles writers readers (roles.disposeLeave msg) writers' readers' := by
  rw [flowing.heldRoles] at takes
  cases type : msg.roleType with
  | writer =>
    rw [type, if_pos rfl] at takes
    have follows := Graph.call_follows flowing.refines (.delete (writerEdge msg.roleAttr))
    have registered := registryOf_leave_writer readers takes
    have removed := ChannelRoles.keyed_remove_matching flowing.channelWriters
      fun _ _ => ChannelRoles.matchWriter_channelId checked
    refine ⟨writers.filter fun role => !role.matchWriter msg.roleAttr, readers, ?_⟩
    rw [ChannelRoles.disposeLeave, type]
    exact ⟨⟨removed, flowing.channelReaders, fun role member => flowing.named role
      ((List.filter_sublist.append_right readers).subset member), registered ▸ follows.refines,
      flowing.closed.delete _⟩, registered ▸ follows⟩
  | node | reader | server | client | participant =>
    rw [type, if_neg (by decide)] at takes
    have follows := Graph.call_follows flowing.refines (.delete (readerEdge msg.roleAttr))
    have registered := registryOf_leave_reader writers takes
    have removed := ChannelRoles.keyed_remove_matching flowing.channelReaders
      fun _ _ => ChannelRoles.matchWriter_channelId checked
    refine ⟨writers, readers.filter fun role => !role.matchWriter msg.roleAttr, ?_⟩
    rw [ChannelRoles.disposeLeave, type]
    exact ⟨⟨flowing.channelWriters, removed, fun role member => flowing.named role
      ((List.filter_sublist.append_left writers).subset member), registered ▸ follows.refines,
      flowing.closed.delete _⟩, registered ▸ follows⟩

end

theorem follows_leaves (registry : List Role → Registry) {graph : Graph} {edgeOf : RoleAttributes → Edge}
    {held : List Role} (refines : graph.Refines (registry held))
    (leave : ∀ held attr, registry (held.filter fun role => !role.sameFlow attr) =
      (registry held).call (.delete (edgeOf attr))) {hostName : String} {processId : Int}
    (together : ∀ role ∈ held, role.ofModule hostName processId = true → ∀ other ∈ held,
      other.sameFlow role.attributes = true → other.ofModule hostName processId = true) :
    graph.Follows (registry held)
      ((held.filter fun role => role.ofModule hostName processId).foldl
        (fun graph role => graph.delete (edgeOf role.attributes)) graph)
      (registry (held.filter fun role => !role.ofModule hostName processId)) := by
  have follows := refines.follows_deletes
    ((held.filter fun role => role.ofModule hostName processId).map fun role => edgeOf role.attributes)
  rw [registryOf_deletes leave, filter_sameFlow together, List.foldl_map] at follows
  exact follows

theorem Flowing.moduleLeave {manager : ChannelManager} {writers readers : List Role}
    (flowing : Flowing manager.roles writers readers) (started : manager.isDiscoveryStarted = true) (now : Nat)
    {hostName : String} {processId : Int}
    (carries : ∀ role ∈ writers ++ readers, role.ofModule hostName processId = true → role.Carries)
    (together : ∀ role ∈ writers, role.ofModule hostName processId = true → ∀ other ∈ writers,
      other.sameFlow role.attributes = true → other.ofModule hostName processId = true)
    (together' : ∀ role ∈ readers, role.ofModule hostName processId = true → ∀ other ∈ readers,
      other.sameFlow role.attributes = true → other.ofModule hostName processId = true) :
    FlowsOn manager.roles writers readers (manager.onTopoModuleLeave now hostName processId).roles
      (writers.filter fun role => !role.ofModule hostName processId)
      (readers.filter fun role => !role.ofModule hostName processId) := by
  have writersCarry := fun role member => carries role (List.mem_append_left readers member)
  have readersCarry := fun role member => carries role (List.mem_append_right writers member)
  have first := follows_leaves (fun held => registryOf held readers) flowing.refines
    (fun held attr => registryOf_leave_writer readers (takesFlow_sameFlow attr held)) together
  have second := follows_leaves (registryOf _) first.refines
    (fun held attr => registryOf_leave_reader _ (takesFlow_sameFlow attr held)) together'
  have follows := first.trans second fun before _ =>
    registryOf_unambiguous_mono readers List.filter_sublist.subset before
  rw [onTopoModuleLeave_eq flowing.channelWriters flowing.channelReaders started now carries]
  refine ⟨⟨?_, ?_, ?_, follows.refines, ?_⟩, follows⟩
  · exact flowing.channelWriters.removeModule Role.matchWriter_self Role.matchWriter_base writersCarry
  · exact flowing.channelReaders.removeModule Role.matchWriter_self Role.matchWriter_base readersCarry
  · intro role member
    exact flowing.named role ((List.filter_sublist.append List.filter_sublist).subset member)
  · exact (flowing.closed.deletes _ _).deletes _ _

theorem dispose_flowsOn {manager : ChannelManager} {writers readers : List Role}
    (flowing : Flowing manager.roles writers readers) {event : ManagerEvent}
    (orderly : ∀ msg, manager.disposal specific event = some msg →
      match msg.operateType with
      | .join => msg.roleAttr.Named
      | .leave => TakesFlow msg.roleAttr (fun role => role.matchWriter msg.roleAttr)
          (heldRoles manager.roles msg.roleType)) :
    ∃ writers' readers', FlowsOn manager.roles writers readers
      ((manager.disposal specific event).elim manager.roles fun msg => (manager.dispose specific msg).roles)
      writers' readers' := by
  cases disposed : manager.disposal specific event with
  | none => exact ⟨writers, readers, flowing.flowsOn_self⟩
  | some msg =>
    have meets := orderly msg disposed
    simp only [Option.elim, Manager.dispose]
    cases operate : msg.operateType with
    | join =>
      rw [operate] at meets
      exact flowing.disposeJoin meets
    | leave =>
      rw [operate] at meets
      exact flowing.disposeLeave (disposal_checked disposed) meets

theorem step_flowsOn {manager next : ChannelManager} {event : ManagerEvent} {writers readers : List Role}
    (flowing : Flowing manager.roles writers readers) (orderly : manager.Orderly event)
    (taken : manager.step event = some next) :
    ∃ writers' readers', FlowsOn manager.roles writers readers next.roles writers' readers' := by
  obtain rfl := Option.some.inj taken
  rw [Manager.handle_roles]
  cases event with
  | onTopoModuleLeave now hostName processId =>
    by_cases started : manager.isDiscoveryStarted = true
    · have onWriters := orderly .writer
      have onReaders := orderly .reader
      rw [flowing.heldRoles, if_pos rfl] at onWriters
      rw [flowing.heldRoles, if_neg (by decide)] at onReaders
      refine ⟨_, _, flowing.moduleLeave started now ?_ ?_ ?_⟩
      · intro role member own
        rcases List.mem_append.mp member with member | member
        · exact (onWriters role member own).1
        · exact (onReaders role member own).1
      · exact fun role member own => (onWriters role member own).2
      · exact fun role member own => (onReaders role member own).2
    · simp only [onTopoModuleLeave, if_neg started]
      exact ⟨writers, readers, flowing.flowsOn_self⟩
  | startDiscovery | stopDiscovery | shutdown | join | leave | onRemoteChange =>
    exact dispose_flowsOn flowing orderly

theorem flowing_start (hostName : String) (processId : Int) : Flowing (start hostName processId).roles [] [] where
  channelWriters := keyed_empty _
  channelReaders := keyed_empty _
  named := by simp
  refines := Graph.refines_start
  closed := Graph.closed_start

theorem flowing_run {hostName : String} {processId : Int} {manager : ChannelManager} {events : List ManagerEvent}
    (orderly : Meets step Orderly (start hostName processId) events)
    (ran : run step (start hostName processId) events = some manager) :
    ∃ writers readers, Flowing manager.roles writers readers := by
  apply Meets.preserves (fun manager : ChannelManager => ∃ writers readers, Flowing manager.roles writers readers)
    _ _ orderly ran
  · rintro state event next meets taken ⟨writers, readers, flowing⟩
    obtain ⟨writers', readers', flows⟩ := step_flowsOn flowing meets taken
    exact ⟨writers', readers', flows.flowing⟩
  · exact ⟨[], [], flowing_start hostName processId⟩

/-- The roles present register no two edges of one node with the same key. -/
def Distinct (manager : ChannelManager) : Prop :=
  (registryOf manager.roles.channelWriters.getAllRoles manager.roles.channelReaders.getAllRoles).Unambiguous

theorem Flowing.distinct {manager : ChannelManager} {writers readers : List Role}
    (flowing : Flowing manager.roles writers readers) :
    manager.Distinct ↔ (registryOf writers readers).Unambiguous := by
  rw [Distinct, flowing.channelWriters.getAllRoles, flowing.channelReaders.getAllRoles]

theorem complete_run {hostName : String} {processId : Int} {manager : ChannelManager} {events : List ManagerEvent}
    (meets : Meets step (fun manager event => manager.Orderly event ∧ manager.Distinct)
      (start hostName processId) events)
    (ran : run step (start hostName processId) events = some manager) (distinct : manager.Distinct) :
    ∃ writers readers, Flowing manager.roles writers readers ∧
      manager.roles.nodeGraph.Complete (registryOf writers readers) := by
  have kept := Meets.preserves (fun manager : ChannelManager => ∃ writers readers,
    Flowing manager.roles writers readers ∧
      (manager.Distinct → manager.roles.nodeGraph.Complete (registryOf writers readers))) ?_ ?_ meets ran
  · obtain ⟨writers, readers, flowing, complete⟩ := kept
    exact ⟨writers, readers, flowing, complete distinct⟩
  · rintro state event next ⟨orderly, before⟩ taken ⟨writers, readers, flowing, complete⟩
    obtain ⟨writers', readers', flows⟩ := step_flowsOn flowing orderly taken
    refine ⟨writers', readers', flows.flowing, fun after => ?_⟩
    exact flows.follows.complete (complete before) (flowing.distinct.mp before) (flows.flowing.distinct.mp after)
  · exact ⟨[], [], flowing_start hostName processId, fun _ => Graph.complete_start⟩

end ChannelManager

namespace ChannelRoles

/-- A writer of the one node and a reader of the other are present on one channel. -/
def Feeds (roles : ChannelRoles) (node node' : String) : Prop :=
  ∃ writer ∈ roles.channelWriters.getAllRoles, ∃ reader ∈ roles.channelReaders.getAllRoles,
    writer.attributes.getNodeName = node ∧ reader.attributes.getNodeName = node' ∧
      writer.attributes.getChannelName = reader.attributes.getChannelName

end ChannelRoles

namespace ChannelManager

section

variable {roles : ChannelRoles} {writers readers : List Role}

theorem Flowing.mem_src (flowing : Flowing roles writers readers) (node channel : String) :
    node ∈ (roles.nodeGraph.related channel).src ↔ ∃ writer ∈ roles.channelWriters.getAllRoles,
      writer.attributes.getNodeName = node ∧ writer.attributes.getChannelName = channel := by
  rw [flowing.channelWriters.getAllRoles]
  refine ((flowing.refines.src channel).mem ⟨node⟩).trans (Registry.mem_sourcesOf.trans (mem_flows.trans ?_))
  constructor
  · rintro ⟨_, _, writer, member, onChannel, ofNode⟩
    exact ⟨writer, member, ofNode, onChannel⟩
  · rintro ⟨writer, member, rfl, rfl⟩
    have named := flowing.named writer (List.mem_append_left _ member)
    exact ⟨named.2, named.1, writer, member, rfl, rfl⟩

theorem Flowing.mem_dst (flowing : Flowing roles writers readers) (node channel : String) :
    node ∈ (roles.nodeGraph.related channel).dst ↔ ∃ reader ∈ roles.channelReaders.getAllRoles,
      reader.attributes.getNodeName = node ∧ reader.attributes.getChannelName = channel := by
  rw [flowing.channelReaders.getAllRoles]
  refine ((flowing.refines.dst channel).mem ⟨node⟩).trans (Registry.mem_destinationsOf.trans (mem_flows.trans ?_))
  constructor
  · rintro ⟨_, _, reader, member, onChannel, ofNode⟩
    exact ⟨reader, member, ofNode, onChannel⟩
  · rintro ⟨reader, member, rfl, rfl⟩
    have named := flowing.named reader (List.mem_append_right _ member)
    exact ⟨named.2, named.1, reader, member, rfl, rfl⟩

theorem Flowing.adjacent_iff_feeds (flowing : Flowing roles writers readers)
    (complete : roles.nodeGraph.Complete (registryOf writers readers)) (src dst : Vertice) :
    roles.nodeGraph.Adjacent src dst ↔ roles.Feeds src.value dst.value := by
  rw [complete.adjacent flowing.refines]
  constructor
  · rintro ⟨channel, source, destination⟩
    have inSrc := ((flowing.refines.src channel).mem src).mpr source
    have inDst := ((flowing.refines.dst channel).mem dst).mpr destination
    obtain ⟨writer, member, ofNode, onChannel⟩ := (flowing.mem_src src.value channel).mp inSrc
    obtain ⟨reader, member', ofNode', onChannel'⟩ := (flowing.mem_dst dst.value channel).mp inDst
    exact ⟨writer, member, reader, member', ofNode, ofNode', onChannel.trans onChannel'.symm⟩
  · rintro ⟨writer, member, reader, member', ofNode, ofNode', sameChannel⟩
    have inSrc := (flowing.mem_src src.value _).mpr ⟨writer, member, ofNode, rfl⟩
    have inDst := (flowing.mem_dst dst.value _).mpr ⟨reader, member', ofNode', sameChannel.symm⟩
    exact ⟨_, ((flowing.refines.src _).mem src).mp inSrc, ((flowing.refines.dst _).mem dst).mp inDst⟩

theorem Flowing.reaches_iff_feeds (flowing : Flowing roles writers readers)
    (complete : roles.nodeGraph.Complete (registryOf writers readers)) (src dst : Vertice) :
    roles.nodeGraph.Reaches src dst ↔ Relation.ReflTransGen roles.Feeds src.value dst.value := by
  constructor
  · intro reaches
    apply reaches.lift Vertice.value
    intro vertice vertice' adjacent
    exact (flowing.adjacent_iff_feeds complete vertice vertice').mp adjacent
  · intro feeds
    apply feeds.lift Vertice.mk
    intro node node' feeds
    exact (flowing.adjacent_iff_feeds complete ⟨node⟩ ⟨node'⟩).mpr feeds

theorem Flowing.feeds_named (flowing : Flowing roles writers readers) {node node' : String}
    (feeds : roles.Feeds node node') : node ≠ "" ∧ node' ≠ "" := by
  obtain ⟨writer, member, reader, member', rfl, rfl, _⟩ := feeds
  rw [flowing.channelWriters.getAllRoles] at member
  rw [flowing.channelReaders.getAllRoles] at member'
  exact ⟨(flowing.named writer (List.mem_append_left _ member)).1,
    (flowing.named reader (List.mem_append_right _ member')).1⟩

theorem Flowing.path_named (flowing : Flowing roles writers readers) {node node' : String} (differ : node ≠ node')
    (path : Relation.ReflTransGen roles.Feeds node node') : node ≠ "" ∧ node' ≠ "" := by
  constructor
  · rcases Relation.ReflTransGen.cases_head path with same | ⟨next, feeds, _⟩
    · exact absurd same differ
    · exact (flowing.feeds_named feeds).1
  · rcases Relation.ReflTransGen.cases_tail path with same | ⟨last, _, feeds⟩
    · exact absurd same.symm differ
    · exact (flowing.feeds_named feeds).2

theorem Flowing.getFlowDirection (flowing : Flowing roles writers readers)
    (complete : roles.nodeGraph.Complete (registryOf writers readers)) {lhs rhs : String} (differ : lhs ≠ rhs)
    {fuel : Nat} (enough : roles.nodeGraph.cells.length + 1 ≤ fuel) :
    ∃ direction, roles.getFlowDirection fuel lhs rhs = some (direction, roles.nodeGraph) ∧
      (direction = .upstream ↔ Relation.ReflTransGen roles.Feeds lhs rhs) ∧
      (direction = .downstream ↔
        ¬Relation.ReflTransGen roles.Feeds lhs rhs ∧ Relation.ReflTransGen roles.Feeds rhs lhs) := by
  by_cases named : lhs ≠ "" ∧ rhs ≠ ""
  · have apart : Vertice.mk lhs ≠ Vertice.mk rhs := fun same => differ (Vertice.mk.inj same)
    obtain ⟨direction, answered, up, down⟩ := flowing.closed.getDirectionOf apart (by simp [Vertice.isDummy, named])
      (by simp [Vertice.isDummy, named]) enough
    rw [flowing.reaches_iff_feeds complete] at up
    rw [flowing.reaches_iff_feeds complete, flowing.reaches_iff_feeds complete] at down
    exact ⟨direction, answered, up, down⟩
  · have apart : ¬Relation.ReflTransGen roles.Feeds lhs rhs := fun path => named (flowing.path_named differ path)
    have apart' : ¬Relation.ReflTransGen roles.Feeds rhs lhs :=
      fun path => named (flowing.path_named (Ne.symm differ) path).symm
    refine ⟨.unreachable, ?_, by simp [apart], by simp [apart']⟩
    rw [not_and_or, not_not, not_not] at named
    rw [ChannelRoles.getFlowDirection, Graph.getDirectionOf, if_pos]
    rcases named with rfl | rfl
    · rfl
    · exact Bool.or_true _

/-- A node that has a flow is upstream of itself. -/
theorem Flowing.getFlowDirection_self (flowing : Flowing roles writers readers)
    (complete : roles.nodeGraph.Complete (registryOf writers readers)) {node : String}
    (active : ∃ other, roles.Feeds node other ∨ roles.Feeds other node) {fuel : Nat}
    (enough : roles.nodeGraph.cells.length + 1 ≤ fuel) :
    roles.getFlowDirection fuel node node = some (.upstream, roles.nodeGraph) := by
  have known : node ∈ roles.nodeGraph.list ∧ node ≠ "" := by
    rcases active with ⟨other, feeds | feeds⟩
    · have adjacent := (flowing.adjacent_iff_feeds complete ⟨node⟩ ⟨other⟩).mpr feeds
      exact ⟨Graph.mem_list_of_adjacent adjacent, (flowing.feeds_named feeds).1⟩
    · have adjacent := (flowing.adjacent_iff_feeds complete ⟨other⟩ ⟨node⟩).mpr feeds
      exact ⟨flowing.closed _ _ adjacent, (flowing.feeds_named feeds).2⟩
  obtain ⟨reached, traversed, decides⟩ := Graph.levelTraverse_spec flowing.closed ⟨node⟩ known.1 enough
  obtain rfl : reached = true := decides.mpr Relation.ReflTransGen.refl
  rw [ChannelRoles.getFlowDirection, Graph.getDirectionOf, if_neg (by simp [Vertice.isDummy, known.2]),
    if_neg (by simp [Vertice.getKey, known.1]), traversed]
  rfl

end

/-- In every state that is reached while roles join with their names, a leave takes the roles of its node on its
    channel and a module leaves with those of its nodes, the flow graph has the nodes of the writers and the readers
    present. As long as no two edges of a node have the same key, `GetFlowDirection` answers by the writers and the
    readers present. -/
theorem flow_graph_agrees {hostName : String} {processId : Int} {manager : ChannelManager}
    {events : List ManagerEvent} (orderly : Meets step Orderly (start hostName processId) events)
    (ran : run step (start hostName processId) events = some manager) :
    (∀ node channel, node ∈ (manager.roles.nodeGraph.related channel).src ↔
      ∃ writer ∈ manager.roles.channelWriters.getAllRoles,
        writer.attributes.getNodeName = node ∧ writer.attributes.getChannelName = channel) ∧
    (∀ node channel, node ∈ (manager.roles.nodeGraph.related channel).dst ↔
      ∃ reader ∈ manager.roles.channelReaders.getAllRoles,
        reader.attributes.getNodeName = node ∧ reader.attributes.getChannelName = channel) ∧
    (Meets step (fun state _ => state.Distinct) (start hostName processId) events → manager.Distinct →
      ∀ fuel, manager.roles.nodeGraph.cells.length + 1 ≤ fuel →
        (∀ lhs rhs, lhs ≠ rhs → ∃ direction,
          manager.roles.getFlowDirection fuel lhs rhs = some (direction, manager.roles.nodeGraph) ∧
          (direction = .upstream ↔ Relation.ReflTransGen manager.roles.Feeds lhs rhs) ∧
          (direction = .downstream ↔ ¬Relation.ReflTransGen manager.roles.Feeds lhs rhs ∧
            Relation.ReflTransGen manager.roles.Feeds rhs lhs)) ∧
        ∀ node, (∃ other, manager.roles.Feeds node other ∨ manager.roles.Feeds other node) →
          manager.roles.getFlowDirection fuel node node = some (.upstream, manager.roles.nodeGraph)) := by
  obtain ⟨writers, readers, flowing⟩ := flowing_run orderly ran
  refine ⟨flowing.mem_src, flowing.mem_dst, ?_⟩
  intro steps last fuel enough
  obtain ⟨writers', readers', flowing', complete⟩ := complete_run (orderly.and steps) ran last
  constructor
  · intro lhs rhs differ
    exact flowing'.getFlowDirection complete differ enough
  · intro node active
    exact flowing'.getFlowDirection_self complete active enough

def talkerRole : RoleAttributes where
  hostName := some "host"
  processId := some 1
  nodeName := some "talker"
  nodeId := some 1
  channelName := some "chatter"
  channelId := some 7
  id := some 10

def listenerRole : RoleAttributes := { talkerRole with nodeName := some "listener", nodeId := some 2, id := some 11 }

def secondChannelRole : RoleAttributes :=
  { talkerRole with channelName := some "status", channelId := some 8, id := some 12 }

/-- A writer, a reader of its channel, and a writer of another channel that leaves again. -/
def talk : List ManagerEvent :=
  [.join 1 talkerRole .writer true, .join 2 listenerRole .reader true, .join 3 secondChannelRole .writer true,
    .leave 4 secondChannelRole .writer]

theorem orderly_join {attr : RoleAttributes} (named : attr.Named) {manager : ChannelManager} {now : Nat}
    {role : RoleType} {needPublish : Bool} : manager.Orderly (.join now attr role needPublish) := by
  intro msg disposed
  simp only [Manager.disposal, Option.ite_none_right_eq_some] at disposed
  obtain rfl := Option.some.inj disposed.2
  exact named

theorem orderly_leave {manager : ChannelManager} {now : Nat} {attr : RoleAttributes} {role : RoleType}
    (takes : TakesFlow attr (fun other => other.matchWriter (manager.convert .channel now attr role .leave).roleAttr)
      (heldRoles manager.roles role)) : manager.Orderly (.leave now attr role) := by
  intro msg disposed
  simp only [Manager.disposal, Option.ite_none_right_eq_some] at disposed
  obtain rfl := Option.some.inj disposed.2
  exact takes

theorem distinct_of_few {manager : ChannelManager}
    (few : (registryOf manager.roles.channelWriters.getAllRoles manager.roles.channelReaders.getAllRoles).edgeCount ≤ 1) :
    manager.Distinct := by
  intro e e' has has' _ _
  rw [← Registry.card_edges, Finset.card_le_one] at few
  exact few e (Registry.mem_edges.mpr has) e' (Registry.mem_edges.mpr has')

theorem talk_flows :
    ∃ manager, run step (start "host" 1) talk = some manager ∧
      "talker" ∈ (manager.roles.nodeGraph.related "chatter").src ∧
      "talker" ∉ (manager.roles.nodeGraph.related "status").src ∧
      manager.roles.getFlowDirection 5 "talker" "listener" = some (.upstream, manager.roles.nodeGraph) := by
  have orderly : Meets step Orderly (start "host" 1) talk := by
    have named : talkerRole.Named ∧ listenerRole.Named ∧ secondChannelRole.Named := by decide
    refine ⟨orderly_join named.1, fun _ taken => ?_⟩
    obtain rfl := Option.some.inj taken
    refine ⟨orderly_join named.2.1, fun _ taken => ?_⟩
    obtain rfl := Option.some.inj taken
    refine ⟨orderly_join named.2.2, fun _ taken => ?_⟩
    obtain rfl := Option.some.inj taken
    refine ⟨orderly_leave ?_, fun _ _ => trivial⟩
    decide +kernel
  have steps : Meets step (fun state _ => state.Distinct) (start "host" 1) talk := by
    refine ⟨distinct_of_few (by decide +kernel), fun _ taken => ?_⟩
    obtain rfl := Option.some.inj taken
    refine ⟨distinct_of_few (by decide +kernel), fun _ taken => ?_⟩
    obtain rfl := Option.some.inj taken
    refine ⟨distinct_of_few (by decide +kernel), fun _ taken => ?_⟩
    obtain rfl := Option.some.inj taken
    exact ⟨distinct_of_few (by decide +kernel), fun _ _ => trivial⟩
  have reached : (run step (start "host" 1) talk).any (fun manager =>
      manager.roles.channelWriters.getAllRoles == [⟨talkerRole, 1⟩] &&
      manager.roles.channelReaders.getAllRoles == [⟨listenerRole, 2⟩] &&
      manager.roles.nodeGraph.cells.length + 1 ≤ 5) = true := by decide +kernel
  obtain ⟨manager, ran, holds⟩ := (Option.any_eq_true _ _).mp reached
  simp only [Bool.and_eq_true, beq_iff_eq, decide_eq_true_eq] at holds
  obtain ⟨⟨writers, readers⟩, enough⟩ := holds
  obtain ⟨sources, _, directions⟩ := flow_graph_agrees orderly ran
  have last : manager.Distinct := by
    apply distinct_of_few
    rw [writers, readers]
    decide +kernel
  have feeds : manager.roles.Feeds "talker" "listener" := by
    rw [ChannelRoles.Feeds, writers, readers]
    decide
  obtain ⟨direction, answered, up, _⟩ := (directions steps last 5 enough).1 "talker" "listener" (by decide)
  obtain rfl := up.mpr (Relation.ReflTransGen.single feeds)
  refine ⟨manager, ran, ?_, ?_, answered⟩
  · rw [sources, writers]
    decide
  · rw [sources, writers]
    decide

/-- Two writers of one node on one channel, of which one leaves. -/
def oneOfTwoLeaves : List ManagerEvent :=
  [.join 1 talkerRole .writer true, .join 2 { talkerRole with id := some 12 } .writer true,
    .leave 3 { talkerRole with id := some 12 } .writer]

theorem oneOfTwoLeaves_drops_source :
    ¬∀ (events : List ManagerEvent) (manager : ChannelManager), run step (start "host" 1) events = some manager →
      ∀ node channel, node ∈ (manager.roles.nodeGraph.related channel).src ↔
        ∃ writer ∈ manager.roles.channelWriters.getAllRoles,
          writer.attributes.getNodeName = node ∧ writer.attributes.getChannelName = channel := by
  intro agrees
  have kept := agrees oneOfTwoLeaves _ rfl "talker" "chatter"
  revert kept
  decide +kernel

end ChannelManager

end CyberRT.Discovery

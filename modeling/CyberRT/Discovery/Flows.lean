import CyberRT.Discovery.Indexes
import CyberRT.Discovery.Traversal

namespace CyberRT.Discovery

namespace Graph

theorem has_of_delete {registry : Registry} {e other : Edge} (has : (registry.call (.delete e)).Has other) :
    registry.Has other := by
  simp only [Registry.call] at has
  split at has
  · split at has
    · split at has
      · exact has
      · exact (Registry.has_removeSource.mp has).1
    · split at has
      · exact (Registry.has_removeDestination.mp has).1
      · exact (Registry.has_removeSource.mp (Registry.has_removeDestination.mp has).1).1
  · exact has

theorem delete_keeps_unambiguous {registry : Registry} (unambiguous : registry.Unambiguous) (es : List Edge) :
    (es.foldl (fun registry e => registry.call (.delete e)) registry).Unambiguous := by
  induction es generalizing registry with
  | nil => exact unambiguous
  | cons e es ih => exact ih (unambiguous.mono fun _ => has_of_delete)

theorem Refines.follows_deletes {graph : Graph} {registry : Registry} (refines : graph.Refines registry)
    (es : List Edge) : graph.Follows registry (es.foldl Graph.delete graph)
      (es.foldl (fun registry e => registry.call (.delete e)) registry) := by
  induction es generalizing graph registry with
  | nil => exact refines.follows_self
  | cons e es ih =>
    have first := delete_follows refines e
    exact first.trans (ih first.refines) fun before _ => delete_keeps_unambiguous before [e]

theorem Closed.deletes {graph : Graph} (closed : graph.Closed) (edgeOf : Role → Edge) (targets : List Role) :
    (targets.foldl (fun graph role => graph.delete (edgeOf role)) graph).Closed := by
  induction targets generalizing graph with
  | nil => exact closed
  | cons target targets ih => exact ih (closed.delete (edgeOf target))

end Graph

/-- The channel and the node of the roles that have both names. -/
def flows (held : List Role) : Finset (String × Vertice) :=
  ((held.map fun role => (role.attributes.getChannelName, Vertice.mk role.attributes.getNodeName)).filter
    fun flow => flow.1 ≠ "" ∧ flow.2.value ≠ "").toFinset

theorem mem_flows {held : List Role} {channel : String} {node : Vertice} :
    (channel, node) ∈ flows held ↔ channel ≠ "" ∧ node.value ≠ "" ∧ ∃ role ∈ held,
      role.attributes.getChannelName = channel ∧ role.attributes.getNodeName = node.value := by
  simp only [flows, List.mem_toFinset, List.mem_filter, List.mem_map, Prod.mk.injEq, decide_eq_true_eq]
  constructor
  · rintro ⟨⟨role, member, rfl, rfl⟩, named⟩
    exact ⟨named.1, named.2, role, member, rfl, rfl⟩
  · rintro ⟨channelNamed, nodeNamed, role, member, rfl, same⟩
    exact ⟨⟨role, member, rfl, congrArg Vertice.mk same⟩, channelNamed, nodeNamed⟩

/-- What the roles present register in the graph. -/
def registryOf (writers readers : List Role) : Registry := ⟨flows writers, flows readers⟩

/-- The edge of a role: its node is a source or a destination of its channel. -/
def writerEdge (attr : RoleAttributes) : Edge := ⟨⟨attr.getNodeName⟩, {}, attr.getChannelName⟩

def readerEdge (attr : RoleAttributes) : Edge := ⟨{}, ⟨attr.getNodeName⟩, attr.getChannelName⟩

theorem call_insert_writerEdge (registry : Registry) (attr : RoleAttributes) :
    registry.call (.insert (writerEdge attr)) =
      if attr.getChannelName ≠ "" ∧ attr.getNodeName ≠ "" then
        registry.addSource attr.getChannelName ⟨attr.getNodeName⟩
      else registry := by
  by_cases channel : attr.getChannelName = "" <;> by_cases node : attr.getNodeName = "" <;>
    simp [Registry.call, writerEdge, Edge.isValid, Vertice.isDummy, channel, node]

theorem call_insert_readerEdge (registry : Registry) (attr : RoleAttributes) :
    registry.call (.insert (readerEdge attr)) =
      if attr.getChannelName ≠ "" ∧ attr.getNodeName ≠ "" then
        registry.addDestination attr.getChannelName ⟨attr.getNodeName⟩
      else registry := by
  by_cases channel : attr.getChannelName = "" <;> by_cases node : attr.getNodeName = "" <;>
    simp [Registry.call, readerEdge, Edge.isValid, Vertice.isDummy, channel, node]

theorem call_delete_writerEdge (registry : Registry) (attr : RoleAttributes) :
    registry.call (.delete (writerEdge attr)) =
      if attr.getChannelName ≠ "" ∧ attr.getNodeName ≠ "" then
        registry.removeSource attr.getChannelName ⟨attr.getNodeName⟩
      else registry := by
  by_cases channel : attr.getChannelName = "" <;> by_cases node : attr.getNodeName = "" <;>
    simp [Registry.call, writerEdge, Edge.isValid, Vertice.isDummy, channel, node]

theorem call_delete_readerEdge (registry : Registry) (attr : RoleAttributes) :
    registry.call (.delete (readerEdge attr)) =
      if attr.getChannelName ≠ "" ∧ attr.getNodeName ≠ "" then
        registry.removeDestination attr.getChannelName ⟨attr.getNodeName⟩
      else registry := by
  by_cases channel : attr.getChannelName = "" <;> by_cases node : attr.getNodeName = "" <;>
    simp [Registry.call, readerEdge, Edge.isValid, Vertice.isDummy, channel, node]

theorem flows_append (held : List Role) (role : Role) :
    flows (held ++ [role]) =
      if role.attributes.getChannelName ≠ "" ∧ role.attributes.getNodeName ≠ "" then
        insert (role.attributes.getChannelName, ⟨role.attributes.getNodeName⟩) (flows held)
      else flows held := by
  rw [flows, List.map_append, List.filter_append, List.toFinset_append, ← flows]
  split
  · rename_i named
    simp [named]
  · rename_i unnamed
    simp [unnamed]

/-- The role is of the node and on the channel that the attributes name. -/
def Role.sameFlow (role : Role) (attr : RoleAttributes) : Bool :=
  role.attributes.getNodeName = attr.getNodeName && role.attributes.getChannelName = attr.getChannelName

theorem Role.sameFlow_iff {role : Role} {attr : RoleAttributes} :
    role.sameFlow attr = true ↔ role.attributes.getNodeName = attr.getNodeName ∧
      role.attributes.getChannelName = attr.getChannelName := by
  rw [sameFlow, Bool.and_eq_true, decide_eq_true_eq, decide_eq_true_eq]

theorem Role.sameFlow_self (role : Role) : role.sameFlow role.attributes = true := sameFlow_iff.mpr ⟨rfl, rfl⟩

/-- No role of the flow of the attributes is kept, and a role that is taken out was of that flow or leaves another one
    of its own flow behind. -/
def TakesFlow (attr : RoleAttributes) (taken : Role → Bool) (held : List Role) : Prop :=
  ∀ role ∈ held, if taken role then role.sameFlow attr = true ∨ ∃ other ∈ held,
    taken other = false ∧ other.sameFlow role.attributes = true else role.sameFlow attr = false

instance (attr : RoleAttributes) (taken : Role → Bool) (held : List Role) : Decidable (TakesFlow attr taken held) :=
  inferInstanceAs (Decidable (∀ role ∈ held, if taken role then role.sameFlow attr = true ∨ ∃ other ∈ held,
    taken other = false ∧ other.sameFlow role.attributes = true else role.sameFlow attr = false))

theorem flows_filter {held : List Role} {taken : Role → Bool} {attr : RoleAttributes}
    (takes : TakesFlow attr taken held) :
    flows (held.filter fun role => !taken role) =
      (flows held).erase (attr.getChannelName, ⟨attr.getNodeName⟩) := by
  ext ⟨channel, node⟩
  rw [Finset.mem_erase, mem_flows, mem_flows]
  constructor
  · rintro ⟨channelNamed, nodeNamed, role, member, rfl, same⟩
    obtain ⟨inside, kept⟩ := List.mem_filter.mp member
    refine ⟨?_, channelNamed, nodeNamed, role, inside, rfl, same⟩
    intro equal
    obtain ⟨channelSame, nodeSame⟩ := Prod.mk.inj equal
    have apart := takes role inside
    rw [if_neg (by simpa using kept)] at apart
    have together := Role.sameFlow_iff.mpr ⟨same.trans (congrArg Vertice.value nodeSame), channelSame⟩
    exact absurd (apart.symm.trans together) (by decide)
  · rintro ⟨differs, channelNamed, nodeNamed, role, inside, rfl, same⟩
    cases gone : taken role with
    | false => exact ⟨channelNamed, nodeNamed, role, List.mem_filter.mpr ⟨inside, by simp [gone]⟩, rfl, same⟩
    | true =>
      have left := takes role inside
      rw [if_pos gone] at left
      rcases left with own | ⟨other, inside', kept, together⟩
      · obtain ⟨nodeSame, channelSame⟩ := Role.sameFlow_iff.mp own
        exact absurd (Prod.ext channelSame (congrArg Vertice.mk (same.symm.trans nodeSame))) differs
      · obtain ⟨nodeSame, channelSame⟩ := Role.sameFlow_iff.mp together
        exact ⟨channelNamed, nodeNamed, other, List.mem_filter.mpr ⟨inside', by simp [kept]⟩, channelSame,
          nodeSame.trans same⟩

theorem notMem_flows {held : List Role} {channel node : String} (unnamed : ¬(channel ≠ "" ∧ node ≠ "")) :
    (channel, Vertice.mk node) ∉ flows held := by
  rw [mem_flows]
  rintro ⟨channelNamed, nodeNamed, _⟩
  exact unnamed ⟨channelNamed, nodeNamed⟩

theorem registryOf_join_writer (writers readers : List Role) (role : Role) :
    registryOf (writers ++ [role]) readers =
      (registryOf writers readers).call (.insert (writerEdge role.attributes)) := by
  rw [call_insert_writerEdge, registryOf, flows_append]
  split <;> rfl

theorem registryOf_join_reader (writers readers : List Role) (role : Role) :
    registryOf writers (readers ++ [role]) =
      (registryOf writers readers).call (.insert (readerEdge role.attributes)) := by
  rw [call_insert_readerEdge, registryOf, flows_append]
  split <;> rfl

theorem flows_mono {held held' : List Role} (fewer : held ⊆ held') : flows held ⊆ flows held' := by
  rintro ⟨channel, node⟩ member
  rw [mem_flows] at member ⊢
  obtain ⟨channelNamed, nodeNamed, role, inside, same⟩ := member
  exact ⟨channelNamed, nodeNamed, role, fewer inside, same⟩

theorem registryOf_unambiguous_mono {writers writers' : List Role} (readers : List Role) (fewer : writers ⊆ writers')
    (unambiguous : (registryOf writers' readers).Unambiguous) : (registryOf writers readers).Unambiguous := by
  apply unambiguous.mono
  rintro e ⟨source, destination⟩
  refine ⟨?_, destination⟩
  rw [Registry.mem_sourcesOf] at source ⊢
  exact flows_mono fewer source

theorem registryOf_leave_writer {writers : List Role} (readers : List Role) {taken : Role → Bool}
    {attr : RoleAttributes} (takes : TakesFlow attr taken writers) :
    registryOf (writers.filter fun role => !taken role) readers =
      (registryOf writers readers).call (.delete (writerEdge attr)) := by
  rw [call_delete_writerEdge, registryOf, flows_filter takes]
  split
  · rfl
  · rename_i unnamed
    rw [Finset.erase_eq_of_notMem (notMem_flows unnamed), registryOf]

theorem registryOf_leave_reader (writers : List Role) {readers : List Role} {taken : Role → Bool}
    {attr : RoleAttributes} (takes : TakesFlow attr taken readers) :
    registryOf writers (readers.filter fun role => !taken role) =
      (registryOf writers readers).call (.delete (readerEdge attr)) := by
  rw [call_delete_readerEdge, registryOf, flows_filter takes]
  split
  · rfl
  · rename_i unnamed
    rw [Finset.erase_eq_of_notMem (notMem_flows unnamed), registryOf]

theorem takesFlow_sameFlow (attr : RoleAttributes) (held : List Role) :
    TakesFlow attr (fun role => role.sameFlow attr) held := by
  intro role _
  split
  · rename_i same
    exact Or.inl same
  · rename_i apart
    exact Bool.eq_false_iff.mpr apart

theorem registryOf_deletes {registry : List Role → Registry} {edgeOf : RoleAttributes → Edge}
    (leave : ∀ held attr, registry (held.filter fun role => !role.sameFlow attr) =
      (registry held).call (.delete (edgeOf attr))) (targets held : List Role) :
    (targets.map fun role => edgeOf role.attributes).foldl (fun registry e => registry.call (.delete e))
        (registry held) =
      registry (held.filter fun role => !targets.any fun target => role.sameFlow target.attributes) := by
  induction targets generalizing held with
  | nil => simp
  | cons target targets ih =>
    rw [List.map_cons, List.foldl_cons, ← leave, ih, List.filter_filter]
    congr 1
    apply List.filter_congr
    intro role _
    rw [List.any_cons, Bool.not_or, Bool.and_comm]

theorem filter_sameFlow {held : List Role} {hostName : String} {processId : Int}
    (together : ∀ role ∈ held, role.ofModule hostName processId = true → ∀ other ∈ held,
      other.sameFlow role.attributes = true → other.ofModule hostName processId = true) :
    (held.filter fun role => !(held.filter fun target => target.ofModule hostName processId).any
      fun target => role.sameFlow target.attributes) = held.filter fun role => !role.ofModule hostName processId := by
  apply List.filter_congr
  intro role member
  apply congrArg
  rw [Bool.eq_iff_iff, List.any_eq_true]
  constructor
  · rintro ⟨target, inside, same⟩
    obtain ⟨targetHeld, own⟩ := List.mem_filter.mp inside
    exact together target targetHeld own role member same
  · intro own
    exact ⟨role, List.mem_filter.mpr ⟨member, own⟩, role.sameFlow_self⟩

end CyberRT.Discovery

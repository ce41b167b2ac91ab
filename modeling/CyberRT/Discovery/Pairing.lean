import CyberRT.Discovery.Registry

namespace CyberRT.Discovery

namespace VerticeSet

def Holds (set : VerticeSet) (members : Finset Vertice) : Prop :=
  ∀ key vertice, set.lookup key = some vertice ↔ vertice.getKey = key ∧ vertice ∈ members

theorem Holds.mem {set : VerticeSet} {members : Finset Vertice} (holds : Holds set members) (vertice : Vertice) :
    vertice.getKey ∈ set ↔ vertice ∈ members := by
  rw [← AList.lookup_isSome, Option.isSome_iff_exists]
  constructor
  · rintro ⟨found, here⟩
    obtain ⟨same, member⟩ := (holds _ _).mp here
    rwa [show vertice = found from congrArg Vertice.mk same.symm]
  · intro member
    exact ⟨vertice, (holds _ _).mpr ⟨rfl, member⟩⟩

theorem Holds.mem_entries {set : VerticeSet} {members : Finset Vertice} (holds : Holds set members)
    (vertice : Vertice) : (∃ item ∈ set.entries, item.2 = vertice) ↔ vertice ∈ members := by
  constructor
  · rintro ⟨⟨key, found⟩, member, rfl⟩
    exact ((holds key found).mp (AList.mem_lookup_iff.mpr member)).2
  · intro member
    exact ⟨⟨vertice.getKey, vertice⟩, AList.mem_lookup_iff.mp ((holds _ _).mpr ⟨rfl, member⟩), rfl⟩

theorem Holds.insert {set : VerticeSet} {members : Finset Vertice} (holds : Holds set members) (vertice : Vertice) :
    Holds (set.insert vertice.getKey vertice) (insert vertice members) := by
  intro key found
  rw [StringMap.lookup_insert, Finset.mem_insert]
  split
  · rename_i same
    constructor
    · intro here
      obtain rfl := Option.some.inj here
      exact ⟨same.symm, Or.inl rfl⟩
    · rintro ⟨keySame, _⟩
      rw [show vertice = found from congrArg Vertice.mk (same.symm.trans keySame.symm)]
  · rename_i differs
    rw [holds]
    constructor
    · rintro ⟨keySame, member⟩
      exact ⟨keySame, Or.inr member⟩
    · rintro ⟨keySame, rfl | member⟩
      · exact absurd keySame.symm differs
      · exact ⟨keySame, member⟩

theorem Holds.erase {set : VerticeSet} {members : Finset Vertice} (holds : Holds set members) (vertice : Vertice) :
    Holds (set.erase vertice.getKey) (members.erase vertice) := by
  intro key found
  rw [StringMap.lookup_erase, Finset.mem_erase]
  split
  · rename_i same
    constructor
    · intro here
      cases here
    · rintro ⟨keySame, differs, _⟩
      exact absurd (congrArg Vertice.mk (keySame.trans same)) differs
  · rename_i differs
    rw [holds]
    constructor
    · rintro ⟨keySame, member⟩
      refine ⟨keySame, ?_, member⟩
      rintro rfl
      exact differs keySame.symm
    · rintro ⟨keySame, _, member⟩
      exact ⟨keySame, member⟩

end VerticeSet

namespace Graph

/-- What `list_[src]` holds under the key of an edge. -/
def cell (graph : Graph) (src key : String) : Option Vertice := (graph.adjacent src).lookup key

theorem adjacent_insert (graph : Graph) (key other : String) (set : VerticeSet) :
    ({ graph with list := graph.list.insert key set } : Graph).adjacent other =
      if other = key then set else graph.adjacent other := by
  rw [adjacent, StringMap.lookup_insert]
  split <;> rfl

theorem adjacent_touch (graph : Graph) (key other : String) :
    (graph.touch key).adjacent other = graph.adjacent other := by
  rw [touch]
  split
  · rfl
  · rename_i absent
    rw [adjacent_insert]
    split
    · rename_i same
      rw [same, adjacent, AList.lookup_eq_none.mpr absent]
      rfl
    · rfl

theorem touch_edges (graph : Graph) (key : String) : (graph.touch key).edges = graph.edges := by
  rw [touch]
  split <;> rfl

theorem cell_insertCompleteEdge (graph : Graph) (e : Edge) (src key : String) :
    (graph.insertCompleteEdge e).cell src key =
      if src = e.src.getKey ∧ key = e.getKey then some e.dst else graph.cell src key := by
  simp only [insertCompleteEdge, cell, adjacent_insert, adjacent_touch]
  by_cases here : src = e.src.getKey
  · subst here
    simp [StringMap.lookup_insert]
  · simp [here]

theorem cell_deleteCompleteEdge (graph : Graph) (e : Edge) (src key : String) :
    (graph.deleteCompleteEdge e).cell src key =
      if src = e.src.getKey ∧ key = e.getKey then none else graph.cell src key := by
  simp only [deleteCompleteEdge, cell, adjacent_insert]
  by_cases here : src = e.src.getKey
  · subst here
    simp [StringMap.lookup_erase]
  · simp [here]

/-- The loop of `InsertOutgoingEdge` and `InsertIncomingEdge`. -/
def insertAll (graph : Graph) (es : List Edge) : Graph := es.foldl insertCompleteEdge graph

/-- The loop of `DeleteOutgoingEdge` and `DeleteIncomingEdge`. -/
def deleteAll (graph : Graph) (es : List Edge) : Graph := es.foldl deleteCompleteEdge graph

theorem insertAll_edges (graph : Graph) (es : List Edge) : (graph.insertAll es).edges = graph.edges := by
  induction es generalizing graph with
  | nil => rfl
  | cons e es ih =>
    rw [insertAll, List.foldl_cons]
    refine (ih _).trans ?_
    simp [insertCompleteEdge, touch_edges]

theorem deleteAll_edges (graph : Graph) (es : List Edge) : (graph.deleteAll es).edges = graph.edges := by
  induction es generalizing graph with
  | nil => rfl
  | cons e es ih => exact ih _

theorem cell_insertAll {graph : Graph} {es : List Edge} {src key : String} {dst : Vertice}
    (found : (graph.insertAll es).cell src key = some dst) :
    (∃ e ∈ es, src = e.src.getKey ∧ key = e.getKey ∧ dst = e.dst) ∨ graph.cell src key = some dst := by
  induction es generalizing graph with
  | nil => exact Or.inr found
  | cons e es ih =>
    rcases ih found with ⟨later, member, same⟩ | before
    · exact Or.inl ⟨later, List.mem_cons_of_mem _ member, same⟩
    · rw [cell_insertCompleteEdge] at before
      split at before
      · rename_i here
        exact Or.inl ⟨e, List.mem_cons_self, here.1, here.2, (Option.some.inj before).symm⟩
      · exact Or.inr before

theorem insertAll_cell {graph : Graph} {es : List Edge} {src key : String} {dst : Vertice}
    (agree : ∀ e ∈ es, src = e.src.getKey → key = e.getKey → e.dst = dst)
    (filled : graph.cell src key = some dst ∨ ∃ e ∈ es, src = e.src.getKey ∧ key = e.getKey) :
    (graph.insertAll es).cell src key = some dst := by
  induction es generalizing graph with
  | nil => simpa [insertAll] using filled
  | cons e es ih =>
    apply ih fun later member => agree later (List.mem_cons_of_mem _ member)
    rw [cell_insertCompleteEdge]
    by_cases here : src = e.src.getKey ∧ key = e.getKey
    · left
      rw [if_pos here, agree e List.mem_cons_self here.1 here.2]
    · rw [if_neg here]
      rcases filled with before | ⟨later, member, same⟩
      · exact Or.inl before
      · rcases List.mem_cons.mp member with rfl | member
        · exact absurd same here
        · exact Or.inr ⟨later, member, same⟩

theorem cell_deleteAll (graph : Graph) (es : List Edge) (src key : String) :
    (graph.deleteAll es).cell src key =
      if ∃ e ∈ es, src = e.src.getKey ∧ key = e.getKey then none else graph.cell src key := by
  induction es generalizing graph with
  | nil => simp [deleteAll]
  | cons e es ih =>
    refine (ih _).trans ?_
    rw [cell_deleteCompleteEdge]
    by_cases here : src = e.src.getKey ∧ key = e.getKey
    · simp [here]
    · simp [here]

theorem related_insert (graph : Graph) (value other : String) (related : RelatedVertices) :
    ({ graph with edges := graph.edges.insert value related } : Graph).related other =
      if other = value then related else graph.related other := by
  rw [Graph.related, StringMap.lookup_insert]
  split <;> rfl

/-- `edges_` holds the registered vertices, and every entry of `list_` is an edge of the registry under its key. -/
structure Refines (graph : Graph) (registry : Registry) : Prop where
  src : ∀ value, VerticeSet.Holds (graph.related value).src (registry.sourcesOf value)
  dst : ∀ value, VerticeSet.Holds (graph.related value).dst (registry.destinationsOf value)
  sound : ∀ src key dst, graph.cell src key = some dst →
    ∃ e, registry.Has e ∧ e.src.getKey = src ∧ e.getKey = key ∧ e.dst = dst

/-- Every edge of the registry is in `list_`. -/
def Complete (graph : Graph) (registry : Registry) : Prop :=
  ∀ e, registry.Has e → graph.cell e.src.getKey e.getKey = some e.dst

theorem refines_start : ({} : Graph).Refines {} where
  src := by simp [VerticeSet.Holds, Graph.related, Registry.sourcesOf]
  dst := by simp [VerticeSet.Holds, Graph.related, Registry.destinationsOf]
  sound := by simp [cell, adjacent]

theorem complete_start : ({} : Graph).Complete {} := by
  simp [Complete, Registry.Has, Registry.sourcesOf]

theorem related_insertAll (graph : Graph) (es : List Edge) (value : String) :
    (graph.insertAll es).related value = graph.related value := by
  rw [Graph.related, insertAll_edges, Graph.related]

theorem related_deleteAll (graph : Graph) (es : List Edge) (value : String) :
    (graph.deleteAll es).related value = graph.related value := by
  rw [Graph.related, deleteAll_edges, Graph.related]

/-- The registry follows a change of the graph, and as long as no two edges of a source have the same key the
    adjacency list keeps all of them. -/
structure Follows (graph : Graph) (registry : Registry) (next : Graph) (registry' : Registry) : Prop where
  refines : next.Refines registry'
  complete : graph.Complete registry → registry.Unambiguous → registry'.Unambiguous → next.Complete registry'

theorem Refines.follows_self {graph : Graph} {registry : Registry} (refines : graph.Refines registry) :
    graph.Follows registry graph registry := ⟨refines, fun complete _ _ => complete⟩

theorem Refines.follows_insertAll {graph : Graph} {registry registry' : Registry} (refines : graph.Refines registry)
    {edges : StringMap RelatedVertices} {es : List Edge}
    (src : ∀ value, VerticeSet.Holds (Graph.related ⟨edges, graph.list⟩ value).src (registry'.sourcesOf value))
    (dst : ∀ value, VerticeSet.Holds (Graph.related ⟨edges, graph.list⟩ value).dst (registry'.destinationsOf value))
    (all : ∀ e, registry'.Has e ↔ registry.Has e ∨ e ∈ es) :
    graph.Follows registry (insertAll ⟨edges, graph.list⟩ es) registry' := by
  refine ⟨⟨?_, ?_, ?_⟩, ?_⟩
  · intro value
    rw [related_insertAll]
    exact src value
  · intro value
    rw [related_insertAll]
    exact dst value
  · intro source key destination found
    rcases cell_insertAll found with ⟨e, member, rfl, rfl, rfl⟩ | before
    · exact ⟨e, (all e).mpr (Or.inr member), rfl, rfl, rfl⟩
    · obtain ⟨e, has, same⟩ := refines.sound source key destination before
      exact ⟨e, (all e).mpr (Or.inl has), same⟩
  · intro complete _ unambiguous e has
    apply insertAll_cell
    · intro other member srcKey key
      have srcSame : e.src = other.src := congrArg Vertice.mk srcKey
      rw [unambiguous e other has ((all other).mpr (Or.inr member)) srcSame key]
    · rcases (all e).mp has with before | member
      · exact Or.inl (complete e before)
      · exact Or.inr ⟨e, member, rfl, rfl⟩

theorem Refines.follows_deleteAll {graph : Graph} {registry registry' : Registry} (refines : graph.Refines registry)
    {edges : StringMap RelatedVertices} {es : List Edge}
    (src : ∀ value, VerticeSet.Holds (Graph.related ⟨edges, graph.list⟩ value).src (registry'.sourcesOf value))
    (dst : ∀ value, VerticeSet.Holds (Graph.related ⟨edges, graph.list⟩ value).dst (registry'.destinationsOf value))
    (all : ∀ e, registry'.Has e ↔ registry.Has e ∧ e ∉ es) (known : ∀ e ∈ es, registry.Has e) :
    graph.Follows registry (deleteAll ⟨edges, graph.list⟩ es) registry' := by
  refine ⟨⟨?_, ?_, ?_⟩, ?_⟩
  · intro value
    rw [related_deleteAll]
    exact src value
  · intro value
    rw [related_deleteAll]
    exact dst value
  · intro source key destination found
    rw [cell_deleteAll] at found
    split at found
    · cases found
    · rename_i kept
      obtain ⟨e, has, rfl, rfl, rfl⟩ := refines.sound source key destination found
      refine ⟨e, (all e).mpr ⟨has, ?_⟩, rfl, rfl, rfl⟩
      intro member
      exact kept ⟨e, member, rfl, rfl⟩
  · intro complete unambiguous _ e has
    obtain ⟨before, kept⟩ := (all e).mp has
    rw [cell_deleteAll, if_neg]
    · exact complete e before
    · rintro ⟨other, member, srcKey, key⟩
      have srcSame : e.src = other.src := congrArg Vertice.mk srcKey
      rw [unambiguous e other before (known other member) srcSame key] at kept
      exact kept member

def outgoing (src : Vertice) (value : String) (set : VerticeSet) : List Edge :=
  set.entries.map fun item => ⟨src, item.2, value⟩

def incoming (dst : Vertice) (value : String) (set : VerticeSet) : List Edge :=
  set.entries.map fun item => ⟨item.2, dst, value⟩

theorem mem_outgoing {set : VerticeSet} {members : Finset Vertice} (holds : set.Holds members) {src : Vertice}
    {value : String} {e : Edge} : e ∈ outgoing src value set ↔ e.src = src ∧ e.value = value ∧ e.dst ∈ members := by
  rw [outgoing, List.mem_map, ← holds.mem_entries]
  constructor
  · rintro ⟨item, member, rfl⟩
    exact ⟨rfl, rfl, item, member, rfl⟩
  · rintro ⟨rfl, rfl, item, member, same⟩
    exact ⟨item, member, by rw [same]⟩

theorem mem_incoming {set : VerticeSet} {members : Finset Vertice} (holds : set.Holds members) {dst : Vertice}
    {value : String} {e : Edge} : e ∈ incoming dst value set ↔ e.dst = dst ∧ e.value = value ∧ e.src ∈ members := by
  rw [incoming, List.mem_map, ← holds.mem_entries]
  constructor
  · rintro ⟨item, member, rfl⟩
    exact ⟨rfl, rfl, item, member, rfl⟩
  · rintro ⟨rfl, rfl, item, member, same⟩
    exact ⟨item, member, by rw [same]⟩

theorem insertOutgoingEdge_eq (graph : Graph) (e : Edge) : graph.insertOutgoingEdge e =
    if e.src.getKey ∈ (graph.related e.value).src then graph
    else ({ graph with edges := graph.edges.insert e.value { graph.related e.value with
      src := (graph.related e.value).src.insert e.src.getKey e.src } } : Graph).insertAll
        (outgoing e.src e.value (graph.related e.value).dst) := by
  simp [insertOutgoingEdge, insertAll, outgoing, List.foldl_map]

theorem insertIncomingEdge_eq (graph : Graph) (e : Edge) : graph.insertIncomingEdge e =
    if e.dst.getKey ∈ (graph.related e.value).dst then graph
    else ({ graph with edges := graph.edges.insert e.value { graph.related e.value with
      dst := (graph.related e.value).dst.insert e.dst.getKey e.dst } } : Graph).insertAll
        (incoming e.dst e.value (graph.related e.value).src) := by
  simp [insertIncomingEdge, insertAll, incoming, List.foldl_map]

theorem deleteOutgoingEdge_eq (graph : Graph) (e : Edge) : graph.deleteOutgoingEdge e =
    if e.src.getKey ∈ (graph.related e.value).src then
      ({ graph with edges := graph.edges.insert e.value { graph.related e.value with
        src := (graph.related e.value).src.erase e.src.getKey } } : Graph).deleteAll
          (outgoing e.src e.value (graph.related e.value).dst)
    else graph := by
  simp [deleteOutgoingEdge, deleteAll, outgoing, List.foldl_map]

theorem deleteIncomingEdge_eq (graph : Graph) (e : Edge) : graph.deleteIncomingEdge e =
    if e.dst.getKey ∈ (graph.related e.value).dst then
      ({ graph with edges := graph.edges.insert e.value { graph.related e.value with
        dst := (graph.related e.value).dst.erase e.dst.getKey } } : Graph).deleteAll
          (incoming e.dst e.value (graph.related e.value).src)
    else graph := by
  simp [deleteIncomingEdge, deleteAll, incoming, List.foldl_map]

theorem insertOutgoingEdge_follows {graph : Graph} {registry : Registry} (refines : graph.Refines registry)
    (e : Edge) : graph.Follows registry (graph.insertOutgoingEdge e) (registry.addSource e.value e.src) := by
  rw [insertOutgoingEdge_eq]
  split
  · rename_i present
    have member := Registry.mem_sourcesOf.mp (((refines.src e.value).mem e.src).mp present)
    rw [Registry.addSource, Finset.insert_eq_of_mem member]
    exact refines.follows_self
  · apply refines.follows_insertAll
    · intro value
      rw [related_insert, Registry.sourcesOf_addSource]
      split
      · rename_i same
        rw [same]
        exact (refines.src e.value).insert e.src
      · exact refines.src value
    · intro value
      rw [related_insert]
      split
      · rename_i same
        rw [same]
        exact refines.dst e.value
      · exact refines.dst value
    · intro other
      rw [Registry.has_addSource, mem_outgoing (refines.dst e.value)]

theorem insertIncomingEdge_follows {graph : Graph} {registry : Registry} (refines : graph.Refines registry)
    (e : Edge) : graph.Follows registry (graph.insertIncomingEdge e) (registry.addDestination e.value e.dst) := by
  rw [insertIncomingEdge_eq]
  split
  · rename_i present
    have member := Registry.mem_destinationsOf.mp (((refines.dst e.value).mem e.dst).mp present)
    rw [Registry.addDestination, Finset.insert_eq_of_mem member]
    exact refines.follows_self
  · apply refines.follows_insertAll
    · intro value
      rw [related_insert]
      split
      · rename_i same
        rw [same]
        exact refines.src e.value
      · exact refines.src value
    · intro value
      rw [related_insert, Registry.destinationsOf_addDestination]
      split
      · rename_i same
        rw [same]
        exact (refines.dst e.value).insert e.dst
      · exact refines.dst value
    · intro other
      rw [Registry.has_addDestination, mem_incoming (refines.src e.value)]

theorem deleteOutgoingEdge_follows {graph : Graph} {registry : Registry} (refines : graph.Refines registry)
    (e : Edge) : graph.Follows registry (graph.deleteOutgoingEdge e) (registry.removeSource e.value e.src) := by
  rw [deleteOutgoingEdge_eq]
  split
  · rename_i present
    have member := ((refines.src e.value).mem e.src).mp present
    apply refines.follows_deleteAll
    · intro value
      rw [related_insert, Registry.sourcesOf_removeSource]
      split
      · rename_i same
        rw [same]
        exact (refines.src e.value).erase e.src
      · exact refines.src value
    · intro value
      rw [related_insert]
      split
      · rename_i same
        rw [same]
        exact refines.dst e.value
      · exact refines.dst value
    · intro other
      rw [Registry.has_removeSource, mem_outgoing (refines.dst e.value)]
      constructor
      · rintro ⟨has, kept⟩
        exact ⟨has, fun here => kept ⟨here.1, here.2.1⟩⟩
      · rintro ⟨has, kept⟩
        exact ⟨has, fun here => kept ⟨here.1, here.2, here.2 ▸ has.2⟩⟩
    · intro other here
      obtain ⟨src, value, dst⟩ := (mem_outgoing (refines.dst e.value)).mp here
      rw [Registry.Has, src, value]
      exact ⟨member, dst⟩
  · rename_i absent
    have unknown := fun member => absent (((refines.src e.value).mem e.src).mpr (Registry.mem_sourcesOf.mpr member))
    rw [Registry.removeSource, Finset.erase_eq_of_notMem unknown]
    exact refines.follows_self

theorem deleteIncomingEdge_follows {graph : Graph} {registry : Registry} (refines : graph.Refines registry)
    (e : Edge) : graph.Follows registry (graph.deleteIncomingEdge e) (registry.removeDestination e.value e.dst) := by
  rw [deleteIncomingEdge_eq]
  split
  · rename_i present
    have member := ((refines.dst e.value).mem e.dst).mp present
    apply refines.follows_deleteAll
    · intro value
      rw [related_insert]
      split
      · rename_i same
        rw [same]
        exact refines.src e.value
      · exact refines.src value
    · intro value
      rw [related_insert, Registry.destinationsOf_removeDestination]
      split
      · rename_i same
        rw [same]
        exact (refines.dst e.value).erase e.dst
      · exact refines.dst value
    · intro other
      rw [Registry.has_removeDestination, mem_incoming (refines.src e.value)]
      constructor
      · rintro ⟨has, kept⟩
        exact ⟨has, fun here => kept ⟨here.1, here.2.1⟩⟩
      · rintro ⟨has, kept⟩
        exact ⟨has, fun here => kept ⟨here.1, here.2, here.2 ▸ has.1⟩⟩
    · intro other here
      obtain ⟨dst, value, src⟩ := (mem_incoming (refines.src e.value)).mp here
      rw [Registry.Has, dst, value]
      exact ⟨src, member⟩
  · rename_i absent
    have unknown := fun member =>
      absent (((refines.dst e.value).mem e.dst).mpr (Registry.mem_destinationsOf.mpr member))
    rw [Registry.removeDestination, Finset.erase_eq_of_notMem unknown]
    exact refines.follows_self

theorem Follows.trans {graph middle next : Graph} {registry registry' registry'' : Registry}
    (first : graph.Follows registry middle registry') (second : middle.Follows registry' next registry'')
    (between : registry.Unambiguous → registry''.Unambiguous → registry'.Unambiguous) :
    graph.Follows registry next registry'' where
  refines := second.refines
  complete := fun complete before after =>
    second.complete (first.complete complete before (between before after)) (between before after) after

theorem related_entry (graph : Graph) (value other : String) :
    (if value ∈ graph.edges then graph else { graph with edges := graph.edges.insert value {} }).related other =
      graph.related other := by
  split
  · rfl
  · rename_i absent
    rw [related_insert]
    split
    · rename_i same
      rw [same, Graph.related, AList.lookup_eq_none.mpr absent]
      rfl
    · rfl

theorem Refines.entry {graph : Graph} {registry : Registry} (refines : graph.Refines registry) (value : String) :
    graph.Follows registry
      (if value ∈ graph.edges then graph else { graph with edges := graph.edges.insert value {} }) registry := by
  have cells : ∀ src key, (if value ∈ graph.edges then graph
      else { graph with edges := graph.edges.insert value {} } : Graph).cell src key = graph.cell src key := by
    intro src key
    split <;> rfl
  refine ⟨⟨?_, ?_, ?_⟩, ?_⟩
  · intro other
    rw [related_entry]
    exact refines.src other
  · intro other
    rw [related_entry]
    exact refines.dst other
  · intro src key dst found
    rw [cells] at found
    exact refines.sound src key dst found
  · intro complete _ _ e has
    rw [cells]
    exact complete e has

theorem insert_follows {graph : Graph} {registry : Registry} (refines : graph.Refines registry) (e : Edge) :
    graph.Follows registry (graph.insert e) (registry.call (.insert e)) := by
  simp only [Graph.insert, Registry.call]
  split
  · have entry := refines.entry e.value
    apply entry.trans _ (fun before _ => before)
    set entered := if e.value ∈ graph.edges then graph else { graph with edges := graph.edges.insert e.value {} }
    have out : entered.Follows registry (if e.src.isDummy then entered else entered.insertOutgoingEdge e)
        (if e.src.isDummy then registry else registry.addSource e.value e.src) := by
      split
      · exact entry.refines.follows_self
      · exact insertOutgoingEdge_follows entry.refines e
    apply out.trans
    · by_cases dummy : e.dst.isDummy = true
      · rw [if_pos dummy, if_pos dummy]
        exact out.refines.follows_self
      · rw [if_neg dummy, if_neg dummy]
        exact insertIncomingEdge_follows out.refines e
    · intro _ after
      apply after.mono
      intro other has
      split
      · exact has
      · exact Registry.has_addDestination.mpr (Or.inl has)
  · exact refines.follows_self

theorem Refines.absent {graph : Graph} {registry : Registry} (refines : graph.Refines registry) {value : String}
    (absent : value ∉ graph.edges) : registry.sourcesOf value = ∅ ∧ registry.destinationsOf value = ∅ := by
  have nothing : graph.related value = {} := by
    rw [Graph.related, AList.lookup_eq_none.mpr absent]
    rfl
  have src := refines.src value
  have dst := refines.dst value
  rw [nothing] at src dst
  constructor
  · apply Finset.eq_empty_of_forall_notMem
    intro vertice member
    simpa using (src.mem vertice).mpr member
  · apply Finset.eq_empty_of_forall_notMem
    intro vertice member
    simpa using (dst.mem vertice).mpr member

theorem delete_follows {graph : Graph} {registry : Registry} (refines : graph.Refines registry) (e : Edge) :
    graph.Follows registry (graph.delete e) (registry.call (.delete e)) := by
  simp only [Graph.delete, Registry.call]
  split
  · split
    · have out : graph.Follows registry (if e.src.isDummy then graph else graph.deleteOutgoingEdge e)
          (if e.src.isDummy then registry else registry.removeSource e.value e.src) := by
        split
        · exact refines.follows_self
        · exact deleteOutgoingEdge_follows refines e
      apply out.trans
      · by_cases dummy : e.dst.isDummy = true
        · rw [if_pos dummy, if_pos dummy]
          exact out.refines.follows_self
        · rw [if_neg dummy, if_neg dummy]
          exact deleteIncomingEdge_follows out.refines e
      · intro before _
        apply before.mono
        intro other has
        split at has
        · exact has
        · exact (Registry.has_removeSource.mp has).1
    · rename_i absent
      obtain ⟨noSource, noDestination⟩ := refines.absent absent
      have source : registry.removeSource e.value e.src = registry := by
        rw [Registry.removeSource, Finset.erase_eq_of_notMem]
        rw [← Registry.mem_sourcesOf, noSource]
        exact Finset.notMem_empty _
      have destination : registry.removeDestination e.value e.dst = registry := by
        rw [Registry.removeDestination, Finset.erase_eq_of_notMem]
        rw [← Registry.mem_destinationsOf, noDestination]
        exact Finset.notMem_empty _
      simp only [source, ite_self, destination]
      exact refines.follows_self
  · exact refines.follows_self

theorem call_follows {graph : Graph} {registry : Registry} (refines : graph.Refines registry) (call : GraphCall) :
    graph.Follows registry (graph.call call) (registry.call call) := by
  cases call with
  | insert e => exact insert_follows refines e
  | delete e => exact delete_follows refines e

theorem after_snoc (calls : List GraphCall) (call : GraphCall) : after (calls ++ [call]) = (after calls).call call := by
  rw [after, List.foldl_append]
  rfl

theorem refines_after (calls : List GraphCall) : (after calls).Refines (Registry.after calls) := by
  induction calls using List.reverseRecOn with
  | nil => exact refines_start
  | append_singleton calls call ih =>
    rw [after_snoc, Registry.after_snoc]
    exact (call_follows ih call).refines

/-- As long as no two edges of a source have had the same key, `list_` holds the edges of the registry. -/
theorem complete_after {calls : List GraphCall}
    (unambiguous : ∀ past, past <+: calls → (Registry.after past).Unambiguous) :
    (after calls).Complete (Registry.after calls) := by
  induction calls using List.reverseRecOn with
  | nil => exact complete_start
  | append_singleton calls call ih =>
    have before : ∀ past, past <+: calls → (Registry.after past).Unambiguous :=
      fun past early => unambiguous past (early.trans (List.prefix_append _ _))
    have last := unambiguous _ (List.prefix_refl _)
    rw [Registry.after_snoc] at last
    rw [after_snoc, Registry.after_snoc]
    exact (call_follows (refines_after calls) call).complete (ih before) (before calls (List.prefix_refl _)) last

end Graph

end CyberRT.Discovery

import CyberRT.Discovery.Pairing

namespace CyberRT.Discovery

namespace Graph

/-- The places of `list_` that are in use: the key of a source with the key of an edge. -/
def cells (graph : Graph) : List (String × String) :=
  graph.list.entries.flatMap fun item => item.2.keys.map fun key => (item.1, key)

theorem mem_cells {graph : Graph} {src key : String} :
    (src, key) ∈ graph.cells ↔ ∃ dst, graph.cell src key = some dst := by
  rw [cells, List.mem_flatMap]
  constructor
  · rintro ⟨⟨owner, set⟩, member, here⟩
    obtain ⟨found, inside, same⟩ := List.mem_map.mp here
    obtain ⟨rfl, rfl⟩ := Prod.mk.inj same
    have looked : graph.list.lookup owner = some set := AList.mem_lookup_iff.mpr member
    rw [cell, adjacent, looked]
    exact Option.isSome_iff_exists.mp (AList.lookup_isSome.mpr (AList.mem_keys.mpr inside))
  · rintro ⟨dst, found⟩
    rw [cell, adjacent] at found
    cases looked : graph.list.lookup src with
    | none => simp [looked] at found
    | some set =>
      rw [looked] at found
      have inside : key ∈ set.keys := AList.mem_keys.mp (AList.lookup_isSome.mp (Option.isSome_iff_exists.mpr ⟨dst, found⟩))
      exact ⟨⟨src, set⟩, AList.mem_lookup_iff.mp looked, List.mem_map.mpr ⟨key, inside, rfl⟩⟩

theorem nodup_cells (graph : Graph) : graph.cells.Nodup := by
  rw [cells, List.nodup_flatMap]
  constructor
  · intro item _
    exact item.2.keys_nodup.map fun _ _ same => (Prod.mk.inj same).2
  · apply (List.nodupKeys_iff_pairwise.mp graph.list.nodupKeys).imp
    intro item item' differs place here here'
    obtain ⟨_, _, rfl⟩ := List.mem_map.mp here
    obtain ⟨_, _, same⟩ := List.mem_map.mp here'
    exact differs (Prod.mk.inj same).1.symm

theorem foldl_sizes (entries : List (Σ _ : String, VerticeSet)) (num : Nat) :
    entries.foldl (fun num item => (num + item.2.entries.length) % 2 ^ 32) (num % 2 ^ 32) =
      (num + (entries.map fun item => item.2.entries.length).sum) % 2 ^ 32 := by
  induction entries generalizing num with
  | nil => simp
  | cons item entries ih =>
    rw [List.foldl_cons, Nat.mod_add_mod, ih, List.map_cons, List.sum_cons, Nat.add_assoc]

theorem getNumOfEdge_eq (graph : Graph) : graph.getNumOfEdge = graph.cells.length % 2 ^ 32 := by
  have counted := foldl_sizes graph.list.entries 0
  rw [Nat.zero_mod, Nat.zero_add] at counted
  rw [getNumOfEdge, counted, cells, List.length_flatMap]
  congr 2
  apply List.map_congr_left
  intro item _
  rw [List.length_map, AList.keys, List.keys, List.length_map]

/-- `dst` is in the adjacency `list_[src]`. -/
def Adjacent (graph : Graph) (src dst : Vertice) : Prop := ∃ item ∈ (graph.adjacent src.getKey).entries, item.2 = dst

theorem adjacent_iff {graph : Graph} {src dst : Vertice} :
    graph.Adjacent src dst ↔ ∃ key, graph.cell src.getKey key = some dst := by
  constructor
  · rintro ⟨⟨key, found⟩, member, rfl⟩
    exact ⟨key, AList.mem_lookup_iff.mpr member⟩
  · rintro ⟨key, found⟩
    exact ⟨⟨key, dst⟩, AList.mem_lookup_iff.mp found, rfl⟩

/-- The graph has the edges of the registry and counts them. -/
structure Agrees (graph : Graph) (registry : Registry) : Prop where
  adjacent : ∀ src dst, graph.Adjacent src dst ↔
    ∃ value, src ∈ registry.sourcesOf value ∧ dst ∈ registry.destinationsOf value
  count : graph.getNumOfEdge = registry.edgeCount

theorem Refines.cells_subset {graph : Graph} {registry : Registry} (refines : graph.Refines registry) :
    graph.cells.toFinset ⊆ registry.edges.image Registry.place := by
  rintro ⟨src, key⟩ member
  obtain ⟨dst, found⟩ := mem_cells.mp (List.mem_toFinset.mp member)
  obtain ⟨e, has, rfl, rfl, rfl⟩ := refines.sound src key dst found
  exact Finset.mem_image.mpr ⟨e, Registry.mem_edges.mpr has, rfl⟩

theorem Complete.subset_cells {graph : Graph} {registry : Registry} (complete : graph.Complete registry) :
    registry.edges.image Registry.place ⊆ graph.cells.toFinset := by
  intro place member
  obtain ⟨e, here, rfl⟩ := Finset.mem_image.mp member
  exact List.mem_toFinset.mpr (mem_cells.mpr ⟨e.dst, complete e (Registry.mem_edges.mp here)⟩)

theorem length_cells (graph : Graph) : graph.cells.toFinset.card = graph.cells.length :=
  List.toFinset_card_of_nodup (nodup_cells graph)

theorem Refines.length_cells_le {graph : Graph} {registry : Registry} (refines : graph.Refines registry) :
    graph.cells.length ≤ (registry.edges.image Registry.place).card := by
  rw [← length_cells]
  exact Finset.card_le_card refines.cells_subset

theorem Complete.length_cells {graph : Graph} {registry : Registry} (complete : graph.Complete registry)
    (refines : graph.Refines registry) (unambiguous : registry.Unambiguous) :
    graph.cells.length = registry.edgeCount := by
  rw [← Graph.length_cells, Finset.Subset.antisymm refines.cells_subset complete.subset_cells,
    Finset.card_image_of_injOn (registry.unambiguous_iff.mp unambiguous), Registry.card_edges]

theorem Complete.adjacent {graph : Graph} {registry : Registry} (complete : graph.Complete registry)
    (refines : graph.Refines registry) (src dst : Vertice) :
    graph.Adjacent src dst ↔ ∃ value, src ∈ registry.sourcesOf value ∧ dst ∈ registry.destinationsOf value := by
  rw [adjacent_iff]
  constructor
  · rintro ⟨key, found⟩
    obtain ⟨e, has, srcSame, _, rfl⟩ := refines.sound _ _ _ found
    obtain rfl : e.src = src := congrArg Vertice.mk srcSame
    exact ⟨e.value, has⟩
  · rintro ⟨value, source, destination⟩
    exact ⟨_, complete ⟨src, dst, value⟩ ⟨source, destination⟩⟩

theorem Complete.agrees {graph : Graph} {registry : Registry} (complete : graph.Complete registry)
    (refines : graph.Refines registry) (unambiguous : registry.Unambiguous) (small : registry.edgeCount < 2 ^ 32) :
    graph.Agrees registry where
  adjacent := complete.adjacent refines
  count := by
    rw [getNumOfEdge_eq, complete.length_cells refines unambiguous, Nat.mod_eq_of_lt small]

theorem Agrees.unambiguous {graph : Graph} {registry : Registry} (agrees : graph.Agrees registry)
    (refines : graph.Refines registry) : registry.Unambiguous ∧ registry.edgeCount < 2 ^ 32 := by
  have counted := agrees.count
  rw [getNumOfEdge_eq] at counted
  have small : registry.edgeCount < 2 ^ 32 := counted ▸ Nat.mod_lt _ (by decide)
  have most : graph.cells.length ≤ registry.edgeCount := by
    rw [← Registry.card_edges]
    exact Nat.le_trans refines.length_cells_le Finset.card_image_le
  rw [Nat.mod_eq_of_lt (Nat.lt_of_le_of_lt most small)] at counted
  have full : (registry.edges.image Registry.place).card = registry.edges.card := by
    apply Nat.le_antisymm Finset.card_image_le
    rw [Registry.card_edges, ← counted]
    exact refines.length_cells_le
  exact ⟨registry.unambiguous_iff.mpr (Finset.card_image_iff.mp full), small⟩

/-- Along a sequence of calls the graph agrees with what is registered in every state if and only if in every state no
    source has two edges with the same key and a `uint32_t` holds the number of edges. -/
theorem agrees_throughout_iff (calls : List GraphCall) :
    (∀ past, past <+: calls → (after past).Agrees (Registry.after past)) ↔
      ∀ past, past <+: calls →
        (Registry.after past).Unambiguous ∧ (Registry.after past).edgeCount < 2 ^ 32 := by
  constructor
  · intro agrees past early
    exact (agrees past early).unambiguous (refines_after past)
  · intro fits past early
    have complete := complete_after fun before earlier => (fits before (earlier.trans early)).1
    exact complete.agrees (refines_after past) (fits past early).1 (fits past early).2

/-- Two edges of one node whose keys are `a_b_c`. -/
def sameKeys : List GraphCall := [.insert ⟨⟨"n"⟩, ⟨"b_c"⟩, "a"⟩, .insert ⟨⟨"n"⟩, ⟨"c"⟩, "a_b"⟩]

theorem sameKeys_disagree :
    ¬∀ calls : List GraphCall, (∀ e, .insert e ∈ calls ∨ .delete e ∈ calls → e.isValid) →
      (after calls).Agrees (Registry.after calls) := by
  intro agrees
  have valid : ∀ e, .insert e ∈ sameKeys ∨ .delete e ∈ sameKeys → e.isValid := by
    intro e here
    simp only [sameKeys, List.mem_cons, GraphCall.insert.injEq, List.not_mem_nil, or_false, reduceCtorEq] at here
    rcases here with rfl | rfl <;> decide
  have count := (agrees sameKeys valid).count
  have one : (after sameKeys).getNumOfEdge = 1 := by decide +kernel
  have two : (Registry.after sameKeys).edgeCount = 2 := by decide +kernel
  rw [one, two] at count
  cases count

end Graph

end CyberRT.Discovery

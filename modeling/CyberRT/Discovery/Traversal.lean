import Mathlib.Logic.Relation
import CyberRT.Discovery.EdgeCount

namespace CyberRT.Discovery

namespace Graph

/-- There is a path of zero or more edges of `list_`. -/
def Reaches (graph : Graph) : Vertice → Vertice → Prop := Relation.ReflTransGen graph.Adjacent

/-- Every destination in `list_` has an entry of its own. -/
def Closed (graph : Graph) : Prop := ∀ src dst, graph.Adjacent src dst → dst.getKey ∈ graph.list

def seen (visited : StringMap Bool) (vertice : Vertice) : Bool := (visited.lookup vertice.getKey).getD false

theorem seen_insert (visited : StringMap Bool) (vertice other : Vertice) :
    seen (visited.insert vertice.getKey true) other = true ↔ other = vertice ∨ seen visited other = true := by
  rw [seen, StringMap.lookup_insert]
  split
  · rename_i same
    have : other = vertice := congrArg Vertice.mk same
    simp [this]
  · rename_i differs
    have : other ≠ vertice := fun same => differs (congrArg Vertice.getKey same)
    simp [this, seen]

/-- What the loop keeps: the vertices met are reached from the start, and those visited have handed on all their
    neighbours. -/
structure Searching (graph : Graph) (start finish : Vertice) (visited : StringMap Bool)
    (unvisited : List Vertice) : Prop where
  reached : ∀ vertice, seen visited vertice = true ∨ vertice ∈ unvisited → graph.Reaches start vertice
  expanded : ∀ src dst, seen visited src = true → graph.Adjacent src dst → seen visited dst = true ∨ dst ∈ unvisited
  started : seen visited start = true ∨ start ∈ unvisited
  pending : seen visited finish = false
  known : ∀ vertice ∈ unvisited, vertice.getKey ∈ graph.list

theorem Searching.skip {graph : Graph} {start finish curr : Vertice} {visited : StringMap Bool}
    {unvisited : List Vertice} (searching : graph.Searching start finish visited (curr :: unvisited))
    (here : seen visited curr = true) : graph.Searching start finish visited unvisited where
  reached := by
    intro vertice met
    apply searching.reached
    exact met.imp_right (List.mem_cons_of_mem _)
  expanded := by
    intro src dst visitedSrc adjacent
    rcases searching.expanded src dst visitedSrc adjacent with done | waiting
    · exact Or.inl done
    · rcases List.mem_cons.mp waiting with rfl | waiting
      · exact Or.inl here
      · exact Or.inr waiting
  started := by
    rcases searching.started with done | waiting
    · exact Or.inl done
    · rcases List.mem_cons.mp waiting with rfl | waiting
      · exact Or.inl here
      · exact Or.inr waiting
  pending := searching.pending
  known := fun vertice member => searching.known vertice (List.mem_cons_of_mem _ member)

theorem Searching.expand {graph : Graph} (closed : graph.Closed) {start finish curr : Vertice}
    {visited : StringMap Bool} {unvisited : List Vertice}
    (searching : graph.Searching start finish visited (curr :: unvisited)) (other : curr ≠ finish) :
    graph.Searching start finish (visited.insert curr.getKey true)
      (unvisited ++ (graph.adjacent curr.getKey).entries.map fun item => item.2) := by
  have reachedCurr : graph.Reaches start curr := searching.reached curr (Or.inr List.mem_cons_self)
  have next : ∀ vertice, vertice ∈ (graph.adjacent curr.getKey).entries.map (fun item => item.2) ↔
      graph.Adjacent curr vertice := by
    intro vertice
    rw [List.mem_map]
    rfl
  constructor
  · intro vertice met
    rw [seen_insert, List.mem_append, next] at met
    rcases met with (rfl | done) | waiting | adjacent
    · exact reachedCurr
    · exact searching.reached vertice (Or.inl done)
    · exact searching.reached vertice (Or.inr (List.mem_cons_of_mem _ waiting))
    · exact reachedCurr.tail adjacent
  · intro src dst visitedSrc adjacent
    rw [seen_insert] at visitedSrc ⊢
    rw [List.mem_append, next]
    rcases visitedSrc with rfl | visitedSrc
    · exact Or.inr (Or.inr adjacent)
    · rcases searching.expanded src dst visitedSrc adjacent with done | waiting
      · exact Or.inl (Or.inr done)
      · rcases List.mem_cons.mp waiting with rfl | waiting
        · exact Or.inl (Or.inl rfl)
        · exact Or.inr (Or.inl waiting)
  · rw [seen_insert, List.mem_append]
    rcases searching.started with done | waiting
    · exact Or.inl (Or.inr done)
    · rcases List.mem_cons.mp waiting with rfl | waiting
      · exact Or.inl (Or.inl rfl)
      · exact Or.inr (Or.inl waiting)
  · rw [Bool.eq_false_iff, Ne, seen_insert, searching.pending]
    simp [Ne.symm other]
  · intro vertice member
    rw [List.mem_append, next] at member
    rcases member with waiting | adjacent
    · exact searching.known vertice (List.mem_cons_of_mem _ waiting)
    · exact closed curr vertice adjacent

theorem Searching.exhausted {graph : Graph} {start finish : Vertice} {visited : StringMap Bool}
    (searching : graph.Searching start finish visited []) : ¬graph.Reaches start finish := by
  have started : seen visited start = true := by simpa using searching.started
  have all : ∀ vertice, graph.Reaches start vertice → seen visited vertice = true := by
    intro vertice reaches
    induction reaches with
    | refl => exact started
    | tail _ adjacent ih => simpa using searching.expanded _ _ ih adjacent
  intro reaches
  exact absurd ((all finish reaches).symm.trans searching.pending) (by decide)

def remaining (graph : Graph) (visited : StringMap Bool) : List (String × String) :=
  graph.cells.filter fun place => !(visited.lookup place.1).getD false

theorem remaining_expand (graph : Graph) {visited : StringMap Bool} {curr : Vertice}
    (fresh : seen visited curr = false) :
    (graph.remaining (visited.insert curr.getKey true)).length + (graph.adjacent curr.getKey).entries.length ≤
      (graph.remaining visited).length := by
  let own := (graph.adjacent curr.getKey).keys.map fun key => (curr.getKey, key)
  have length : own.length = (graph.adjacent curr.getKey).entries.length := by
    simp [own, AList.keys, List.keys]
  have visitedAfter : ∀ place ∈ graph.remaining (visited.insert curr.getKey true),
      place.1 ≠ curr.getKey ∧ place ∈ graph.remaining visited := by
    intro place member
    rw [remaining, List.mem_filter, StringMap.lookup_insert] at member
    by_cases same : place.1 = curr.getKey
    · simp [same] at member
    · rw [if_neg same] at member
      exact ⟨same, List.mem_filter.mpr member⟩
  rw [← length, ← List.length_append]
  apply List.Subperm.length_le
  apply List.subperm_of_subset
  · rw [List.nodup_append]
    refine ⟨(nodup_cells graph).filter _, ?_, ?_⟩
    · exact (graph.adjacent curr.getKey).keys_nodup.map fun _ _ same => (Prod.mk.inj same).2
    · intro place member place' member' same
      obtain ⟨key, _, rfl⟩ := List.mem_map.mp member'
      exact (visitedAfter place member).1 (congrArg Prod.fst same)
  · intro place member
    rcases List.mem_append.mp member with member | member
    · exact (visitedAfter place member).2
    · obtain ⟨key, inside, rfl⟩ := List.mem_map.mp member
      rw [remaining, List.mem_filter]
      constructor
      · exact mem_cells.mpr (Option.isSome_iff_exists.mp (AList.lookup_isSome.mpr (AList.mem_keys.mpr inside)))
      · simpa [seen] using fresh

theorem touch_of_mem {graph : Graph} {key : String} (known : key ∈ graph.list) : graph.touch key = graph := if_pos known

theorem levelTraverseLoop_spec {graph : Graph} (closed : graph.Closed) {start finish : Vertice} (fuel : Nat)
    {visited : StringMap Bool} {unvisited : List Vertice}
    (searching : graph.Searching start finish visited unvisited)
    (enough : unvisited.length + (graph.remaining visited).length ≤ fuel) :
    ∃ visited', levelTraverseLoop finish fuel graph visited unvisited = some (visited', graph) ∧
      (seen visited' finish = true ↔ graph.Reaches start finish) := by
  induction fuel generalizing visited unvisited with
  | zero =>
    cases unvisited with
    | nil =>
      refine ⟨visited, rfl, ?_⟩
      simp [searching.pending, searching.exhausted]
    | cons curr unvisited =>
      rw [List.length_cons] at enough
      omega
  | succ fuel ih =>
    cases unvisited with
    | nil =>
      refine ⟨visited, rfl, ?_⟩
      simp [searching.pending, searching.exhausted]
    | cons curr unvisited =>
      rw [List.length_cons] at enough
      simp only [levelTraverseLoop]
      by_cases here : (visited.lookup curr.getKey).getD false = true
      · rw [if_pos here]
        exact ih (searching.skip here) (by omega)
      · rw [if_neg here]
        by_cases found : curr = finish
        · rw [if_pos found]
          refine ⟨_, rfl, ?_⟩
          subst found
          have reaches := searching.reached curr (Or.inr List.mem_cons_self)
          simp [seen_insert, reaches]
        · rw [if_neg found, touch_of_mem (searching.known curr List.mem_cons_self)]
          apply ih (searching.expand closed found)
          have fewer := graph.remaining_expand (Bool.eq_false_iff.mpr here)
          rw [List.length_append, List.length_map]
          omega

/-- With enough fuel for the start and one entry of each edge, `LevelTraverse` decides reachability and leaves the
    graph alone. -/
theorem levelTraverse_spec {graph : Graph} (closed : graph.Closed) {start : Vertice} (finish : Vertice)
    (known : start.getKey ∈ graph.list) {fuel : Nat} (enough : graph.cells.length + 1 ≤ fuel) :
    ∃ reached, levelTraverse fuel graph start finish = some (reached, graph) ∧
      (reached = true ↔ graph.Reaches start finish) := by
  have unseen : ∀ vertice, seen ((∅ : StringMap Bool).insert finish.getKey false) vertice = false := by
    intro vertice
    rw [seen, StringMap.lookup_insert]
    split <;> simp
  have searching : graph.Searching start finish ((∅ : StringMap Bool).insert finish.getKey false) [start] := by
    constructor
    · intro vertice met
      rcases met with done | waiting
      · exact absurd ((unseen vertice).symm.trans done) (by decide)
      · rw [List.mem_singleton.mp waiting]
        exact Relation.ReflTransGen.refl
    · intro src dst done
      exact absurd ((unseen src).symm.trans done) (by decide)
    · exact Or.inr (List.mem_singleton.mpr rfl)
    · exact unseen finish
    · intro vertice member
      rw [List.mem_singleton.mp member]
      exact known
  have fewer : (graph.remaining ((∅ : StringMap Bool).insert finish.getKey false)).length ≤ graph.cells.length :=
    List.length_filter_le _ _
  obtain ⟨visited, traversed, decides⟩ := levelTraverseLoop_spec closed fuel searching (by
    rw [List.length_singleton]
    omega)
  exact ⟨_, by rw [levelTraverse, traversed]; rfl, decides⟩

theorem mem_touch {graph : Graph} {key other : String} :
    other ∈ (graph.touch key).list ↔ other = key ∨ other ∈ graph.list := by
  rw [touch]
  split
  · rename_i known
    constructor
    · exact Or.inr
    · rintro (rfl | member)
      · exact known
      · exact member
  · exact AList.mem_insert graph.list

theorem mem_insertCompleteEdge {graph : Graph} {e : Edge} {key : String} :
    key ∈ (graph.insertCompleteEdge e).list ↔ key = e.src.getKey ∨ key = e.dst.getKey ∨ key ∈ graph.list := by
  simp only [insertCompleteEdge, AList.mem_insert, mem_touch]
  tauto

theorem mem_insertAll {graph : Graph} {es : List Edge} {key : String} :
    key ∈ (graph.insertAll es).list ↔
      key ∈ graph.list ∨ ∃ e ∈ es, key = e.src.getKey ∨ key = e.dst.getKey := by
  induction es generalizing graph with
  | nil => simp [insertAll]
  | cons e es ih =>
    refine ih.trans ?_
    rw [mem_insertCompleteEdge]
    simp only [List.mem_cons, exists_eq_or_imp]
    constructor
    · rintro ((src | dst | member) | later)
      · exact Or.inr (Or.inl (Or.inl src))
      · exact Or.inr (Or.inl (Or.inr dst))
      · exact Or.inl member
      · exact Or.inr (Or.inr later)
    · rintro (member | (src | dst) | later)
      · exact Or.inl (Or.inr (Or.inr member))
      · exact Or.inl (Or.inl src)
      · exact Or.inl (Or.inr (Or.inl dst))
      · exact Or.inr later

theorem mem_deleteAll {graph : Graph} {es : List Edge} {key : String} (member : key ∈ graph.list) :
    key ∈ (graph.deleteAll es).list := by
  induction es generalizing graph with
  | nil => exact member
  | cons e es ih => exact ih ((AList.mem_insert graph.list).mpr (Or.inr member))

theorem closed_iff {graph : Graph} :
    graph.Closed ↔ ∀ src key dst, graph.cell src key = some dst → dst.getKey ∈ graph.list := by
  constructor
  · intro closed src key dst found
    exact closed ⟨src⟩ dst (adjacent_iff.mpr ⟨key, found⟩)
  · intro closed src dst adjacent
    obtain ⟨key, found⟩ := adjacent_iff.mp adjacent
    exact closed _ key dst found

theorem Closed.insertAll {graph : Graph} (closed : graph.Closed) (edges : StringMap RelatedVertices)
    (es : List Edge) : (Graph.insertAll ⟨edges, graph.list⟩ es).Closed := by
  rw [closed_iff] at closed ⊢
  intro src key dst found
  rw [mem_insertAll]
  rcases cell_insertAll found with ⟨e, member, _, _, rfl⟩ | before
  · exact Or.inr ⟨e, member, Or.inr rfl⟩
  · exact Or.inl (closed src key dst before)

theorem Closed.deleteAll {graph : Graph} (closed : graph.Closed) (edges : StringMap RelatedVertices)
    (es : List Edge) : (Graph.deleteAll ⟨edges, graph.list⟩ es).Closed := by
  rw [closed_iff] at closed ⊢
  intro src key dst found
  rw [cell_deleteAll] at found
  split at found
  · cases found
  · apply mem_deleteAll
    exact closed src key dst found

theorem Closed.insert {graph : Graph} (closed : graph.Closed) (e : Edge) : (graph.insert e).Closed := by
  have out : ∀ graph : Graph, graph.Closed → (graph.insertOutgoingEdge e).Closed := by
    intro graph closed
    rw [insertOutgoingEdge_eq]
    split
    · exact closed
    · exact closed.insertAll _ _
  have into : ∀ graph : Graph, graph.Closed → (graph.insertIncomingEdge e).Closed := by
    intro graph closed
    rw [insertIncomingEdge_eq]
    split
    · exact closed
    · exact closed.insertAll _ _
  have entered : (if e.value ∈ graph.edges then graph
      else { graph with edges := graph.edges.insert e.value {} } : Graph).Closed := by
    split <;> exact closed
  rw [Graph.insert]
  split
  · simp only
    split
    · split
      · exact entered
      · exact out _ entered
    · split
      · exact into _ entered
      · exact into _ (out _ entered)
  · exact closed

theorem Closed.delete {graph : Graph} (closed : graph.Closed) (e : Edge) : (graph.delete e).Closed := by
  have out : ∀ graph : Graph, graph.Closed → (graph.deleteOutgoingEdge e).Closed := by
    intro graph closed
    rw [deleteOutgoingEdge_eq]
    split
    · exact closed.deleteAll _ _
    · exact closed
  have into : ∀ graph : Graph, graph.Closed → (graph.deleteIncomingEdge e).Closed := by
    intro graph closed
    rw [deleteIncomingEdge_eq]
    split
    · exact closed.deleteAll _ _
    · exact closed
  rw [Graph.delete]
  split
  · split
    · simp only
      split
      · split
        · exact closed
        · exact out _ closed
      · split
        · exact into _ closed
        · exact into _ (out _ closed)
    · exact closed
  · exact closed

theorem closed_start : ({} : Graph).Closed := by
  simp [closed_iff, cell, adjacent]

theorem mem_list_of_adjacent {graph : Graph} {src dst : Vertice} (adjacent : graph.Adjacent src dst) :
    src.getKey ∈ graph.list := by
  obtain ⟨key, found⟩ := adjacent_iff.mp adjacent
  rw [← AList.lookup_isSome]
  cases looked : graph.list.lookup src.getKey with
  | none => simp [cell, Graph.adjacent, looked] at found
  | some set => rfl

theorem Closed.mem_list_of_reaches {graph : Graph} (closed : graph.Closed) {lhs rhs : Vertice} (differ : lhs ≠ rhs)
    (reaches : graph.Reaches lhs rhs) : lhs.getKey ∈ graph.list ∧ rhs.getKey ∈ graph.list := by
  constructor
  · rcases Relation.ReflTransGen.cases_head reaches with same | ⟨next, adjacent, _⟩
    · exact absurd same differ
    · exact mem_list_of_adjacent adjacent
  · rcases Relation.ReflTransGen.cases_tail reaches with same | ⟨last, _, adjacent⟩
    · exact absurd same.symm differ
    · exact closed last rhs adjacent

/-- `GetDirectionOf` for two vertices: it terminates, leaves the graph alone, and answers by reachability. -/
theorem Closed.getDirectionOf {graph : Graph} (closed : graph.Closed) {lhs rhs : Vertice} (differ : lhs ≠ rhs)
    (real : lhs.isDummy = false) (real' : rhs.isDummy = false) {fuel : Nat} (enough : graph.cells.length + 1 ≤ fuel) :
    ∃ direction, Graph.getDirectionOf fuel graph lhs rhs = some (direction, graph) ∧
      (direction = .upstream ↔ graph.Reaches lhs rhs) ∧
      (direction = .downstream ↔ ¬graph.Reaches lhs rhs ∧ graph.Reaches rhs lhs) := by
  rw [Graph.getDirectionOf, real, real']
  simp only [Bool.or_self, Bool.false_eq_true, if_false]
  split
  · rename_i unknown
    have apart : ¬graph.Reaches lhs rhs := by
      intro reaches
      have known := closed.mem_list_of_reaches differ reaches
      exact unknown.elim (absurd known.1) (absurd known.2)
    have apart' : ¬graph.Reaches rhs lhs := by
      intro reaches
      have known := closed.mem_list_of_reaches (Ne.symm differ) reaches
      exact unknown.elim (absurd known.2) (absurd known.1)
    exact ⟨.unreachable, rfl, by simp [apart], by simp [apart']⟩
  · rename_i known
    rw [not_or, not_not, not_not] at known
    obtain ⟨forward, traversed, decides⟩ := levelTraverse_spec closed rhs known.1 enough
    obtain ⟨backward, traversed', decides'⟩ := levelTraverse_spec closed lhs known.2 enough
    rw [traversed, Option.bind_some]
    cases forward with
    | true =>
      have reaches : graph.Reaches lhs rhs := by simpa using decides
      exact ⟨.upstream, rfl, by simp [reaches], by simp [reaches]⟩
    | false =>
      have apart : ¬graph.Reaches lhs rhs := by simpa using decides
      simp only [Bool.false_eq_true, if_false, traversed', Option.map_some]
      cases backward with
      | true =>
        have reaches : graph.Reaches rhs lhs := by simpa using decides'
        exact ⟨.downstream, rfl, by simp [apart], by simp [apart, reaches]⟩
      | false =>
        have apart' : ¬graph.Reaches rhs lhs := by simpa using decides'
        exact ⟨.unreachable, rfl, by simp [apart], by simp [apart']⟩

end Graph

end CyberRT.Discovery

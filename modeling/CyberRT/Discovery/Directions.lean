import CyberRT.Discovery.Traversal

namespace CyberRT.Discovery

namespace Graph

theorem Closed.call {graph : Graph} (closed : graph.Closed) (call : GraphCall) : (graph.call call).Closed := by
  cases call with
  | insert e => exact closed.insert e
  | delete e => exact closed.delete e

theorem closed_after (calls : List GraphCall) : (after calls).Closed := by
  have all : ∀ graph : Graph, graph.Closed → (calls.foldl call graph).Closed := by
    induction calls with
    | nil => exact fun _ closed => closed
    | cons call calls ih => exact fun graph closed => ih _ (closed.call call)
  exact all {} closed_start

/-- A vertice without an entry in `list_` has no neighbours. -/
theorem adjacent_of_unknown {graph : Graph} {key : String} (unknown : key ∉ graph.list) : graph.adjacent key = ∅ := by
  rw [adjacent, AList.lookup_eq_none.mpr unknown]
  rfl

theorem reaches_of_unknown {graph : Graph} {start finish : Vertice} (unknown : start.getKey ∉ graph.list) :
    graph.Reaches start finish ↔ start = finish := by
  constructor
  · intro reaches
    rcases Relation.ReflTransGen.cases_head reaches with same | ⟨next, adjacent, _⟩
    · exact same
    · exact absurd (mem_list_of_adjacent adjacent) unknown
  · rintro rfl
    exact Relation.ReflTransGen.refl

/-- The first round of `LevelTraverse` ends the search when it starts at its end. -/
theorem levelTraverse_self (graph : Graph) (vertice : Vertice) (fuel : Nat) :
    levelTraverse (fuel + 1) graph vertice vertice = some (true, graph) := by
  simp only [levelTraverse, levelTraverseLoop, StringMap.lookup_insert, if_true, Option.getD_some, Bool.false_eq_true,
    if_false, Option.map_some]

theorem levelTraverse_unknown {graph : Graph} {start finish : Vertice} (unknown : start.getKey ∉ graph.list)
    (differ : start ≠ finish) (fuel : Nat) :
    levelTraverse (fuel + 1) graph start finish = some (false, graph.touch start.getKey) := by
  have apart : start.getKey ≠ finish.getKey := fun same => differ (congrArg Vertice.mk same)
  have isolated : (graph.adjacent start.getKey).entries = [] := by
    rw [adjacent_of_unknown unknown]
    rfl
  simp only [levelTraverse, levelTraverseLoop, StringMap.lookup_insert, if_neg apart, if_neg apart.symm, if_neg differ,
    AList.lookup_empty, Option.getD_none, Option.getD_some, Bool.false_eq_true, if_false, isolated, List.map_nil,
    List.append_nil, Option.map_some, if_true]

/-- `LevelTraverse` decides reachability from every vertice. It creates an entry for a start that has none, unless it
    ends there. -/
theorem Closed.levelTraverse {graph : Graph} (closed : graph.Closed) (start finish : Vertice) {fuel : Nat}
    (enough : graph.cells.length + 1 ≤ fuel) :
    ∃ reached, Graph.levelTraverse fuel graph start finish =
        some (reached, if start = finish then graph else graph.touch start.getKey) ∧
      (reached = true ↔ graph.Reaches start finish) := by
  obtain ⟨fuel, rfl⟩ : ∃ rounds, fuel = rounds + 1 := ⟨fuel - 1, by omega⟩
  by_cases same : start = finish
  · subst same
    refine ⟨true, ?_, ?_⟩
    · rw [levelTraverse_self, if_pos rfl]
    · exact iff_of_true rfl Relation.ReflTransGen.refl
  · rw [if_neg same]
    by_cases known : start.getKey ∈ graph.list
    · rw [touch_of_mem known]
      exact levelTraverse_spec closed finish known enough
    · refine ⟨false, levelTraverse_unknown known same fuel, ?_⟩
      rw [reaches_of_unknown known]
      exact iff_of_false Bool.false_ne_true same

/-- The vertice is named and has an entry in `list_`. -/
def Listed (graph : Graph) (vertice : Vertice) : Prop := vertice.isDummy = false ∧ vertice.getKey ∈ graph.list

/-- Which direction belongs to the two vertices. -/
def Directed (graph : Graph) (lhs rhs : Vertice) : FlowDirection → Prop
  | .upstream => graph.Listed lhs ∧ graph.Listed rhs ∧ graph.Reaches lhs rhs
  | .downstream => graph.Listed lhs ∧ graph.Listed rhs ∧ ¬graph.Reaches lhs rhs ∧ graph.Reaches rhs lhs
  | .unreachable => graph.Listed lhs → graph.Listed rhs → ¬graph.Reaches lhs rhs ∧ ¬graph.Reaches rhs lhs

theorem Closed.getDirectionOf_directed {graph : Graph} (closed : graph.Closed) (lhs rhs : Vertice) {fuel : Nat}
    (enough : graph.cells.length + 1 ≤ fuel) :
    ∃ direction, Graph.getDirectionOf fuel graph lhs rhs = some (direction, graph) ∧
      graph.Directed lhs rhs direction := by
  rw [Graph.getDirectionOf]
  by_cases dummy : lhs.isDummy || rhs.isDummy
  · rw [if_pos dummy]
    refine ⟨.unreachable, rfl, fun listed listed' => ?_⟩
    rw [listed.1, listed'.1] at dummy
    cases dummy
  rw [if_neg dummy]
  rw [Bool.not_eq_true, Bool.or_eq_false_iff] at dummy
  by_cases unknown : lhs.getKey ∉ graph.list ∨ rhs.getKey ∉ graph.list
  · rw [if_pos unknown]
    refine ⟨.unreachable, rfl, fun listed listed' => ?_⟩
    rcases unknown with absent | absent
    · exact absurd listed.2 absent
    · exact absurd listed'.2 absent
  rw [if_neg unknown]
  rw [not_or, not_not, not_not] at unknown
  have listed : graph.Listed lhs := ⟨dummy.1, unknown.1⟩
  have listed' : graph.Listed rhs := ⟨dummy.2, unknown.2⟩
  obtain ⟨forward, traversed, decides⟩ := levelTraverse_spec closed rhs unknown.1 enough
  obtain ⟨backward, traversed', decides'⟩ := levelTraverse_spec closed lhs unknown.2 enough
  rw [traversed, Option.bind_some]
  cases forward with
  | true => exact ⟨.upstream, rfl, listed, listed', decides.mp rfl⟩
  | false =>
    have apart : ¬graph.Reaches lhs rhs := fun reaches => Bool.false_ne_true (decides.mpr reaches)
    simp only [Bool.false_eq_true, if_false, traversed', Option.map_some]
    cases backward with
    | true => exact ⟨.downstream, rfl, listed, listed', apart, decides'.mp rfl⟩
    | false =>
      have apart' : ¬graph.Reaches rhs lhs := fun reaches => Bool.false_ne_true (decides'.mpr reaches)
      exact ⟨.unreachable, rfl, fun _ _ => ⟨apart, apart'⟩⟩

/-- After every sequence of calls `list_` is closed, `LevelTraverse` decides reachability and creates nothing but an
    entry for an unknown start, and `GetDirectionOf` answers by reachability and changes nothing. -/
theorem directions_after (calls : List GraphCall) : (after calls).Closed ∧ ∃ rounds, ∀ more,
    (∀ start finish, ∃ reached, levelTraverse (rounds + more) (after calls) start finish =
        some (reached, if start = finish then after calls else (after calls).touch start.getKey) ∧
      (reached = true ↔ (after calls).Reaches start finish)) ∧
    ∀ lhs rhs, ∃ direction, getDirectionOf (rounds + more) (after calls) lhs rhs = some (direction, after calls) ∧
      (after calls).Directed lhs rhs direction := by
  have closed := closed_after calls
  refine ⟨closed, (after calls).cells.length + 1, fun more => ⟨?_, ?_⟩⟩
  · exact fun start finish => closed.levelTraverse start finish (by omega)
  · exact fun lhs rhs => closed.getDirectionOf_directed lhs rhs (by omega)

/-- In the empty graph a traversal from `a` leaves an entry behind, and `a` is unreachable from itself. -/
theorem unknown_vertices :
    (¬∀ calls start finish fuel reached graph, levelTraverse fuel (after calls) start finish = some (reached, graph) →
      graph.list = (after calls).list) ∧
    ¬∀ calls lhs rhs fuel direction graph, getDirectionOf fuel (after calls) lhs rhs = some (direction, graph) →
      (after calls).Reaches lhs rhs → direction = .upstream := by
  constructor
  · intro unchanged
    have traversed : levelTraverse 1 (after []) ⟨"a"⟩ ⟨"b"⟩ = some (false, (after []).touch (⟨"a"⟩ : Vertice).getKey) :=
      levelTraverse_unknown (by decide) (by decide) 0
    have created := unchanged [] ⟨"a"⟩ ⟨"b"⟩ 1 _ _ traversed
    have present : "a" ∈ ((after []).touch (⟨"a"⟩ : Vertice).getKey).list := by decide
    rw [created] at present
    exact absurd present (by decide)
  · intro answers
    have answered := answers [] ⟨"a"⟩ ⟨"a"⟩ 1 .unreachable (after []) rfl Relation.ReflTransGen.refl
    cases answered

end Graph

end CyberRT.Discovery

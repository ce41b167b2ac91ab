import Mathlib.Algebra.Ring.Nat
import Mathlib.Data.List.AList

namespace CyberRT.Discovery

inductive FlowDirection where
  | unreachable
  | upstream
  | downstream
  deriving DecidableEq, Repr

structure Vertice where
  value : String := ""
  deriving DecidableEq, Repr

namespace Vertice

def isDummy (vertice : Vertice) : Bool := vertice.value = ""

def getKey (vertice : Vertice) : String := vertice.value

end Vertice

structure Edge where
  src : Vertice := {}
  dst : Vertice := {}
  value : String := ""
  deriving DecidableEq, Repr

namespace Edge

def isValid (e : Edge) : Bool :=
  if e.value = "" then false
  else if e.src.isDummy && e.dst.isDummy then false
  else true

def getKey (e : Edge) : String := e.value ++ "_" ++ e.dst.getKey

end Edge

/-- An `std::unordered_map` keyed by strings; a loop over it takes the entries in the order of the list. -/
abbrev StringMap (Value : Type) := AList fun _ : String => Value


namespace StringMap

variable {Value : Type}

theorem lookup_insert (map : StringMap Value) (key other : String) (value : Value) :
    (map.insert key value).lookup other = if other = key then some value else map.lookup other := by
  split
  · rename_i same
    subst same
    exact AList.lookup_insert map
  · rename_i differs
    exact AList.lookup_insert_ne differs

theorem lookup_erase (map : StringMap Value) (key other : String) :
    (map.erase key).lookup other = if other = key then none else map.lookup other := by
  split
  · rename_i same
    subst same
    exact AList.lookup_erase other map
  · rename_i differs
    exact AList.lookup_erase_ne differs

end StringMap

abbrev VerticeSet := StringMap Vertice

structure RelatedVertices where
  src : VerticeSet := ∅
  dst : VerticeSet := ∅

structure Graph where
  edges : StringMap RelatedVertices := ∅
  list : StringMap VerticeSet := ∅

namespace Graph

def related (graph : Graph) (value : String) : RelatedVertices := (graph.edges.lookup value).getD {}

def adjacent (graph : Graph) (key : String) : VerticeSet := (graph.list.lookup key).getD ∅

/-- `list_[key]` creates the entry when it is absent. -/
def touch (graph : Graph) (key : String) : Graph :=
  if key ∈ graph.list then graph else { graph with list := graph.list.insert key ∅ }

def insertCompleteEdge (graph : Graph) (e : Edge) : Graph :=
  let graph := (graph.touch e.src.getKey).touch e.dst.getKey
  { graph with list := graph.list.insert e.src.getKey ((graph.adjacent e.src.getKey).insert e.getKey e.dst) }

def insertOutgoingEdge (graph : Graph) (e : Edge) : Graph :=
  let related := graph.related e.value
  let key := e.src.getKey
  if key ∈ related.src then graph
  else
    let graph := { graph with
      edges := graph.edges.insert e.value { related with src := related.src.insert key e.src } }
    related.dst.entries.foldl (fun graph item => graph.insertCompleteEdge ⟨e.src, item.2, e.value⟩) graph

def insertIncomingEdge (graph : Graph) (e : Edge) : Graph :=
  let related := graph.related e.value
  let key := e.dst.getKey
  if key ∈ related.dst then graph
  else
    let graph := { graph with
      edges := graph.edges.insert e.value { related with dst := related.dst.insert key e.dst } }
    related.src.entries.foldl (fun graph item => graph.insertCompleteEdge ⟨item.2, e.dst, e.value⟩) graph

def insert (graph : Graph) (e : Edge) : Graph :=
  if e.isValid then
    let graph := if e.value ∈ graph.edges then graph else { graph with edges := graph.edges.insert e.value {} }
    let graph := if e.src.isDummy then graph else graph.insertOutgoingEdge e
    if e.dst.isDummy then graph else graph.insertIncomingEdge e
  else graph

def deleteCompleteEdge (graph : Graph) (e : Edge) : Graph :=
  { graph with list := graph.list.insert e.src.getKey ((graph.adjacent e.src.getKey).erase e.getKey) }

def deleteOutgoingEdge (graph : Graph) (e : Edge) : Graph :=
  let related := graph.related e.value
  let key := e.src.getKey
  if key ∈ related.src then
    let graph := { graph with edges := graph.edges.insert e.value { related with src := related.src.erase key } }
    related.dst.entries.foldl (fun graph item => graph.deleteCompleteEdge ⟨e.src, item.2, e.value⟩) graph
  else graph

def deleteIncomingEdge (graph : Graph) (e : Edge) : Graph :=
  let related := graph.related e.value
  let key := e.dst.getKey
  if key ∈ related.dst then
    let graph := { graph with edges := graph.edges.insert e.value { related with dst := related.dst.erase key } }
    related.src.entries.foldl (fun graph item => graph.deleteCompleteEdge ⟨item.2, e.dst, e.value⟩) graph
  else graph

def delete (graph : Graph) (e : Edge) : Graph :=
  if e.isValid then
    if e.value ∈ graph.edges then
      let graph := if e.src.isDummy then graph else graph.deleteOutgoingEdge e
      if e.dst.isDummy then graph else graph.deleteIncomingEdge e
    else graph
  else graph

/-- The sum is a `uint32_t`. -/
def getNumOfEdge (graph : Graph) : Nat :=
  graph.list.entries.foldl (fun num item => (num + item.2.entries.length) % 2 ^ 32) 0

/-- The loop of `LevelTraverse` over the queue; `none` when the fuel does not last. -/
def levelTraverseLoop (finish : Vertice) :
    Nat → Graph → StringMap Bool → List Vertice → Option (StringMap Bool × Graph)
  | _, graph, visited, [] => some (visited, graph)
  | 0, _, _, _ :: _ => none
  | fuel + 1, graph, visited, curr :: unvisited =>
    if (visited.lookup curr.getKey).getD false then
      levelTraverseLoop finish fuel graph visited unvisited
    else
      let visited := visited.insert curr.getKey true
      if curr = finish then some (visited, graph)
      else
        let next := (graph.adjacent curr.getKey).entries.map fun item => item.2
        levelTraverseLoop finish fuel (graph.touch curr.getKey) visited (unvisited ++ next)

def levelTraverse (fuel : Nat) (graph : Graph) (start finish : Vertice) : Option (Bool × Graph) :=
  let visited : StringMap Bool := (∅ : StringMap Bool).insert finish.getKey false
  (levelTraverseLoop finish fuel graph visited [start]).map fun traversed =>
    ((traversed.1.lookup finish.getKey).getD false, traversed.2)

def getDirectionOf (fuel : Nat) (graph : Graph) (lhs rhs : Vertice) : Option (FlowDirection × Graph) :=
  if lhs.isDummy || rhs.isDummy then some (.unreachable, graph)
  else if lhs.getKey ∉ graph.list ∨ rhs.getKey ∉ graph.list then some (.unreachable, graph)
  else
    (levelTraverse fuel graph lhs rhs).bind fun forward =>
      if forward.1 then some (.upstream, forward.2)
      else (levelTraverse fuel forward.2 rhs lhs).map fun backward =>
        (if backward.1 then .downstream else .unreachable, backward.2)

end Graph

inductive GraphCall where
  | insert (e : Edge)
  | delete (e : Edge)
  deriving DecidableEq, Repr

namespace Graph

def call (graph : Graph) : GraphCall → Graph
  | .insert e => graph.insert e
  | .delete e => graph.delete e

def after (calls : List GraphCall) : Graph := calls.foldl call {}

end Graph

end CyberRT.Discovery

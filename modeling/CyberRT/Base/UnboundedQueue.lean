import Mathlib.Data.Finset.Card
import Mathlib.Data.Fintype.Powerset
import CyberRT.Execution.Run

namespace CyberRT.Base

/-- The two owners of a node are the enqueue that moves `tail_` off it and the dequeue that moves `head_` off it. -/
inductive QueueEnd where
  | tail
  | head
  deriving DecidableEq, Repr

/-- What a thread does next in `Enqueue` and `Dequeue`. From `fetchSubRef` on it is in `release`. -/
inductive UnboundedPoint where
  | idle
  | loadTail (node : Nat)
  | exchangeTail (node oldTail : Nat)
  | storeNext (node oldTail : Nat)
  | loadHead
  | readNext (oldHead : Nat)
  | exchangeHead (oldHead headNext : Nat)
  | readData (oldHead headNext ticket : Nat)
  | fetchSubSize (oldHead : Nat)
  | fetchSubRef (node : Nat) (owner : QueueEnd)
  | loadRef (node : Nat) (owner : QueueEnd)
  | delete (node : Nat) (owner : QueueEnd)
  | fetchAddSize
  deriving DecidableEq, Repr

namespace UnboundedPoint

/-- The node that the next step accesses. -/
def access : UnboundedPoint → Option Nat
  | .storeNext _ node | .readNext node | .readData _ node _ => some node
  | .fetchSubRef node _ | .loadRef node _ | .delete node _ => some node
  | _ => none

/-- The exchange of `head_` whose element the thread has still to read. -/
def ticket : UnboundedPoint → Option Nat
  | .readData _ _ ticket => some ticket
  | _ => none

/-- The enqueue has exchanged `tail_` and not added to `size_` yet. -/
def Uncounted : UnboundedPoint → Prop
  | .storeNext _ _ | .fetchSubRef _ .tail | .loadRef _ .tail | .delete _ .tail | .fetchAddSize => True
  | _ => False

/-- The dequeue has exchanged `head_` and not subtracted from `size_` yet. -/
def StillCounted : UnboundedPoint → Prop
  | .readData _ _ _ | .fetchSubSize _ => True
  | _ => False

instance : DecidablePred Uncounted := fun point => by
  unfold Uncounted
  split <;> infer_instance

instance : DecidablePred StillCounted := fun point => by
  unfold StillCounted
  split <;> infer_instance

end UnboundedPoint

structure UnboundedNode (Element : Type) where
  data : Element
  address : Nat
  refCount : UInt32 := 2
  next : Option Nat := none

/-- Nodes are numbered in the order of their allocation. `enqueued` has the elements in the order of the exchanges of
    `tail_`, `taken` counts those of `head_`, and `dequeued` has what the exchange of that number gave its thread.
    `stale` has the nodes that were accessed after they were deleted. -/
structure UnboundedQueue (Thread Element : Type) where
  nodes : Nat → UnboundedNode Element
  allocated : Nat
  head : Nat
  tail : Nat
  size : Int := 0
  point : Thread → UnboundedPoint := fun _ => .idle
  enqueued : List Element := []
  taken : Nat := 0
  dequeued : List (Nat × Element) := []
  deletions : List Nat := []
  stale : List Nat := []

/-- `enqueue` has the address at which the new node is allocated. `access` is the next step of that thread. -/
inductive UnboundedEvent (Thread Element : Type) where
  | enqueue (thread : Thread) (element : Element) (address : Nat)
  | dequeue (thread : Thread)
  | access (thread : Thread)

namespace UnboundedQueue

variable {Thread Element : Type} [DecidableEq Thread]

/-- The state after `Reset`. -/
def init (blank : Element) (address : Nat) : UnboundedQueue Thread Element where
  nodes := fun _ => ⟨blank, address, 2, none⟩
  allocated := 1
  head := 0
  tail := 0

variable (queue : UnboundedQueue Thread Element)

def toPoint (thread : Thread) (point : UnboundedPoint) : UnboundedQueue Thread Element :=
  { queue with point := Function.update queue.point thread point }

def setNode (node : Nat) (content : UnboundedNode Element) : UnboundedQueue Thread Element :=
  { queue with nodes := Function.update queue.nodes node content }

/-- An access to a node. What a deleted node still has is read and written as if it were there. -/
def touch (node : Nat) : UnboundedQueue Thread Element :=
  if node ∈ queue.deletions then { queue with stale := node :: queue.stale } else queue

/-- Where a thread goes on after `release`. -/
def released : QueueEnd → UnboundedPoint
  | .tail => .fetchAddSize
  | .head => .idle

/-- An exchange compares addresses, so that the node that it takes off an end is the one that is there now. -/
def accessStep (thread : Thread) : Option (UnboundedQueue Thread Element) :=
  match queue.point thread with
  | .idle => none
  | .loadTail node => some (queue.toPoint thread (.exchangeTail node queue.tail))
  | .exchangeTail node oldTail =>
    if (queue.nodes queue.tail).address = (queue.nodes oldTail).address then
      some { queue.toPoint thread (.storeNext node queue.tail) with
        tail := node, enqueued := queue.enqueued ++ [(queue.nodes node).data] }
    else some (queue.toPoint thread (.exchangeTail node queue.tail))
  | .storeNext node oldTail =>
    some (((queue.touch oldTail).setNode oldTail { queue.nodes oldTail with next := some node }).toPoint thread
      (.fetchSubRef oldTail .tail))
  | .loadHead => some (queue.toPoint thread (.readNext queue.head))
  | .readNext oldHead =>
    some ((queue.touch oldHead).toPoint thread
      (match (queue.nodes oldHead).next with
        | none => .idle
        | some headNext => .exchangeHead oldHead headNext))
  | .exchangeHead oldHead headNext =>
    if (queue.nodes queue.head).address = (queue.nodes oldHead).address then
      some { queue.toPoint thread (.readData queue.head headNext queue.taken) with
        head := headNext, taken := queue.taken + 1 }
    else some (queue.toPoint thread (.readNext queue.head))
  | .readData oldHead headNext ticket =>
    some { (queue.touch headNext).toPoint thread (.fetchSubSize oldHead) with
      dequeued := queue.dequeued ++ [(ticket, (queue.nodes headNext).data)] }
  | .fetchSubSize oldHead => some { queue.toPoint thread (.fetchSubRef oldHead .head) with size := queue.size - 1 }
  | .fetchSubRef node owner =>
    let counted := { queue.nodes node with refCount := (queue.nodes node).refCount - 1 }
    some (((queue.touch node).setNode node counted).toPoint thread (.loadRef node owner))
  | .loadRef node owner =>
    some ((queue.touch node).toPoint thread
      (if (queue.nodes node).refCount = 0 then .delete node owner else released owner))
  | .delete node owner => some { queue.toPoint thread (released owner) with deletions := node :: queue.deletions }
  | .fetchAddSize => some { queue.toPoint thread .idle with size := queue.size + 1 }

def step (queue : UnboundedQueue Thread Element) :
    UnboundedEvent Thread Element → Option (UnboundedQueue Thread Element)
  | .enqueue thread element address =>
    if queue.point thread = .idle ∧
        ∀ node < queue.allocated, node ∉ queue.deletions → (queue.nodes node).address ≠ address then
      some { (queue.setNode queue.allocated ⟨element, address, 2, none⟩).toPoint thread (.loadTail queue.allocated) with
        allocated := queue.allocated + 1 }
    else none
  | .dequeue thread => if queue.point thread = .idle then some (queue.toPoint thread .loadHead) else none
  | .access thread => queue.accessStep thread

/-- The elements come out in the order of the exchanges of `tail_`, each once, and memory and `size_` are kept well. -/
structure Sound : Prop where
  inOrder : ∀ entry ∈ queue.dequeued, queue.enqueued[entry.1]? = some entry.2
  once : (queue.dequeued.map Prod.fst).Nodup
  complete : ∀ ticket < queue.taken, ticket ∈ queue.dequeued.map Prod.fst ∨
    ∃ thread, (queue.point thread).ticket = some ticket
  deletedOnce : queue.deletions.Nodup
  accessed : queue.stale = []
  size : 0 ≤ queue.size

/-- Fewer enqueues have still to be added to `size_` than elements are in the queue or have still to be subtracted. -/
def Counted : Prop :=
  ∃ early : Finset Thread, (∀ thread ∈ early, (queue.point thread).StillCounted) ∧
    ∀ late : Finset Thread, (∀ thread ∈ late, (queue.point thread).Uncounted) →
      late.card + queue.taken < queue.enqueued.length + early.card

/-- A node is deleted when no other thread is about to access it, `head_` is exchanged for the successor of the node
    that it has, and an element is subtracted from `size_` that was added. -/
def UndisturbedAt (thread : Thread) : UnboundedPoint → Prop
  | .delete node _ => ∀ other, other ≠ thread → (queue.point other).access ≠ some node
  | .exchangeHead oldHead _ => (queue.nodes queue.head).address = (queue.nodes oldHead).address → queue.head = oldHead
  | .fetchSubSize _ => queue.Counted
  | _ => True

def Undisturbed (queue : UnboundedQueue Thread Element) : UnboundedEvent Thread Element → Prop
  | .access thread => queue.UndisturbedAt thread (queue.point thread)
  | _ => True

section Decide

variable [Fintype Thread]

instance decidableUndisturbedAt (thread : Thread) :
    (point : UnboundedPoint) → Decidable (queue.UndisturbedAt thread point)
  | .delete node _ => inferInstanceAs (Decidable (∀ other, other ≠ thread → (queue.point other).access ≠ some node))
  | .exchangeHead oldHead _ =>
    inferInstanceAs (Decidable
      ((queue.nodes queue.head).address = (queue.nodes oldHead).address → queue.head = oldHead))
  | .fetchSubSize _ =>
    inferInstanceAs (Decidable (∃ early : Finset Thread, (∀ thread ∈ early, (queue.point thread).StillCounted) ∧
      ∀ late : Finset Thread, (∀ thread ∈ late, (queue.point thread).Uncounted) →
        late.card + queue.taken < queue.enqueued.length + early.card))
  | .idle | .loadTail _ | .exchangeTail _ _ | .storeNext _ _ | .loadHead | .readNext _ | .readData _ _ _
  | .fetchSubRef _ _ | .loadRef _ _ | .fetchAddSize => isTrue trivial

instance decidableUndisturbed (queue : UnboundedQueue Thread Element) :
    (event : UnboundedEvent Thread Element) → Decidable (queue.Undisturbed event)
  | .access thread => inferInstanceAs (Decidable (queue.UndisturbedAt thread (queue.point thread)))
  | .enqueue _ _ _ | .dequeue _ => isTrue trivial

end Decide

end UnboundedQueue

end CyberRT.Base

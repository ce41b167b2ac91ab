import CyberRT.Base.UnboundedQueue
import CyberRT.Execution.Tally

namespace CyberRT.Base

open Execution

theorem getElem?_of_prefix {α : Type} {shorter longer : List α} {k : Nat} {a : α} (before : shorter <+: longer)
    (here : shorter[k]? = some a) : longer[k]? = some a := by
  obtain ⟨rest, rfl⟩ := before
  rw [List.getElem?_append_left (List.getElem?_eq_some_iff.mp here).1]
  exact here

/-- A node that a thread alone knows, or one that it took off an end and has not released yet. -/
inductive NodeClaim where
  | fresh (node : Nat)
  | owner (owner : QueueEnd) (node : Nat)

def UnboundedPoint.claim : UnboundedPoint → Option NodeClaim
  | .loadTail node | .exchangeTail node _ => some (.fresh node)
  | .storeNext _ oldTail => some (.owner .tail oldTail)
  | .readData oldHead _ _ | .fetchSubSize oldHead => some (.owner .head oldHead)
  | .fetchSubRef node owner => some (.owner owner node)
  | _ => none

namespace UnboundedQueue

variable {Thread Element : Type} (queue : UnboundedQueue Thread Element)

/-- How many nodes the end has been moved off. -/
def passed : QueueEnd → Nat
  | .tail => queue.enqueued.length
  | .head => queue.taken

def nodeAt : QueueEnd → Nat
  | .tail => queue.tail
  | .head => queue.head

/-- `order` has the nodes in the order in which `tail_` came to them. `left` says which owners have counted themselves
    down. -/
structure Stored (order : List Nat) (left : QueueEnd → Nat → Bool) : Prop where
  length : order.length = queue.enqueued.length + 1
  nodup : order.Nodup
  atEnd : ∀ owner, order[queue.passed owner]? = some (queue.nodeAt owner)
  contents : ∀ k node, order[k + 1]? = some node → queue.enqueued[k]? = some (queue.nodes node).data
  links : ∀ k node next, order[k]? = some node → (queue.nodes node).next = some next → order[k + 1]? = some next
  refs : ∀ node ∈ order,
    (queue.nodes node).refCount = UInt32.ofNat (2 - (left .tail node).toNat - (left .head node).toNat)
  kept : ∀ owner k node, queue.passed owner ≤ k → order[k]? = some node → left owner node = false
  listed : ∀ owner node, left owner node = true → node ∈ order
  allocated : ∀ node ∈ order, node < queue.allocated
  deleted : ∀ node ∈ queue.deletions, ∀ owner, left owner node = true
  deletedOnce : queue.deletions.Nodup
  accessed : queue.stale = []

def Claimed (order : List Nat) (left : QueueEnd → Nat → Bool) : NodeClaim → Prop
  | .fresh node =>
    node < queue.allocated ∧ node ∉ order ∧ (queue.nodes node).refCount = 2 ∧ (queue.nodes node).next = none
  | .owner owner node => left owner node = false ∧ ∃ k < queue.passed owner, order[k]? = some node

/-- The nodes that a thread has loaded follow each other. -/
def Placed (order : List Nat) (left : QueueEnd → Nat → Bool) : UnboundedPoint → Prop
  | .storeNext node oldTail => ∃ k, order[k]? = some oldTail ∧ order[k + 1]? = some node
  | .readNext oldHead => oldHead ∈ order
  | .exchangeHead oldHead headNext => ∃ k, order[k]? = some oldHead ∧ order[k + 1]? = some headNext
  | .readData oldHead headNext ticket =>
    ticket < queue.taken ∧ order[ticket]? = some oldHead ∧ order[ticket + 1]? = some headNext
  | .loadRef node owner => left owner node = true
  | .delete node _ => ∀ owner, left owner node = true
  | _ => True

structure Fits (order : List Nat) (left : QueueEnd → Nat → Bool) (point : UnboundedPoint) : Prop where
  claim : ∀ claim, point.claim = some claim → queue.Claimed order left claim
  access : ∀ node, point.access = some node → node ∉ queue.deletions
  place : queue.Placed order left point

/-- What the dequeues have read. -/
structure Handed : Prop where
  inOrder : ∀ entry ∈ queue.dequeued, entry.1 < queue.taken ∧ queue.enqueued[entry.1]? = some entry.2
  once : (queue.dequeued.map Prod.fst).Nodup
  pending : ∀ thread ticket, (queue.point thread).ticket = some ticket → ticket ∉ queue.dequeued.map Prod.fst
  complete : ∀ ticket < queue.taken, ticket ∈ queue.dequeued.map Prod.fst ∨
    ∃ thread, (queue.point thread).ticket = some ticket
  tickets : Apart UnboundedPoint.ticket queue.point

/-- `size_` is what is in the queue but for the threads that have still to change it. -/
structure Sized : Prop where
  counted : ∃ late early, Tally UnboundedPoint.Uncounted queue.point late ∧
    Tally UnboundedPoint.StillCounted queue.point early ∧
    queue.size + late + queue.taken = queue.enqueued.length + early
  positive : 0 ≤ queue.size

structure Consistent (order : List Nat) (left : QueueEnd → Nat → Bool) : Prop where
  stored : queue.Stored order left
  fits : ∀ thread, queue.Fits order left (queue.point thread)
  apart : Apart UnboundedPoint.claim queue.point
  handed : queue.Handed
  sized : queue.Sized

variable {queue} {order : List Nat} {left : QueueEnd → Nat → Bool}

theorem consistent_init (blank : Element) (address : Nat) :
    (init blank address : UnboundedQueue Thread Element).Consistent [0] fun _ _ => false where
  stored := by
    constructor
    · rfl
    · simp
    · intro owner
      cases owner <;> rfl
    · simp
    · simp [init]
    · simp [init]
    · simp
    · simp
    · simp [init]
    · simp [init]
    · simp [init]
    · rfl
  fits := fun _ => ⟨by simp [init, UnboundedPoint.claim], by simp [init], trivial⟩
  apart := Apart.none fun _ => rfl
  handed := ⟨by simp [init], by simp [init], by simp [init], by simp [init], Apart.none fun _ => rfl⟩
  sized := ⟨⟨0, 0, Tally.none fun _ => id, Tally.none fun _ => id, rfl⟩, Int.le_refl 0⟩

theorem Consistent.sound (consistent : queue.Consistent order left) : queue.Sound where
  inOrder := fun entry member => (consistent.handed.inOrder entry member).2
  once := consistent.handed.once
  complete := consistent.handed.complete
  deletedOnce := consistent.stored.deletedOnce
  accessed := consistent.stored.accessed
  size := consistent.sized.positive

/-- The nodes at the ends and after them are there. -/
theorem Stored.undeleted (stored : queue.Stored order left) {owner : QueueEnd} {k node : Nat}
    (ahead : queue.passed owner ≤ k) (here : order[k]? = some node) : node ∉ queue.deletions := by
  intro deleted
  have kept := stored.kept owner k node ahead here
  rw [stored.deleted node deleted owner] at kept
  cases kept

theorem Stored.head_mem (stored : queue.Stored order left) : queue.head ∈ order :=
  List.mem_of_getElem? (stored.atEnd .head)

theorem Stored.head_undeleted (stored : queue.Stored order left) : queue.head ∉ queue.deletions :=
  stored.undeleted (Nat.le_refl _) (stored.atEnd .head)

theorem Stored.place_inj (stored : queue.Stored order left) {k k' node : Nat} (here : order[k]? = some node)
    (there : order[k']? = some node) : k = k' := by
  have below := (List.getElem?_eq_some_iff.mp here).1
  exact (List.getElem?_inj below stored.nodup).mp (here.trans there.symm)

theorem Claimed.undeleted (stored : queue.Stored order left) {owner : QueueEnd} {node : Nat}
    (claimed : queue.Claimed order left (.owner owner node)) : node ∉ queue.deletions := by
  intro deleted
  have kept := claimed.1
  rw [stored.deleted node deleted owner] at kept
  cases kept

theorem Stored.frame (stored : queue.Stored order left) {next : UnboundedQueue Thread Element}
    (nodes : next.nodes = queue.nodes) (enqueued : next.enqueued = queue.enqueued) (taken : next.taken = queue.taken)
    (ends : ∀ owner, next.nodeAt owner = queue.nodeAt owner) (allocated : next.allocated = queue.allocated)
    (deletions : next.deletions = queue.deletions) (stale : next.stale = queue.stale) : next.Stored order left := by
  have passed : ∀ owner, next.passed owner = queue.passed owner := by
    intro owner
    cases owner
    · exact congrArg List.length enqueued
    · exact taken
  constructor
  · rw [enqueued]
    exact stored.length
  · exact stored.nodup
  · intro owner
    rw [passed, ends]
    exact stored.atEnd owner
  · rw [enqueued, nodes]
    exact stored.contents
  · rw [nodes]
    exact stored.links
  · rw [nodes]
    exact stored.refs
  · intro owner
    rw [passed]
    exact stored.kept owner
  · exact stored.listed
  · rw [allocated]
    exact stored.allocated
  · rw [deletions]
    exact stored.deleted
  · rw [deletions]
    exact stored.deletedOnce
  · rw [stale]
    exact stored.accessed

/-- Both owners of a node that nobody counts any more have counted themselves down. -/
theorem Stored.gone (stored : queue.Stored order left) {node : Nat} {owner : QueueEnd}
    (own : left owner node = true) (none : (queue.nodes node).refCount = 0) (either : QueueEnd) :
    left either node = true := by
  have refs := stored.refs node (stored.listed owner node own)
  rw [none] at refs
  revert refs own
  cases owner <;> cases either <;> cases left .tail node <;> cases left .head node <;> decide

theorem touch_of_undeleted {node : Nat} (undeleted : node ∉ queue.deletions) : queue.touch node = queue :=
  if_neg undeleted

theorem Fits.frame {next : UnboundedQueue Thread Element} {order' : List Nat} {left' : QueueEnd → Nat → Bool}
    {point : UnboundedPoint} (fits : queue.Fits order left point) (longer : order <+: order')
    (passed : ∀ owner, queue.passed owner ≤ next.passed owner)
    (kept : ∀ owner node, point.claim = some (.owner owner node) → left' owner node = left owner node)
    (gone : ∀ owner node, left owner node = true → left' owner node = true)
    (access : ∀ node, point.access = some node → node ∉ next.deletions)
    (fresh : ∀ node, point.claim = some (.fresh node) →
      node < next.allocated ∧ node ∉ order' ∧ next.nodes node = queue.nodes node) :
    next.Fits order' left' point := by
  have still : ∀ {k node : Nat}, order[k]? = some node → order'[k]? = some node := getElem?_of_prefix longer
  refine ⟨?_, access, ?_⟩
  · intro claim held
    have claimed := fits.claim claim held
    cases claim with
    | fresh node =>
      obtain ⟨known, absent, same⟩ := fresh node held
      refine ⟨known, absent, ?_, ?_⟩
      · rw [same]
        exact claimed.2.2.1
      · rw [same]
        exact claimed.2.2.2
    | owner owner node =>
      obtain ⟨before, k, behind, here⟩ := claimed
      exact ⟨(kept owner node held).trans before, k, Nat.lt_of_lt_of_le behind (passed owner), still here⟩
  · have place := fits.place
    cases point with
    | storeNext node oldTail =>
      obtain ⟨k, first, second⟩ := place
      exact ⟨k, still first, still second⟩
    | readNext oldHead => exact longer.subset place
    | exchangeHead oldHead headNext =>
      obtain ⟨k, first, second⟩ := place
      exact ⟨k, still first, still second⟩
    | readData oldHead headNext ticket =>
      obtain ⟨behind, first, second⟩ := place
      exact ⟨Nat.lt_of_lt_of_le behind (passed .head), still first, still second⟩
    | loadRef node owner => exact gone owner node place
    | delete node owner => exact fun either => gone either node (place either)
    | _ => trivial

/-- A thread goes on and leaves the other nodes as they are. -/
theorem Consistent.others {next : UnboundedQueue Thread Element} {thread : Thread}
    (consistent : queue.Consistent order left) {left' : QueueEnd → Nat → Bool}
    (passed : ∀ owner, queue.passed owner ≤ next.passed owner)
    (kept : ∀ other owner node, other ≠ thread → (queue.point other).claim = some (.owner owner node) →
      left' owner node = left owner node)
    (gone : ∀ owner node, left owner node = true → left' owner node = true)
    (access : ∀ other node, other ≠ thread → (queue.point other).access = some node → node ∉ next.deletions)
    (allocated : next.allocated = queue.allocated)
    (nodes : ∀ node, node ∉ order → next.nodes node = queue.nodes node) (other : Thread) (differs : other ≠ thread) :
    next.Fits order left' (queue.point other) := by
  have fits := consistent.fits other
  refine fits.frame (List.prefix_refl _) passed (fun owner node => kept other owner node differs) gone
    (fun node => access other node differs) ?_
  intro node held
  obtain ⟨below, absent, -⟩ := fits.claim _ held
  exact ⟨allocated ▸ below, absent, nodes node absent⟩

theorem Consistent.undeleted {thread : Thread} {point : UnboundedPoint} {node : Nat}
    (consistent : queue.Consistent order left) (here : queue.point thread = point)
    (accesses : point.access = some node) : node ∉ queue.deletions := by
  rw [← here] at accesses
  exact (consistent.fits thread).access node accesses

/-- No thread has taken the node at an end off it yet. -/
theorem Consistent.unclaimed (consistent : queue.Consistent order left) (owner : QueueEnd) (other : Thread) :
    (queue.point other).claim ≠ some (.owner owner (queue.nodeAt owner)) := by
  intro held
  obtain ⟨-, k, behind, found⟩ := (consistent.fits other).claim _ held
  obtain rfl := consistent.stored.place_inj found (consistent.stored.atEnd owner)
  exact Nat.lt_irrefl _ behind

theorem Consistent.ticket_lt (consistent : queue.Consistent order left) {thread : Thread} {ticket : Nat}
    (held : (queue.point thread).ticket = some ticket) : ticket < queue.taken := by
  have placed := (consistent.fits thread).place
  revert held placed
  cases queue.point thread with
  | readData oldHead headNext number =>
    intro held placed
    obtain rfl := Option.some.inj held
    exact placed.1
  | _ => intro held; cases held

/-- The places of the order after a node has been appended. -/
theorem place_append {node k other : Nat} (found : (order ++ [node])[k]? = some other) :
    order[k]? = some other ∨ k = order.length ∧ other = node := by
  rcases Nat.lt_or_ge k order.length with before | after
  · rw [List.getElem?_append_left before] at found
    exact .inl found
  · rw [List.getElem?_append_right after, List.getElem?_singleton] at found
    split at found
    · exact .inr ⟨by omega, (Option.some.inj found).symm⟩
    · cases found

/-- `tail_` comes to a node that nobody else knows. -/
theorem Stored.append (stored : queue.Stored order left) {node : Nat} (fresh : queue.Claimed order left (.fresh node))
    (point : Thread → UnboundedPoint) :
    ({ queue with point, tail := node, enqueued := queue.enqueued ++ [(queue.nodes node).data] } :
      UnboundedQueue Thread Element).Stored (order ++ [node]) left := by
  obtain ⟨known, absent, whole, unlinked⟩ := fresh
  have length := stored.length
  have longer : order <+: order ++ [node] := List.prefix_append _ _
  have unowned : ∀ owner, left owner node = false := by
    intro owner
    by_contra gone
    exact absent (stored.listed owner node (Bool.eq_true_of_not_eq_false gone))
  constructor
  · simp [length]
  · rw [List.nodup_append]
    refine ⟨stored.nodup, by simp, ?_⟩
    rintro other member _ same rfl
    rw [List.mem_singleton.mp same] at member
    exact absent member
  · intro owner
    cases owner with
    | tail =>
      show (order ++ [node])[(queue.enqueued ++ _).length]? = some node
      rw [List.length_append, List.length_singleton, ← length]
      simp
    | head => exact getElem?_of_prefix longer (stored.atEnd .head)
  · intro k other found
    rcases place_append found with before | ⟨same, rfl⟩
    · exact getElem?_of_prefix (List.prefix_append _ _) (stored.contents k other before)
    · obtain rfl : k = queue.enqueued.length := by omega
      simp
  · intro k other next found linked
    rcases place_append found with before | ⟨-, rfl⟩
    · exact getElem?_of_prefix longer (stored.links k other next before linked)
    · have nothing := unlinked.symm.trans linked
      cases nothing
  · intro other member
    rcases List.mem_append.mp member with member | same
    · exact stored.refs other member
    · rw [List.mem_singleton.mp same, unowned, unowned]
      exact whole
  · intro owner k other ahead found
    rcases place_append found with before | ⟨-, rfl⟩
    · refine stored.kept owner k other (Nat.le_trans ?_ ahead) before
      cases owner with
      | tail => simp [passed]
      | head => exact Nat.le_refl _
    · exact unowned owner
  · exact fun owner other gone => longer.subset (stored.listed owner other gone)
  · intro other member
    rcases List.mem_append.mp member with member | same
    · exact stored.allocated other member
    · rw [List.mem_singleton.mp same]
      exact known
  · exact stored.deleted
  · exact stored.deletedOnce
  · exact stored.accessed

theorem leaves_update (left : QueueEnd → Nat → Bool) (owner other : QueueEnd) (node node' : Nat) :
    Function.update left owner (Function.update (left owner) node true) other node' =
      if other = owner ∧ node' = node then true else left other node' := by
  by_cases same : other = owner
  · subst same
    by_cases same' : node' = node <;> simp [same']
  · simp [same]

/-- An owner counts itself down. -/
theorem Stored.countDown (stored : queue.Stored order left) {node : Nat} {owner : QueueEnd}
    (claimed : queue.Claimed order left (.owner owner node)) :
    (queue.setNode node { queue.nodes node with refCount := (queue.nodes node).refCount - 1 }).Stored order
      (Function.update left owner (Function.update (left owner) node true)) := by
  obtain ⟨before, k, behind, found⟩ := claimed
  have member := List.mem_of_getElem? found
  let counted := { queue.nodes node with refCount := (queue.nodes node).refCount - 1 }
  have data : ∀ other, (Function.update queue.nodes node counted other).data = (queue.nodes other).data :=
    apply_update_same UnboundedNode.data rfl
  have links : ∀ other, (Function.update queue.nodes node counted other).next = (queue.nodes other).next :=
    apply_update_same UnboundedNode.next rfl
  constructor
  · exact stored.length
  · exact stored.nodup
  · exact stored.atEnd
  · intro k other found
    exact (stored.contents k other found).trans (congrArg some (data other).symm)
  · exact fun k other next found linked => stored.links k other next found ((links other).symm.trans linked)
  · intro other within
    simp only [setNode, leaves_update]
    by_cases same : other = node
    · rw [same, Function.update_self]
      have refs := stored.refs node member
      cases owner with
      | tail =>
        rw [before] at refs
        simp only [refs, and_self, if_true, reduceCtorEq, false_and, if_false]
        cases left .head node <;> decide
      | head =>
        rw [before] at refs
        simp only [refs, and_self, if_true, reduceCtorEq, false_and, if_false]
        cases left .tail node <;> decide
    · rw [Function.update_of_ne same]
      simp only [same, and_false, if_false]
      exact stored.refs other within
  · intro other k' node' ahead found'
    rw [leaves_update, if_neg]
    · exact stored.kept other k' node' ahead found'
    · rintro ⟨rfl, rfl⟩
      exact Nat.lt_irrefl _ (Nat.lt_of_le_of_lt ahead (stored.place_inj found found' ▸ behind))
  · intro other node' gone
    rw [leaves_update] at gone
    split at gone
    · rename_i same
      exact same.2 ▸ member
    · exact stored.listed other node' gone
  · exact stored.allocated
  · intro node' deleted other
    rw [leaves_update, stored.deleted node' deleted other]
    exact ite_self _
  · exact stored.deletedOnce
  · exact stored.accessed

section Moves

variable [DecidableEq Thread] {next : UnboundedQueue Thread Element} {thread : Thread}
  {before point : UnboundedPoint}

theorem Handed.stay (handed : queue.Handed) (here : queue.point thread = before)
    (moved : next.point = Function.update queue.point thread point) (same : point.ticket = before.ticket)
    (dequeued : next.dequeued = queue.dequeued)
    (taken : next.taken = queue.taken) (longer : queue.enqueued <+: next.enqueued) : next.Handed := by
  have still : ∀ other, (next.point other).ticket = (queue.point other).ticket := by
    intro other
    rw [moved]
    exact apply_update_same UnboundedPoint.ticket (by rw [same, here]) other
  constructor
  · intro entry member
    rw [dequeued] at member
    obtain ⟨below, present⟩ := handed.inOrder entry member
    rw [taken]
    exact ⟨below, getElem?_of_prefix longer present⟩
  · rw [dequeued]
    exact handed.once
  · simp only [still, dequeued]
    exact handed.pending
  · simp only [still, dequeued, taken]
    exact handed.complete
  · intro first second ticket
    rw [still, still]
    exact handed.tickets first second ticket

/-- A thread draws the ticket of the next element. -/
theorem Handed.take (handed : queue.Handed) (node : Nat) (before : (queue.point thread).ticket = none)
    (drawn : point.ticket = some queue.taken)
    (earlier : ∀ other ticket, (queue.point other).ticket = some ticket → ticket < queue.taken) :
    ({ queue.toPoint thread point with head := node, taken := queue.taken + 1 } :
      UnboundedQueue Thread Element).Handed := by
  obtain ⟨inOrder, once, pending, complete, tickets⟩ := handed
  have unread : queue.taken ∉ queue.dequeued.map Prod.fst := by
    intro member
    obtain ⟨entry, listed, same⟩ := List.mem_map.mp member
    have below := (inOrder entry listed).1
    omega
  constructor
  · intro entry member
    obtain ⟨below, present⟩ := inOrder entry member
    exact ⟨Nat.lt_succ_of_lt below, present⟩
  · exact once
  · intro other ticket held
    simp only [toPoint] at held
    by_cases same : other = thread
    · rw [same, Function.update_self, drawn] at held
      obtain rfl := Option.some.inj held
      exact unread
    · rw [Function.update_of_ne same] at held
      exact pending other ticket held
  · intro ticket below
    simp only [toPoint]
    rcases Nat.lt_succ_iff_lt_or_eq.mp below with past | rfl
    · rcases complete ticket past with read | ⟨other, held⟩
      · exact .inl read
      · refine .inr ⟨other, ?_⟩
        rw [Function.update_of_ne, held]
        rintro rfl
        rw [before] at held
        cases held
    · exact .inr ⟨thread, by rw [Function.update_self, drawn]⟩
  · apply tickets.update
    intro ticket held
    obtain rfl := Option.some.inj (drawn.symm.trans held)
    right
    exact fun other held => Nat.lt_irrefl _ (earlier other _ held)

/-- A thread reads the element of its ticket. -/
theorem Handed.read (handed : queue.Handed) {ticket : Nat} {element : Element}
    (own : (queue.point thread).ticket = some ticket) (after : point.ticket = none) (below : ticket < queue.taken)
    (present : queue.enqueued[ticket]? = some element) :
    ({ queue.toPoint thread point with dequeued := queue.dequeued ++ [(ticket, element)] } :
      UnboundedQueue Thread Element).Handed := by
  obtain ⟨inOrder, once, pending, complete, tickets⟩ := handed
  have unread := pending thread ticket own
  constructor
  · intro entry member
    rcases List.mem_append.mp member with before | same
    · exact inOrder entry before
    · rw [List.mem_singleton.mp same]
      exact ⟨below, present⟩
  · simp only [List.map_append, List.map_cons, List.map_nil]
    rw [List.nodup_append]
    refine ⟨once, by simp, ?_⟩
    rintro other member _ same rfl
    rw [List.mem_singleton.mp same] at member
    exact unread member
  · intro other number held
    simp only [toPoint] at held
    by_cases same : other = thread
    · rw [same, Function.update_self, after] at held
      cases held
    · rw [Function.update_of_ne same] at held
      simp only [List.map_append, List.map_cons, List.map_nil, List.mem_append, List.mem_singleton]
      rintro (member | rfl)
      · exact pending other number held member
      · exact same (tickets other thread _ held own)
  · intro number within
    simp only [toPoint, List.map_append, List.map_cons, List.map_nil, List.mem_append, List.mem_singleton]
    rcases complete number within with read | ⟨other, held⟩
    · exact .inl (.inl read)
    · by_cases same : other = thread
      · rw [same, own] at held
        exact .inl (.inr (Option.some.inj held).symm)
      · exact .inr ⟨other, by rw [Function.update_of_ne same, held]⟩
  · apply tickets.update
    intro number held
    rw [after] at held
    cases held

theorem Sized.stay (sized : queue.Sized) (here : queue.point thread = before)
    (moved : next.point = Function.update queue.point thread point) (late : point.Uncounted ↔ before.Uncounted)
    (early : point.StillCounted ↔ before.StillCounted) (size : next.size = queue.size)
    (taken : next.taken = queue.taken) (enqueued : next.enqueued = queue.enqueued) : next.Sized := by
  obtain ⟨⟨lates, earlies, tally, tally', balance⟩, positive⟩ := sized
  rw [← here] at late early
  refine ⟨⟨lates, earlies, ?_, ?_, ?_⟩, ?_⟩
  · rw [moved]
    exact tally.stay late
  · rw [moved]
    exact tally'.stay early
  · rw [size, taken, enqueued, balance]
  · rw [size]
    exact positive

theorem fits_update (moved : next.point = Function.update queue.point thread point)
    (own : next.Fits order left point) (others : ∀ other, other ≠ thread → next.Fits order left (queue.point other)) :
    ∀ other, next.Fits order left (next.point other) := by
  rw [moved]
  exact (Function.forall_update_iff _ fun _ => next.Fits order left).mpr ⟨own, others⟩

/-- A thread goes on without a change of the queue. -/
theorem Consistent.move (consistent : queue.Consistent order left) (here : queue.point thread = before)
    (claim : ∀ claim, point.claim = some claim → before.claim = some claim)
    (access : ∀ node, point.access = some node → node ∉ queue.deletions) (place : queue.Placed order left point)
    (ticket : point.ticket = before.ticket) (late : point.Uncounted ↔ before.Uncounted)
    (early : point.StillCounted ↔ before.StillCounted) :
    (queue.toPoint thread point).Consistent order left where
  stored := consistent.stored.frame rfl rfl rfl (fun _ => rfl) rfl rfl rfl
  fits := by
    refine fits_update rfl ⟨?_, access, place⟩ fun other _ => ?_
    · exact fun held own => (consistent.fits thread).claim held (here ▸ claim held own)
    · obtain ⟨claims, accesses, placed⟩ := consistent.fits other
      exact ⟨claims, accesses, placed⟩
  apart := consistent.apart.update fun held own => .inl (here ▸ claim held own)
  handed := consistent.handed.stay here rfl ticket rfl rfl (List.prefix_refl _)
  sized := consistent.sized.stay here rfl late early rfl rfl rfl

theorem Consistent.enqueue (consistent : queue.Consistent order left) (idle : queue.point thread = .idle)
    (element : Element) (address : Nat) :
    ({ (queue.setNode queue.allocated ⟨element, address, 2, none⟩).toPoint thread (.loadTail queue.allocated) with
      allocated := queue.allocated + 1 } : UnboundedQueue Thread Element).Consistent order left := by
  have stored := consistent.stored
  have known : ∀ node, node < queue.allocated →
      Function.update queue.nodes queue.allocated ⟨element, address, 2, none⟩ node = queue.nodes node :=
    fun node below => Function.update_of_ne (Nat.ne_of_lt below) _ _
  have listed : ∀ {k node : Nat}, order[k]? = some node → node < queue.allocated :=
    fun here => stored.allocated _ (List.mem_of_getElem? here)
  constructor
  · constructor
    · exact stored.length
    · exact stored.nodup
    · exact stored.atEnd
    · intro k node here
      simp only [toPoint, setNode, known node (listed here)]
      exact stored.contents k node here
    · intro k node next here
      simp only [toPoint, setNode, known node (listed here)]
      exact stored.links k node next here
    · intro node member
      simp only [toPoint, setNode, known node (stored.allocated node member)]
      exact stored.refs node member
    · exact stored.kept
    · exact stored.listed
    · exact fun node member => Nat.lt_succ_of_lt (stored.allocated node member)
    · exact stored.deleted
    · exact stored.deletedOnce
    · exact stored.accessed
  · refine fits_update rfl ⟨?_, ?_, trivial⟩ fun other _ => ?_
    · intro claim own
      obtain rfl := Option.some.inj own
      refine ⟨Nat.lt_succ_self _, fun member => Nat.lt_irrefl _ (stored.allocated _ member), ?_, ?_⟩
      · simp [toPoint, setNode]
      · simp [toPoint, setNode]
    · intro node accessed
      cases accessed
    · have fits := consistent.fits other
      refine fits.frame (List.prefix_refl _) (fun owner => ?_) (fun _ _ _ => rfl) (fun _ _ => id) fits.access ?_
      · cases owner <;> exact Nat.le_refl _
      · intro node held
        obtain ⟨below, absent, -⟩ := fits.claim _ held
        exact ⟨Nat.lt_succ_of_lt below, absent, known node below⟩
  · apply consistent.apart.update
    intro claim own
    obtain rfl := Option.some.inj own
    right
    intro other held
    exact Nat.lt_irrefl _ ((consistent.fits other).claim _ held).1
  · exact consistent.handed.stay idle rfl rfl rfl rfl (List.prefix_refl _)
  · exact consistent.sized.stay idle rfl Iff.rfl Iff.rfl rfl rfl rfl

theorem Consistent.appendNode (consistent : queue.Consistent order left) {node oldTail : Nat}
    (here : queue.point thread = .exchangeTail node oldTail) :
    ({ queue.toPoint thread (.storeNext node queue.tail) with
      tail := node, enqueued := queue.enqueued ++ [(queue.nodes node).data] } :
        UnboundedQueue Thread Element).Consistent (order ++ [node]) left := by
  have stored := consistent.stored
  have own : (queue.point thread).claim = some (.fresh node) := by
    rw [here]
    rfl
  have longer : order <+: order ++ [node] := List.prefix_append _ _
  have tailAt : order[queue.enqueued.length]? = some queue.tail := stored.atEnd .tail
  have grown : queue.enqueued.length < (queue.enqueued ++ [(queue.nodes node).data]).length := by simp
  constructor
  · exact stored.append ((consistent.fits thread).claim _ own) _
  · refine fits_update rfl ⟨?_, ?_, ?_⟩ fun other differs => ?_
    · intro claim held
      obtain rfl := Option.some.inj held
      exact ⟨stored.kept .tail _ _ (Nat.le_refl _) tailAt, _, grown, getElem?_of_prefix longer tailAt⟩
    · intro accessed held
      obtain rfl := Option.some.inj held
      exact stored.undeleted (Nat.le_refl (queue.passed .tail)) tailAt
    · refine ⟨queue.enqueued.length, getElem?_of_prefix longer tailAt, ?_⟩
      rw [← stored.length]
      simp
    · have fits := consistent.fits other
      have passed : ∀ owner, queue.passed owner ≤ ({ queue with
          enqueued := queue.enqueued ++ [(queue.nodes node).data] } : UnboundedQueue Thread Element).passed owner := by
        intro owner
        cases owner with
        | tail => exact Nat.le_of_lt grown
        | head => exact Nat.le_refl _
      refine fits.frame longer passed (fun _ _ _ => rfl) (fun _ _ => id) fits.access ?_
      intro fresh held
      obtain ⟨below, outside, -⟩ := fits.claim _ held
      refine ⟨below, ?_, rfl⟩
      rw [List.mem_append, List.mem_singleton]
      rintro (member | rfl)
      · exact outside member
      · exact differs (consistent.apart other thread _ held own)
  · apply consistent.apart.update
    intro claim held
    obtain rfl := Option.some.inj held
    exact .inr (consistent.unclaimed .tail)
  · exact consistent.handed.stay here rfl rfl rfl rfl (List.prefix_append _ _)
  · obtain ⟨⟨late, early, tally, tally', balance⟩, positive⟩ := consistent.sized
    refine ⟨⟨late + 1, early, ?_, ?_, ?_⟩, positive⟩
    · exact tally.enter (by rw [here]; exact id) trivial
    · exact tally'.stay (by rw [here]; exact Iff.rfl)
    · simp only [toPoint, List.length_append, List.length_singleton]
      push_cast
      omega

theorem Consistent.link (consistent : queue.Consistent order left) {node oldTail : Nat}
    (here : queue.point thread = .storeNext node oldTail) :
    ((queue.setNode oldTail { queue.nodes oldTail with next := some node }).toPoint thread
      (.fetchSubRef oldTail .tail)).Consistent order left := by
  have stored := consistent.stored
  obtain ⟨claims, accesses, placed⟩ := consistent.fits thread
  rw [here] at claims accesses placed
  obtain ⟨place, first, second⟩ := placed
  have member := List.mem_of_getElem? first
  let linked := { queue.nodes oldTail with next := some node }
  have data : ∀ other, (Function.update queue.nodes oldTail linked other).data = (queue.nodes other).data :=
    apply_update_same UnboundedNode.data rfl
  have counts : ∀ other, (Function.update queue.nodes oldTail linked other).refCount = (queue.nodes other).refCount :=
    apply_update_same UnboundedNode.refCount rfl
  constructor
  · obtain ⟨length, nodup, atEnd, contents, links, refs, kept, listed, allocated, deleted, once, accessed⟩ := stored
    refine ⟨length, nodup, atEnd, ?_, ?_, ?_, kept, listed, allocated, deleted, once, accessed⟩
    · exact fun k other found => (contents k other found).trans (congrArg some (data other).symm)
    · intro k other next found leads
      simp only [toPoint, setNode] at leads
      by_cases same : other = oldTail
      · rw [same, Function.update_self] at leads
        obtain rfl := Option.some.inj leads
        rw [consistent.stored.place_inj found (same ▸ first)]
        exact second
      · rw [Function.update_of_ne same] at leads
        exact links k other next found leads
    · exact fun other within => (counts other).trans (refs other within)
  · refine fits_update rfl ⟨?_, accesses, trivial⟩ (consistent.others (fun _ => Nat.le_refl _) (fun _ _ _ _ _ => rfl)
      (fun _ _ => id) (fun other _ _ => (consistent.fits other).access _) rfl ?_)
    · intro claim held
      obtain rfl := Option.some.inj held
      exact claims _ rfl
    · intro other absent
      have differs : other ≠ oldTail := by
        rintro rfl
        exact absent member
      exact Function.update_of_ne differs _ _
  · exact consistent.apart.update fun _ held => .inl (by rw [here]; exact held)
  · exact consistent.handed.stay here rfl rfl rfl rfl (List.prefix_refl _)
  · exact consistent.sized.stay here rfl Iff.rfl Iff.rfl rfl rfl rfl

theorem Consistent.takeHead (consistent : queue.Consistent order left) {headNext : Nat}
    (here : queue.point thread = .exchangeHead queue.head headNext) :
    ({ queue.toPoint thread (.readData queue.head headNext queue.taken) with
      head := headNext, taken := queue.taken + 1 } : UnboundedQueue Thread Element).Consistent order left := by
  have stored := consistent.stored
  have headAt : order[queue.taken]? = some queue.head := stored.atEnd .head
  have nextAt : order[queue.taken + 1]? = some headNext := by
    have placed := (consistent.fits thread).place
    rw [here] at placed
    obtain ⟨k, first, second⟩ := placed
    rw [stored.place_inj headAt first]
    exact second
  constructor
  · obtain ⟨length, nodup, atEnd, contents, links, refs, kept, listed, allocated, deleted, once, accessed⟩ := stored
    refine ⟨length, nodup, ?_, contents, links, refs, ?_, listed, allocated, deleted, once, accessed⟩
    · intro owner
      cases owner with
      | tail => exact atEnd .tail
      | head => exact nextAt
    · intro owner k node ahead found
      cases owner with
      | tail => exact kept .tail k node ahead found
      | head => exact kept .head k node (Nat.le_of_succ_le ahead) found
  · refine fits_update rfl ⟨?_, ?_, ?_⟩ (consistent.others ?_ (fun _ _ _ _ _ => rfl) (fun _ _ => id)
      (fun other _ _ => (consistent.fits other).access _) rfl (fun _ _ => rfl))
    · intro claim held
      obtain rfl := Option.some.inj held
      exact ⟨stored.kept .head _ _ (Nat.le_refl _) headAt, queue.taken, Nat.lt_succ_self _, headAt⟩
    · intro node held
      obtain rfl := Option.some.inj held
      exact stored.undeleted (Nat.le_succ (queue.passed .head)) nextAt
    · exact ⟨Nat.lt_succ_self _, headAt, nextAt⟩
    · intro owner
      cases owner with
      | tail => exact Nat.le_refl _
      | head => exact Nat.le_succ _
  · apply consistent.apart.update
    intro claim held
    obtain rfl := Option.some.inj held
    exact .inr (consistent.unclaimed .head)
  · exact consistent.handed.take headNext (by rw [here]; rfl) rfl fun _ _ => consistent.ticket_lt
  · obtain ⟨⟨late, early, tally, tally', balance⟩, positive⟩ := consistent.sized
    refine ⟨⟨late, early + 1, ?_, ?_, ?_⟩, positive⟩
    · exact tally.stay (by rw [here]; exact Iff.rfl)
    · exact tally'.enter (by rw [here]; exact id) trivial
    · simp only [toPoint]
      push_cast
      omega

theorem Consistent.readData (consistent : queue.Consistent order left) {oldHead headNext ticket : Nat}
    (here : queue.point thread = .readData oldHead headNext ticket) :
    ({ queue.toPoint thread (.fetchSubSize oldHead) with
      dequeued := queue.dequeued ++ [(ticket, (queue.nodes headNext).data)] } :
        UnboundedQueue Thread Element).Consistent order left := by
  obtain ⟨claims, -, placed⟩ := consistent.fits thread
  rw [here] at claims placed
  obtain ⟨below, -, nextAt⟩ := placed
  constructor
  · exact consistent.stored.frame rfl rfl rfl (fun _ => rfl) rfl rfl rfl
  · refine fits_update rfl ⟨claims, ?_, trivial⟩ (consistent.others (fun _ => Nat.le_refl _) (fun _ _ _ _ _ => rfl)
      (fun _ _ => id) (fun other _ _ => (consistent.fits other).access _) rfl (fun _ _ => rfl))
    intro node held
    cases held
  · exact consistent.apart.update fun _ held => .inl (by rw [here]; exact held)
  · exact consistent.handed.read (by rw [here]; rfl) rfl below (consistent.stored.contents ticket headNext nextAt)
  · exact consistent.sized.stay here rfl Iff.rfl Iff.rfl rfl rfl rfl

theorem Consistent.subtract (consistent : queue.Consistent order left) {oldHead : Nat}
    (here : queue.point thread = .fetchSubSize oldHead) (counted : queue.Counted) :
    ({ queue.toPoint thread (.fetchSubRef oldHead .head) with size := queue.size - 1 } :
      UnboundedQueue Thread Element).Consistent order left := by
  obtain ⟨claims, -, -⟩ := consistent.fits thread
  rw [here] at claims
  constructor
  · exact consistent.stored.frame rfl rfl rfl (fun _ => rfl) rfl rfl rfl
  · refine fits_update rfl ⟨claims, ?_, trivial⟩ (consistent.others (fun _ => Nat.le_refl _) (fun _ _ _ _ _ => rfl)
      (fun _ _ => id) (fun other _ _ => (consistent.fits other).access _) rfl (fun _ _ => rfl))
    intro node held
    obtain rfl := Option.some.inj held
    exact (claims _ rfl).undeleted consistent.stored
  · exact consistent.apart.update fun _ held => .inl (by rw [here]; exact held)
  · exact consistent.handed.stay here rfl rfl rfl rfl (List.prefix_refl _)
  · obtain ⟨⟨late, early, tally, tally', balance⟩, positive⟩ := consistent.sized
    have present : queue.size ≥ 1 := by
      obtain ⟨some', within, more⟩ := counted
      obtain ⟨lates, exact', rfl⟩ := tally
      obtain ⟨earlies, exact'', rfl⟩ := tally'
      have fewer := more lates fun other member => (exact' other).mp member
      have subset : some' ⊆ earlies := fun other member => (exact'' other).mpr (within other member)
      have atMost := Finset.card_le_card subset
      omega
    have still : (queue.point thread).StillCounted := by
      rw [here]
      trivial
    have one := tally'.pos still
    refine ⟨⟨late, early - 1, ?_, ?_, ?_⟩, ?_⟩
    · exact tally.stay (by rw [here]; exact Iff.rfl)
    · exact tally'.leave still id
    · simp only [toPoint]
      omega
    · show 0 ≤ queue.size - 1
      omega

/-- The owner counts itself down. -/
theorem Consistent.countDown (consistent : queue.Consistent order left) {node : Nat} {owner : QueueEnd}
    (here : queue.point thread = .fetchSubRef node owner) :
    ((queue.setNode node { queue.nodes node with refCount := (queue.nodes node).refCount - 1 }).toPoint
      thread (.loadRef node owner)).Consistent order
      (Function.update left owner (Function.update (left owner) node true)) := by
  obtain ⟨claims, accesses, -⟩ := consistent.fits thread
  rw [here] at claims accesses
  obtain ⟨-, k, -, found⟩ := claims _ rfl
  have own : (queue.point thread).claim = some (.owner owner node) := by
    rw [here]
    rfl
  constructor
  · exact (consistent.stored.countDown (claims _ rfl)).frame rfl rfl rfl (fun _ => rfl) rfl rfl rfl
  · refine fits_update rfl ⟨?_, accesses, ?_⟩ (consistent.others (fun _ => Nat.le_refl _) ?_ ?_
      (fun other _ _ => (consistent.fits other).access _) rfl ?_)
    · intro claim held
      cases held
    · show Function.update left owner (Function.update (left owner) node true) owner node = true
      simp
    · intro other owner' node' differs held
      rw [leaves_update, if_neg]
      rintro ⟨rfl, rfl⟩
      exact differs (consistent.apart other thread _ held own)
    · intro other node' gone
      rw [leaves_update, gone]
      exact ite_self _
    · intro other absent
      have differs : other ≠ node := by
        rintro rfl
        exact absent (List.mem_of_getElem? found)
      exact Function.update_of_ne differs _ _
  · apply consistent.apart.update
    intro claim held
    cases held
  · exact consistent.handed.stay here rfl rfl rfl rfl (List.prefix_refl _)
  · refine consistent.sized.stay here rfl ?_ Iff.rfl rfl rfl rfl
    cases owner <;> exact Iff.rfl

theorem Consistent.check (consistent : queue.Consistent order left) {node : Nat} {owner : QueueEnd}
    (here : queue.point thread = .loadRef node owner) :
    (queue.toPoint thread (if (queue.nodes node).refCount = 0 then .delete node owner else released owner)).Consistent
      order left := by
  have own := (consistent.fits thread).place
  rw [here] at own
  split
  · rename_i none
    refine consistent.move here nofun ?_ (consistent.stored.gone own none) rfl ?_ Iff.rfl
    · intro other held
      obtain rfl := Option.some.inj held
      exact consistent.undeleted here rfl
    · cases owner <;> exact Iff.rfl
  · cases owner with
    | tail => exact consistent.move here nofun nofun trivial rfl Iff.rfl Iff.rfl
    | head => exact consistent.move here nofun nofun trivial rfl Iff.rfl Iff.rfl

theorem Consistent.delete (consistent : queue.Consistent order left) {node : Nat} {owner : QueueEnd}
    (here : queue.point thread = .delete node owner)
    (unused : ∀ other, other ≠ thread → (queue.point other).access ≠ some node) :
    ({ queue.toPoint thread (released owner) with deletions := node :: queue.deletions } :
      UnboundedQueue Thread Element).Consistent order left := by
  obtain ⟨-, accesses, gone⟩ := consistent.fits thread
  rw [here] at accesses gone
  constructor
  · obtain ⟨length, nodup, atEnd, contents, links, refs, kept, listed, allocated, deleted, once, accessed⟩ :=
      consistent.stored
    refine ⟨length, nodup, atEnd, contents, links, refs, kept, listed, allocated, ?_, ?_, accessed⟩
    · exact List.forall_mem_cons.mpr ⟨gone, deleted⟩
    · exact List.nodup_cons.mpr ⟨accesses node rfl, once⟩
  · refine fits_update rfl ?_ (consistent.others (fun _ => Nat.le_refl _) (fun _ _ _ _ _ => rfl) (fun _ _ => id) ?_ rfl
      (fun _ _ => rfl))
    · cases owner <;> exact ⟨nofun, nofun, trivial⟩
    · intro other node' differs held
      rw [List.mem_cons]
      rintro (rfl | member)
      · exact unused other differs held
      · exact consistent.undeleted rfl held member
  · apply consistent.apart.update
    intro claim held
    cases owner <;> cases held
  · refine consistent.handed.stay here rfl ?_ rfl rfl (List.prefix_refl _)
    cases owner <;> rfl
  · refine consistent.sized.stay here rfl ?_ ?_ rfl rfl rfl
    · cases owner <;> exact Iff.rfl
    · cases owner <;> exact Iff.rfl

theorem Consistent.add (consistent : queue.Consistent order left) (here : queue.point thread = .fetchAddSize) :
    ({ queue.toPoint thread .idle with size := queue.size + 1 } :
      UnboundedQueue Thread Element).Consistent order left := by
  constructor
  · exact consistent.stored.frame rfl rfl rfl (fun _ => rfl) rfl rfl rfl
  · refine fits_update rfl ⟨?_, ?_, trivial⟩ (consistent.others (fun _ => Nat.le_refl _) (fun _ _ _ _ _ => rfl)
      (fun _ _ => id) (fun other _ _ => (consistent.fits other).access _) rfl (fun _ _ => rfl))
    · intro claim held
      cases held
    · intro node held
      cases held
  · apply consistent.apart.update
    intro claim held
    cases held
  · exact consistent.handed.stay here rfl rfl rfl rfl (List.prefix_refl _)
  · obtain ⟨⟨late, early, tally, tally', balance⟩, positive⟩ := consistent.sized
    have still : (queue.point thread).Uncounted := by
      rw [here]
      trivial
    have one := tally.pos still
    refine ⟨⟨late - 1, early, ?_, ?_, ?_⟩, ?_⟩
    · exact tally.leave still id
    · exact tally'.stay (by rw [here]; exact Iff.rfl)
    · simp only [toPoint]
      omega
    · show 0 ≤ queue.size + 1
      omega

theorem Consistent.access (consistent : queue.Consistent order left)
    (undisturbed : queue.UndisturbedAt thread (queue.point thread))
    (taken : queue.accessStep thread = some next) : ∃ order left, next.Consistent order left := by
  have placed := (consistent.fits thread).place
  have loadsHead : ∀ node, (UnboundedPoint.readNext queue.head).access = some node → node ∉ queue.deletions := by
    intro node held
    obtain rfl := Option.some.inj held
    exact consistent.stored.head_undeleted
  unfold accessStep at taken
  cases here : queue.point thread with
  | idle =>
    rw [here] at taken
    cases taken
  | loadTail node =>
    rw [here] at taken
    obtain rfl := Option.some.inj taken
    exact ⟨order, left, consistent.move here (fun _ held => held) nofun trivial rfl Iff.rfl Iff.rfl⟩
  | exchangeTail node oldTail =>
    rw [here] at taken
    dsimp only at taken
    split at taken
    · obtain rfl := Option.some.inj taken
      exact ⟨order ++ [node], left, consistent.appendNode here⟩
    · obtain rfl := Option.some.inj taken
      exact ⟨order, left, consistent.move here (fun _ held => held) nofun trivial rfl Iff.rfl Iff.rfl⟩
  | storeNext node oldTail =>
    rw [here] at taken
    dsimp only at taken
    rw [touch_of_undeleted (consistent.undeleted here rfl)] at taken
    obtain rfl := Option.some.inj taken
    exact ⟨order, left, consistent.link here⟩
  | loadHead =>
    rw [here] at taken
    obtain rfl := Option.some.inj taken
    exact ⟨order, left, consistent.move here nofun loadsHead consistent.stored.head_mem rfl Iff.rfl Iff.rfl⟩
  | readNext oldHead =>
    rw [here] at taken placed
    dsimp only at taken
    rw [touch_of_undeleted (consistent.undeleted here rfl)] at taken
    obtain rfl := Option.some.inj taken
    cases linked : (queue.nodes oldHead).next with
    | none => exact ⟨order, left, consistent.move here nofun nofun trivial rfl Iff.rfl Iff.rfl⟩
    | some headNext =>
      obtain ⟨k, found⟩ := List.mem_iff_getElem?.mp placed
      have follows := consistent.stored.links k _ _ found linked
      exact ⟨order, left, consistent.move here nofun nofun ⟨k, found, follows⟩ rfl Iff.rfl Iff.rfl⟩
  | exchangeHead oldHead headNext =>
    rw [here] at taken undisturbed
    dsimp only at taken
    split at taken
    · rename_i exchanged
      obtain rfl := Option.some.inj taken
      obtain rfl := undisturbed exchanged
      exact ⟨order, left, consistent.takeHead here⟩
    · obtain rfl := Option.some.inj taken
      exact ⟨order, left, consistent.move here nofun loadsHead consistent.stored.head_mem rfl Iff.rfl Iff.rfl⟩
  | readData oldHead headNext ticket =>
    rw [here] at taken
    dsimp only at taken
    rw [touch_of_undeleted (consistent.undeleted here rfl)] at taken
    obtain rfl := Option.some.inj taken
    exact ⟨order, left, consistent.readData here⟩
  | fetchSubSize oldHead =>
    rw [here] at taken undisturbed
    obtain rfl := Option.some.inj taken
    exact ⟨order, left, consistent.subtract here undisturbed⟩
  | fetchSubRef node owner =>
    rw [here] at taken
    dsimp only at taken
    rw [touch_of_undeleted (consistent.undeleted here rfl)] at taken
    obtain rfl := Option.some.inj taken
    exact ⟨order, _, consistent.countDown here⟩
  | loadRef node owner =>
    have undeleted := consistent.undeleted here rfl
    rw [here] at taken placed
    dsimp only at taken
    rw [touch_of_undeleted undeleted] at taken
    obtain rfl := Option.some.inj taken
    exact ⟨order, left, consistent.check here⟩
  | delete node owner =>
    rw [here] at taken undisturbed
    obtain rfl := Option.some.inj taken
    exact ⟨order, left, consistent.delete here undisturbed⟩
  | fetchAddSize =>
    rw [here] at taken
    obtain rfl := Option.some.inj taken
    exact ⟨order, left, consistent.add here⟩

theorem Consistent.step {event : UnboundedEvent Thread Element} (consistent : queue.Consistent order left)
    (undisturbed : queue.Undisturbed event) (taken : queue.step event = some next) :
    ∃ order left, next.Consistent order left := by
  cases event with
  | enqueue thread element address =>
    simp only [UnboundedQueue.step] at taken
    split at taken
    · rename_i free
      obtain rfl := Option.some.inj taken
      exact ⟨order, left, consistent.enqueue free.1 element address⟩
    · cases taken
  | dequeue thread =>
    simp only [UnboundedQueue.step] at taken
    split at taken
    · rename_i idle
      obtain rfl := Option.some.inj taken
      exact ⟨order, left, consistent.move idle nofun nofun trivial rfl Iff.rfl Iff.rfl⟩
    · cases taken
  | access thread => exact consistent.access undisturbed taken

theorem undisturbed_sound (blank : Element) (address : Nat) (events : List (UnboundedEvent Thread Element))
    (undisturbed : Meets UnboundedQueue.step Undisturbed (init blank address) events)
    {final : UnboundedQueue Thread Element}
    (ran : run UnboundedQueue.step (init blank address) events = some final) : final.Sound := by
  have reached : ∃ order left, final.Consistent order left := by
    apply undisturbed.preserves (fun queue => ∃ order left, queue.Consistent order left) _ _ ran
    · exact fun state event next quiet taken ⟨_, _, consistent⟩ => consistent.step quiet taken
    · exact ⟨_, _, consistent_init blank address⟩
  obtain ⟨order, left, consistent⟩ := reached
  exact consistent.sound

end Moves

/-- Two enqueues, and a dequeue that takes the first element before that enqueue has released its node. -/
def crossed : List (UnboundedEvent Bool Nat) :=
  .enqueue true 5 1 :: List.replicate 3 (.access true) ++ .dequeue false :: List.replicate 4 (.access false) ++
    List.replicate 3 (.access true) ++ .enqueue true 6 2 :: List.replicate 6 (.access true) ++
    List.replicate 4 (.access false)

theorem crossed_sound : ∃ final, run UnboundedQueue.step (init 0 0) crossed = some final ∧
    final.enqueued = [5, 6] ∧ final.dequeued = [(0, 5)] ∧ final.deletions = [0] ∧ final.Sound := by
  have reached : (run UnboundedQueue.step (init 0 0) crossed).any (fun final =>
      decide (final.enqueued = [5, 6] ∧ final.dequeued = [(0, 5)] ∧ final.deletions = [0])) = true := by
    decide +kernel
  obtain ⟨final, ran, holds⟩ := (Option.any_eq_true _ _).mp reached
  obtain ⟨enqueued, dequeued, deletions⟩ := of_decide_eq_true holds
  have undisturbed : Meets UnboundedQueue.step Undisturbed (init 0 0) crossed := by
    decide +kernel
  exact ⟨final, ran, enqueued, dequeued, deletions, undisturbed_sound 0 0 crossed undisturbed ran⟩

/-- The dequeue subtracts before the enqueue adds, and both owners find that nobody counts the node any more. -/
def ownersTogether : List (UnboundedEvent Bool Nat) :=
  .enqueue true 5 1 :: List.replicate 3 (.access true) ++ .dequeue false :: List.replicate 6 (.access false) ++
    List.replicate 3 (.access true) ++ List.replicate 2 (.access false)

theorem ownersTogether_not_sound : ∃ final, run UnboundedQueue.step (init 0 0) ownersTogether = some final ∧
    final.deletions = [0, 0] ∧ final.stale = [0] ∧ final.size = -1 ∧ ¬final.Sound := by
  have reached : (run UnboundedQueue.step (init 0 0) ownersTogether).any (fun final =>
      decide (final.deletions = [0, 0] ∧ final.stale = [0] ∧ final.size = -1)) = true := by
    decide +kernel
  obtain ⟨final, ran, holds⟩ := (Option.any_eq_true _ _).mp reached
  obtain ⟨twice, after, below⟩ := of_decide_eq_true holds
  refine ⟨final, ran, twice, after, below, ?_⟩
  intro sound
  have once := sound.deletedOnce
  rw [twice] at once
  simp at once

end UnboundedQueue

end CyberRT.Base

import Mathlib.Logic.Function.Basic
import CyberRT.Execution.Run

namespace CyberRT.Base

/-- What a thread does next in `Enqueue`. It is writing the slot from the exchange of `tail_` to that of `commit_`. -/
inductive ProducerPoint (Element : Type) where
  | idle
  | loadTail (element : Element)
  | checkHead (element : Element) (oldTail : Nat)
  | exchangeTail (element : Element) (oldTail : Nat)
  | write (element : Element) (oldTail : Nat)
  | exchangeCommit (oldTail : Nat)
  deriving DecidableEq, Repr

/-- What a thread does next in `Dequeue`. -/
inductive ConsumerPoint (Element : Type) where
  | idle
  | loadHead
  | checkCommit (oldHead : Nat)
  | copy (oldHead : Nat)
  | exchangeHead (oldHead : Nat) (element : Element)
  deriving DecidableEq, Repr

/-- `enqueued` and `dequeued` have the elements in the order of the exchanges of `tail_` and `head_`. -/
structure BoundedQueue (Producer Consumer Element : Type) where
  poolSize : Nat
  head : Nat := 0
  tail : Nat := 1
  commit : Nat := 1
  pool : Nat → Element
  producer : Producer → ProducerPoint Element := fun _ => .idle
  consumer : Consumer → ConsumerPoint Element := fun _ => .idle
  enqueued : List Element := []
  dequeued : List Element := []

/-- `producer` and `consumer` are the next access of that thread. `spurious` is a failure of `compare_exchange_weak` for
    no reason. -/
inductive QueueEvent (Producer Consumer Element : Type) where
  | enqueue (producer : Producer) (element : Element)
  | producer (producer : Producer) (spurious : Bool)
  | dequeue (consumer : Consumer)
  | consumer (consumer : Consumer) (spurious : Bool)

namespace BoundedQueue

variable {Producer Consumer Element : Type} [DecidableEq Producer] [DecidableEq Consumer]

/-- The state after `Init(size)`, which takes two slots more than elements. -/
def init (size : Nat) (pool : Nat → Element) : BoundedQueue Producer Consumer Element where
  poolSize := size + 2
  pool := pool

variable (queue : BoundedQueue Producer Consumer Element)

def getIndex (num : Nat) : Nat := num - num / queue.poolSize * queue.poolSize

def toProducer (producer : Producer) (point : ProducerPoint Element) : BoundedQueue Producer Consumer Element :=
  { queue with producer := Function.update queue.producer producer point }

def toConsumer (consumer : Consumer) (point : ConsumerPoint Element) : BoundedQueue Producer Consumer Element :=
  { queue with consumer := Function.update queue.consumer consumer point }

def producerStep (producer : Producer) (spurious : Bool) : Option (BoundedQueue Producer Consumer Element) :=
  match queue.producer producer with
  | .idle => none
  | .loadTail element => some (queue.toProducer producer (.checkHead element queue.tail))
  | .checkHead element oldTail =>
    some (queue.toProducer producer
      (if queue.getIndex (oldTail + 1) = queue.getIndex queue.head then .idle else .exchangeTail element oldTail))
  | .exchangeTail element oldTail =>
    if queue.tail = oldTail ∧ spurious = false then
      some { queue.toProducer producer (.write element oldTail) with
        tail := oldTail + 1, enqueued := queue.enqueued ++ [element] }
    else some (queue.toProducer producer (.checkHead element queue.tail))
  | .write element oldTail =>
    some { queue.toProducer producer (.exchangeCommit oldTail) with
      pool := Function.update queue.pool (queue.getIndex oldTail) element }
  | .exchangeCommit oldTail =>
    if queue.commit = oldTail ∧ spurious = false then
      some { queue.toProducer producer .idle with commit := oldTail + 1 }
    else some queue

def consumerStep (consumer : Consumer) (spurious : Bool) : Option (BoundedQueue Producer Consumer Element) :=
  match queue.consumer consumer with
  | .idle => none
  | .loadHead => some (queue.toConsumer consumer (.checkCommit queue.head))
  | .checkCommit oldHead =>
    some (queue.toConsumer consumer (if oldHead + 1 = queue.commit then .idle else .copy oldHead))
  | .copy oldHead =>
    some (queue.toConsumer consumer (.exchangeHead oldHead (queue.pool (queue.getIndex (oldHead + 1)))))
  | .exchangeHead oldHead element =>
    if queue.head = oldHead ∧ spurious = false then
      some { queue.toConsumer consumer .idle with head := oldHead + 1, dequeued := queue.dequeued ++ [element] }
    else some (queue.toConsumer consumer (.checkCommit queue.head))

def step (queue : BoundedQueue Producer Consumer Element) :
    QueueEvent Producer Consumer Element → Option (BoundedQueue Producer Consumer Element)
  | .enqueue producer element =>
    match queue.producer producer with
    | .idle => some (queue.toProducer producer (.loadTail element))
    | _ => none
  | .producer producer spurious => queue.producerStep producer spurious
  | .dequeue consumer =>
    match queue.consumer consumer with
    | .idle => some (queue.toConsumer consumer .loadHead)
    | _ => none
  | .consumer consumer spurious => queue.consumerStep consumer spurious

end BoundedQueue

end CyberRT.Base

import CyberRT.Base.BoundedQueue
import CyberRT.Execution.Tally

namespace CyberRT.Base

open Execution

/-- The slot that the producer has won and not yet committed. -/
def ProducerPoint.ticket {Element : Type} : ProducerPoint Element → Option Nat
  | .write _ oldTail | .exchangeCommit oldTail => some oldTail
  | _ => none

/-- The consumer reads the slot behind this head, or has read it. -/
def ConsumerPoint.reading {Element : Type} : ConsumerPoint Element → Option Nat
  | .copy oldHead | .exchangeHead oldHead _ => some oldHead
  | _ => none

namespace BoundedQueue

variable {Producer Consumer Element : Type} {queue next : BoundedQueue Producer Consumer Element}

theorem getIndex_eq_mod (queue : BoundedQueue Producer Consumer Element) (num : Nat) :
    queue.getIndex num = num % queue.poolSize := by
  rw [getIndex, Nat.mod_eq_sub_div_mul]

theorem getIndex_ne {first second : Nat} (before : first < second) (within : second < first + queue.poolSize) :
    queue.getIndex first ≠ queue.getIndex second := by
  intro same
  rw [getIndex_eq_mod, getIndex_eq_mod] at same
  have divides : queue.poolSize ∣ second - first :=
    Nat.dvd_of_mod_eq_zero (Nat.sub_mod_eq_zero_of_mod_eq same.symm)
  have far := Nat.le_of_dvd (by omega) divides
  omega

theorem getIndex_add (num : Nat) : queue.getIndex (num + queue.poolSize) = queue.getIndex num := by
  rw [getIndex_eq_mod, getIndex_eq_mod, Nat.add_mod_right]

/-- What a producer has loaded or won. A loaded tail is of use only while it is current. -/
def ProducerFits (queue : BoundedQueue Producer Consumer Element) : ProducerPoint Element → Prop
  | .idle | .loadTail _ => True
  | .checkHead _ oldTail => oldTail ≤ queue.tail
  | .exchangeTail _ oldTail =>
    oldTail ≤ queue.tail ∧ (oldTail = queue.tail → oldTail + 1 < queue.head + queue.poolSize)
  | .write element oldTail =>
    queue.commit ≤ oldTail ∧ oldTail < queue.tail ∧ queue.enqueued[oldTail - 1]? = some element
  | .exchangeCommit oldTail => queue.commit ≤ oldTail ∧ oldTail < queue.tail

def ConsumerFits (queue : BoundedQueue Producer Consumer Element) : ConsumerPoint Element → Prop
  | .idle | .loadHead => True
  | .checkCommit oldHead => oldHead ≤ queue.head
  | .copy oldHead => oldHead ≤ queue.head ∧ (oldHead = queue.head → oldHead + 1 < queue.commit)
  | .exchangeHead oldHead element => oldHead ≤ queue.head ∧
      (oldHead = queue.head → oldHead + 1 < queue.commit ∧ queue.enqueued[oldHead]? = some element)

/-- A producer has won this slot and has not written it yet. -/
def Pending (producer : Producer → ProducerPoint Element) (num : Nat) : Prop :=
  ∃ holder element, producer holder = .write element num

/-- No two producers have the same ticket. -/
def Apart (producer : Producer → ProducerPoint Element) : Prop :=
  ∀ first second oldTail, (producer first).ticket = some oldTail → (producer second).ticket = some oldTail →
    first = second

structure Ordered (queue : BoundedQueue Producer Consumer Element) : Prop where
  nonempty : queue.head < queue.commit
  committed : queue.commit ≤ queue.tail
  room : queue.tail < queue.head + queue.poolSize
  length : queue.enqueued.length + 1 = queue.tail
  taken : queue.dequeued = queue.enqueued.take queue.head
  producers : ∀ producer, queue.ProducerFits (queue.producer producer)
  consumers : ∀ consumer, queue.ConsumerFits (queue.consumer consumer)
  apart : Apart queue.producer
  stored : ∀ num, queue.head < num → num < queue.tail →
    queue.enqueued[num - 1]? = some (queue.pool (queue.getIndex num)) ∨ Pending queue.producer num

theorem Ordered.ticket (ordered : queue.Ordered) {producer : Producer} {oldTail : Nat}
    (won : (queue.producer producer).ticket = some oldTail) : queue.commit ≤ oldTail ∧ oldTail < queue.tail := by
  have fits := ordered.producers producer
  cases here : queue.producer producer with
  | write element num =>
    rw [here] at won fits
    obtain rfl := Option.some.inj won
    exact ⟨fits.1, fits.2.1⟩
  | exchangeCommit num =>
    rw [here] at won fits
    obtain rfl := Option.some.inj won
    exact fits
  | idle | loadTail element | checkHead element num | exchangeTail element num =>
    rw [here] at won
    cases won

theorem Ordered.reading (ordered : queue.Ordered) {consumer : Consumer} {oldHead : Nat}
    (reads : (queue.consumer consumer).reading = some oldHead) :
    oldHead ≤ queue.head ∧ (oldHead = queue.head → oldHead + 1 < queue.commit) := by
  have fits := ordered.consumers consumer
  cases here : queue.consumer consumer with
  | copy num =>
    rw [here] at reads fits
    obtain rfl := Option.some.inj reads
    exact fits
  | exchangeHead num element =>
    rw [here] at reads fits
    obtain rfl := Option.some.inj reads
    exact ⟨fits.1, fun current => (fits.2 current).1⟩
  | idle | loadHead | checkCommit num =>
    rw [here] at reads
    cases reads

theorem ordered_init (size : Nat) (pool : Nat → Element) :
    (init size pool : BoundedQueue Producer Consumer Element).Ordered := by
  constructor <;> simp [init, ProducerFits, ConsumerFits, Apart, ProducerPoint.ticket]
  omega

theorem Apart.update [DecidableEq Producer] {producers : Producer → ProducerPoint Element} (apart : Apart producers)
    {producer : Producer} {point : ProducerPoint Element}
    (fresh : ∀ other oldTail, other ≠ producer → point.ticket = some oldTail →
      (producers other).ticket ≠ some oldTail) : Apart (Function.update producers producer point) := by
  have others : Execution.Apart ProducerPoint.ticket producers := apart
  apply others.update
  intro oldTail won
  by_cases own : (producers producer).ticket = some oldTail
  · exact .inl own
  · right
    intro other
    by_cases same : other = producer
    · rw [same]
      exact own
    · exact fresh other oldTail same won

theorem Pending.update [DecidableEq Producer] {producers : Producer → ProducerPoint Element} {num : Nat}
    (pending : Pending producers num) {producer : Producer} {point : ProducerPoint Element}
    (elsewhere : ∀ element, producers producer ≠ .write element num) :
    Pending (Function.update producers producer point) num := by
  obtain ⟨holder, element, writes⟩ := pending
  refine ⟨holder, element, ?_⟩
  rw [Function.update_of_ne]
  · exact writes
  · rintro rfl
    exact elsewhere element writes

/-- A producer that has no ticket before nor after. -/
theorem Ordered.toProducer [DecidableEq Producer] (ordered : queue.Ordered) {producer : Producer}
    {point : ProducerPoint Element} (before : (queue.producer producer).ticket = none) (after : point.ticket = none)
    (fits : queue.ProducerFits point) : (queue.toProducer producer point).Ordered := by
  refine { ordered with producers := ?_, apart := ?_, stored := ?_ }
  · exact (Function.forall_update_iff _ fun _ point => queue.ProducerFits point).mpr
      ⟨fits, fun other _ => ordered.producers other⟩
  · refine ordered.apart.update ?_
    intro other oldTail _ won
    rw [after] at won
    cases won
  · intro num above below
    refine (ordered.stored num above below).imp_right fun pending => pending.update ?_
    intro element writes
    rw [writes] at before
    cases before

theorem Ordered.toConsumer [DecidableEq Consumer] (ordered : queue.Ordered) {consumer : Consumer}
    {point : ConsumerPoint Element} (fits : queue.ConsumerFits point) : (queue.toConsumer consumer point).Ordered := by
  refine { ordered with consumers := ?_ }
  exact (Function.forall_update_iff _ fun _ point => queue.ConsumerFits point).mpr
    ⟨fits, fun other _ => ordered.consumers other⟩

theorem Ordered.won [DecidableEq Producer] (ordered : queue.Ordered) {producer : Producer} {element : Element}
    (here : queue.producer producer = .exchangeTail element queue.tail) :
    Ordered { queue.toProducer producer (.write element queue.tail) with
      tail := queue.tail + 1, enqueued := queue.enqueued ++ [element] } := by
  have nonempty := ordered.nonempty
  have committed := ordered.committed
  have length := ordered.length
  have fits := ordered.producers producer
  rw [here] at fits
  have longer : ∀ (num : Nat) (found : Element), queue.enqueued[num]? = some found →
      (queue.enqueued ++ [element])[num]? = some found := by
    intro num found present
    rw [List.getElem?_append_left (List.getElem?_eq_some_iff.mp present).1]
    exact present
  constructor
  · exact nonempty
  · exact Nat.le_succ_of_le committed
  · exact fits.2 rfl
  · simp only [List.length_append, List.length_singleton, length]
  · dsimp only [BoundedQueue.toProducer]
    rw [ordered.taken, List.take_append_of_le_length (by omega)]
  · refine (Function.forall_update_iff _ fun _ point => ProducerFits _ point).mpr ⟨?_, ?_⟩
    · refine ⟨committed, Nat.lt_succ_self _, ?_⟩
      dsimp only
      rw [← length]
      simp
    · intro other _
      have before := ordered.producers other
      cases at_other : queue.producer other with
      | idle | loadTail found => trivial
      | checkHead found num =>
        rw [at_other] at before
        exact Nat.le_succ_of_le before
      | exchangeTail found num =>
        rw [at_other] at before
        have stale := before.1
        refine ⟨Nat.le_succ_of_le stale, ?_⟩
        dsimp only
        omega
      | write found num =>
        rw [at_other] at before
        exact ⟨before.1, Nat.lt_succ_of_lt before.2.1, longer _ _ before.2.2⟩
      | exchangeCommit num =>
        rw [at_other] at before
        exact ⟨before.1, Nat.lt_succ_of_lt before.2⟩
  · intro consumer
    have before := ordered.consumers consumer
    dsimp only [BoundedQueue.toProducer]
    cases at_consumer : queue.consumer consumer with
    | idle | loadHead => trivial
    | checkCommit num | copy num =>
      rw [at_consumer] at before
      exact before
    | exchangeHead num found =>
      rw [at_consumer] at before
      exact ⟨before.1, fun current => ⟨(before.2 current).1, longer _ _ (before.2 current).2⟩⟩
  · refine ordered.apart.update ?_
    intro other oldTail _ same won
    obtain rfl := Option.some.inj same
    exact Nat.lt_irrefl _ (ordered.ticket won).2
  · intro num above below
    dsimp only [BoundedQueue.toProducer] at below ⊢
    rcases Nat.lt_succ_iff_lt_or_eq.mp below with below | rfl
    · refine (ordered.stored num above below).imp (longer _ _) fun pending => pending.update ?_
      intro found writes
      rw [here] at writes
      cases writes
    · exact .inr ⟨producer, element, Function.update_self ..⟩

theorem Ordered.written [DecidableEq Producer] (ordered : queue.Ordered) {producer : Producer} {element : Element}
    {oldTail : Nat} (here : queue.producer producer = .write element oldTail) :
    Ordered { queue.toProducer producer (.exchangeCommit oldTail) with
      pool := Function.update queue.pool (queue.getIndex oldTail) element } := by
  have fits := ordered.producers producer
  rw [here] at fits
  obtain ⟨uncommitted, within, carried⟩ := fits
  have nonempty := ordered.nonempty
  have room := ordered.room
  refine { ordered with producers := ?_, apart := ?_, stored := ?_ }
  · exact (Function.forall_update_iff _ fun _ point => queue.ProducerFits point).mpr
      ⟨⟨uncommitted, within⟩, fun other _ => ordered.producers other⟩
  · refine ordered.apart.update ?_
    intro other num differs same won
    obtain rfl := Option.some.inj same
    exact differs (ordered.apart other producer _ won (by rw [here]; rfl))
  · intro num above below
    dsimp only [BoundedQueue.toProducer] at above below ⊢
    by_cases same : num = oldTail
    · subst same
      refine .inl (carried.trans (congrArg some ?_))
      exact (Function.update_self (queue.getIndex num) element queue.pool).symm
    · have elsewhere : queue.getIndex num ≠ queue.getIndex oldTail := by
        rcases Nat.lt_or_gt_of_ne same with before | after
        · exact getIndex_ne before (by omega)
        · exact (getIndex_ne after (by omega)).symm
      refine (ordered.stored num above below).imp (fun stored => stored.trans (congrArg some ?_))
        fun pending => pending.update ?_
      · exact (Function.update_of_ne elsewhere ..).symm
      · intro found writes
        rw [here] at writes
        exact same (ProducerPoint.write.inj writes).2.symm

theorem Ordered.handedOver [DecidableEq Producer] (ordered : queue.Ordered) {producer : Producer}
    (here : queue.producer producer = .exchangeCommit queue.commit) :
    Ordered { queue.toProducer producer .idle with commit := queue.commit + 1 } := by
  have won : (queue.producer producer).ticket = some queue.commit := by
    rw [here]
    rfl
  have later : ∀ other num, other ≠ producer → (queue.producer other).ticket = some num → queue.commit + 1 ≤ num := by
    intro other num differs won'
    have uncommitted := (ordered.ticket won').1
    have other_ticket : num ≠ queue.commit := by
      rintro rfl
      exact differs (ordered.apart other producer _ won' won)
    omega
  refine { ordered with nonempty := ?_, committed := ?_, producers := ?_, consumers := ?_, apart := ?_, stored := ?_ }
  · exact Nat.lt_succ_of_lt ordered.nonempty
  · exact (ordered.ticket won).2
  · refine (Function.forall_update_iff _ fun _ point => ProducerFits _ point).mpr ⟨trivial, ?_⟩
    intro other differs
    have before := ordered.producers other
    have later := later other
    cases at_other : queue.producer other with
    | idle | loadTail found => trivial
    | checkHead found num | exchangeTail found num =>
      rw [at_other] at before
      exact before
    | write found num =>
      rw [at_other] at before later
      exact ⟨later num differs rfl, before.2⟩
    | exchangeCommit num =>
      rw [at_other] at before later
      exact ⟨later num differs rfl, before.2⟩
  · intro consumer
    have before := ordered.consumers consumer
    dsimp only [BoundedQueue.toProducer]
    cases at_consumer : queue.consumer consumer with
    | idle | loadHead => trivial
    | checkCommit num =>
      rw [at_consumer] at before
      exact before
    | copy num =>
      rw [at_consumer] at before
      exact ⟨before.1, fun current => Nat.lt_succ_of_lt (before.2 current)⟩
    | exchangeHead num found =>
      rw [at_consumer] at before
      exact ⟨before.1, fun current => ⟨Nat.lt_succ_of_lt (before.2 current).1, (before.2 current).2⟩⟩
  · refine ordered.apart.update ?_
    intro other num _ won
    cases won
  · intro num above below
    refine (ordered.stored num above below).imp_right fun pending => pending.update ?_
    intro found writes
    rw [here] at writes
    cases writes

theorem Ordered.dequeued [DecidableEq Consumer] (ordered : queue.Ordered) {consumer : Consumer} {element : Element}
    (here : queue.consumer consumer = .exchangeHead queue.head element) :
    Ordered { queue.toConsumer consumer .idle with
      head := queue.head + 1, dequeued := queue.dequeued ++ [element] } := by
  have fits := ordered.consumers consumer
  rw [here] at fits
  obtain ⟨current, copied⟩ := fits.2 rfl
  have room := ordered.room
  refine { ordered with nonempty := current, room := ?_, taken := ?_, producers := ?_, consumers := ?_, stored := ?_ }
  · dsimp only [BoundedQueue.toConsumer]
    omega
  · dsimp only [BoundedQueue.toConsumer]
    rw [ordered.taken, List.take_add_one, copied]
    rfl
  · intro producer
    have before := ordered.producers producer
    dsimp only [BoundedQueue.toConsumer]
    cases at_producer : queue.producer producer with
    | idle | loadTail found => trivial
    | checkHead found num | write found num | exchangeCommit num =>
      rw [at_producer] at before
      exact before
    | exchangeTail found num =>
      rw [at_producer] at before
      refine ⟨before.1, fun same => ?_⟩
      have free := before.2 same
      dsimp only
      omega
  · refine (Function.forall_update_iff _ fun _ point => ConsumerFits _ point).mpr ⟨trivial, ?_⟩
    intro other _
    have before := ordered.consumers other
    cases at_other : queue.consumer other with
    | idle | loadHead => trivial
    | checkCommit num =>
      rw [at_other] at before
      exact Nat.le_succ_of_le before
    | copy num | exchangeHead num found =>
      rw [at_other] at before
      have stale := before.1
      refine ⟨Nat.le_succ_of_le stale, ?_⟩
      dsimp only
      omega
  · intro num above below
    exact ordered.stored num (Nat.lt_of_succ_lt above) below

theorem Ordered.producerStep [DecidableEq Producer] (ordered : queue.Ordered) {producer : Producer} {spurious : Bool}
    (taken : queue.producerStep producer spurious = some next) : next.Ordered := by
  have fits := ordered.producers producer
  rw [BoundedQueue.producerStep] at taken
  split at taken
  next => cases taken
  next element here =>
    obtain rfl := Option.some.inj taken
    exact ordered.toProducer (by rw [here]; rfl) rfl (Nat.le_refl queue.tail)
  next element oldTail here =>
    obtain rfl := Option.some.inj taken
    rw [here] at fits
    have room := ordered.room
    split
    next => exact ordered.toProducer (by rw [here]; rfl) rfl trivial
    next free =>
      refine ordered.toProducer (by rw [here]; rfl) rfl ⟨fits, fun current => ?_⟩
      have notFull : oldTail + 1 ≠ queue.head + queue.poolSize := by
        intro full
        rw [full, getIndex_add] at free
        exact free rfl
      omega
  next element oldTail here =>
    split at taken
    next succeeds =>
      obtain rfl := Option.some.inj taken
      obtain ⟨rfl, _⟩ := succeeds
      exact ordered.won here
    next =>
      obtain rfl := Option.some.inj taken
      exact ordered.toProducer (by rw [here]; rfl) rfl (Nat.le_refl queue.tail)
  next element oldTail here =>
    obtain rfl := Option.some.inj taken
    exact ordered.written here
  next oldTail here =>
    split at taken
    next succeeds =>
      obtain rfl := Option.some.inj taken
      obtain ⟨rfl, _⟩ := succeeds
      exact ordered.handedOver here
    next =>
      obtain rfl := Option.some.inj taken
      exact ordered

/-- The slot behind the head that a consumer has checked holds the next element. -/
theorem Ordered.copy (ordered : queue.Ordered) (committed : queue.head + 1 < queue.commit) :
    queue.enqueued[queue.head]? = some (queue.pool (queue.getIndex (queue.head + 1))) := by
  have before := ordered.committed
  rcases ordered.stored (queue.head + 1) (Nat.lt_succ_self _) (by omega) with stored | ⟨producer, element, writes⟩
  · exact stored
  · have won : (queue.producer producer).ticket = some (queue.head + 1) := by
      rw [writes]
      rfl
    have uncommitted := (ordered.ticket won).1
    omega

theorem Ordered.consumerStep [DecidableEq Consumer] (ordered : queue.Ordered) {consumer : Consumer} {spurious : Bool}
    (taken : queue.consumerStep consumer spurious = some next) : next.Ordered := by
  have fits := ordered.consumers consumer
  rw [BoundedQueue.consumerStep] at taken
  split at taken
  next => cases taken
  next here =>
    obtain rfl := Option.some.inj taken
    exact ordered.toConsumer (Nat.le_refl queue.head)
  next oldHead here =>
    obtain rfl := Option.some.inj taken
    rw [here] at fits
    have nonempty := ordered.nonempty
    split
    next => exact ordered.toConsumer trivial
    next more =>
      refine ordered.toConsumer ⟨fits, fun current => ?_⟩
      omega
  next oldHead here =>
    obtain rfl := Option.some.inj taken
    rw [here] at fits
    refine ordered.toConsumer ⟨fits.1, fun current => ⟨fits.2 current, ?_⟩⟩
    subst current
    exact ordered.copy (fits.2 rfl)
  next oldHead element here =>
    split at taken
    next succeeds =>
      obtain rfl := Option.some.inj taken
      obtain ⟨rfl, _⟩ := succeeds
      exact ordered.dequeued here
    next =>
      obtain rfl := Option.some.inj taken
      exact ordered.toConsumer (Nat.le_refl queue.head)

variable [DecidableEq Producer] [DecidableEq Consumer]

theorem Ordered.step {event : QueueEvent Producer Consumer Element} (taken : queue.step event = some next)
    (ordered : queue.Ordered) : next.Ordered := by
  cases event with
  | enqueue producer element =>
    rw [BoundedQueue.step] at taken
    split at taken
    next idle =>
      obtain rfl := Option.some.inj taken
      exact ordered.toProducer (by rw [idle]; rfl) rfl trivial
    next => cases taken
  | producer producer spurious => exact ordered.producerStep taken
  | dequeue consumer =>
    rw [BoundedQueue.step] at taken
    split at taken
    next idle =>
      obtain rfl := Option.some.inj taken
      exact ordered.toConsumer trivial
    next => cases taken
  | consumer consumer spurious => exact ordered.consumerStep taken

theorem head_step {event : QueueEvent Producer Consumer Element} (taken : queue.step event = some next) :
    queue.head ≤ next.head ∧ next.poolSize = queue.poolSize := by
  cases event with
  | enqueue producer element =>
    rw [BoundedQueue.step] at taken
    split at taken
    · obtain rfl := Option.some.inj taken
      exact ⟨Nat.le_refl _, rfl⟩
    · cases taken
  | producer producer spurious =>
    rw [BoundedQueue.step, BoundedQueue.producerStep] at taken
    split at taken
    · cases taken
    all_goals
      try split at taken
      all_goals
        obtain rfl := Option.some.inj taken
        exact ⟨Nat.le_refl _, rfl⟩
  | dequeue consumer =>
    rw [BoundedQueue.step] at taken
    split at taken
    · obtain rfl := Option.some.inj taken
      exact ⟨Nat.le_refl _, rfl⟩
    · cases taken
  | consumer consumer spurious =>
    rw [BoundedQueue.step, BoundedQueue.consumerStep] at taken
    split at taken
    · cases taken
    · obtain rfl := Option.some.inj taken
      exact ⟨Nat.le_refl _, rfl⟩
    · obtain rfl := Option.some.inj taken
      exact ⟨Nat.le_refl _, rfl⟩
    · obtain rfl := Option.some.inj taken
      exact ⟨Nat.le_refl _, rfl⟩
    · split at taken
      next succeeds =>
        obtain rfl := Option.some.inj taken
        exact ⟨succeeds.1 ▸ Nat.le_succ _, rfl⟩
      next =>
        obtain rfl := Option.some.inj taken
        exact ⟨Nat.le_refl _, rfl⟩

/-- The counters keep their distance, nobody overwrites the slot that a successful `Dequeue` reads, and the elements
    come out in the order of their tickets. `later` is up to the exchange of `head_` that succeeds. -/
theorem tickets_in_order {size : Nat} {pool : Nat → Element} {events later : List (QueueEvent Producer Consumer Element)}
    {after : BoundedQueue Producer Consumer Element} (ran : run step (init size pool) events = some queue)
    (ran' : run step queue later = some after) :
    1 ≤ queue.tail - queue.head ∧ queue.tail - queue.head ≤ queue.poolSize - 1 ∧
    queue.head ≤ queue.commit ∧ queue.commit ≤ queue.tail ∧
    (∀ consumer oldHead, (queue.consumer consumer).reading = some oldHead → after.head = oldHead →
      ∀ producer element oldTail, queue.producer producer = .write element oldTail →
        queue.getIndex oldTail ≠ queue.getIndex (oldHead + 1)) ∧
    queue.enqueued.length + 1 = queue.tail ∧ queue.dequeued.length = queue.head ∧
    queue.dequeued = queue.enqueued.take queue.head ∧ queue.enqueued.length - queue.dequeued.length ≤ size := by
  have ordered : queue.Ordered := Meets.preserves Ordered (fun _ _ _ _ taken ordered => ordered.step taken)
    (ordered_init size pool) (meets_true _ events) ran
  have poolSize : queue.poolSize = size + 2 := Meets.preserves (fun reached => reached.poolSize = size + 2)
    (fun _ _ _ _ taken same => (head_step taken).2.trans same) rfl (meets_true _ events) ran
  have grows : queue.head ≤ after.head := Meets.preserves (fun reached => queue.head ≤ reached.head)
    (fun _ _ _ _ taken before => Nat.le_trans before (head_step taken).1) (Nat.le_refl _) (meets_true _ later) ran'
  have nonempty := ordered.nonempty
  have committed := ordered.committed
  have room := ordered.room
  have length := ordered.length
  have taken : queue.dequeued.length = queue.head := by
    rw [ordered.taken, List.length_take]
    omega
  refine ⟨by omega, by omega, by omega, committed, ?_, length, taken, ordered.taken, by omega⟩
  intro consumer oldHead reading succeeds producer element oldTail writes
  obtain ⟨stale, checked⟩ := ordered.reading reading
  have won : (queue.producer producer).ticket = some oldTail := by
    rw [writes]
    rfl
  have within := ordered.ticket won
  have current := checked (by omega)
  exact (getIndex_ne (by omega) (by omega)).symm

/-- One producer and two consumers. Both copy the first element, and the first of them loses the exchange. -/
def contended : List (QueueEvent Unit Bool Nat) :=
  .enqueue () 5 :: List.replicate 5 (.producer () false) ++ .enqueue () 6 :: List.replicate 5 (.producer () false) ++
    [.dequeue true, .dequeue false] ++ List.replicate 3 (.consumer true false) ++
    List.replicate 4 (.consumer false false) ++ List.replicate 3 (.consumer true false)

theorem contended_in_order : ∃ queue after, run step (init 2 fun _ => 0) contended = some queue ∧
    run step queue [.consumer true true, .consumer true false, .consumer true false] = some after ∧
    queue.consumer true = .exchangeHead 1 6 ∧ after.head = 1 ∧ queue.dequeued = queue.enqueued.take 1 := by
  have reached : (run step (init 2 fun _ => 0) contended).any (fun queue =>
      decide (queue.head = 1 ∧ queue.consumer true = .exchangeHead 1 6) &&
      (run step queue [.consumer true true, .consumer true false, .consumer true false]).any fun after =>
        decide (after.head = 1)) = true := by
    decide +kernel
  obtain ⟨queue, ran, holds⟩ := (Option.any_eq_true _ _).mp reached
  obtain ⟨before, later⟩ := Bool.and_eq_true_iff.mp holds
  obtain ⟨head, copied⟩ := of_decide_eq_true before
  obtain ⟨after, ran', head'⟩ := (Option.any_eq_true _ _).mp later
  have ordered := (tickets_in_order ran ran').2.2.2.2.2.2.2.1
  exact ⟨queue, after, ran, ran', copied, of_decide_eq_true head', head ▸ ordered⟩

end BoundedQueue

end CyberRT.Base

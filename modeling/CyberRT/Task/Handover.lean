import Mathlib.Data.List.Infix
import Mathlib.Data.List.Nodup
import CyberRT.Task.Workers

namespace CyberRT.Task

open CyberRT.Base CyberRT.Croutine Execution

variable {Enqueuer Processor Job : Type} {numThreads : Nat}

/-- The element of an `Enqueue` that has not won a slot yet. -/
def carried {Element : Type} : ProducerPoint Element → Option Element
  | .loadTail element | .checkHead element _ | .exchangeTail element _ => some element
  | _ => none

theorem ticket_of_carried {Element : Type} {point : ProducerPoint Element} {element : Element}
    (carries : carried point = some element) : point.ticket = none := by
  cases point with
  | write _ _ | exchangeCommit _ => cases carries
  | idle | loadTail _ | checkHead _ _ | exchangeTail _ _ => rfl

/-- The thread is about to find the queue full. -/
def full {Consumer Element : Type} (queue : BoundedQueue Enqueuer Consumer Element) (enqueuer : Enqueuer) : Bool :=
  match queue.producer enqueuer with
  | .checkHead _ oldTail => queue.getIndex (oldTail + 1) = queue.getIndex queue.head
  | _ => false

/-- What a step of the queue's `Enqueue` does when the queue is not full. -/
theorem producerStep_cases {Consumer Element : Type} [DecidableEq Enqueuer]
    {queue next : BoundedQueue Enqueuer Consumer Element} {enqueuer : Enqueuer} {spurious : Bool}
    (taken : queue.producerStep enqueuer spurious = some next) (room : full queue enqueuer = false) :
    (∃ element, carried (queue.producer enqueuer) = some element ∧
      (carried (next.producer enqueuer) = some element ∧ next.enqueued = queue.enqueued ∨
        (next.producer enqueuer).ticket ≠ none ∧ next.enqueued = queue.enqueued ++ [element])) ∨
    (queue.producer enqueuer).ticket ≠ none ∧ next.enqueued = queue.enqueued ∧
      ((next.producer enqueuer).ticket ≠ none ∨ next.producer enqueuer = .idle) := by
  unfold BoundedQueue.producerStep at taken
  cases here : queue.producer enqueuer with
  | idle => simp [here] at taken
  | loadTail element =>
    simp only [here] at taken
    obtain rfl := Option.some.inj taken
    exact Or.inl ⟨element, rfl, Or.inl ⟨by simp [BoundedQueue.toProducer, carried], rfl⟩⟩
  | checkHead element oldTail =>
    simp only [here] at taken
    obtain rfl := Option.some.inj taken
    have open_ : queue.getIndex (oldTail + 1) ≠ queue.getIndex queue.head := by
      simpa [full, here] using room
    exact Or.inl ⟨element, rfl, Or.inl ⟨by simp [BoundedQueue.toProducer, carried, open_], rfl⟩⟩
  | exchangeTail element oldTail =>
    simp only [here] at taken
    refine Or.inl ⟨element, rfl, ?_⟩
    split at taken
    · obtain rfl := Option.some.inj taken
      exact Or.inr ⟨by simp [BoundedQueue.toProducer, ProducerPoint.ticket], rfl⟩
    · obtain rfl := Option.some.inj taken
      exact Or.inl ⟨by simp [BoundedQueue.toProducer, carried], rfl⟩
  | write element oldTail =>
    simp only [here] at taken
    obtain rfl := Option.some.inj taken
    exact Or.inr ⟨by simp [ProducerPoint.ticket], rfl, Or.inl (by simp [BoundedQueue.toProducer, ProducerPoint.ticket])⟩
  | exchangeCommit oldTail =>
    simp only [here] at taken
    split at taken
    · obtain rfl := Option.some.inj taken
      exact Or.inr ⟨by simp [ProducerPoint.ticket], rfl, Or.inr (by simp [BoundedQueue.toProducer])⟩
    · obtain rfl := Option.some.inj taken
      exact Or.inr ⟨by simp [ProducerPoint.ticket], rfl, Or.inl (by simp [here, ProducerPoint.ticket])⟩

/-- A step of the queue's `Enqueue` leaves the other threads and the head alone. -/
theorem producerStep_frame {Consumer Element : Type} [DecidableEq Enqueuer]
    {queue next : BoundedQueue Enqueuer Consumer Element} {enqueuer : Enqueuer} {spurious : Bool}
    (taken : queue.producerStep enqueuer spurious = some next) :
    next.dequeued = queue.dequeued ∧ next.head = queue.head ∧
      ∀ other, other ≠ enqueuer → next.producer other = queue.producer other := by
  have others : ∀ point other, other ≠ enqueuer →
      Function.update queue.producer enqueuer point other = queue.producer other :=
    fun point other differs => Function.update_of_ne differs _ _
  unfold BoundedQueue.producerStep at taken
  split at taken
  · cases taken
  · obtain rfl := Option.some.inj taken
    exact ⟨rfl, rfl, others _⟩
  · obtain rfl := Option.some.inj taken
    exact ⟨rfl, rfl, others _⟩
  · split at taken
    all_goals
      obtain rfl := Option.some.inj taken
      exact ⟨rfl, rfl, others _⟩
  · obtain rfl := Option.some.inj taken
    exact ⟨rfl, rfl, others _⟩
  · split at taken
    · obtain rfl := Option.some.inj taken
      exact ⟨rfl, rfl, others _⟩
    · obtain rfl := Option.some.inj taken
      exact ⟨rfl, rfl, fun _ _ => rfl⟩

namespace TaskManager

variable {manager next : TaskManager Enqueuer Processor Job numThreads}

def InQueue (manager : TaskManager Enqueuer Processor Job numThreads) (task : Closure Job) : Prop :=
  task ∈ manager.queue.enqueued.drop manager.queue.dequeued.length

def Running (manager : TaskManager Enqueuer Processor Job numThreads) (task : Closure Job) : Prop :=
  ∃ worker, manager.loop worker = .run task

/-- Where an `Enqueue` stands: before it has won a slot its task is nowhere else, afterwards it is one of the queue's. -/
def CallFits (manager : TaskManager Enqueuer Processor Job numThreads) (enqueuer : Enqueuer) :
    EnqueuePoint Job numThreads → Prop
  | .idle => manager.queue.producer enqueuer = .idle
  | .enqueue task => task.address < manager.made ∧
      (carried (manager.queue.producer enqueuer) = some task ∧
          task.address ∉ manager.queue.enqueued.map Closure.address ∨
        (manager.queue.producer enqueuer).ticket ≠ none ∧ task ∈ manager.queue.enqueued)
  | .readState task _ | .setUpdateFlag task _ _ =>
    manager.queue.producer enqueuer = .idle ∧ task ∈ manager.queue.enqueued

/-- Every task is accounted for. -/
structure Accounts (manager : TaskManager Enqueuer Processor Job numThreads) : Prop where
  ordered : manager.queue.Ordered
  made : ∀ task ∈ manager.queue.enqueued, task.address < manager.made
  unique : (manager.queue.enqueued.map Closure.address).Nodup
  calls : ∀ enqueuer, manager.CallFits enqueuer (manager.enqueuer enqueuer)
  apart : ∀ first second task task', manager.enqueuer first = .enqueue task → manager.enqueuer second = .enqueue task' →
    task.address = task'.address → first = second
  returned : ∀ task ∈ manager.returned, task ∈ manager.queue.enqueued
  taken : ∀ task, task ∈ manager.queue.dequeued ↔ task ∈ manager.executed ∨ manager.Running task
  once : manager.executed.Nodup
  alone : ∀ worker task, manager.loop worker = .run task →
    task ∉ manager.executed ∧ ∀ other, manager.loop other = .run task → other = worker

/-- Each task that was handed over is in the queue, with one worker or executed once, and nowhere else. -/
structure Conserved (manager : TaskManager Enqueuer Processor Job numThreads) : Prop where
  kept : ∀ task ∈ manager.returned, manager.InQueue task ∨ manager.Running task ∨ task ∈ manager.executed
  once : manager.executed.Nodup
  queued : ∀ task, manager.InQueue task → ¬manager.Running task ∧ task ∉ manager.executed
  running : ∀ worker task, manager.loop worker = .run task →
    task ∉ manager.executed ∧ ∀ other, manager.loop other = .run task → other = worker

theorem Accounts.nodup (accounts : manager.Accounts) : manager.queue.enqueued.Nodup :=
  List.Nodup.of_map _ accounts.unique

theorem Accounts.dequeued_append (accounts : manager.Accounts) :
    manager.queue.dequeued ++ manager.queue.enqueued.drop manager.queue.dequeued.length = manager.queue.enqueued := by
  have taken : manager.queue.dequeued <+: manager.queue.enqueued := by
    rw [accounts.ordered.taken]
    exact List.take_prefix _ _
  exact (List.prefix_append_drop taken).symm

theorem Accounts.inQueue_iff (accounts : manager.Accounts) (task : Closure Job) :
    manager.InQueue task ↔ task ∈ manager.queue.enqueued ∧ task ∉ manager.queue.dequeued := by
  have split := accounts.dequeued_append
  have nodup := accounts.nodup
  rw [← split] at nodup
  constructor
  · intro queued
    refine ⟨List.mem_of_mem_drop queued, ?_⟩
    exact fun earlier => List.disjoint_of_nodup_append nodup earlier queued
  · intro queued
    rw [← split, List.mem_append] at queued
    exact queued.1.resolve_left queued.2

theorem Accounts.conserved (accounts : manager.Accounts) : manager.Conserved := by
  constructor
  · intro task member
    have handed := accounts.returned task member
    by_cases taken : task ∈ manager.queue.dequeued
    · rcases (accounts.taken task).mp taken with done | running
      · exact Or.inr (Or.inr done)
      · exact Or.inr (Or.inl running)
    · exact Or.inl ((accounts.inQueue_iff task).mpr ⟨handed, taken⟩)
  · exact accounts.once
  · intro task queued
    have absent := ((accounts.inQueue_iff task).mp queued).2
    rw [accounts.taken, not_or] at absent
    exact ⟨absent.2, absent.1⟩
  · exact accounts.alone

theorem accounts_start (size : Nat) (pool : Nat → Closure Job) :
    (start size pool : TaskManager Enqueuer Processor Job numThreads).Accounts := by
  refine ⟨BoundedQueue.ordered_init size pool, ?_, ?_, fun _ => rfl, ?_, ?_, ?_, ?_, ?_⟩
  all_goals simp [start, BoundedQueue.init, Running]

/-- The other calls stand as they stood when a call has moved on, and won a slot perhaps. -/
theorem CallFits.grow {enqueuer : Enqueuer} {point : EnqueuePoint Job numThreads}
    (fits : manager.CallFits enqueuer point)
    (producer : next.queue.producer enqueuer = manager.queue.producer enqueuer) (made : manager.made ≤ next.made)
    {won : List (Closure Job)} (enqueued : next.queue.enqueued = manager.queue.enqueued ++ won)
    (apart : ∀ task, point = .enqueue task → ∀ other ∈ won, other.address ≠ task.address) :
    next.CallFits enqueuer point := by
  have more : ∀ task ∈ manager.queue.enqueued, task ∈ next.queue.enqueued := by
    intro task member
    rw [enqueued]
    exact List.mem_append_left won member
  cases point with
  | idle => exact producer.trans fits
  | readState task workers | setUpdateFlag task worker workers => exact ⟨producer.trans fits.1, more task fits.2⟩
  | enqueue task =>
    refine ⟨Nat.lt_of_lt_of_le fits.1 made, ?_⟩
    rw [producer]
    rcases fits.2 with ⟨carries, absent⟩ | ⟨holds, member⟩
    · refine Or.inl ⟨carries, ?_⟩
      rw [enqueued, List.map_append, List.mem_append, not_or]
      refine ⟨absent, fun later => ?_⟩
      obtain ⟨other, among, same⟩ := List.mem_map.mp later
      exact apart task rfl other among same
    · exact Or.inr ⟨holds, more task member⟩

variable [DecidableEq Enqueuer]

theorem Accounts.enqueue (accounts : manager.Accounts) {enqueuer : Enqueuer} {job : Job}
    (taken : manager.enqueue enqueuer job = some next) : next.Accounts := by
  unfold TaskManager.enqueue at taken
  split at taken
  · obtain ⟨queue, moved, rfl⟩ := Option.map_eq_some_iff.mp taken
    have ordered := accounts.ordered.step moved
    simp only [BoundedQueue.step] at moved
    split at moved
    · obtain rfl := Option.some.inj moved
      have fresh : manager.made ∉ manager.queue.enqueued.map Closure.address := by
        intro member
        obtain ⟨task, before, same⟩ := List.mem_map.mp member
        have below := accounts.made task before
        omega
      have below : ∀ other task, manager.enqueuer other = .enqueue task → task.address < manager.made := by
        intro other task here
        have fits := accounts.calls other
        rw [here] at fits
        exact fits.1
      constructor
      · exact ordered
      · exact fun task member => Nat.lt_succ_of_lt (accounts.made task member)
      · exact accounts.unique
      · intro other
        show CallFits _ other (Function.update manager.enqueuer enqueuer _ other)
        by_cases same : other = enqueuer
        · rw [same, Function.update_self]
          refine ⟨Nat.lt_succ_self _, Or.inl ⟨?_, fresh⟩⟩
          show carried (Function.update manager.queue.producer enqueuer _ enqueuer) = _
          rw [Function.update_self]
          rfl
        · rw [Function.update_of_ne same]
          apply (accounts.calls other).grow
          · exact Function.update_of_ne same _ _
          · exact Nat.le_succ _
          · exact (List.append_nil _).symm
          · simp
      · intro first second task task' here here' same
        have started : ∀ other task, Function.update manager.enqueuer enqueuer (.enqueue ⟨manager.made, job⟩) other =
            .enqueue task → other = enqueuer ∧ task.address = manager.made ∨ manager.enqueuer other = .enqueue task := by
          intro other task point
          by_cases here : other = enqueuer
          · rw [here, Function.update_self] at point
            cases point
            exact Or.inl ⟨here, rfl⟩
          · rw [Function.update_of_ne here] at point
            exact Or.inr point
        rcases started first task here with ⟨rfl, new⟩ | before
        · rcases started second task' here' with ⟨rfl, _⟩ | before'
          · rfl
          · have earlier := below second task' before'
            omega
        · rcases started second task' here' with ⟨rfl, new'⟩ | before'
          · have earlier := below first task before
            omega
          · exact accounts.apart first second task task' before before' same
      · exact accounts.returned
      · exact accounts.taken
      · exact accounts.once
      · exact accounts.alone
    · cases moved
  · cases taken

/-- A call that moves on without another place for its task. -/
theorem Accounts.toPoint (accounts : manager.Accounts) {enqueuer : Enqueuer} {point : EnqueuePoint Job numThreads}
    (enqueuers : next.enqueuer = Function.update manager.enqueuer enqueuer point)
    (fits : next.CallFits enqueuer point)
    (goes : ∀ task, point = .enqueue task → manager.enqueuer enqueuer = .enqueue task)
    (others : ∀ other, other ≠ enqueuer → next.CallFits other (manager.enqueuer other)) :
    (∀ enqueuer, next.CallFits enqueuer (next.enqueuer enqueuer)) ∧
      ∀ first second task task', next.enqueuer first = .enqueue task → next.enqueuer second = .enqueue task' →
        task.address = task'.address → first = second := by
  have before : ∀ other task, next.enqueuer other = .enqueue task → manager.enqueuer other = .enqueue task := by
    intro other task here
    rw [enqueuers] at here
    by_cases same : other = enqueuer
    · rw [same, Function.update_self] at here
      rw [same]
      exact goes task here
    · rwa [Function.update_of_ne same] at here
  constructor
  · rw [enqueuers]
    exact (Function.forall_update_iff _ next.CallFits).mpr ⟨fits, others⟩
  · intro first second task task' here here'
    exact accounts.apart first second task task' (before first task here) (before second task' here')

/-- A call has taken a step in the queue, and put its task there perhaps. -/
theorem Accounts.handed (accounts : manager.Accounts) {enqueuer : Enqueuer} {task : Closure Job}
    (here : manager.enqueuer enqueuer = .enqueue task) {point : EnqueuePoint Job numThreads}
    {queue : BoundedQueue Enqueuer (Fin numThreads) (Closure Job)} (ordered : queue.Ordered)
    (dequeued : queue.dequeued = manager.queue.dequeued)
    (others : ∀ other, other ≠ enqueuer → queue.producer other = manager.queue.producer other)
    {won : List (Closure Job)} (enqueued : queue.enqueued = manager.queue.enqueued ++ won)
    (own : ∀ other ∈ won, other = task) (unique : (queue.enqueued.map Closure.address).Nodup)
    (fits : ((manager.setQueue queue).toEnqueuer enqueuer point).CallFits enqueuer point)
    (goes : ∀ task', point = .enqueue task' → task' = task) :
    ((manager.setQueue queue).toEnqueuer enqueuer point).Accounts := by
  have called := accounts.calls enqueuer
  rw [here] at called
  have stands : ∀ task', point = .enqueue task' → manager.enqueuer enqueuer = .enqueue task' := by
    intro task' same
    rw [goes task' same]
    exact here
  have aside : ∀ other, other ≠ enqueuer →
      ((manager.setQueue queue).toEnqueuer enqueuer point).CallFits other (manager.enqueuer other) := by
    intro other differs
    refine (accounts.calls other).grow (others other differs) Nat.le.refl enqueued ?_
    intro task' same winner member address
    rw [own winner member] at address
    exact differs (accounts.apart other enqueuer task' task same here address.symm)
  obtain ⟨calls, apart⟩ := accounts.toPoint rfl fits stands aside
  constructor
  · exact ordered
  · intro other member
    have among : other ∈ queue.enqueued := member
    rw [enqueued, List.mem_append] at among
    rcases among with before | new
    · exact accounts.made other before
    · rw [own other new]
      exact called.1
  · exact unique
  · exact calls
  · exact apart
  · intro other member
    show other ∈ queue.enqueued
    rw [enqueued]
    exact List.mem_append_left won (accounts.returned other member)
  · intro other
    show other ∈ queue.dequeued ↔ _
    rw [dequeued]
    exact accounts.taken other
  · exact accounts.once
  · exact accounts.alone

/-- `Enqueue` takes a step in the queue, which is not full. -/
theorem Accounts.producerStep (accounts : manager.Accounts) {enqueuer : Enqueuer} {spurious : Bool} {task : Closure Job}
    (here : manager.enqueuer enqueuer = .enqueue task)
    {queue : BoundedQueue Enqueuer (Fin numThreads) (Closure Job)}
    (moved : manager.queue.producerStep enqueuer spurious = some queue) (room : full manager.queue enqueuer = false) :
    ((manager.setQueue queue).toEnqueuer enqueuer (.after task (queue.producer enqueuer))).Accounts := by
  have ordered := accounts.ordered.producerStep moved
  have fits := accounts.calls enqueuer
  rw [here] at fits
  obtain ⟨below, stands⟩ := fits
  obtain ⟨dequeued, -, others⟩ := producerStep_frame moved
  have stays : queue.producer enqueuer ≠ .idle →
      EnqueuePoint.after task (queue.producer enqueuer) = (.enqueue task : EnqueuePoint Job numThreads) := by
    intro busy
    unfold EnqueuePoint.after
    split
    · rename_i idle
      exact absurd idle busy
    · rfl
  have kept : (queue.enqueued = manager.queue.enqueued) → (queue.enqueued.map Closure.address).Nodup := by
    intro same
    rw [same]
    exact accounts.unique
  have same_task : ∀ task', EnqueuePoint.after task (queue.producer enqueuer) =
      (.enqueue task' : EnqueuePoint Job numThreads) → task' = task := by
    intro task' point
    unfold EnqueuePoint.after at point
    split at point
    · cases point
    · cases point
      rfl
  rcases producerStep_cases moved room with ⟨element, carries, moves⟩ | ⟨holds, same, moves⟩
  · have waiting : element = task ∧ task.address ∉ manager.queue.enqueued.map Closure.address := by
      rcases stands with ⟨carries', absent⟩ | ⟨holds, _⟩
      · exact ⟨Option.some.inj (carries.symm.trans carries'), absent⟩
      · exact absurd (ticket_of_carried carries) holds
    obtain ⟨rfl, absent⟩ := waiting
    rcases moves with ⟨carries', same⟩ | ⟨holds, wins⟩
    · have busy : queue.producer enqueuer ≠ .idle := by
        intro idle
        rw [idle] at carries'
        cases carries'
      refine accounts.handed here ordered dequeued others (by rw [same, List.append_nil]) (by simp) (kept same) ?_
        same_task
      rw [stays busy]
      refine ⟨below, Or.inl ⟨carries', ?_⟩⟩
      show element.address ∉ queue.enqueued.map Closure.address
      rw [same]
      exact absent
    · have busy : queue.producer enqueuer ≠ .idle := by
        intro idle
        rw [idle] at holds
        exact holds rfl
      refine accounts.handed here ordered dequeued others wins (by simp) ?_ ?_ same_task
      · rw [wins, List.map_append]
        refine List.Nodup.append accounts.unique (List.nodup_singleton _) ?_
        intro address before last
        rw [List.map_singleton, List.mem_singleton] at last
        rw [last] at before
        exact absent before
      · rw [stays busy]
        refine ⟨below, Or.inr ⟨holds, ?_⟩⟩
        show element ∈ queue.enqueued
        rw [wins]
        exact List.mem_append_right _ List.mem_cons_self
  · have member : task ∈ queue.enqueued := by
      rw [same]
      rcases stands with ⟨carries, _⟩ | ⟨_, member⟩
      · exact absurd (ticket_of_carried carries) holds
      · exact member
    refine accounts.handed here ordered dequeued others (by rw [same, List.append_nil]) (by simp) (kept same) ?_
      same_task
    rcases moves with holds' | idle
    · have busy : queue.producer enqueuer ≠ .idle := by
        intro idle
        rw [idle] at holds'
        exact holds' rfl
      rw [stays busy]
      exact ⟨below, Or.inr ⟨holds', member⟩⟩
    · rw [idle]
      exact ⟨idle, member⟩

/-- A step of a call after it has left the queue. -/
theorem Accounts.notify (accounts : manager.Accounts) {enqueuer : Enqueuer} {point : EnqueuePoint Job numThreads}
    (queue : next.queue = manager.queue) (loop : next.loop = manager.loop) (made : next.made = manager.made)
    (executed : next.executed = manager.executed)
    (enqueuers : next.enqueuer = Function.update manager.enqueuer enqueuer point)
    (fits : manager.CallFits enqueuer point) (past : ∀ task, point ≠ .enqueue task)
    (returned : ∀ task ∈ next.returned, task ∈ manager.queue.enqueued) : next.Accounts := by
  have same : ∀ other point, manager.CallFits other point → next.CallFits other point := by
    intro other point fits
    refine fits.grow (by rw [queue]) (by rw [made]) (by rw [queue, List.append_nil]) ?_
    simp
  obtain ⟨calls, apart⟩ := accounts.toPoint enqueuers (same _ _ fits) (fun task here => absurd here (past task))
    fun other _ => same other _ (accounts.calls other)
  have running : ∀ task, next.Running task ↔ manager.Running task := by
    intro task
    unfold Running
    rw [loop]
  constructor
  · rw [queue]
    exact accounts.ordered
  · rw [queue, made]
    exact accounts.made
  · rw [queue]
    exact accounts.unique
  · exact calls
  · exact apart
  · rw [queue]
    exact returned
  · intro task
    rw [queue, executed, running]
    exact accounts.taken task
  · rw [executed]
    exact accounts.once
  · rw [executed, loop]
    exact accounts.alone

theorem Accounts.enqueuerStep (accounts : manager.Accounts) {enqueuer : Enqueuer} {spurious : Bool}
    (taken : manager.enqueuerStep enqueuer spurious = some next) (room : full manager.queue enqueuer = false) :
    next.Accounts := by
  have fits := accounts.calls enqueuer
  unfold TaskManager.enqueuerStep at taken
  split at taken
  · cases taken
  · rename_i task here
    obtain ⟨queue, moved, rfl⟩ := Option.map_eq_some_iff.mp taken
    exact accounts.producerStep here moved room
  · rename_i task worker workers here
    obtain rfl := Option.some.inj taken
    rw [here] at fits
    refine accounts.notify rfl rfl rfl rfl rfl ?_ ?_ accounts.returned
    · split
      · exact fits
      · exact fits
    · intro task'
      split <;> simp
  · rename_i task worker workers here
    obtain rfl := Option.some.inj taken
    rw [here] at fits
    refine accounts.notify rfl rfl rfl rfl rfl ?_ ?_ accounts.returned
    · exact fits
    · simp
  · rename_i task here
    obtain rfl := Option.some.inj taken
    rw [here] at fits
    refine accounts.notify rfl rfl rfl rfl rfl ?_ ?_ ?_
    · exact fits.1
    · simp
    · intro other member
      rcases List.mem_append.mp member with earlier | last
      · exact accounts.returned other earlier
      · rw [List.mem_singleton.mp last]
        exact fits.2

omit [DecidableEq Enqueuer] in
/-- A step of a worker that neither takes a task nor ends one. -/
theorem Accounts.idle_worker (accounts : manager.Accounts) (ordered : next.queue.Ordered)
    (enqueued : next.queue.enqueued = manager.queue.enqueued) (producer : next.queue.producer = manager.queue.producer)
    (dequeued : next.queue.dequeued = manager.queue.dequeued) (enqueuers : next.enqueuer = manager.enqueuer)
    (made : next.made = manager.made) (returned : next.returned = manager.returned)
    (executed : next.executed = manager.executed)
    (running : ∀ worker task, next.loop worker = .run task ↔ manager.loop worker = .run task) : next.Accounts := by
  constructor
  · exact ordered
  · rw [enqueued, made]
    exact accounts.made
  · rw [enqueued]
    exact accounts.unique
  · intro enqueuer
    rw [enqueuers]
    refine (accounts.calls enqueuer).grow (by rw [producer]) (by rw [made]) (by rw [enqueued, List.append_nil]) ?_
    simp
  · rw [enqueuers]
    exact accounts.apart
  · rw [enqueued, returned]
    exact accounts.returned
  · intro task
    unfold Running
    simp only [dequeued, executed, running]
    exact accounts.taken task
  · rw [executed]
    exact accounts.once
  · intro worker task here
    simp only [executed, running]
    exact accounts.alone worker task ((running worker task).mp here)

omit [DecidableEq Enqueuer] in
/-- A worker takes a task that no other has taken. -/
theorem Accounts.takes (accounts : manager.Accounts) {worker : Fin numThreads} {task : Closure Job}
    {queue : BoundedQueue Enqueuer (Fin numThreads) (Closure Job)} (ordered : queue.Ordered)
    (enqueued : queue.enqueued = manager.queue.enqueued) (producer : queue.producer = manager.queue.producer)
    (dequeued : queue.dequeued = manager.queue.dequeued ++ [task]) (here : manager.loop worker = .dequeue) :
    ((manager.setQueue queue).toLoop worker (.run task)).Accounts := by
  have nodup : queue.dequeued.Nodup := by
    rw [ordered.taken, enqueued]
    exact accounts.nodup.sublist (List.take_sublist _ _)
  have fresh : task ∉ manager.queue.dequeued := by
    rw [dequeued] at nodup
    exact fun earlier => List.disjoint_of_nodup_append nodup earlier List.mem_cons_self
  rw [accounts.taken, not_or] at fresh
  have loops : ∀ other task', Function.update manager.loop worker (.run task) other = .run task' ↔
      other = worker ∧ task' = task ∨ manager.loop other = .run task' := by
    intro other task'
    by_cases same : other = worker
    · rw [same, Function.update_self, here]
      simp [eq_comm]
    · rw [Function.update_of_ne same]
      simp [same]
  constructor
  · exact ordered
  · show ∀ task ∈ queue.enqueued, _
    rw [enqueued]
    exact accounts.made
  · show (queue.enqueued.map _).Nodup
    rw [enqueued]
    exact accounts.unique
  · intro enqueuer
    refine (accounts.calls enqueuer).grow (congrFun producer enqueuer) Nat.le.refl
      (enqueued.trans (List.append_nil _).symm) ?_
    simp
  · exact accounts.apart
  · show ∀ task ∈ manager.returned, task ∈ queue.enqueued
    rw [enqueued]
    exact accounts.returned
  · intro other
    show other ∈ queue.dequeued ↔ other ∈ manager.executed ∨ ∃ place, Function.update manager.loop worker _ place = _
    simp only [dequeued, List.mem_append, List.mem_singleton, accounts.taken other, loops]
    constructor
    · intro cases
      rcases cases with (done | ⟨place, running⟩) | rfl
      · exact Or.inl done
      · exact Or.inr ⟨place, Or.inr running⟩
      · exact Or.inr ⟨worker, Or.inl ⟨rfl, rfl⟩⟩
    · intro cases
      rcases cases with done | ⟨place, ⟨_, rfl⟩ | running⟩
      · exact Or.inl (Or.inl done)
      · exact Or.inr rfl
      · exact Or.inl (Or.inr ⟨place, running⟩)
  · exact accounts.once
  · intro place other runs
    have runs' : Function.update manager.loop worker (.run task) place = .run other := runs
    show other ∉ manager.executed ∧ ∀ place', Function.update manager.loop worker _ place' = .run other → place' = place
    simp only [loops] at runs' ⊢
    rcases runs' with ⟨rfl, rfl⟩ | before
    · refine ⟨fresh.1, ?_⟩
      intro place' cases
      rcases cases with ⟨same, _⟩ | running
      · exact same
      · exact absurd ⟨place', running⟩ fresh.2
    · refine ⟨(accounts.alone place other before).1, ?_⟩
      intro place' cases
      rcases cases with ⟨_, rfl⟩ | running
      · exact absurd ⟨place, before⟩ fresh.2
      · exact (accounts.alone place other before).2 place' running

omit [DecidableEq Enqueuer] in
/-- A worker has executed its task. -/
theorem Accounts.ran (accounts : manager.Accounts) {worker : Fin numThreads} {task : Closure Job}
    (here : manager.loop worker = .run task) :
    Accounts { manager.toLoop worker .dequeue with executed := manager.executed ++ [task] } := by
  obtain ⟨fresh, only⟩ := accounts.alone worker task here
  have loops : ∀ other task', Function.update manager.loop worker .dequeue other = .run task' ↔
      other ≠ worker ∧ manager.loop other = .run task' := by
    intro other task'
    by_cases same : other = worker
    · rw [same, Function.update_self]
      simp
    · rw [Function.update_of_ne same]
      simp [same]
  constructor
  · exact accounts.ordered
  · exact accounts.made
  · exact accounts.unique
  · intro enqueuer
    refine (accounts.calls enqueuer).grow rfl Nat.le.refl (List.append_nil _).symm ?_
    simp
  · exact accounts.apart
  · exact accounts.returned
  · intro other
    show other ∈ manager.queue.dequeued ↔
      other ∈ manager.executed ++ [task] ∨ ∃ place, Function.update manager.loop worker _ place = _
    simp only [accounts.taken other, List.mem_append, List.mem_singleton, loops]
    constructor
    · intro cases
      rcases cases with done | ⟨place, running⟩
      · exact Or.inl (Or.inl done)
      · by_cases same : place = worker
        · rw [same, here] at running
          cases running
          exact Or.inl (Or.inr rfl)
        · exact Or.inr ⟨place, same, running⟩
    · intro cases
      rcases cases with (done | rfl) | ⟨place, _, running⟩
      · exact Or.inl done
      · exact Or.inr ⟨worker, here⟩
      · exact Or.inr ⟨place, running⟩
  · exact List.Nodup.append accounts.once (List.nodup_singleton _) (by simpa using fresh)
  · intro place other runs
    have runs' : Function.update manager.loop worker .dequeue place = .run other := runs
    show other ∉ manager.executed ++ [task] ∧
      ∀ place', Function.update manager.loop worker _ place' = .run other → place' = place
    simp only [loops, List.mem_append, List.mem_singleton, not_or] at runs' ⊢
    obtain ⟨differs, before⟩ := runs'
    refine ⟨⟨(accounts.alone place other before).1, ?_⟩, fun place' running =>
      (accounts.alone place other before).2 place' running.2⟩
    rintro rfl
    exact differs (only place before)

theorem Accounts.workerStep [DecidableEq Processor] (accounts : manager.Accounts) {worker : Fin numThreads}
    {processor : Processor} {spurious : Bool} (taken : manager.workerStep worker processor spurious = some next) :
    next.Accounts := by
  have aside : ∀ {point : WorkerPoint Job}, (∀ task, manager.loop worker ≠ .run task) → (∀ task, point ≠ .run task) →
      ∀ other task, Function.update manager.loop worker point other = .run task ↔ manager.loop other = .run task := by
    intro point before after other task
    by_cases same : other = worker
    · rw [same, Function.update_self]
      simp [before task, after task]
    · rw [Function.update_of_ne same]
  unfold TaskManager.workerStep at taken
  split at taken
  · cases taken
  · split at taken
    · rename_i here
      obtain ⟨queue, moved, rfl⟩ := Option.map_eq_some_iff.mp taken
      have ordered := ordered_dequeueStep accounts.ordered moved
      obtain ⟨enqueued, producer, moves⟩ := dequeueStep_cases moved
      rcases moves with ⟨goes, dequeued⟩ | ⟨fails, dequeued, -⟩ | ⟨task, takes, dequeued⟩
      · rw [goes]
        exact accounts.idle_worker ordered enqueued producer dequeued rfl rfl rfl rfl (aside (by simp [here]) (by simp))
      · rw [fails]
        exact accounts.idle_worker ordered enqueued producer dequeued rfl rfl rfl rfl (aside (by simp [here]) (by simp))
      · rw [takes]
        exact accounts.takes ordered enqueued producer dequeued here
    · rename_i here
      obtain rfl := Option.some.inj taken
      exact accounts.idle_worker accounts.ordered rfl rfl rfl rfl rfl rfl rfl (aside (by simp [here]) (by simp))
    · rename_i here
      obtain rfl := Option.some.inj taken
      exact accounts.idle_worker accounts.ordered rfl rfl rfl rfl rfl rfl rfl (aside (by simp [here]) (by simp))
    · rename_i task here
      obtain rfl := Option.some.inj taken
      exact accounts.ran here

/-- No `Enqueue` finds the queue full. -/
def hasRoom (manager : TaskManager Enqueuer Processor Job numThreads) :
    TaskEvent Enqueuer Processor Job numThreads → Bool
  | .enqueuer enqueuer _ => !full manager.queue enqueuer
  | _ => true

theorem Accounts.step [DecidableEq Processor] (accounts : manager.Accounts)
    {event : TaskEvent Enqueuer Processor Job numThreads} (room : manager.hasRoom event = true)
    (taken : manager.step event = some next) : next.Accounts := by
  cases event with
  | enqueue enqueuer job => exact accounts.enqueue taken
  | enqueuer enqueuer spurious => exact accounts.enqueuerStep taken ((Bool.not_eq_true' _).mp room)
  | processor worker processor elapsed =>
    obtain ⟨host, moved, rfl⟩ := Option.map_eq_some_iff.mp taken
    exact accounts.idle_worker accounts.ordered rfl rfl rfl rfl rfl rfl rfl fun _ _ => Iff.rfl
  | worker worker processor spurious => exact accounts.workerStep taken

end TaskManager

end CyberRT.Task

import CyberRT.Base.TicketOrder
import CyberRT.Task.TaskManager

namespace CyberRT.Task

open CyberRT.Base CyberRT.Croutine Execution

abbrev Minds {Processor Job : Type} (host : Hosting Processor) (point : WorkerPoint Job) : Prop :=
  host.Carries (point ≠ .dequeue) (point = .swap)

namespace TaskManager

variable {Enqueuer Processor Job : Type} {numThreads : Nat}
  {manager next : TaskManager Enqueuer Processor Job numThreads}

structure Attended (manager : TaskManager Enqueuer Processor Job numThreads) : Prop where
  ordered : manager.queue.Ordered
  minds : ∀ worker, Minds (manager.host worker) (manager.loop worker)

theorem attended_start (size : Nat) (pool : Nat → Closure Job) :
    (start size pool : TaskManager Enqueuer Processor Job numThreads).Attended := by
  constructor
  · exact BoundedQueue.ordered_init size pool
  · intro worker
    constructor
    · exact Hosting.held_start
    · exact fun past => absurd rfl past
    · exact fun _ _ _ => rfl

variable [DecidableEq Enqueuer] [DecidableEq Processor]

omit [DecidableEq Enqueuer] [DecidableEq Processor] in
/-- A step that concerns one worker. -/
theorem Attended.at_worker (attended : manager.Attended) (ordered : next.queue.Ordered) (worker : Fin numThreads)
    (others : ∀ other, other ≠ worker → next.host other = manager.host other ∧ next.loop other = manager.loop other)
    (minds : Minds (next.host worker) (next.loop worker)) : next.Attended := by
  refine ⟨ordered, ?_⟩
  intro other
  by_cases same : other = worker
  · rw [same]
    exact minds
  · rw [(others other same).1, (others other same).2]
    exact attended.minds other

omit [DecidableEq Processor] in
theorem ordered_dequeueStep (ordered : manager.queue.Ordered) {worker : Fin numThreads} {spurious : Bool}
    {queue : BoundedQueue Enqueuer (Fin numThreads) (Closure Job)}
    (taken : manager.dequeueStep worker spurious = some queue) : queue.Ordered := by
  unfold TaskManager.dequeueStep at taken
  split at taken
  · exact ordered.step taken
  · exact ordered.consumerStep taken

theorem Attended.workerStep (attended : manager.Attended) {worker : Fin numThreads} {processor : Processor}
    {spurious : Bool} (taken : manager.workerStep worker processor spurious = some next) : next.Attended := by
  have minds := attended.minds worker
  unfold TaskManager.workerStep at taken
  split at taken
  · cases taken
  · rename_i within
    have inside := not_not.mp within
    split at taken
    · rename_i here
      obtain ⟨queue, moved, rfl⟩ := Option.map_eq_some_iff.mp taken
      refine attended.at_worker (ordered_dequeueStep attended.ordered moved) worker ?_ ?_
      · intro other differs
        exact ⟨rfl, Function.update_of_ne differs _ _⟩
      · exact minds.inside_to inside rfl fun _ => minds.resumed (by simp [here]) processor inside
    · obtain rfl := Option.some.inj taken
      refine attended.at_worker attended.ordered worker ?_ ?_
      · intro other differs
        exact ⟨Function.update_of_ne differs _ _, Function.update_of_ne differs _ _⟩
      · show Minds (Function.update manager.host worker _ worker) (Function.update manager.loop worker .swap worker)
        rw [Function.update_self, Function.update_self]
        have lock : ((manager.host worker).routine.setState .dataWait).lock = (manager.host worker).routine.lock := rfl
        exact minds.inside_to inside lock fun outside => absurd rfl outside
    · obtain rfl := Option.some.inj taken
      refine attended.at_worker attended.ordered worker ?_ ?_
      · intro other differs
        exact ⟨Function.update_of_ne differs _ _, Function.update_of_ne differs _ _⟩
      · show Minds (Function.update manager.host worker _ worker) (Function.update manager.loop worker .dequeue worker)
        rw [Function.update_self, Function.update_self]
        exact minds.leave inside fun past => past rfl
    · rename_i here
      obtain rfl := Option.some.inj taken
      refine attended.at_worker attended.ordered worker ?_ ?_
      · intro other differs
        exact ⟨rfl, Function.update_of_ne differs _ _⟩
      · exact minds.inside_to inside rfl fun _ => minds.resumed (by simp [here]) processor inside

omit [DecidableEq Processor] in
theorem Attended.enqueuerStep (attended : manager.Attended) {enqueuer : Enqueuer} {spurious : Bool}
    (taken : manager.enqueuerStep enqueuer spurious = some next) : next.Attended := by
  unfold TaskManager.enqueuerStep at taken
  split at taken
  · cases taken
  · obtain ⟨queue, moved, rfl⟩ := Option.map_eq_some_iff.mp taken
    exact ⟨attended.ordered.producerStep moved, attended.minds⟩
  · obtain rfl := Option.some.inj taken
    exact ⟨attended.ordered, attended.minds⟩
  · rename_i worker workers here
    obtain rfl := Option.some.inj taken
    refine attended.at_worker attended.ordered worker ?_ ?_
    · exact fun other differs => ⟨Function.update_of_ne differs _ _, rfl⟩
    · show Minds (Function.update manager.host worker _ worker) (manager.loop worker)
      rw [Function.update_self]
      exact (attended.minds worker).setUpdateFlag
  · obtain rfl := Option.some.inj taken
    exact ⟨attended.ordered, attended.minds⟩

theorem Attended.step (attended : manager.Attended) {event : TaskEvent Enqueuer Processor Job numThreads}
    (taken : manager.step event = some next) : next.Attended := by
  cases event with
  | enqueue enqueuer job =>
    simp only [TaskManager.step, TaskManager.enqueue] at taken
    split at taken
    · obtain ⟨queue, moved, rfl⟩ := Option.map_eq_some_iff.mp taken
      exact ⟨attended.ordered.step moved, attended.minds⟩
    · cases taken
  | enqueuer enqueuer spurious => exact attended.enqueuerStep taken
  | processor worker processor elapsed =>
    obtain ⟨host, moved, rfl⟩ := Option.map_eq_some_iff.mp taken
    refine attended.at_worker attended.ordered worker ?_ ?_
    · exact fun other differs => ⟨Function.update_of_ne differs _ _, rfl⟩
    · show Minds (Function.update manager.host worker host worker) (manager.loop worker)
      rw [Function.update_self]
      exact (attended.minds worker).step moved
  | worker worker processor spurious => exact attended.workerStep taken

omit [DecidableEq Processor] in
/-- What a step of `Dequeue` does: it goes on, it finds the queue empty, or it takes a task. -/
theorem dequeueStep_cases {worker : Fin numThreads} {spurious : Bool}
    {queue : BoundedQueue Enqueuer (Fin numThreads) (Closure Job)}
    (taken : manager.dequeueStep worker spurious = some queue) :
    queue.enqueued = manager.queue.enqueued ∧ queue.producer = manager.queue.producer ∧
      (WorkerPoint.after (manager.queue.consumer worker) (queue.consumer worker) = .dequeue ∧
          queue.dequeued = manager.queue.dequeued ∨
        WorkerPoint.after (manager.queue.consumer worker) (queue.consumer worker) = .hangUp ∧
          queue.dequeued = manager.queue.dequeued ∧ queue.head = manager.queue.head ∧
          queue.commit = manager.queue.commit ∧
          (∃ oldHead, manager.queue.consumer worker = .checkCommit oldHead ∧ oldHead + 1 = manager.queue.commit) ∨
        ∃ task, WorkerPoint.after (manager.queue.consumer worker) (queue.consumer worker) = .run task ∧
          queue.dequeued = manager.queue.dequeued ++ [task]) := by
  unfold TaskManager.dequeueStep at taken
  cases here : manager.queue.consumer worker with
  | idle =>
    simp only [here, BoundedQueue.step] at taken
    obtain rfl := Option.some.inj taken
    exact ⟨rfl, rfl, Or.inl ⟨by simp [BoundedQueue.toConsumer, WorkerPoint.after], rfl⟩⟩
  | loadHead =>
    simp only [here, BoundedQueue.consumerStep] at taken
    obtain rfl := Option.some.inj taken
    exact ⟨rfl, rfl, Or.inl ⟨by simp [BoundedQueue.toConsumer, WorkerPoint.after], rfl⟩⟩
  | checkCommit oldHead =>
    simp only [here, BoundedQueue.consumerStep] at taken
    obtain rfl := Option.some.inj taken
    refine ⟨rfl, rfl, ?_⟩
    by_cases empty : oldHead + 1 = manager.queue.commit
    · right
      left
      exact ⟨by simp [BoundedQueue.toConsumer, WorkerPoint.after, empty], rfl, rfl, rfl, oldHead, rfl, empty⟩
    · left
      exact ⟨by simp [BoundedQueue.toConsumer, WorkerPoint.after, empty], rfl⟩
  | copy oldHead =>
    simp only [here, BoundedQueue.consumerStep] at taken
    obtain rfl := Option.some.inj taken
    exact ⟨rfl, rfl, Or.inl ⟨by simp [BoundedQueue.toConsumer, WorkerPoint.after], rfl⟩⟩
  | exchangeHead oldHead task =>
    simp only [here, BoundedQueue.consumerStep] at taken
    split at taken
    · obtain rfl := Option.some.inj taken
      refine ⟨rfl, rfl, ?_⟩
      right
      right
      exact ⟨task, by simp [BoundedQueue.toConsumer, WorkerPoint.after], rfl⟩
    · obtain rfl := Option.some.inj taken
      exact ⟨rfl, rfl, Or.inl ⟨by simp [BoundedQueue.toConsumer, WorkerPoint.after], rfl⟩⟩

end TaskManager

end CyberRT.Task

import CyberRT.Task.Workers

namespace CyberRT.Task

open CyberRT.Base CyberRT.Croutine Execution

/-- The worker has come back from a `Dequeue` that found nothing, and no wake-up is on its way. -/
def Dozes {Processor Job : Type} (host : Hosting Processor) : WorkerPoint Job → Prop
  | .hangUp => host.routine.updated = true
  | .swap | .dequeue => host.Asleep .dataWait
  | .run _ => False

/-- A worker that dozes without waiting is about to set its state. -/
theorem Dozes.in_gap {Processor Job : Type} {host : Hosting Processor} {point : WorkerPoint Job}
    (dozes : Dozes host point) (notWaiting : host.routine.isWaiting = false) : point = .hangUp := by
  cases point with
  | hangUp => rfl
  | swap | dequeue => simp [CRoutine.isWaiting, dozes.state] at notWaiting
  | run task => exact dozes.elim

/-- `Enqueue` has no worker left to notify. -/
def EnqueuePoint.Done {Job : Type} {numThreads : Nat} (point : EnqueuePoint Job numThreads) : Prop :=
  point = .idle ∨ ∃ task, point = .readState task []

theorem dozes_step {Processor Job : Type} [DecidableEq Processor] {host host' : Hosting Processor}
    {point : WorkerPoint Job} {processor : Processor} {elapsed : Bool} (minds : Minds host point)
    (taken : host.step processor elapsed = some host')
    (dozes : Dozes host' point) : Dozes host point := by
  cases point with
  | hangUp =>
    obtain ⟨other, inside⟩ := minds.inside (by simp)
    rw [minds.held.step_inside inside taken] at dozes
    exact dozes
  | swap | dequeue => exact Hosting.asleep_step taken (Or.inl rfl) dozes
  | run task => exact dozes

namespace TaskManager

variable {Enqueuer Processor Job : Type} {numThreads : Nat}
  {manager next : TaskManager Enqueuer Processor Job numThreads}

/-- A task is in the queue, every worker has overlooked it and no `Enqueue` is going to tell any of them. -/
structure Missed (manager : TaskManager Enqueuer Processor Job numThreads) : Prop where
  queued : manager.Queued
  dozing : ∀ worker, Dozes (manager.host worker) (manager.loop worker)
  noEnqueue : ∀ enqueuer, (manager.enqueuer enqueuer).Done

theorem Stranded.missed [DecidableEq Processor] (attended : manager.Attended) (stranded : manager.Stranded) :
    manager.Missed := by
  refine ⟨stranded.queued, ?_, fun enqueuer => Or.inl (stranded.noEnqueue enqueuer)⟩
  intro worker
  have outside : manager.loop worker = .dequeue := by
    by_contra past
    obtain ⟨processor, inside⟩ := (attended.minds worker).inside past
    exact stranded.suspended worker processor inside
  rw [outside]
  exact stranded.asleep worker

/-- The last `NotifyTask` of the only `Enqueue` under way reads the state of a worker between the `Dequeue` that failed and
    the state that it is to set, and all the others have come back from the queue without the task that is in it. -/
structure Overlooks (manager : TaskManager Enqueuer Processor Job numThreads) (enqueuer : Enqueuer) : Prop where
  last : ∃ task worker, manager.enqueuer enqueuer = .readState task [worker] ∧ manager.loop worker = .hangUp
  others : ∀ other, other ≠ enqueuer → (manager.enqueuer other).Done
  queued : manager.Queued
  dozing : ∀ worker, Dozes (manager.host worker) (manager.loop worker)

def NotifiesInTime (manager : TaskManager Enqueuer Processor Job numThreads) :
    TaskEvent Enqueuer Processor Job numThreads → Prop
  | .enqueuer enqueuer _ => ¬manager.Overlooks enqueuer
  | _ => True

/-- A step of one worker that did not doze any less before has not made the task be missed. -/
theorem Missed.at_worker (missed : next.Missed) (queued : manager.Queued) (worker : Fin numThreads)
    (enqueuers : next.enqueuer = manager.enqueuer)
    (others : ∀ other, other ≠ worker → next.host other = manager.host other ∧ next.loop other = manager.loop other)
    (dozes : Dozes (next.host worker) (next.loop worker) → Dozes (manager.host worker) (manager.loop worker)) :
    manager.Missed := by
  refine ⟨queued, ?_, ?_⟩
  · intro other
    by_cases same : other = worker
    · rw [same]
      exact dozes (missed.dozing worker)
    · rw [← (others other same).1, ← (others other same).2]
      exact missed.dozing other
  · rw [← enqueuers]
    exact missed.noEnqueue

/-- A `Dequeue` fails in a state in which the queue has nothing. -/
theorem Attended.empty_of_hangUp [DecidableEq Enqueuer] (attended : manager.Attended) {worker : Fin numThreads}
    {spurious : Bool} {queue : BoundedQueue Enqueuer (Fin numThreads) (Closure Job)}
    (taken : manager.dequeueStep worker spurious = some queue)
    (fails : WorkerPoint.after (manager.queue.consumer worker) (queue.consumer worker) = .hangUp) :
    queue.head + 1 = queue.commit := by
  obtain ⟨-, -, ⟨goes, -⟩ | ⟨-, -, head, commit, oldHead, here, empty⟩ | ⟨task, takes, -⟩⟩ := dequeueStep_cases taken
  · rw [fails] at goes
    cases goes
  · have fits := attended.ordered.consumers worker
    rw [here] at fits
    have behind : oldHead ≤ manager.queue.head := fits
    have nonempty := attended.ordered.nonempty
    omega
  · rw [fails] at takes
    cases takes

variable [DecidableEq Enqueuer] [DecidableEq Processor]

theorem missed_workerStep (attended : manager.Attended) {worker : Fin numThreads} {processor : Processor}
    {spurious : Bool} (taken : manager.workerStep worker processor spurious = some next) (missed : next.Missed) :
    manager.Missed := by
  have minds := attended.minds worker
  have dozing := missed.dozing worker
  unfold TaskManager.workerStep at taken
  split at taken
  · cases taken
  · rename_i within
    have inside := not_not.mp within
    have awake : manager.loop worker ≠ .swap → ¬(manager.host worker).Asleep .dataWait := by
      intro past asleep
      have ready := minds.resumed past processor inside
      rw [asleep.state] at ready
      cases ready
    split at taken
    · rename_i here
      obtain ⟨queue, moved, rfl⟩ := Option.map_eq_some_iff.mp taken
      have after : Dozes (manager.host worker)
          (WorkerPoint.after (manager.queue.consumer worker) (queue.consumer worker)) := by
        rw [← Function.update_self worker (WorkerPoint.after (manager.queue.consumer worker) (queue.consumer worker))
          manager.loop]
        exact dozing
      obtain ⟨-, -, ⟨goes, -⟩ | ⟨fails, -⟩ | ⟨task, takes, -⟩⟩ := dequeueStep_cases moved
      · rw [goes] at after
        exact absurd after (awake (by simp [here]))
      · exact absurd (attended.empty_of_hangUp moved fails) missed.queued
      · rw [takes] at after
        exact after.elim
    · rename_i here
      obtain rfl := Option.some.inj taken
      refine missed.at_worker missed.queued worker rfl ?_ ?_
      · intro other differs
        exact ⟨Function.update_of_ne differs _ _, Function.update_of_ne differs _ _⟩
      · show Dozes (Function.update manager.host worker _ worker) (Function.update manager.loop worker .swap worker) → _
        rw [Function.update_self, Function.update_self, here]
        exact fun asleep => asleep.noUpdate
    · rename_i here
      obtain rfl := Option.some.inj taken
      refine missed.at_worker missed.queued worker rfl ?_ ?_
      · intro other differs
        exact ⟨Function.update_of_ne differs _ _, Function.update_of_ne differs _ _⟩
      · show Dozes (Function.update manager.host worker _ worker) (Function.update manager.loop worker .dequeue worker) → _
        rw [Function.update_self, Function.update_self, here]
        intro asleep
        have same : (manager.host worker).leave processor =
            { (manager.host worker).toPoint processor .release with routine := (manager.host worker).routine } := rfl
        have kept : Hosting.Asleep _ .dataWait := asleep
        rw [same] at kept
        exact kept.before (by rw [inside]; decide) rfl rfl
    · rename_i here
      obtain rfl := Option.some.inj taken
      have after : Dozes (manager.host worker) (.dequeue : WorkerPoint Job) := by
        rw [← Function.update_self worker (.dequeue : WorkerPoint Job) manager.loop]
        exact dozing
      exact absurd after (awake (by simp [here]))

omit [DecidableEq Processor] in
theorem missed_enqueuerStep (workers_exist : 0 < numThreads) {enqueuer : Enqueuer} {spurious : Bool}
    (taken : manager.enqueuerStep enqueuer spurious = some next) (missed : next.Missed) :
    manager.Missed ∨ manager.Overlooks enqueuer := by
  have moved : ∀ {point : EnqueuePoint Job numThreads}, next.enqueuer = Function.update manager.enqueuer enqueuer point →
      point.Done ∧ ∀ other, other ≠ enqueuer → (manager.enqueuer other).Done := by
    intro point same
    constructor
    · rw [← Function.update_self enqueuer point manager.enqueuer, ← same]
      exact missed.noEnqueue enqueuer
    · intro other differs
      rw [← Function.update_of_ne differs point manager.enqueuer, ← same]
      exact missed.noEnqueue other
  unfold TaskManager.enqueuerStep at taken
  split at taken
  · cases taken
  · obtain ⟨queue, _, rfl⟩ := Option.map_eq_some_iff.mp taken
    have done := (moved rfl).1
    unfold EnqueuePoint.after at done
    split at done
    · rcases done with impossible | ⟨_, none⟩
      · cases impossible
      · have length := congrArg List.length (EnqueuePoint.readState.inj none).2
        rw [List.length_finRange, List.length_nil] at length
        omega
    · rcases done with impossible | ⟨_, impossible⟩ <;> cases impossible
  · rename_i task worker workers here
    obtain rfl := Option.some.inj taken
    obtain ⟨done, others⟩ := moved rfl
    split at done
    · rcases done with impossible | ⟨_, impossible⟩ <;> cases impossible
    · rename_i notWaiting
      rcases done with impossible | ⟨_, last⟩
      · cases impossible
      · rw [(EnqueuePoint.readState.inj last).2] at here
        have gap := (missed.dozing worker).in_gap (Bool.eq_false_iff.mpr notWaiting)
        exact Or.inr ⟨⟨task, worker, here, gap⟩, others, missed.queued, missed.dozing⟩
  · rename_i task worker workers here
    obtain rfl := Option.some.inj taken
    have dozing := missed.dozing worker
    have flagged : Dozes (manager.host worker).setUpdateFlag (manager.loop worker) := by
      rw [← Function.update_self worker (manager.host worker).setUpdateFlag manager.host]
      exact dozing
    cases point : manager.loop worker with
    | hangUp =>
      rw [point] at flagged
      cases flagged
    | swap | dequeue =>
      rw [point] at flagged
      cases flagged.noUpdate
    | run _ =>
      rw [point] at flagged
      exact flagged.elim
  · rename_i task here
    obtain rfl := Option.some.inj taken
    refine Or.inl ⟨missed.queued, missed.dozing, ?_⟩
    intro other
    by_cases same : other = enqueuer
    · rw [same]
      exact Or.inr ⟨task, here⟩
    · exact (moved rfl).2 other same

/-- The only step at which a task comes to be missed is the last access of an `Enqueue` that overlooks its worker. -/
theorem missed_step (workers_exist : 0 < numThreads) (attended : manager.Attended)
    {event : TaskEvent Enqueuer Processor Job numThreads} (taken : manager.step event = some next)
    (missed : next.Missed) : manager.Missed ∨ ¬manager.NotifiesInTime event := by
  cases event with
  | enqueue enqueuer job =>
    simp only [TaskManager.step, TaskManager.enqueue] at taken
    split at taken
    · obtain ⟨queue, _, rfl⟩ := Option.map_eq_some_iff.mp taken
      have done := missed.noEnqueue enqueuer
      have point : EnqueuePoint.Done (.enqueue ⟨manager.made, job⟩ : EnqueuePoint Job numThreads) := by
        rw [← Function.update_self enqueuer (.enqueue ⟨manager.made, job⟩ : EnqueuePoint Job numThreads)
          manager.enqueuer]
        exact done
      rcases point with impossible | ⟨_, impossible⟩ <;> cases impossible
    · cases taken
  | enqueuer enqueuer spurious =>
    rcases missed_enqueuerStep workers_exist taken missed with before | overlooks
    · exact Or.inl before
    · exact Or.inr fun inTime => inTime overlooks
  | processor worker processor elapsed =>
    obtain ⟨host, moved, rfl⟩ := Option.map_eq_some_iff.mp taken
    left
    refine missed.at_worker missed.queued worker rfl ?_ ?_
    · exact fun other differs => ⟨Function.update_of_ne differs _ _, rfl⟩
    · show Dozes (Function.update manager.host worker host worker) (manager.loop worker) → _
      rw [Function.update_self]
      exact dozes_step (attended.minds worker) moved
  | worker worker processor spurious => exact Or.inl (missed_workerStep attended taken missed)

omit [DecidableEq Enqueuer] [DecidableEq Processor] in
theorem not_missed_start (size : Nat) (pool : Nat → Closure Job) :
    ¬(start size pool : TaskManager Enqueuer Processor Job numThreads).Missed :=
  fun missed => missed.queued rfl

/-- No run strands a task whose every `Enqueue` notifies in time: while a task is in the queue, some worker is awake or
    about to be woken, or an `Enqueue` is under way. -/
theorem queued_never_stranded {size : Nat} {pool : Nat → Closure Job} (workers_exist : 0 < numThreads)
    {events : List (TaskEvent Enqueuer Processor Job numThreads)}
    (meets : Meets step NotifiesInTime (start size pool) events)
    (ran : run step (start size pool) events = some manager) : ¬manager.Stranded := by
  have reached : manager.Attended ∧ ¬manager.Missed := by
    apply Meets.preserves (fun manager => manager.Attended ∧ ¬manager.Missed) _ _ meets ran
    · intro manager event next inTime taken ⟨attended, notMissed⟩
      refine ⟨attended.step taken, fun missed => ?_⟩
      rcases missed_step workers_exist attended taken missed with before | late
      · exact notMissed before
      · exact late inTime
    · exact ⟨attended_start size pool, not_missed_start size pool⟩
  exact fun stranded => reached.2 (stranded.missed reached.1)

/-- The last worker to be notified is not on its way from the queue to its sleep. -/
def avoidsGap (manager : TaskManager Enqueuer Processor Job numThreads) :
    TaskEvent Enqueuer Processor Job numThreads → Bool
  | .enqueuer enqueuer _ =>
    match manager.enqueuer enqueuer with
    | .readState _ [worker] => match manager.loop worker with
      | .hangUp => false
      | _ => true
    | _ => true
  | _ => true

omit [DecidableEq Enqueuer] [DecidableEq Processor] in
theorem notifiesInTime_of_avoidsGap {event : TaskEvent Enqueuer Processor Job numThreads}
    (avoids : manager.avoidsGap event = true) : manager.NotifiesInTime event := by
  cases event with
  | enqueuer enqueuer spurious =>
    intro overlooks
    obtain ⟨task, worker, here, gap⟩ := overlooks.last
    simp [avoidsGap, here, gap] at avoids
  | enqueue _ _ | processor _ _ _ | worker _ _ _ => trivial

def noTask (_ : Nat) : Closure Unit := ⟨0, ()⟩

def hosted (steps : Nat) : List (TaskEvent Unit Unit Unit 1) := List.replicate steps (.processor soleWorker () false)

def working (steps : Nat) : List (TaskEvent Unit Unit Unit 1) := List.replicate steps (.worker soleWorker () false)

def enqueuing (steps : Nat) : List (TaskEvent Unit Unit Unit 1) :=
  .enqueue () () :: List.replicate steps (.enqueuer () false)

/-- The only worker finds the queue empty and goes to sleep; a task comes in and wakes it. -/
def asyncOnce : List (TaskEvent Unit Unit Unit 1) :=
  hosted 5 ++ working 5 ++ hosted 1 ++ enqueuing 8 ++ hosted 6 ++ working 6

theorem asyncOnce_not_stranded :
    ∃ manager, run step (start taskQueueSize noTask) asyncOnce = some manager ∧
      manager.executed = [⟨0, ()⟩] ∧ ¬manager.Stranded := by
  have reached : (run step (start taskQueueSize noTask) asyncOnce).any (fun manager =>
      decide (manager.executed = [⟨0, ()⟩])) = true := by decide +kernel
  obtain ⟨manager, ran, executed⟩ := (Option.any_eq_true _ _).mp reached
  have avoids : Meets step (fun manager event => manager.avoidsGap event = true) (start taskQueueSize noTask)
      asyncOnce := by decide +kernel
  have inTime : Meets step NotifiesInTime (start taskQueueSize noTask) asyncOnce :=
    avoids.imp fun _ _ => notifiesInTime_of_avoidsGap
  exact ⟨manager, ran, of_decide_eq_true executed, queued_never_stranded Nat.one_pos inTime ran⟩

/-- The task comes in after the worker has found the queue empty and before it has set its state. -/
def asyncInGap : List (TaskEvent Unit Unit Unit 1) := hosted 5 ++ working 3 ++ enqueuing 7 ++ working 2 ++ hosted 1

theorem asyncInGap_strands :
    ¬∀ (events : List (TaskEvent Unit Unit Unit 1)) (manager : TaskManager Unit Unit Unit 1),
      run step (start taskQueueSize noTask) events = some manager → ¬manager.Stranded := by
  intro never
  have reached : (run step (start taskQueueSize noTask) asyncInGap).any (fun manager =>
      decide (manager.queue.head + 1 ≠ manager.queue.commit ∧ (manager.host 0).routine.state = .dataWait ∧
        (manager.host 0).routine.updated = true ∧ (manager.host 0).processor () = .acquire ∧
        manager.enqueuer () = .idle)) = true := by decide +kernel
  obtain ⟨manager, ran, holds⟩ := (Option.any_eq_true _ _).mp reached
  obtain ⟨queued, dataWait, noUpdate, acquires, idle⟩ := of_decide_eq_true holds
  have outside : ∀ worker processor, (manager.host worker).processor processor = .acquire := by
    intro worker processor
    rw [Fin.fin_one_eq_zero worker]
    exact acquires
  refine never asyncInGap manager ran ⟨queued, ?_, ?_, fun _ => idle⟩
  · intro worker
    rw [Fin.fin_one_eq_zero worker]
    refine ⟨dataWait, noUpdate, fun processor => ?_⟩
    rw [outside]
    decide
  · intro worker processor
    rw [outside]
    decide

end TaskManager

end CyberRT.Task

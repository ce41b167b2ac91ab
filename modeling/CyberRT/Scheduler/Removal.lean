import CyberRT.Scheduler.Exclusion

namespace CyberRT.Scheduler

open CyberRT.Croutine (CRoutine RoutineState)
open Execution

variable {Object : Type} [DecidableEq Object]

theorem RemoverPoint.hasStopped_of_hasTaken {cr : Object} {point : RemoverPoint Object} (taken : point.hasTaken cr) :
    point.hasStopped cr := by
  cases point <;> simp_all [hasTaken, hasStopped]

theorem RemoverPoint.hasTaken_of_hasErased {cr : Object} {point : RemoverPoint Object} (erased : point.hasErased cr) :
    point.hasTaken cr := by
  cases point <;> simp_all [hasTaken, hasErased]

theorem RemoverPoint.writes_of_seeks {queue : QueueName} {cr : Object} {point : RemoverPoint Object}
    (seeks : point.seeks queue cr) : point.writes queue := by
  cases point <;> simp_all [RemoverPoint.seeks, writes]

def ContextsEvent.dispatched : ContextsEvent Object → Option Object
  | .enqueue _ cr => some cr
  | _ => none

namespace Contexts

variable {state next : Contexts Object} {index : Nat}

/-- The dispatched routines, in order. -/
def enqueued (events : List (ContextsEvent Object)) : List Object := events.filterMap ContextsEvent.dispatched

omit [DecidableEq Object] in
theorem enqueued_snoc (past : List (ContextsEvent Object)) (event : ContextsEvent Object) :
    enqueued (past ++ [event]) = enqueued past ++ event.dispatched.toList := by
  rw [enqueued, List.filterMap_append]
  cases dispatched : event.dispatched <;> simp [enqueued, dispatched]

/-- What one step of a processor changes and where it may lead. -/
structure ProcessorMoves (state next : Contexts Object) (index : Nat) (processor : Processor Object)
    (point : ProcessorPoint Object) : Prop where
  processors : next.processors = state.processors.set index { processor with point }
  removers : next.removers = state.removers
  queue : next.queue = state.queue
  removed : next.removed = state.removed
  forceStop : ∀ cr, (next.routine cr).forceStop = (state.routine cr).forceStop
  resumes : ∀ cr, point.resumes cr → processor.point.resumes cr ∨ (state.routine cr).forceStop = false
  holds : ∀ cr, point.holds cr → processor.point.holds cr ∨ ∃ queue, cr ∈ (state.queue queue).objects

theorem updateState_forceStop (routine : CRoutine) (elapsed : Bool) :
    (routine.updateState elapsed).forceStop = routine.forceStop := by
  rw [CRoutine.updateState]
  split
  · rfl
  · split
    · rw [CRoutine.awaken]
      split <;> rfl
    · rfl

theorem processorStep_moves {processor : Processor Object} {elapsed : Bool} {leaves : RoutineState}
    (taken : state.processorStep index processor elapsed leaves = some next) :
    ∃ point, ProcessorMoves state next index processor point := by
  obtain ⟨context, point⟩ := processor
  cases point with
  | readLock queues =>
    cases queues with
    | nil =>
      obtain rfl := Option.some.inj taken
      exact ⟨_, rfl, rfl, rfl, rfl, fun _ => rfl, fun _ => .inl, fun _ => .inl⟩
    | cons queue rest =>
      obtain ⟨locked, locks, rfl⟩ := Option.map_eq_some_iff.mp taken
      rw [readLock] at locks
      split at locks
      · obtain rfl := Option.some.inj locks
        exact ⟨_, rfl, rfl, rfl, rfl, fun _ => rfl, fun _ => .inl, fun _ => .inl⟩
      · cases locks
  | scan queue rest place =>
    simp only [processorStep] at taken
    split at taken
    next =>
      obtain rfl := Option.some.inj taken
      exact ⟨_, rfl, rfl, rfl, rfl, fun _ => rfl, fun _ => .inl, fun _ => .inl⟩
    next cr found =>
      obtain rfl := Option.some.inj taken
      refine ⟨_, rfl, rfl, rfl, rfl, field_setRoutine_same CRoutine.forceStop rfl, ?_, ?_⟩
      · intro other resumes
        split at resumes <;> cases resumes
      · intro other holds
        right
        split at holds
        · obtain rfl := of_decide_eq_true holds
          exact ⟨queue, List.mem_of_getElem? found⟩
        · cases holds
  | updateState queue rest place cr =>
    obtain rfl := Option.some.inj taken
    refine ⟨_, rfl, rfl, rfl, rfl, field_setRoutine_same CRoutine.forceStop (updateState_forceStop _ elapsed), ?_, ?_⟩
    · intro other resumes
      split at resumes <;> cases resumes
    · intro other holds
      left
      split at holds <;> exact holds
  | skip queue rest place cr =>
    obtain rfl := Option.some.inj taken
    exact ⟨_, rfl, rfl, rfl, rfl, field_setRoutine_same CRoutine.forceStop rfl, (fun _ resumes => Bool.noConfusion resumes), fun _ holds => Bool.noConfusion holds⟩
  | readUnlock queue cr =>
    obtain rfl := Option.some.inj taken
    exact ⟨_, rfl, rfl, rfl, rfl, fun _ => rfl, (fun _ resumes => Bool.noConfusion resumes), fun _ => .inl⟩
  | resume cr =>
    simp only [processorStep] at taken
    split at taken
    next stopped =>
      obtain rfl := Option.some.inj taken
      exact ⟨_, rfl, rfl, rfl, rfl, field_setRoutine_same CRoutine.forceStop rfl, (fun _ resumes => Bool.noConfusion resumes), fun _ => .inl⟩
    next running =>
      obtain rfl := Option.some.inj taken
      refine ⟨_, rfl, rfl, rfl, rfl, fun _ => rfl, ?_, fun _ => .inl⟩
      intro other resumes
      obtain rfl := of_decide_eq_true resumes
      exact .inr (Bool.not_eq_true _ ▸ running)
  | compare cr =>
    obtain rfl := Option.some.inj taken
    refine ⟨_, rfl, rfl, rfl, rfl, fun _ => rfl, ?_, ?_⟩
    · intro other resumes
      left
      split at resumes
      · exact resumes
      · cases resumes
    · intro other holds
      left
      split at holds <;> exact holds
  | inside cr =>
    obtain rfl := Option.some.inj taken
    exact ⟨_, rfl, rfl, rfl, rfl, field_setRoutine_same CRoutine.forceStop rfl, (fun _ resumes => Bool.noConfusion resumes), fun _ => .inl⟩
  | release cr =>
    obtain rfl := Option.some.inj taken
    exact ⟨_, rfl, rfl, rfl, rfl, field_setRoutine_same CRoutine.forceStop rfl, (fun _ resumes => Bool.noConfusion resumes), fun _ holds => Bool.noConfusion holds⟩

/-- What one step of a remover changes and where it may lead. Only the erasure touches a queue. -/
structure RemoverMoves (state next : Contexts Object) (index : Nat) (remover point : RemoverPoint Object) : Prop where
  processors : next.processors = state.processors
  removers : next.removers = state.removers.set index point
  keeps : ∀ cr ∈ state.removed, cr ∈ next.removed
  removed : ∀ cr ∈ next.removed, cr ∈ state.removed ∨ remover.hasErased cr
  forceStop : ∀ cr, (state.routine cr).forceStop = true → (next.routine cr).forceStop = true
  stops : ∀ cr, point.hasStopped cr → remover.hasStopped cr ∨ (next.routine cr).forceStop = true
  takes : ∀ cr, point.hasTaken cr → remover.hasTaken cr ∨ (state.routine cr).lock = false
  seeks : ∀ queue cr, point.seeks queue cr → remover.seeks queue cr ∨ cr ∈ (state.queue queue).objects
  queue : next.queue = state.queue ∧ (∀ cr, point.hasErased cr → remover.hasErased cr) ∨
    ∃ queue cr, remover = .erase queue cr ∧ point = .release queue cr ∧
      next.queue = Function.update state.queue queue ((state.queue queue).erase cr)

theorem removerStep_moves {remover : RemoverPoint Object} (taken : state.removerStep index remover = some next) :
    ∃ point, RemoverMoves state next index remover point := by
  cases remover with
  | idle => cases taken
  | writeLock queue crid =>
    obtain ⟨locked, locks, rfl⟩ := Option.map_eq_some_iff.mp taken
    rw [writeLock] at locks
    split at locks
    · obtain rfl := Option.some.inj locks
      exact ⟨_, rfl, rfl, fun _ => id, fun _ => .inl, fun _ => id, fun _ => .inl, fun _ => .inl, fun _ _ => .inl,
        .inl ⟨rfl, fun _ => id⟩⟩
    · cases locks
  | search queue crid =>
    rw [removerStep] at taken
    split at taken
    next =>
      obtain rfl := Option.some.inj taken
      refine ⟨_, rfl, rfl, fun _ => id, fun _ => .inl, fun _ => id, ?_, ?_, fun _ _ => .inl, .inl ⟨rfl, ?_⟩⟩ <;>
        simp [RemoverPoint.hasStopped, RemoverPoint.hasTaken, RemoverPoint.hasErased]
    next cr found =>
      obtain rfl := Option.some.inj taken
      refine ⟨_, rfl, rfl, fun _ => id, fun _ => .inl, fun _ => id, fun _ => .inl, fun _ => .inl, ?_,
        .inl ⟨rfl, fun _ => id⟩⟩
      intro sought other seeks
      obtain ⟨rfl, rfl⟩ := of_decide_eq_true seeks
      exact .inr (CroutineQueue.findId_eq_some found).1
  | stop queue cr =>
    obtain rfl := Option.some.inj taken
    have after : ∀ other, (((state.setRoutine cr (state.routine cr).stop).toRemoverPoint index
        (.acquire queue cr)).routine other).forceStop = if other = cr then true else (state.routine other).forceStop :=
      fun other => field_setRoutine CRoutine.forceStop cr other _
    refine ⟨_, rfl, rfl, fun _ => id, fun _ => .inl, ?_, ?_, fun _ => .inl, fun _ _ => .inl,
      .inl ⟨rfl, fun _ => id⟩⟩
    · intro other before
      rw [after, before, ite_self]
    · intro other stops
      obtain rfl := of_decide_eq_true stops
      right
      rw [after, if_pos rfl]
  | acquire queue cr =>
    obtain rfl := Option.some.inj taken
    have same : ∀ other, ((state.setRoutine cr (state.routine cr).acquire.2).routine other).forceStop =
        (state.routine other).forceStop := field_setRoutine_same CRoutine.forceStop rfl
    refine ⟨_, rfl, rfl, fun _ => id, fun _ => .inl, fun other before => (same other).trans before, ?_, ?_, ?_,
      .inl ⟨rfl, ?_⟩⟩
    · intro other stops
      left
      split at stops <;> exact stops
    · intro other takes
      split at takes
      next free =>
        obtain rfl := of_decide_eq_true takes
        right
        simpa [CRoutine.acquire] using free
      next => cases takes
    · intro sought other seeks
      left
      split at seeks <;> exact seeks
    · intro other erased
      split at erased <;> cases erased
  | erase queue cr =>
    obtain rfl := Option.some.inj taken
    exact ⟨_, rfl, rfl, fun _ => id, fun _ => .inl, fun _ => id, fun _ => .inl, fun _ => .inl,
      (fun _ _ seeks => Bool.noConfusion seeks), .inr ⟨queue, cr, rfl, rfl, rfl⟩⟩
  | release queue cr =>
    obtain rfl := Option.some.inj taken
    have same : ∀ other, ((state.setRoutine cr (state.routine cr).release).routine other).forceStop =
        (state.routine other).forceStop := field_setRoutine_same CRoutine.forceStop rfl
    refine ⟨_, rfl, rfl, fun _ => id, fun _ => .inl, fun other before => (same other).trans before, ?_, ?_,
      fun _ _ => .inl, .inl ⟨rfl, ?_⟩⟩ <;>
      simp [RemoverPoint.hasStopped, RemoverPoint.hasTaken, RemoverPoint.hasErased]
  | writeUnlock queue found =>
    obtain rfl := Option.some.inj taken
    refine ⟨_, rfl, rfl, fun _ => List.mem_append_right _, ?_, fun _ => id, ?_, ?_, fun _ _ => .inl, .inl ⟨rfl, ?_⟩⟩
    · intro other member
      rcases List.mem_append.mp member with new | old
      · exact .inr (decide_eq_true (Option.mem_toList.mp new))
      · exact .inl old
    all_goals exact fun _ moved => Bool.noConfusion moved

theorem remove_moves {queue : QueueName} {crid : UInt64} (taken : state.step (.remove index queue crid) = some next) :
    state.removers[index]? = some .idle ∧ ∃ point, RemoverMoves state next index .idle point := by
  rw [step] at taken
  split at taken
  next idle =>
    obtain rfl := Option.some.inj taken
    exact ⟨idle, _, rfl, rfl, fun _ => id, fun _ => .inl, fun _ => id, fun _ => .inl, fun _ => .inl, fun _ _ => .inl,
      .inl ⟨rfl, fun _ => id⟩⟩
  next => cases taken

/-- A remover has got hold of the stopped routine, or has been here before. -/
def Taken (state : Contexts Object) (cr : Object) : Prop :=
  cr ∈ state.removed ∨ ∃ remover ∈ state.removers, remover.hasTaken cr

/-- A routine that a remover has got hold of is stopped for good, and no processor is running it. -/
structure Stopped (state : Contexts Object) : Prop where
  removers : ∀ remover ∈ state.removers, ∀ cr, remover.hasStopped cr → (state.routine cr).forceStop = true
  removed : ∀ cr ∈ state.removed, (state.routine cr).forceStop = true
  outside : ∀ processor ∈ state.processors, ∀ cr, state.Taken cr → ¬processor.point.resumes cr

theorem Stopped.forceStop (stopped : state.Stopped) {cr : Object} (taken : state.Taken cr) :
    (state.routine cr).forceStop = true := by
  rcases taken with removed | ⟨remover, member, taken⟩
  · exact stopped.removed cr removed
  · exact stopped.removers remover member cr (RemoverPoint.hasStopped_of_hasTaken taken)

theorem Stopped.aside (stopped : state.Stopped) (processors : next.processors = state.processors)
    (removers : next.removers = state.removers) (removed : next.removed = state.removed)
    (forceStop : ∀ cr, (state.routine cr).forceStop = true → (next.routine cr).forceStop = true) : next.Stopped := by
  constructor
  · rw [removers]
    exact fun remover member cr stops => forceStop cr (stopped.removers remover member cr stops)
  · rw [removed]
    exact fun cr member => forceStop cr (stopped.removed cr member)
  · rw [processors]
    intro processor member cr taken
    rw [Taken, removed, removers] at taken
    exact stopped.outside processor member cr taken

theorem Stopped.processor (stopped : state.Stopped) {processor : Processor Object} {point : ProcessorPoint Object}
    (present : state.processors[index]? = some processor)
    (moves : ProcessorMoves state next index processor point) : next.Stopped := by
  constructor
  · rw [moves.removers]
    intro remover member cr stops
    rw [moves.forceStop]
    exact stopped.removers remover member cr stops
  · rw [moves.removed]
    intro cr member
    rw [moves.forceStop]
    exact stopped.removed cr member
  · rw [moves.processors]
    intro other member cr taken resumes
    rw [Taken, moves.removers, moves.removed] at taken
    rcases List.mem_or_eq_of_mem_set member with before | rfl
    · exact stopped.outside other before cr taken resumes
    · rcases moves.resumes cr resumes with already | running
      · exact stopped.outside processor (List.mem_of_getElem? present) cr taken already
      · rw [stopped.forceStop taken] at running
        cases running

theorem Stopped.remover (stopped : state.Stopped) (guarded : state.Guarded) {remover point : RemoverPoint Object}
    (present : state.removers[index]? = some remover) (moves : RemoverMoves state next index remover point) :
    next.Stopped := by
  have here := List.mem_of_getElem? present
  have before : ∀ cr, cr ∈ next.removed → state.Taken cr := by
    intro cr member
    rcases moves.removed cr member with old | erased
    · exact .inl old
    · exact .inr ⟨remover, here, RemoverPoint.hasTaken_of_hasErased erased⟩
  constructor
  · rw [moves.removers]
    intro other member cr stopping
    rcases List.mem_or_eq_of_mem_set member with old | rfl
    · exact moves.forceStop cr (stopped.removers other old cr stopping)
    · rcases moves.stops cr stopping with already | done
      · exact moves.forceStop cr (stopped.removers remover here cr already)
      · exact done
  · intro cr member
    exact moves.forceStop cr (stopped.forceStop (before cr member))
  · rw [moves.processors]
    intro processor member cr taken
    rcases taken with gone | ⟨other, among, taken⟩
    · exact stopped.outside processor member cr (before cr gone)
    · rw [moves.removers] at among
      rcases List.mem_or_eq_of_mem_set among with old | rfl
      · exact stopped.outside processor member cr (.inr ⟨other, old, taken⟩)
      · rcases moves.takes cr taken with already | free
        · exact stopped.outside processor member cr (.inr ⟨remover, here, already⟩)
        · intro resumes
          have locked := guarded.locked_of_processor member (ProcessorPoint.holds_of_resumes resumes)
          rw [free] at locked
          cases locked

theorem Stopped.step (stopped : state.Stopped) (guarded : state.Guarded) {event : ContextsEvent Object}
    (taken : state.step event = some next) : next.Stopped := by
  cases event with
  | enqueue queue cr =>
    obtain rfl := enqueue_some taken
    exact stopped.aside rfl rfl rfl (fun _ => id)
  | setUpdateFlag cr =>
    obtain rfl := Option.some.inj taken
    have same : ∀ other, ((state.setRoutine cr (state.routine cr).setUpdateFlag).routine other).forceStop =
        (state.routine other).forceStop := field_setRoutine_same CRoutine.forceStop rfl
    exact stopped.aside rfl rfl rfl fun other before => (same other).trans before
  | stop cr =>
    obtain rfl := Option.some.inj taken
    refine stopped.aside rfl rfl rfl fun other before => ?_
    rw [field_setRoutine CRoutine.forceStop, before]
    exact ite_self _
  | processor index elapsed leaves =>
    obtain ⟨processor, present, moved⟩ := Option.bind_eq_some_iff.mp taken
    obtain ⟨point, moves⟩ := processorStep_moves moved
    exact stopped.processor present moves
  | remove index queue crid =>
    obtain ⟨idle, point, moves⟩ := remove_moves taken
    exact stopped.remover guarded idle moves
  | remover index =>
    obtain ⟨remover, present, moved⟩ := Option.bind_eq_some_iff.mp taken
    obtain ⟨point, moves⟩ := removerStep_moves moved
    exact stopped.remover guarded present moves

theorem stopped_start (contexts : List Context) (removers : Nat) (routine : Object → CRoutine) :
    (start contexts removers routine).Stopped := by
  have idle : ∀ remover ∈ (start contexts removers routine).removers, remover = .idle :=
    fun remover member => List.eq_of_mem_replicate member
  constructor
  · intro remover member cr stops
    rw [idle remover member] at stops
    cases stops
  · exact fun cr member => absurd member List.not_mem_nil
  · intro processor member cr _ resumes
    obtain ⟨context, _, rfl⟩ := List.mem_map.mp member
    cases resumes

/-- A remover has erased the routine from its queue, or has been here before. -/
def Erased (state : Contexts Object) (cr : Object) : Prop :=
  cr ∈ state.removed ∨ ∃ remover ∈ state.removers, remover.hasErased cr

/-- The queues while every routine is dispatched once. -/
structure Placed (state : Contexts Object) (dispatched : List Object) : Prop where
  nodup : ∀ queue, (state.queue queue).objects.Nodup
  one : ∀ cr queue other, cr ∈ (state.queue queue).objects → cr ∈ (state.queue other).objects → queue = other
  known : ∀ cr queue, cr ∈ (state.queue queue).objects → cr ∈ dispatched
  held : ∀ processor ∈ state.processors, ∀ cr, processor.point.holds cr → ∃ queue, cr ∈ (state.queue queue).objects
  sought : ∀ (index : Nat) (remover : RemoverPoint Object), state.removers[index]? = some remover →
    ∀ queue cr, remover.seeks queue cr → cr ∈ (state.queue queue).objects
  gone : ∀ cr, state.Erased cr → cr ∈ dispatched ∧ ∀ queue, cr ∉ (state.queue queue).objects

variable {dispatched : List Object}

theorem Placed.aside (placed : state.Placed dispatched) (processors : next.processors = state.processors)
    (removers : next.removers = state.removers) (queue : next.queue = state.queue)
    (removed : next.removed = state.removed) : next.Placed dispatched := by
  constructor
  · rw [queue]
    exact placed.nodup
  · rw [queue]
    exact placed.one
  · rw [queue]
    exact placed.known
  · rw [queue, processors]
    exact placed.held
  · rw [queue, removers]
    exact placed.sought
  · intro cr erased
    rw [Erased, removers, removed] at erased
    rw [queue]
    exact placed.gone cr erased

theorem Placed.processor (placed : state.Placed dispatched) {processor : Processor Object}
    {point : ProcessorPoint Object} (present : state.processors[index]? = some processor)
    (moves : ProcessorMoves state next index processor point) : next.Placed dispatched := by
  constructor
  · rw [moves.queue]
    exact placed.nodup
  · rw [moves.queue]
    exact placed.one
  · rw [moves.queue]
    exact placed.known
  · rw [moves.queue, moves.processors]
    intro other member cr holds
    rcases List.mem_or_eq_of_mem_set member with before | rfl
    · exact placed.held other before cr holds
    · rcases moves.holds cr holds with already | found
      · exact placed.held processor (List.mem_of_getElem? present) cr already
      · exact found
  · rw [moves.queue, moves.removers]
    exact placed.sought
  · intro cr erased
    rw [Erased, moves.removers, moves.removed] at erased
    rw [moves.queue]
    exact placed.gone cr erased

omit [DecidableEq Object] in
theorem mem_enqueue {queue other : QueueName} {prio : Nat} {cr found : Object} :
    found ∈ (Function.update state.queue queue ((state.queue queue).emplace prio cr) other).objects ↔
      found = cr ∧ other = queue ∨ found ∈ (state.queue other).objects := by
  rw [Function.update_apply]
  split
  · rename_i same
    subst same
    simp
  · rename_i differs
    simp [differs]

theorem Placed.enqueue (placed : state.Placed dispatched) {queue : QueueName} {prio : Nat} {cr : Object}
    (fresh : cr ∉ dispatched) :
    Placed { state with queue := Function.update state.queue queue ((state.queue queue).emplace prio cr) }
      (dispatched ++ [cr]) := by
  have absent : ∀ other, cr ∉ (state.queue other).objects := fun other member => fresh (placed.known cr other member)
  constructor
  · intro other
    dsimp only
    rw [Function.update_apply]
    split
    · rw [CroutineQueue.nodup_objects_emplace]
      exact ⟨absent queue, placed.nodup queue⟩
    · exact placed.nodup other
  · intro found first second here there
    rcases mem_enqueue.mp here with ⟨rfl, rfl⟩ | here
    · rcases mem_enqueue.mp there with ⟨_, rfl⟩ | there
      · rfl
      · exact absurd there (absent second)
    · rcases mem_enqueue.mp there with ⟨same, _⟩ | there
      · exact absurd (same ▸ here) (absent first)
      · exact placed.one found first second here there
  · intro found other member
    rcases mem_enqueue.mp member with ⟨rfl, _⟩ | member
    · simp
    · exact List.mem_append_left _ (placed.known found other member)
  · intro processor member found holds
    obtain ⟨other, queued⟩ := placed.held processor member found holds
    exact ⟨other, mem_enqueue.mpr (.inr queued)⟩
  · intro index remover present other found seeks
    exact mem_enqueue.mpr (.inr (placed.sought index remover present other found seeks))
  · intro found erased
    obtain ⟨known, nowhere⟩ := placed.gone found erased
    refine ⟨List.mem_append_left _ known, ?_⟩
    intro other member
    rcases mem_enqueue.mp member with ⟨rfl, _⟩ | member
    · exact fresh known
    · exact nowhere other member

/-- A remover that does not touch the queues. -/
theorem Placed.remover (placed : state.Placed dispatched) {remover point : RemoverPoint Object}
    (present : state.removers[index]? = some remover) (moves : RemoverMoves state next index remover point)
    (queue : next.queue = state.queue) (erases : ∀ cr, point.hasErased cr → remover.hasErased cr) :
    next.Placed dispatched := by
  have here := List.mem_of_getElem? present
  constructor
  · rw [queue]
    exact placed.nodup
  · rw [queue]
    exact placed.one
  · rw [queue]
    exact placed.known
  · rw [queue, moves.processors]
    exact placed.held
  · rw [queue, moves.removers]
    intro other found at_other sought cr seeking
    rw [List.getElem?_set] at at_other
    split at at_other
    · split at at_other
      · obtain rfl := Option.some.inj at_other
        rcases moves.seeks sought cr seeking with already | queued
        · exact placed.sought index remover present sought cr already
        · exact queued
      · cases at_other
    · exact placed.sought other found at_other sought cr seeking
  · intro cr erased
    rw [queue]
    refine placed.gone cr ?_
    rcases erased with gone | ⟨other, member, erased⟩
    · rcases moves.removed cr gone with before | erased
      · exact .inl before
      · exact .inr ⟨remover, here, erased⟩
    · rw [moves.removers] at member
      rcases List.mem_or_eq_of_mem_set member with before | rfl
      · exact .inr ⟨other, before, erased⟩
      · exact .inr ⟨remover, here, erases cr erased⟩

theorem mem_erase (placed : state.Placed dispatched) {queue other : QueueName} {cr found : Object}
    (queued : cr ∈ (state.queue queue).objects) :
    found ∈ (Function.update state.queue queue ((state.queue queue).erase cr) other).objects ↔
      found ≠ cr ∧ found ∈ (state.queue other).objects := by
  rw [Function.update_apply]
  split
  · rename_i same
    subst same
    rw [CroutineQueue.objects_erase, (placed.nodup other).mem_erase_iff]
  · rename_i differs
    refine (and_iff_right_of_imp ?_).symm
    rintro member rfl
    exact differs (placed.one found other queue member queued)

theorem Placed.erase (placed : state.Placed dispatched) (guarded : state.Guarded) {queue : QueueName} {cr : Object}
    (present : state.removers[index]? = some (.erase queue cr))
    (moves : RemoverMoves state next index (.erase queue cr) (.release queue cr))
    (erased : next.queue = Function.update state.queue queue ((state.queue queue).erase cr)) :
    next.Placed dispatched := by
  have queued := placed.sought index _ present queue cr (by simp [RemoverPoint.seeks])
  have member_iff : ∀ other found,
      found ∈ (next.queue other).objects ↔ found ≠ cr ∧ found ∈ (state.queue other).objects := by
    intro other found
    rw [erased]
    exact mem_erase placed queued
  constructor
  · intro other
    rw [erased, Function.update_apply]
    split
    · rw [CroutineQueue.objects_erase]
      exact (placed.nodup queue).erase cr
    · exact placed.nodup other
  · intro found first second here there
    exact placed.one found first second ((member_iff first found).mp here).2 ((member_iff second found).mp there).2
  · exact fun found other member => placed.known found other ((member_iff other found).mp member).2
  · rw [moves.processors]
    intro processor member found holds
    obtain ⟨other, among⟩ := placed.held processor member found holds
    refine ⟨other, (member_iff other found).mpr ⟨?_, among⟩⟩
    rintro rfl
    exact guarded.not_both member holds (List.mem_of_getElem? present) (by simp [RemoverPoint.holds])
  · rw [moves.removers]
    intro other remover at_other sought found seeks
    rw [List.getElem?_set] at at_other
    split at at_other
    · split at at_other
      · obtain rfl := Option.some.inj at_other
        cases seeks
      · cases at_other
    · rename_i differs
      have among := placed.sought other remover at_other sought found seeks
      refine (member_iff sought found).mpr ⟨?_, among⟩
      rintro rfl
      obtain rfl := placed.one found sought queue among queued
      exact differs (guarded.eq_of_writes present at_other (by simp [RemoverPoint.writes])
        (RemoverPoint.writes_of_seeks seeks))
  · intro found erased
    have cases_erased : found = cr ∨ state.Erased found := by
      rcases erased with gone | ⟨remover, member, erased⟩
      · rcases moves.removed found gone with before | impossible
        · exact .inr (.inl before)
        · cases impossible
      · rw [moves.removers] at member
        rcases List.mem_or_eq_of_mem_set member with before | rfl
        · exact .inr (.inr ⟨remover, before, erased⟩)
        · exact .inl (of_decide_eq_true erased).symm
    rcases cases_erased with rfl | before
    · exact ⟨placed.known found queue queued, fun other member => ((member_iff other found).mp member).1 rfl⟩
    · obtain ⟨known, nowhere⟩ := placed.gone found before
      exact ⟨known, fun other member => nowhere other ((member_iff other found).mp member).2⟩

theorem Placed.moved (placed : state.Placed dispatched) (guarded : state.Guarded) {remover point : RemoverPoint Object}
    (present : state.removers[index]? = some remover) (moves : RemoverMoves state next index remover point) :
    next.Placed dispatched := by
  rcases moves.queue with ⟨same, erases⟩ | ⟨queue, cr, rfl, rfl, erased⟩
  · exact placed.remover present moves same erases
  · exact placed.erase guarded present moves erased

theorem Placed.step {past : List (ContextsEvent Object)} {event : ContextsEvent Object}
    (placed : state.Placed (enqueued past)) (guarded : state.Guarded) (once : (enqueued (past ++ [event])).Nodup)
    (taken : state.step event = some next) : next.Placed (enqueued (past ++ [event])) := by
  rw [enqueued_snoc] at once ⊢
  cases event with
  | enqueue queue cr =>
    obtain rfl := enqueue_some taken
    have fresh := (List.nodup_append.mp once).2.2
    exact placed.enqueue fun member => fresh cr member cr (List.mem_singleton_self cr) rfl
  | setUpdateFlag cr =>
    obtain rfl := Option.some.inj taken
    simp only [ContextsEvent.dispatched, Option.toList_none, List.append_nil]
    exact placed.aside rfl rfl rfl rfl
  | stop cr =>
    obtain rfl := Option.some.inj taken
    simp only [ContextsEvent.dispatched, Option.toList_none, List.append_nil]
    exact placed.aside rfl rfl rfl rfl
  | processor index elapsed leaves =>
    obtain ⟨processor, present, moved⟩ := Option.bind_eq_some_iff.mp taken
    obtain ⟨point, moves⟩ := processorStep_moves moved
    simp only [ContextsEvent.dispatched, Option.toList_none, List.append_nil]
    exact placed.processor present moves
  | remove index queue crid =>
    obtain ⟨idle, point, moves⟩ := remove_moves taken
    simp only [ContextsEvent.dispatched, Option.toList_none, List.append_nil]
    exact placed.moved guarded idle moves
  | remover index =>
    obtain ⟨remover, present, moved⟩ := Option.bind_eq_some_iff.mp taken
    obtain ⟨point, moves⟩ := removerStep_moves moved
    simp only [ContextsEvent.dispatched, Option.toList_none, List.append_nil]
    exact placed.moved guarded present moves

theorem placed_start (contexts : List Context) (removers : Nat) (routine : Object → CRoutine) :
    (start contexts removers routine).Placed [] := by
  have idle : ∀ remover ∈ (start contexts removers routine).removers, remover = .idle :=
    fun remover member => List.eq_of_mem_replicate member
  constructor
  · exact fun _ => List.nodup_nil
  · exact fun _ _ _ member => absurd member List.not_mem_nil
  · exact fun _ _ member => absurd member List.not_mem_nil
  · intro processor member cr holds
    obtain ⟨context, _, rfl⟩ := List.mem_map.mp member
    cases holds
  · intro index remover present queue cr seeks
    rw [idle remover (List.mem_of_getElem? present)] at seeks
    cases seeks
  · rintro cr (removed | ⟨remover, member, erased⟩)
    · exact absurd removed List.not_mem_nil
    · rw [idle remover member] at erased
      cases erased

theorem removed_step {event : ContextsEvent Object} (taken : state.step event = some next) {cr : Object}
    (removed : cr ∈ state.removed) : cr ∈ next.removed := by
  cases event with
  | enqueue queue cr =>
    obtain rfl := enqueue_some taken
    exact removed
  | setUpdateFlag cr | stop cr =>
    obtain rfl := Option.some.inj taken
    exact removed
  | processor index elapsed leaves =>
    obtain ⟨processor, present, moved⟩ := Option.bind_eq_some_iff.mp taken
    obtain ⟨point, moves⟩ := processorStep_moves moved
    rw [moves.removed]
    exact removed
  | remove index queue crid =>
    obtain ⟨_, point, moves⟩ := remove_moves taken
    exact moves.keeps cr removed
  | remover index =>
    obtain ⟨remover, present, moved⟩ := Option.bind_eq_some_iff.mp taken
    obtain ⟨point, moves⟩ := removerStep_moves moved
    exact moves.keeps cr removed

variable {contexts : List Context} {removers : Nat} {routine : Object → CRoutine} {final : Contexts Object}

theorem safe_run {events : List (ContextsEvent Object)}
    (ran : run step (start contexts removers routine) events = some state) :
    state.Guarded ∧ state.Stopped ∧ ((enqueued events).Nodup → state.Placed (enqueued events)) := by
  refine run_invariant (fun state past => state.Guarded ∧ state.Stopped ∧
    ((enqueued past).Nodup → state.Placed (enqueued past))) ?_ ?_ ran
  · rintro state past event next taken ⟨guarded, stopped, placed⟩
    refine ⟨guarded.step taken, stopped.step guarded taken, ?_⟩
    intro once
    have before : (enqueued past).Nodup := by
      rw [enqueued_snoc] at once
      exact (List.nodup_append.mp once).1
    exact (placed before).step guarded once taken
  · exact ⟨guarded_start .., stopped_start .., fun _ => placed_start ..⟩

/-- A routine is resumed by one processor at a time. Once `RemoveCRoutine` has returned true for it, no processor is
    inside it again, and if it was dispatched once, none even takes it. -/
theorem resumed_alone_until_removed {events later : List (ContextsEvent Object)}
    (ran : run step (start contexts removers routine) events = some state) (ran' : run step state later = some final) :
    (∀ (i j : Nat) (processor other : Processor Object) (cr : Object), state.processors[i]? = some processor →
      state.processors[j]? = some other → processor.point.holds cr → other.point.holds cr → i = j) ∧
    ∀ cr ∈ state.removed, ∀ processor ∈ final.processors,
      ¬processor.point.resumes cr ∧ ((enqueued (events ++ later)).Nodup → ¬processor.point.holds cr) := by
  have safe := safe_run ran
  have whole : run step (start contexts removers routine) (events ++ later) = some final := by
    rw [run_append, ran, Option.bind_some, ran']
  have safe' := safe_run whole
  refine ⟨?_, ?_⟩
  · intro i j processor other cr present present' holds holds'
    exact safe.1.eq_of_holds present present' holds holds'
  · intro cr removed processor member
    have stays := Meets.preserves (fun reached => cr ∈ reached.removed)
      (fun _ _ _ _ taken removed => removed_step taken removed) removed (meets_true state later) ran'
    refine ⟨safe'.2.1.outside processor member cr (.inl stays), ?_⟩
    intro once holds
    have placed := safe'.2.2 once
    obtain ⟨queue, queued⟩ := placed.held processor member cr holds
    exact (placed.gone cr (.inl stays)).2 queue queued

/-- Two processors of a group and one routine. It is removed while the first of them runs it. -/
def removedWhileRunning : List (ContextsEvent Nat) :=
  .enqueue (.level defaultGroupName 19) 0 :: List.replicate 6 (.processor 0 false .dataWait) ++
    .remove 0 (.level defaultGroupName 19) 7 :: List.replicate 4 (.remover 0) ++
    List.replicate 2 (.processor 0 false .dataWait) ++ List.replicate 4 (.remover 0)

def twoProcessors : Contexts Nat :=
  start (List.replicate 2 (.classic defaultGroupName)) 1 fun _ => { id := 7 }

theorem removedWhileRunning_alone :
    ∃ state final, run step twoProcessors removedWhileRunning = some state ∧
      run step state [.processor 1 false .ready, .processor 1 false .ready] = some final ∧ state.removed = [0] ∧
      ∀ processor ∈ final.processors, ¬processor.point.resumes 0 ∧ ¬processor.point.holds 0 := by
  have reached : (run step twoProcessors removedWhileRunning).any (fun state => decide (state.removed = [0]) &&
      (run step state [.processor 1 false .ready, .processor 1 false .ready]).isSome) = true := by
    decide +kernel
  obtain ⟨state, ran, holds⟩ := (Option.any_eq_true _ _).mp reached
  rw [Bool.and_eq_true] at holds
  have removed := of_decide_eq_true holds.1
  obtain ⟨final, ran'⟩ := Option.isSome_iff_exists.mp holds.2
  refine ⟨state, final, ran, ran', removed, ?_⟩
  intro processor member
  have alone := (resumed_alone_until_removed ran ran').2 0 (by simp [removed]) processor member
  exact ⟨alone.1, alone.2 (by decide +kernel)⟩

end Contexts

end CyberRT.Scheduler

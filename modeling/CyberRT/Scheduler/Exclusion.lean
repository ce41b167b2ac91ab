import CyberRT.Lists.Count
import CyberRT.Scheduler.Contexts

namespace CyberRT.Scheduler

open CyberRT.Croutine (CRoutine RoutineState)
open Execution

variable {Object : Type} [DecidableEq Object]

namespace ProcessorPoint

/-- Between the `Acquire` and the `Release` of the routine. -/
def holds (cr : Object) : ProcessorPoint Object → Bool
  | .readLock _ | .scan .. => false
  | .updateState _ _ _ held | .skip _ _ _ held | .readUnlock _ held | .resume held | .compare held | .inside held
  | .release held => held = cr

def reads (queue : QueueName) : ProcessorPoint Object → Bool
  | .scan read .. | .updateState read .. | .skip read .. | .readUnlock read _ => read = queue
  | _ => false

/-- The routine has been resumed and was not forced to stop at that time. -/
def resumes (cr : Object) : ProcessorPoint Object → Bool
  | .compare held | .inside held => held = cr
  | _ => false

theorem holds_of_resumes {cr : Object} {point : ProcessorPoint Object} (resumes : point.resumes cr) :
    point.holds cr := by
  cases point <;> simp_all [ProcessorPoint.resumes, holds]

end ProcessorPoint

namespace RemoverPoint

def holds (cr : Object) : RemoverPoint Object → Bool
  | .erase _ held | .release _ held => held = cr
  | _ => false

def writes (queue : QueueName) : RemoverPoint Object → Bool
  | .idle | .writeLock .. => false
  | .search written _ | .stop written _ | .acquire written _ | .erase written _ | .release written _
  | .writeUnlock written _ => written = queue

/-- The remover has found the routine and has not erased it yet. -/
def seeks (queue : QueueName) (cr : Object) : RemoverPoint Object → Bool
  | .stop written found | .acquire written found | .erase written found => written = queue ∧ found = cr
  | _ => false

def hasStopped (cr : Object) : RemoverPoint Object → Bool
  | .acquire _ found | .erase _ found | .release _ found => found = cr
  | .writeUnlock _ found => found = some cr
  | _ => false

/-- The remover has got hold of the stopped routine. -/
def hasTaken (cr : Object) : RemoverPoint Object → Bool
  | .erase _ found | .release _ found => found = cr
  | .writeUnlock _ found => found = some cr
  | _ => false

def hasErased (cr : Object) : RemoverPoint Object → Bool
  | .release _ found => found = cr
  | .writeUnlock _ found => found = some cr
  | _ => false

end RemoverPoint

namespace Contexts

variable {state next : Contexts Object}

def readers (state : Contexts Object) (queue : QueueName) : Nat :=
  state.processors.countP fun processor => processor.point.reads queue

def writers (state : Contexts Object) (queue : QueueName) : Nat :=
  state.removers.countP fun remover => remover.writes queue

def holders (state : Contexts Object) (cr : Object) : Nat :=
  state.processors.countP (fun processor => processor.point.holds cr) +
    state.removers.countP fun remover => remover.holds cr

/-- What the lock of each routine and the lock of each queue guarantee. -/
structure Guarded (state : Contexts Object) : Prop where
  lock : ∀ cr, state.holders cr = (state.routine cr).lock.toNat
  lockNum : ∀ queue, state.lockNum queue = state.readers queue - state.writers queue
  alone : ∀ queue, state.writers queue = 0 ∨ state.writers queue = 1 ∧ state.readers queue = 0

theorem Guarded.processor (guarded : state.Guarded) {index : Nat} {processor : Processor Object}
    (present : state.processors[index]? = some processor) {point : ProcessorPoint Object}
    (moves : next.processors = state.processors.set index { processor with point })
    (removers : next.removers = state.removers)
    (locks : ∀ cr, (point.holds cr).toNat + (state.routine cr).lock.toNat =
      (processor.point.holds cr).toNat + (next.routine cr).lock.toNat)
    (counts : ∀ queue, next.lockNum queue + (processor.point.reads queue).toNat =
      state.lockNum queue + (point.reads queue).toNat)
    (enters : ∀ queue, point.reads queue → processor.point.reads queue ∨ 0 ≤ state.lockNum queue) :
    next.Guarded := by
  have written : ∀ queue, next.writers queue = state.writers queue := by
    intro queue
    rw [writers, writers, removers]
  have read : ∀ queue, next.readers queue + (processor.point.reads queue).toNat =
      state.readers queue + (point.reads queue).toNat := by
    intro queue
    rw [readers, moves]
    exact Lists.countP_set_toNat (fun processor : Processor Object => processor.point.reads queue) present _
  constructor
  · intro cr
    have held := Lists.countP_set_toNat (fun processor : Processor Object => processor.point.holds cr) present
      { processor with point }
    have before := guarded.lock cr
    have locks := locks cr
    rw [holders] at before ⊢
    rw [moves, removers]
    dsimp only at held
    omega
  · intro queue
    have before := guarded.lockNum queue
    have read := read queue
    have counts := counts queue
    rw [written]
    omega
  · intro queue
    have before := guarded.lockNum queue
    have read := read queue
    have enters := enters queue
    rw [written]
    rcases guarded.alone queue with none | ⟨one, unread⟩
    · exact .inl none
    · right
      refine ⟨one, ?_⟩
      by_cases enter : point.reads queue
      · rcases enters enter with same | free
        · simp only [same, enter, Bool.toNat_true] at read
          omega
        · omega
      · rw [Bool.not_eq_true] at enter
        simp only [enter, Bool.toNat_false] at read
        omega

theorem Guarded.remover (guarded : state.Guarded) {index : Nat} {remover point : RemoverPoint Object}
    (present : state.removers[index]? = some remover) (processors : next.processors = state.processors)
    (moves : next.removers = state.removers.set index point)
    (locks : ∀ cr, (point.holds cr).toNat + (state.routine cr).lock.toNat =
      (remover.holds cr).toNat + (next.routine cr).lock.toNat)
    (counts : ∀ queue, next.lockNum queue + (point.writes queue).toNat =
      state.lockNum queue + (remover.writes queue).toNat)
    (enters : ∀ queue, point.writes queue → remover.writes queue ∨ state.lockNum queue = 0) : next.Guarded := by
  have read : ∀ queue, next.readers queue = state.readers queue := by
    intro queue
    rw [readers, readers, processors]
  have written : ∀ queue, next.writers queue + (remover.writes queue).toNat =
      state.writers queue + (point.writes queue).toNat := by
    intro queue
    rw [writers, moves]
    exact Lists.countP_set_toNat (fun remover : RemoverPoint Object => remover.writes queue) present _
  constructor
  · intro cr
    have held := Lists.countP_set_toNat (fun remover : RemoverPoint Object => remover.holds cr) present point
    have before := guarded.lock cr
    have locks := locks cr
    rw [holders] at before ⊢
    rw [moves, processors]
    omega
  · intro queue
    have before := guarded.lockNum queue
    have written := written queue
    have counts := counts queue
    rw [read]
    omega
  · intro queue
    have before := guarded.lockNum queue
    have written := written queue
    have enters := enters queue
    rw [read]
    by_cases enter : point.writes queue
    · rcases enters enter with same | free
      · simp only [same, enter, Bool.toNat_true] at written
        have alone := guarded.alone queue
        omega
      · have alone := guarded.alone queue
        simp only [enter, Bool.toNat_true] at written
        omega
    · rw [Bool.not_eq_true] at enter
      simp only [enter, Bool.toNat_false] at written
      have alone := guarded.alone queue
      omega

theorem Guarded.aside (guarded : state.Guarded) (processors : next.processors = state.processors)
    (removers : next.removers = state.removers) (lockNum : next.lockNum = state.lockNum)
    (lock : ∀ cr, (next.routine cr).lock = (state.routine cr).lock) : next.Guarded := by
  constructor
  · intro cr
    rw [lock, ← guarded.lock cr, holders, holders, processors, removers]
  · intro queue
    rw [lockNum, guarded.lockNum queue, readers, readers, writers, writers, processors, removers]
  · intro queue
    have alone := guarded.alone queue
    rwa [readers, writers, ← processors, ← removers] at alone

theorem updateState_lock (routine : CRoutine) (elapsed : Bool) : (routine.updateState elapsed).lock = routine.lock := by
  rw [CRoutine.updateState]
  split
  · rfl
  · split
    · rw [CRoutine.awaken]
      split <;> rfl
    · rfl

theorem field_setRoutine (field : CRoutine → Bool) (cr other : Object) (routine : CRoutine) :
    field ((state.setRoutine cr routine).routine other) =
      if other = cr then field routine else field (state.routine other) := by
  dsimp only [setRoutine]
  rw [Function.update_apply]
  split <;> rfl

theorem field_setRoutine_same (field : CRoutine → Bool) {cr : Object} {routine : CRoutine}
    (same : field routine = field (state.routine cr)) (other : Object) :
    field ((state.setRoutine cr routine).routine other) = field (state.routine other) := by
  rw [field_setRoutine field]
  split
  · rename_i here
    rw [here, same]
  · rfl

theorem Guarded.locked (guarded : state.Guarded) {cr : Object} (held : 0 < state.holders cr) :
    (state.routine cr).lock = true := by
  by_contra free
  rw [Bool.not_eq_true] at free
  rw [guarded.lock, free, Bool.toNat_false] at held
  omega

theorem Guarded.locked_of_processor (guarded : state.Guarded) {processor : Processor Object} {cr : Object}
    (member : processor ∈ state.processors) (holds : processor.point.holds cr) : (state.routine cr).lock = true := by
  have positive : 0 < state.processors.countP fun processor => processor.point.holds cr :=
    List.countP_pos_iff.mpr ⟨processor, member, holds⟩
  refine guarded.locked ?_
  rw [holders]
  omega

theorem Guarded.locked_of_remover (guarded : state.Guarded) {remover : RemoverPoint Object} {cr : Object}
    (member : remover ∈ state.removers) (holds : remover.holds cr) : (state.routine cr).lock = true := by
  have positive : 0 < state.removers.countP fun remover => remover.holds cr :=
    List.countP_pos_iff.mpr ⟨remover, member, holds⟩
  refine guarded.locked ?_
  rw [holders]
  omega

theorem Guarded.holders_le_one (guarded : state.Guarded) (cr : Object) : state.holders cr ≤ 1 := by
  rw [guarded.lock]
  exact Bool.toNat_le _

theorem Guarded.not_both (guarded : state.Guarded) {processor : Processor Object} {remover : RemoverPoint Object}
    {cr : Object} (member : processor ∈ state.processors) (holds : processor.point.holds cr)
    (member' : remover ∈ state.removers) (holds' : remover.holds cr) : False := by
  have positive : 0 < state.processors.countP fun processor => processor.point.holds cr :=
    List.countP_pos_iff.mpr ⟨processor, member, holds⟩
  have positive' : 0 < state.removers.countP fun remover => remover.holds cr :=
    List.countP_pos_iff.mpr ⟨remover, member', holds'⟩
  have once := guarded.holders_le_one cr
  rw [holders] at once
  omega

theorem Guarded.eq_of_holds (guarded : state.Guarded) {i j : Nat} {processor other : Processor Object} {cr : Object}
    (present : state.processors[i]? = some processor) (present' : state.processors[j]? = some other)
    (holds : processor.point.holds cr) (holds' : other.point.holds cr) : i = j := by
  have once : state.processors.countP (fun processor => processor.point.holds cr) ≤ 1 :=
    Nat.le_trans (Nat.le_add_right ..) (guarded.holders_le_one cr)
  exact Lists.eq_of_countP_le_one once present present' holds holds'

theorem Guarded.eq_of_writes (guarded : state.Guarded) {i j : Nat} {remover other : RemoverPoint Object}
    {queue : QueueName} (present : state.removers[i]? = some remover) (present' : state.removers[j]? = some other)
    (writes : remover.writes queue) (writes' : other.writes queue) : i = j := by
  have once : state.writers queue ≤ 1 := by
    have alone := guarded.alone queue
    omega
  exact Lists.eq_of_countP_le_one once present present' writes writes'

/-- A processor goes on with the routine it holds, or with none. -/
theorem Guarded.keep (guarded : state.Guarded) {index : Nat} {processor : Processor Object}
    (present : state.processors[index]? = some processor) {point : ProcessorPoint Object}
    (moves : next.processors = state.processors.set index { processor with point })
    (removers : next.removers = state.removers) (lockNum : next.lockNum = state.lockNum)
    (lock : ∀ cr, (next.routine cr).lock = (state.routine cr).lock)
    (holds : ∀ cr, point.holds cr = processor.point.holds cr)
    (reads : ∀ queue, point.reads queue = processor.point.reads queue) : next.Guarded := by
  refine guarded.processor present moves removers ?_ ?_ ?_
  · intro cr
    rw [holds, lock]
  · intro queue
    rw [reads, lockNum]
  · intro queue enters
    exact .inl (reads queue ▸ enters)

theorem Guarded.keepRoutine (guarded : state.Guarded) {index : Nat} {processor : Processor Object}
    (present : state.processors[index]? = some processor) {point : ProcessorPoint Object} {cr : Object}
    {routine : CRoutine} (lock : routine.lock = (state.routine cr).lock)
    (holds : ∀ cr, point.holds cr = processor.point.holds cr)
    (reads : ∀ queue, point.reads queue = processor.point.reads queue) :
    ((state.setRoutine cr routine).toPoint index processor point).Guarded := by
  exact guarded.keep present rfl rfl rfl (field_setRoutine_same CRoutine.lock lock) holds reads

theorem Guarded.release (guarded : state.Guarded) {index : Nat} {processor : Processor Object}
    (present : state.processors[index]? = some processor) {point : ProcessorPoint Object} {cr : Object}
    (held : ∀ other, processor.point.holds other = decide (cr = other)) (drops : ∀ other, point.holds other = false)
    (reads : ∀ queue, point.reads queue = processor.point.reads queue) :
    ((state.setRoutine cr (state.routine cr).release).toPoint index processor point).Guarded := by
  have locked : (state.routine cr).lock = true :=
    guarded.locked_of_processor (List.mem_of_getElem? present) (by simp [held])
  refine guarded.processor present rfl rfl ?_ ?_ ?_
  · intro other
    have after : (((state.setRoutine cr (state.routine cr).release).toPoint index processor point).routine other).lock =
        if other = cr then false else (state.routine other).lock := field_setRoutine CRoutine.lock cr other _
    rw [drops, held, after]
    by_cases same : cr = other
    · subst same
      simp [locked]
    · simp [same, Ne.symm same]
  · intro queue
    rw [reads]
    rfl
  · intro queue enters
    exact .inl (reads queue ▸ enters)

theorem Guarded.readUnlock (guarded : state.Guarded) {index : Nat} {processor : Processor Object}
    (present : state.processors[index]? = some processor) {point : ProcessorPoint Object} {queue : QueueName}
    (read : ∀ other, processor.point.reads other = decide (queue = other))
    (leaves : ∀ other, point.reads other = false) (holds : ∀ cr, point.holds cr = processor.point.holds cr) :
    ((state.readUnlock queue).toPoint index processor point).Guarded := by
  refine guarded.processor present rfl rfl ?_ ?_ ?_
  · intro cr
    rw [holds]
    rfl
  · intro other
    by_cases same : queue = other
    · subst same
      simp [toPoint, Contexts.readUnlock, setLockNum, leaves, read]
    · simp [toPoint, Contexts.readUnlock, setLockNum, leaves, read, same, Function.update_of_ne (Ne.symm same)]
  · intro other enters
    rw [leaves] at enters
    cases enters

theorem Guarded.readLock (guarded : state.Guarded) {index : Nat} {processor : Processor Object}
    (present : state.processors[index]? = some processor) {queue : QueueName} {locked : Contexts Object}
    (taken : state.readLock queue = some locked) {point : ProcessorPoint Object}
    (enters : ∀ other, point.reads other = decide (queue = other))
    (outside : ∀ other, processor.point.reads other = false)
    (holds : ∀ cr, point.holds cr = processor.point.holds cr) : (locked.toPoint index processor point).Guarded := by
  rw [Contexts.readLock] at taken
  split at taken
  next free =>
    obtain rfl := Option.some.inj taken
    refine guarded.processor present rfl rfl ?_ ?_ ?_
    · intro cr
      rw [holds]
      rfl
    · intro other
      by_cases same : queue = other
      · subst same
        simp [toPoint, setLockNum, enters, outside]
      · simp [toPoint, setLockNum, enters, outside, same, Function.update_of_ne (Ne.symm same)]
    · intro other reads
      rw [enters] at reads
      exact .inr (of_decide_eq_true reads ▸ free)
  next => cases taken

theorem Guarded.tryAcquire (guarded : state.Guarded) {index : Nat} {processor : Processor Object}
    (present : state.processors[index]? = some processor) {cr : Object} {won lost : ProcessorPoint Object}
    (outside : ∀ other, processor.point.holds other = false) (wins : ∀ other, won.holds other = decide (cr = other))
    (loses : ∀ other, lost.holds other = false) (wonReads : ∀ queue, won.reads queue = processor.point.reads queue)
    (lostReads : ∀ queue, lost.reads queue = processor.point.reads queue) :
    ((state.setRoutine cr (state.routine cr).acquire.2).toPoint index processor
      (if (state.routine cr).acquire.1 then won else lost)).Guarded := by
  have reads : ∀ queue, (if (state.routine cr).acquire.1 then won else lost).reads queue =
      processor.point.reads queue := by
    intro queue
    split
    · exact wonReads queue
    · exact lostReads queue
  refine guarded.processor present rfl rfl ?_ ?_ ?_
  · intro other
    have after : (((state.setRoutine cr (state.routine cr).acquire.2).toPoint index processor
        (if (state.routine cr).acquire.1 then won else lost)).routine other).lock =
        if other = cr then true else (state.routine other).lock := field_setRoutine CRoutine.lock cr other _
    rw [after, outside]
    by_cases same : cr = other
    · subst same
      cases lock : (state.routine cr).lock <;> simp [CRoutine.acquire, lock, wins, loses]
    · cases lock : (state.routine cr).lock <;> simp [CRoutine.acquire, lock, wins, loses, same, Ne.symm same]
  · intro queue
    rw [reads]
    rfl
  · intro queue enters
    exact .inl (reads queue ▸ enters)

theorem Guarded.processorStep (guarded : state.Guarded) {index : Nat} {processor : Processor Object} {elapsed : Bool}
    {leaves : RoutineState} (present : state.processors[index]? = some processor)
    (taken : state.processorStep index processor elapsed leaves = some next) : next.Guarded := by
  obtain ⟨context, point⟩ := processor
  cases point with
  | readLock queues =>
    cases queues with
    | nil =>
      obtain rfl := Option.some.inj taken
      exact guarded.keep present rfl rfl rfl (fun _ => rfl) (fun _ => rfl) (fun _ => rfl)
    | cons queue rest =>
      obtain ⟨locked, locks, rfl⟩ := Option.map_eq_some_iff.mp taken
      exact guarded.readLock present locks (fun _ => rfl) (fun _ => rfl) (fun _ => rfl)
  | scan queue rest place =>
    simp only [Contexts.processorStep] at taken
    split at taken
    next =>
      obtain rfl := Option.some.inj taken
      exact guarded.readUnlock present (fun _ => rfl) (fun _ => rfl) (fun _ => rfl)
    next cr found =>
      obtain rfl := Option.some.inj taken
      exact guarded.tryAcquire present (fun _ => rfl) (fun _ => rfl) (fun _ => rfl) (fun _ => rfl) (fun _ => rfl)
  | updateState queue rest place cr =>
    obtain rfl := Option.some.inj taken
    refine guarded.keepRoutine present (updateState_lock _ elapsed) ?_ ?_ <;> intro _ <;> split <;> rfl
  | skip queue rest place cr =>
    obtain rfl := Option.some.inj taken
    exact guarded.release present (fun _ => rfl) (fun _ => rfl) (fun _ => rfl)
  | readUnlock queue cr =>
    obtain rfl := Option.some.inj taken
    exact guarded.readUnlock present (fun _ => rfl) (fun _ => rfl) (fun _ => rfl)
  | resume cr =>
    simp only [Contexts.processorStep] at taken
    split at taken
    · obtain rfl := Option.some.inj taken
      exact guarded.keepRoutine present rfl (fun _ => rfl) (fun _ => rfl)
    · obtain rfl := Option.some.inj taken
      exact guarded.keep present rfl rfl rfl (fun _ => rfl) (fun _ => rfl) (fun _ => rfl)
  | compare cr =>
    obtain rfl := Option.some.inj taken
    refine guarded.keep present rfl rfl rfl (fun _ => rfl) ?_ ?_ <;> intro _ <;> split <;> rfl
  | inside cr =>
    obtain rfl := Option.some.inj taken
    exact guarded.keepRoutine present rfl (fun _ => rfl) (fun _ => rfl)
  | release cr =>
    obtain rfl := Option.some.inj taken
    exact guarded.release present (fun _ => rfl) (fun _ => rfl) (fun _ => rfl)

/-- A remover goes on with the queue and the routine it has locked, or with none. -/
theorem Guarded.keepRemover (guarded : state.Guarded) {index : Nat} {remover point : RemoverPoint Object}
    (present : state.removers[index]? = some remover) (processors : next.processors = state.processors)
    (moves : next.removers = state.removers.set index point) (lockNum : next.lockNum = state.lockNum)
    (lock : ∀ cr, (next.routine cr).lock = (state.routine cr).lock)
    (holds : ∀ cr, point.holds cr = remover.holds cr) (writes : ∀ queue, point.writes queue = remover.writes queue) :
    next.Guarded := by
  refine guarded.remover present processors moves ?_ ?_ ?_
  · intro cr
    rw [holds, lock]
  · intro queue
    rw [writes, lockNum]
  · intro queue enters
    exact .inl (writes queue ▸ enters)

theorem Guarded.removerStep (guarded : state.Guarded) {index : Nat} {remover : RemoverPoint Object}
    (present : state.removers[index]? = some remover) (taken : state.removerStep index remover = some next) :
    next.Guarded := by
  cases remover with
  | idle => cases taken
  | writeLock queue crid =>
    obtain ⟨locked, locks, rfl⟩ := Option.map_eq_some_iff.mp taken
    rw [writeLock] at locks
    split at locks
    next free =>
      obtain rfl := Option.some.inj locks
      refine guarded.remover present rfl rfl (fun _ => rfl) ?_ ?_
      · intro other
        by_cases same : queue = other
        · subst same
          simp [toRemoverPoint, setLockNum, RemoverPoint.writes, free]
        · simp [toRemoverPoint, setLockNum, RemoverPoint.writes, same, Function.update_of_ne (Ne.symm same)]
      · intro other enters
        obtain rfl := of_decide_eq_true enters
        exact .inr free
    next => cases locks
  | search queue crid =>
    rw [Contexts.removerStep] at taken
    split at taken
    · obtain rfl := Option.some.inj taken
      exact guarded.keepRemover present rfl rfl rfl (fun _ => rfl) (fun _ => rfl) (fun _ => rfl)
    · obtain rfl := Option.some.inj taken
      exact guarded.keepRemover present rfl rfl rfl (fun _ => rfl) (fun _ => rfl) (fun _ => rfl)
  | stop queue cr =>
    obtain rfl := Option.some.inj taken
    exact guarded.keepRemover present rfl rfl rfl (field_setRoutine_same CRoutine.lock rfl) (fun _ => rfl)
      (fun _ => rfl)
  | acquire queue cr =>
    obtain rfl := Option.some.inj taken
    refine guarded.remover present rfl rfl ?_ ?_ ?_
    · intro other
      have after : (((state.setRoutine cr (state.routine cr).acquire.2).toRemoverPoint index
          (if (state.routine cr).acquire.1 then .erase queue cr else .acquire queue cr)).routine other).lock =
          if other = cr then true else (state.routine other).lock := field_setRoutine CRoutine.lock cr other _
      rw [after]
      by_cases same : cr = other
      · subst same
        cases lock : (state.routine cr).lock <;> simp [CRoutine.acquire, lock, RemoverPoint.holds]
      · cases lock : (state.routine cr).lock <;>
          simp [CRoutine.acquire, lock, RemoverPoint.holds, same, Ne.symm same]
    · intro other
      cases lock : (state.routine cr).lock <;>
        simp [toRemoverPoint, setRoutine, CRoutine.acquire, lock, RemoverPoint.writes]
    · intro other enters
      left
      split at enters <;> exact enters
  | erase queue cr =>
    obtain rfl := Option.some.inj taken
    exact guarded.keepRemover present rfl rfl rfl (fun _ => rfl) (fun _ => rfl) (fun _ => rfl)
  | release queue cr =>
    obtain rfl := Option.some.inj taken
    have locked : (state.routine cr).lock = true :=
      guarded.locked_of_remover (List.mem_of_getElem? present) (by simp [RemoverPoint.holds])
    refine guarded.remover present rfl rfl ?_ (fun _ => rfl) (fun _ => .inl)
    intro other
    have after : (((state.setRoutine cr (state.routine cr).release).toRemoverPoint index
        (.writeUnlock queue (some cr))).routine other).lock =
        if other = cr then false else (state.routine other).lock := field_setRoutine CRoutine.lock cr other _
    rw [after]
    by_cases same : cr = other
    · subst same
      simp [RemoverPoint.holds, locked]
    · simp [RemoverPoint.holds, same, Ne.symm same]
  | writeUnlock queue found =>
    obtain rfl := Option.some.inj taken
    refine guarded.remover present rfl rfl (fun _ => rfl) ?_ (fun _ enters => Bool.noConfusion enters)
    intro other
    by_cases same : queue = other
    · subst same
      simp [toRemoverPoint, writeUnlock, setLockNum, RemoverPoint.writes]
    · simp [toRemoverPoint, writeUnlock, setLockNum, RemoverPoint.writes, same, Function.update_of_ne (Ne.symm same)]

omit [DecidableEq Object] in
theorem enqueue_some {queue : QueueName} {cr : Object} (taken : state.enqueue queue cr = some next) :
    next = { state with
      queue := Function.update state.queue queue ((state.queue queue).emplace (queue.key (state.routine cr)) cr) } := by
  rw [enqueue] at taken
  split at taken
  · exact (Option.some.inj taken).symm
  · cases taken

theorem Guarded.step (guarded : state.Guarded) {event : ContextsEvent Object} (taken : state.step event = some next) :
    next.Guarded := by
  cases event with
  | enqueue queue cr =>
    obtain rfl := enqueue_some taken
    exact guarded.aside rfl rfl rfl (fun _ => rfl)
  | setUpdateFlag cr =>
    obtain rfl := Option.some.inj taken
    exact guarded.aside rfl rfl rfl (field_setRoutine_same CRoutine.lock rfl)
  | stop cr =>
    obtain rfl := Option.some.inj taken
    exact guarded.aside rfl rfl rfl (field_setRoutine_same CRoutine.lock rfl)
  | processor index elapsed leaves =>
    obtain ⟨processor, present, moved⟩ := Option.bind_eq_some_iff.mp taken
    exact guarded.processorStep present moved
  | remove index queue crid =>
    rw [Contexts.step] at taken
    split at taken
    next idle =>
      obtain rfl := Option.some.inj taken
      exact guarded.keepRemover idle rfl rfl rfl (fun _ => rfl) (fun _ => rfl) (fun _ => rfl)
    next => cases taken
  | remover index =>
    obtain ⟨remover, present, moved⟩ := Option.bind_eq_some_iff.mp taken
    exact guarded.removerStep present moved

theorem guarded_start (contexts : List Context) (removers : Nat) (routine : Object → CRoutine) :
    (start contexts removers routine).Guarded := by
  have unread : ∀ queue, (start contexts removers routine).readers queue = 0 := by
    intro queue
    simp [readers, start, ProcessorPoint.reads, Function.comp_def]
  have unwritten : ∀ queue, (start contexts removers routine).writers queue = 0 := by
    intro queue
    simp [writers, start, RemoverPoint.writes]
  constructor
  · intro cr
    simp [holders, start, ProcessorPoint.holds, RemoverPoint.holds, CRoutine.release]
  · intro queue
    rw [unread, unwritten]
    rfl
  · exact fun queue => .inl (unwritten queue)

end Contexts

end CyberRT.Scheduler

import CyberRT.Timer.TimingWheel

namespace CyberRT.Timer

open Execution

theorem getWorkWheelIndex_val (index : Nat) : (getWorkWheelIndex index).val = index % 512 :=
  Nat.and_two_pow_sub_one_eq_mod index 9

theorem getAssistantWheelIndex_val (index : Nat) : (getAssistantWheelIndex index).val = index % 64 :=
  Nat.and_two_pow_sub_one_eq_mod index 6

theorem ceilTicks_bounds {ms : Nat} (positive : 1 ≤ ms) (small : ms < timerMaxIntervalMs) :
    1 ≤ ceilTicks ms ∧ ceilTicks ms ≤ 32768 := by
  simp only [timerMaxIntervalMs, workWheelSize, assistantWheelSize, timerResolutionMs] at small
  simp only [ceilTicks, timerResolutionMs]
  omega

inductive Place where
  | work (index : Fin workWheelSize)
  | assistant (index : Fin assistantWheelSize)
  deriving DecidableEq

namespace TimingWheel

variable {Task : Type}

def bucket (wheel : TimingWheel Task) : Place → List Task
  | .work index => wheel.workWheel index
  | .assistant index => wheel.assistantWheel index

def nextIndex (wheel : TimingWheel Task) : Nat :=
  match wheel.phase with
  | .sleeping => (wheel.currentWorkWheelIndex + 1) % 512
  | _ => wheel.currentWorkWheelIndex

/-- How many `Tick`s it takes until a task in this bucket is handed over. -/
def ticksLeft (wheel : TimingWheel Task) (task : Task) : Place → Nat
  | .work index => (index + 512 - wheel.nextIndex) % 512 + 1
  | .assistant index =>
    let remainder := (wheel.tasks task).remainderIntervalMs.val
    let work := wheel.currentWorkWheelIndex.val
    let assistant := wheel.currentAssistantWheelIndex.val
    match wheel.phase with
    | .ticking => 512 * ((index + 63 - assistant) % 64 + 1) - work + remainder + 1
    | .sleeping => 512 * ((index + 63 - assistant) % 64 + 1) - work + remainder
    | .wrapped => 512 * ((index + 63 - assistant) % 64) + remainder + 1
    | .cascading => 512 * ((index + 64 - assistant) % 64) + remainder + 1

/-- Between a wrap of the work wheel and `Cascade` the work index is 0. -/
def Aligned (wheel : TimingWheel Task) : Prop :=
  wheel.phase = .wrapped ∨ wheel.phase = .cascading → wheel.currentWorkWheelIndex.val = 0

theorem work_lt (index : Fin workWheelSize) : index.val < 512 := index.isLt

theorem assistant_lt (index : Fin assistantWheelSize) : index.val < 64 := index.isLt

theorem pushWork_tasks (wheel : TimingWheel Task) (index : Fin workWheelSize) (task : Task) :
    (wheel.pushWork index task).tasks = wheel.tasks := rfl

theorem cascadeTasks_fields (wheel : TimingWheel Task) (tasks : List Task) :
    wheel.cascadeTasks tasks = { wheel with workWheel := (wheel.cascadeTasks tasks).workWheel } := by
  induction tasks generalizing wheel with
  | nil => rfl
  | cons head rest ih =>
    simp only [cascadeTasks, List.foldl_cons] at ih ⊢
    split
    · exact ih wheel
    · rw [ih]
      rfl

theorem cascade_tasks (wheel : TimingWheel Task) (index : Fin assistantWheelSize) :
    (wheel.cascade index).tasks = wheel.tasks := by
  rw [cascade, cascadeTasks_fields]

theorem cascade_indices (wheel : TimingWheel Task) (index : Fin assistantWheelSize) :
    (wheel.cascade index).currentWorkWheelIndex = wheel.currentWorkWheelIndex ∧
      (wheel.cascade index).currentAssistantWheelIndex = wheel.currentAssistantWheelIndex := by
  rw [cascade, cascadeTasks_fields]
  exact ⟨rfl, rfl⟩

theorem cascade_assistant (wheel : TimingWheel Task) (index place : Fin assistantWheelSize) :
    (wheel.cascade index).bucket (.assistant place) = if place = index then [] else wheel.assistantWheel place := by
  simp only [cascade, bucket, Function.update_apply]

theorem tick_bucket (wheel : TimingWheel Task) (place : Place) :
    wheel.tick.bucket place = if place = .work wheel.currentWorkWheelIndex then [] else wheel.bucket place := by
  cases place with
  | work index => simp only [tick, bucket, Function.update_apply, Place.work.injEq]
  | assistant index => simp [tick, bucket]

theorem ticksLeft_one (wheel : TimingWheel Task) (ticking : wheel.phase = .ticking) (task : Task) (place : Place) :
    wheel.ticksLeft task place = 1 ↔ place = .work wheel.currentWorkWheelIndex := by
  have work := work_lt wheel.currentWorkWheelIndex
  cases place with
  | work index =>
    have bound := work_lt index
    simp only [ticksLeft, nextIndex, ticking, Place.work.injEq, Fin.ext_iff]
    omega
  | assistant index =>
    simp only [ticksLeft, ticking, reduceCtorEq, iff_false]
    omega

theorem ticksLeft_tick (wheel : TimingWheel Task) (ticking : wheel.phase = .ticking) (task : Task) {place : Place}
    (other : place ≠ .work wheel.currentWorkWheelIndex) :
    wheel.tick.ticksLeft task place + 1 = wheel.ticksLeft task place := by
  have work := work_lt wheel.currentWorkWheelIndex
  cases place with
  | work index =>
    have bound := work_lt index
    simp only [ne_eq, Place.work.injEq, Fin.ext_iff] at other
    simp only [ticksLeft, nextIndex, tick, ticking]
    omega
  | assistant index => simp only [ticksLeft, tick, ticking]

theorem ticksLeft_advanceWork (wheel : TimingWheel Task) (sleeping : wheel.phase = .sleeping) (task : Task)
    (place : Place) : wheel.advanceWork.ticksLeft task place = wheel.ticksLeft task place := by
  have work := work_lt wheel.currentWorkWheelIndex
  have index := getWorkWheelIndex_val (wheel.currentWorkWheelIndex + 1)
  by_cases wraps : (wheel.currentWorkWheelIndex.val + 1) % 512 = 0
  · cases place with
    | work spot => simp only [ticksLeft, nextIndex, advanceWork, sleeping, index, if_pos wraps]
    | assistant spot =>
      simp only [ticksLeft, advanceWork, sleeping, index, if_pos wraps]
      omega
  · cases place with
    | work spot => simp only [ticksLeft, nextIndex, advanceWork, sleeping, index, if_neg wraps]
    | assistant spot =>
      simp only [ticksLeft, advanceWork, sleeping, index, if_neg wraps]
      omega

theorem ticksLeft_advanceAssistant (wheel : TimingWheel Task) (wrapped : wheel.phase = .wrapped) (task : Task)
    (place : Place) : wheel.advanceAssistant.ticksLeft task place = wheel.ticksLeft task place := by
  have assistant := assistant_lt wheel.currentAssistantWheelIndex
  have index := getAssistantWheelIndex_val (wheel.currentAssistantWheelIndex + 1)
  cases place with
  | work spot => simp only [ticksLeft, nextIndex, advanceAssistant, wrapped]
  | assistant spot =>
    have bound := assistant_lt spot
    simp only [ticksLeft, advanceAssistant, wrapped, index]
    omega

theorem ticksLeft_cascade (wheel : TimingWheel Task) (cascading : wheel.phase = .cascading)
    (aligned : wheel.Aligned) (task : Task) {place : Place}
    (other : place ≠ .assistant wheel.currentAssistantWheelIndex) :
    (wheel.cascade wheel.currentAssistantWheelIndex).ticksLeft task place = wheel.ticksLeft task place := by
  have zero := aligned (.inr cascading)
  have assistant := assistant_lt wheel.currentAssistantWheelIndex
  obtain ⟨work, same⟩ := wheel.cascade_indices wheel.currentAssistantWheelIndex
  have phase : (wheel.cascade wheel.currentAssistantWheelIndex).phase = .ticking := rfl
  cases place with
  | work spot => simp only [ticksLeft, nextIndex, phase, cascading, work]
  | assistant spot =>
    have bound := assistant_lt spot
    simp only [ne_eq, Place.assistant.injEq, Fin.ext_iff] at other
    simp only [ticksLeft, phase, cascading, work, same, cascade_tasks, zero]
    omega

theorem ticksLeft_cascaded (wheel : TimingWheel Task) (cascading : wheel.phase = .cascading)
    (aligned : wheel.Aligned) (task : Task) :
    (wheel.cascade wheel.currentAssistantWheelIndex).ticksLeft task (.work (wheel.tasks task).remainderIntervalMs) =
      wheel.ticksLeft task (.assistant wheel.currentAssistantWheelIndex) := by
  have zero := aligned (.inr cascading)
  have remainder := work_lt (wheel.tasks task).remainderIntervalMs
  obtain ⟨work, same⟩ := wheel.cascade_indices wheel.currentAssistantWheelIndex
  have phase : (wheel.cascade wheel.currentAssistantWheelIndex).phase = .ticking := rfl
  simp only [ticksLeft, nextIndex, phase, cascading, work, zero]
  omega

variable [DecidableEq Task]

def Idle (wheel : TimingWheel Task) (task : Task) : Prop := ∀ place, (wheel.bucket place).count task = 0

/-- The task is in this bucket, once, and in no other. -/
def Sits (wheel : TimingWheel Task) (task : Task) (place : Place) : Prop :=
  ∀ other, (wheel.bucket other).count task = if other = place then 1 else 0

/-- The task is alive, in one bucket, and the `left`-th `Tick` from now hands it over. -/
structure Waits (wheel : TimingWheel Task) (task : Task) (left : Nat) : Prop where
  alive : wheel.expired task = false
  sits : ∃ place, wheel.Sits task place ∧ wheel.ticksLeft task place = left

/-- The numbers of the `Tick`s that handed the task to `Async`. -/
def handedAt (wheel : TimingWheel Task) (task : Task) : List Nat :=
  (wheel.async.filter fun handed => handed.2 = task).map Prod.fst

theorem count_pushWork (wheel : TimingWheel Task) (task other : Task) (index place : Fin workWheelSize) :
    ((wheel.pushWork index other).workWheel place).count task =
      (wheel.workWheel place).count task + if other = task ∧ index = place then 1 else 0 := by
  simp only [pushWork]
  by_cases here : place = index
  · subst here
    rw [Function.update_self, List.count_append, List.count_singleton]
    simp
  · rw [Function.update_of_ne here]
    simp [Ne.symm here]

theorem count_cascadeTasks (wheel : TimingWheel Task) (task : Task) (alive : wheel.expired task = false)
    (tasks : List Task) (place : Fin workWheelSize) :
    ((wheel.cascadeTasks tasks).workWheel place).count task =
      (wheel.workWheel place).count task +
        if (wheel.tasks task).remainderIntervalMs = place then tasks.count task else 0 := by
  induction tasks generalizing wheel with
  | nil => simp [cascadeTasks]
  | cons head rest ih =>
    simp only [cascadeTasks, List.foldl_cons] at ih ⊢
    by_cases dead : wheel.expired head = true
    · have other : head ≠ task := by
        rintro rfl
        rw [alive] at dead
        cases dead
      rw [if_pos dead, ih wheel alive, List.count_cons_of_ne other]
    · rw [if_neg dead, ih (wheel.pushWork _ head) alive, count_pushWork, pushWork_tasks]
      by_cases same : head = task
      · subst same
        by_cases here : (wheel.tasks head).remainderIntervalMs = place
        · simp only [here, and_self, if_true, List.count_cons_self]
          omega
        · simp [here]
      · simp [same]

theorem count_cascade_work (wheel : TimingWheel Task) {task : Task} (alive : wheel.expired task = false)
    (index : Fin assistantWheelSize) (place : Fin workWheelSize) :
    ((wheel.cascade index).bucket (.work place)).count task = (wheel.workWheel place).count task +
      if (wheel.tasks task).remainderIntervalMs = place then (wheel.assistantWheel index).count task else 0 := by
  simp only [cascade, bucket]
  exact count_cascadeTasks wheel task alive _ place

theorem handedAt_tick (wheel : TimingWheel Task) {task : Task} (alive : wheel.expired task = false) :
    wheel.tick.handedAt task = wheel.handedAt task ++
      List.replicate ((wheel.workWheel wheel.currentWorkWheelIndex).count task) (wheel.tickCount + 1) := by
  simp only [handedAt, tick, List.filter_append, List.map_append]
  congr 1
  generalize wheel.workWheel wheel.currentWorkWheelIndex = tasks
  induction tasks with
  | nil => rfl
  | cons head rest ih =>
    by_cases same : head = task
    · subst same
      rw [List.filter_cons_of_pos (by simp [alive]), List.map_cons, List.filter_cons_of_pos (by simp), List.map_cons,
        ih, List.count_cons_self, List.replicate_succ]
    · rw [List.count_cons_of_ne same, ← ih, List.filter_cons]
      split
      · rw [List.map_cons, List.filter_cons_of_neg (by simpa using same)]
      · rfl

/-- The `Tick` at which the countdown ends hands the task over, once, and forgets it. -/
theorem Waits.tick_last {wheel : TimingWheel Task} {task : Task} (waits : wheel.Waits task 1)
    (ticking : wheel.phase = .ticking) :
    wheel.tick.Idle task ∧ wheel.tick.handedAt task = wheel.handedAt task ++ [wheel.tickCount + 1] := by
  obtain ⟨place, sits, left⟩ := waits.sits
  have here := (wheel.ticksLeft_one ticking task place).mp left
  subst here
  constructor
  · intro place
    rw [tick_bucket]
    split
    · rfl
    · rename_i other
      rw [sits place, if_neg other]
  · have once := sits (.work wheel.currentWorkWheelIndex)
    rw [if_pos rfl] at once
    rw [handedAt_tick wheel waits.alive]
    simp only [bucket] at once
    rw [once]
    rfl

theorem Waits.tick_before {wheel : TimingWheel Task} {task : Task} {left : Nat} (waits : wheel.Waits task (left + 2))
    (ticking : wheel.phase = .ticking) :
    wheel.tick.Waits task (left + 1) ∧ wheel.tick.handedAt task = wheel.handedAt task := by
  obtain ⟨place, sits, remaining⟩ := waits.sits
  have other : place ≠ .work wheel.currentWorkWheelIndex := by
    intro here
    rw [← wheel.ticksLeft_one ticking task, remaining] at here
    omega
  constructor
  · refine ⟨waits.alive, place, ?_, ?_⟩
    · intro spot
      rw [tick_bucket]
      split
      · rename_i current
        rw [if_neg (by rw [current]; exact Ne.symm other)]
        rfl
      · exact sits spot
    · have counted := wheel.ticksLeft_tick ticking task other
      omega
  · have none := sits (.work wheel.currentWorkWheelIndex)
    rw [if_neg (Ne.symm other)] at none
    rw [handedAt_tick wheel waits.alive]
    simp only [bucket] at none
    rw [none, List.replicate_zero, List.append_nil]

end TimingWheel

end CyberRT.Timer

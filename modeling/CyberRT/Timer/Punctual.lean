import CyberRT.Timer.Countdown

namespace CyberRT.Timer

open Execution

namespace TimingWheel

variable {Task : Type}

theorem advanceWork_bucket (wheel : TimingWheel Task) (place : Place) :
    wheel.advanceWork.bucket place = wheel.bucket place := by
  cases place <;> rfl

theorem advanceAssistant_bucket (wheel : TimingWheel Task) (place : Place) :
    wheel.advanceAssistant.bucket place = wheel.bucket place := by
  cases place <;> rfl

theorem pushWork_bucket (wheel : TimingWheel Task) (index : Fin workWheelSize) (task : Task) (place : Place) :
    (wheel.pushWork index task).bucket place =
      if place = .work index then wheel.bucket place ++ [task] else wheel.bucket place := by
  cases place with
  | work spot =>
    simp only [pushWork, bucket, Function.update_apply, Place.work.injEq]
    split
    · rename_i here
      rw [here]
    · rfl
  | assistant spot => simp [pushWork, bucket]

theorem pushAssistant_bucket (wheel : TimingWheel Task) (index : Fin assistantWheelSize) (task : Task)
    (place : Place) :
    (wheel.pushAssistant index task).bucket place =
      if place = .assistant index then wheel.bucket place ++ [task] else wheel.bucket place := by
  cases place with
  | work spot => simp [pushAssistant, bucket]
  | assistant spot =>
    simp only [pushAssistant, bucket, Function.update_apply, Place.assistant.injEq]
    split
    · rename_i here
      rw [here]
    · rfl

/-- The bucket that `AddTask` chooses for a task that is to wait this many ticks. -/
def placeOf (wheel : TimingWheel Task) (ticks : Nat) : Place :=
  let workWheelIndex := wheel.currentWorkWheelIndex + ticks
  if fits : workWheelIndex < workWheelSize then .work ⟨workWheelIndex, fits⟩
  else if workWheelIndex / workWheelSize = 1 ∧ getWorkWheelIndex workWheelIndex < wheel.currentWorkWheelIndex then
    .work (getWorkWheelIndex workWheelIndex)
  else .assistant (getAssistantWheelIndex (wheel.currentAssistantWheelIndex + workWheelIndex / workWheelSize))

theorem placeOf_short (wheel : TimingWheel Task) {ticks : Nat} (short : wheel.currentWorkWheelIndex + ticks < 512) :
    wheel.placeOf ticks = .work ⟨wheel.currentWorkWheelIndex + ticks, short⟩ := dif_pos short

theorem placeOf_around (wheel : TimingWheel Task) {ticks : Nat} (long : 512 ≤ wheel.currentWorkWheelIndex + ticks)
    (turn : ticks < 512) :
    wheel.placeOf ticks = .work (getWorkWheelIndex (wheel.currentWorkWheelIndex + ticks)) := by
  have bound := work_lt wheel.currentWorkWheelIndex
  have index := getWorkWheelIndex_val (wheel.currentWorkWheelIndex + ticks)
  have around : (wheel.currentWorkWheelIndex + ticks) / 512 = 1 ∧
      getWorkWheelIndex (wheel.currentWorkWheelIndex + ticks) < wheel.currentWorkWheelIndex := by
    rw [Fin.lt_def, index]
    omega
  exact (dif_neg (Nat.not_lt.mpr long)).trans (if_pos around)

theorem placeOf_long (wheel : TimingWheel Task) {ticks : Nat} (turn : 512 ≤ ticks) :
    wheel.placeOf ticks = .assistant (getAssistantWheelIndex
      (wheel.currentAssistantWheelIndex + (wheel.currentWorkWheelIndex + ticks) / 512)) := by
  have bound := work_lt wheel.currentWorkWheelIndex
  have index := getWorkWheelIndex_val (wheel.currentWorkWheelIndex + ticks)
  have far : ¬ ((wheel.currentWorkWheelIndex + ticks) / 512 = 1 ∧
      getWorkWheelIndex (wheel.currentWorkWheelIndex + ticks) < wheel.currentWorkWheelIndex) := by
    rw [Fin.lt_def, index]
    omega
  exact (dif_neg (Nat.not_lt.mpr (Nat.le_add_left_of_le turn))).trans (if_neg far)

/-- The number of the following `Tick` that hands over a task added now with this duration. -/
def firesAfter (wheel : TimingWheel Task) (ms : Nat) : Nat :=
  match wheel.phase with
  | .sleeping => ceilTicks ms
  | .ticking => ceilTicks ms + 1
  | .wrapped => if ceilTicks ms < 512 then ceilTicks ms + 1 else ceilTicks ms + 1 - 512
  | .cascading => if ceilTicks ms < 32768 then ceilTicks ms + 1 else 1

theorem firesAfter_pos (wheel : TimingWheel Task) {ms : Nat} (positive : 1 ≤ ms) (small : ms < timerMaxIntervalMs) :
    1 ≤ wheel.firesAfter ms := by
  have ticks := ceilTicks_bounds positive small
  unfold firesAfter
  split
  · exact ticks.1
  · omega
  · split <;> omega
  · split <;> omega

theorem firesAfter_turn (wheel : TimingWheel Task) {ms : Nat} (turn : ceilTicks ms < 512) :
    wheel.firesAfter ms = if wheel.phase = .sleeping then ceilTicks ms else ceilTicks ms + 1 := by
  unfold firesAfter
  cases wheel.phase with
  | ticking => rfl
  | sleeping => rfl
  | wrapped => simp [turn]
  | cascading =>
    have large : ceilTicks ms < 32768 := by omega
    simp [large]

theorem nextIndex_eq (wheel : TimingWheel Task) :
    wheel.nextIndex = if wheel.phase = .sleeping then (wheel.currentWorkWheelIndex.val + 1) % 512
      else wheel.currentWorkWheelIndex.val := by
  unfold nextIndex
  cases wheel.phase <;> rfl

variable [DecidableEq Task]

theorem addTask_frame (wheel : TimingWheel Task) (task : Task) (ms : Nat) :
    wheel.addTask task ms = { wheel with
      running := true
      workWheel := (wheel.addTask task ms).workWheel
      assistantWheel := (wheel.addTask task ms).assistantWheel
      tasks := (wheel.addTask task ms).tasks } := by
  simp only [addTask, addTaskAt]
  split
  · rfl
  · split <;> rfl

theorem addTask_bucket (wheel : TimingWheel Task) (task : Task) (ms : Nat) (place : Place) :
    (wheel.addTask task ms).bucket place =
      if place = wheel.placeOf (ceilTicks ms) then wheel.bucket place ++ [task] else wheel.bucket place := by
  simp only [addTask, addTaskAt, placeOf, Function.update_self]
  split
  · rw [pushWork_bucket]
    cases place <;> rfl
  · split
    · rw [pushWork_bucket]
      cases place <;> rfl
    · rw [pushAssistant_bucket]
      cases place <;> rfl

theorem addTask_other_tasks (wheel : TimingWheel Task) {task other : Task} (ms : Nat) (differs : other ≠ task) :
    (wheel.addTask task ms).tasks other = wheel.tasks other := by
  simp only [addTask, addTaskAt]
  split
  · simp [pushWork, differs]
  · split <;> simp [pushWork, pushAssistant, setRemainder, differs]

theorem addTask_remainder (wheel : TimingWheel Task) (task : Task) (ms : Nat)
    (long : 512 ≤ wheel.currentWorkWheelIndex + ceilTicks ms) :
    ((wheel.addTask task ms).tasks task).remainderIntervalMs =
      getWorkWheelIndex (wheel.currentWorkWheelIndex + ceilTicks ms) := by
  simp only [addTask, addTaskAt, Function.update_self]
  rw [dif_neg (by simpa only [workWheelSize, Nat.not_lt] using long)]
  split <;> simp [pushWork, pushAssistant, setRemainder]

theorem addTask_phase (wheel : TimingWheel Task) (task : Task) (ms : Nat) :
    (wheel.addTask task ms).phase = wheel.phase := by
  rw [addTask_frame]

theorem addTask_indices (wheel : TimingWheel Task) (task : Task) (ms : Nat) :
    (wheel.addTask task ms).currentWorkWheelIndex = wheel.currentWorkWheelIndex ∧
      (wheel.addTask task ms).currentAssistantWheelIndex = wheel.currentAssistantWheelIndex := by
  rw [addTask_frame]
  exact ⟨rfl, rfl⟩

theorem addTask_handedAt (wheel : TimingWheel Task) (task other : Task) (ms : Nat) :
    (wheel.addTask task ms).handedAt other = wheel.handedAt other := by
  rw [addTask_frame]
  rfl

theorem addTask_nextIndex (wheel : TimingWheel Task) (task : Task) (ms : Nat) :
    (wheel.addTask task ms).nextIndex = wheel.nextIndex := by
  rw [addTask_frame]
  rfl

theorem ticksLeft_addTask (wheel : TimingWheel Task) (aligned : wheel.Aligned) (task : Task) {ms : Nat}
    (positive : 1 ≤ ms) (small : ms < timerMaxIntervalMs) :
    (wheel.addTask task ms).ticksLeft task (wheel.placeOf (ceilTicks ms)) = wheel.firesAfter ms := by
  obtain ⟨least, most⟩ := ceilTicks_bounds positive small
  have workBound := work_lt wheel.currentWorkWheelIndex
  have index := getWorkWheelIndex_val (wheel.currentWorkWheelIndex + ceilTicks ms)
  by_cases turn : ceilTicks ms < 512
  · rw [firesAfter_turn wheel turn]
    by_cases short : wheel.currentWorkWheelIndex + ceilTicks ms < 512
    · rw [placeOf_short wheel short]
      simp only [ticksLeft, addTask_nextIndex]
      rw [nextIndex_eq]
      by_cases asleep : wheel.phase = .sleeping
      · rw [if_pos asleep, if_pos asleep]
        omega
      · rw [if_neg asleep, if_neg asleep]
        omega
    · rw [placeOf_around wheel (Nat.le_of_not_lt short) turn]
      simp only [ticksLeft, addTask_nextIndex, index]
      rw [nextIndex_eq]
      by_cases asleep : wheel.phase = .sleeping
      · rw [if_pos asleep, if_pos asleep]
        omega
      · rw [if_neg asleep, if_neg asleep]
        omega
  · have long : 512 ≤ wheel.currentWorkWheelIndex + ceilTicks ms := by omega
    obtain ⟨work, assistant⟩ := wheel.addTask_indices task ms
    have assistantBound := assistant_lt wheel.currentAssistantWheelIndex
    rw [placeOf_long wheel (Nat.le_of_not_lt turn)]
    simp only [ticksLeft, addTask_remainder wheel task ms long, index, addTask_phase, work, assistant,
      getAssistantWheelIndex_val, firesAfter]
    cases phase : wheel.phase with
    | ticking =>
      simp only
      omega
    | sleeping =>
      simp only
      omega
    | wrapped =>
      have zero := aligned (.inl phase)
      simp only [zero, if_neg turn]
      omega
    | cascading =>
      have zero := aligned (.inr phase)
      simp only [zero]
      split <;> omega

theorem addTask_waits {wheel : TimingWheel Task} (aligned : wheel.Aligned) {task : Task} (idle : wheel.Idle task)
    (alive : wheel.expired task = false) {ms : Nat} (positive : 1 ≤ ms) (small : ms < timerMaxIntervalMs) :
    (wheel.addTask task ms).Waits task (wheel.firesAfter ms) := by
  refine ⟨?_, wheel.placeOf (ceilTicks ms), ?_, wheel.ticksLeft_addTask aligned task positive small⟩
  · rw [addTask_frame]
    exact alive
  · intro place
    rw [addTask_bucket]
    split
    · rw [List.count_append, idle place, List.count_singleton_self]
    · exact idle place

theorem Waits.of_same {wheel next : TimingWheel Task} {task : Task} {left : Nat} (waits : wheel.Waits task left)
    (alive : next.expired task = wheel.expired task)
    (buckets : ∀ place, (next.bucket place).count task = (wheel.bucket place).count task)
    (countdown : ∀ place, next.ticksLeft task place = wheel.ticksLeft task place) : next.Waits task left := by
  obtain ⟨place, sits, remaining⟩ := waits.sits
  refine ⟨alive.trans waits.alive, place, ?_, (countdown place).trans remaining⟩
  intro other
  rw [buckets]
  exact sits other

theorem addTask_count_other (wheel : TimingWheel Task) {task other : Task} (differs : task ≠ other) (ms : Nat)
    (place : Place) :
    ((wheel.addTask other ms).bucket place).count task = (wheel.bucket place).count task := by
  rw [addTask_bucket]
  split
  · rw [List.count_append, List.count_singleton, if_neg (by simpa using Ne.symm differs), Nat.add_zero]
  · rfl

theorem ticksLeft_addTask_other (wheel : TimingWheel Task) {task other : Task} (differs : task ≠ other) (ms : Nat)
    (place : Place) : (wheel.addTask other ms).ticksLeft task place = wheel.ticksLeft task place := by
  obtain ⟨work, assistant⟩ := wheel.addTask_indices other ms
  cases place with
  | work index => simp only [ticksLeft, addTask_nextIndex]
  | assistant index =>
    simp only [ticksLeft, addTask_phase, work, assistant, addTask_other_tasks wheel ms differs]

theorem Waits.cascaded {wheel : TimingWheel Task} {task : Task} {left : Nat} (waits : wheel.Waits task left)
    (aligned : wheel.Aligned) (cascading : wheel.phase = .cascading) :
    (wheel.cascade wheel.currentAssistantWheelIndex).Waits task left := by
  have alive : (wheel.cascade wheel.currentAssistantWheelIndex).expired task = false := by
    rw [cascade, cascadeTasks_fields]
    exact waits.alive
  obtain ⟨place, sits, remaining⟩ := waits.sits
  by_cases here : place = .assistant wheel.currentAssistantWheelIndex
  · subst here
    refine ⟨alive, .work (wheel.tasks task).remainderIntervalMs, ?_,
      (wheel.ticksLeft_cascaded cascading aligned task).trans remaining⟩
    intro other
    cases other with
    | work spot =>
      have none := sits (.work spot)
      have once := sits (.assistant wheel.currentAssistantWheelIndex)
      simp only [bucket, reduceCtorEq, if_false, if_true] at none once
      rw [count_cascade_work wheel waits.alive, none, once]
      simp only [Place.work.injEq, Nat.zero_add, eq_comm]
    | assistant spot =>
      have once := sits (.assistant spot)
      rw [cascade_assistant]
      simp only [bucket, Place.assistant.injEq, reduceCtorEq, if_false] at once ⊢
      split
      · rfl
      · rename_i differs
        rw [once, if_neg differs]
  · refine ⟨alive, place, ?_, (wheel.ticksLeft_cascade cascading aligned task here).trans remaining⟩
    have empty := sits (.assistant wheel.currentAssistantWheelIndex)
    rw [if_neg (Ne.symm here)] at empty
    simp only [bucket] at empty
    intro other
    cases other with
    | work spot =>
      rw [count_cascade_work wheel waits.alive, empty, ite_self, Nat.add_zero]
      exact sits (.work spot)
    | assistant spot =>
      rw [cascade_assistant]
      split
      · rename_i same
        subst same
        rw [if_neg (Ne.symm here)]
        rfl
      · exact sits (.assistant spot)

theorem aligned_step {wheel next : TimingWheel Task} {event : WheelEvent Task} (aligned : wheel.Aligned)
    (taken : step wheel event = some next) : next.Aligned := by
  obtain ⟨enabled, rfl⟩ := step_some taken
  cases event with
  | addTask task ms =>
    simp only [apply, Aligned, addTask_phase, (wheel.addTask_indices task ms).1]
    exact aligned
  | release task => exact aligned
  | shutdown => exact aligned
  | tick => simp [apply, tick, Aligned]
  | advanceWork =>
    intro late
    simp only [apply, advanceWork] at late ⊢
    by_contra nonzero
    rw [if_neg nonzero] at late
    simp at late
  | advanceAssistant =>
    intro _
    exact aligned (.inl enabled)
  | cascade => simp [apply, cascade, Aligned]

theorem aligned_run {wheel : TimingWheel Task} {events : List (WheelEvent Task)}
    (ran : run step {} events = some wheel) : wheel.Aligned :=
  run_invariant (fun wheel _ => wheel.Aligned) (fun _ _ _ _ taken aligned => aligned_step aligned taken)
    (fun _ => rfl) ran

end TimingWheel

/-- The event adds this task again or drops the last reference to it. -/
def WheelEvent.Touches {Task : Type} (task : Task) : WheelEvent Task → Prop
  | .addTask other _ => other = task
  | .release other => other = task
  | _ => False

instance {Task : Type} [DecidableEq Task] (task : Task) : (event : WheelEvent Task) → Decidable (event.Touches task)
  | .addTask other _ => inferInstanceAs (Decidable (other = task))
  | .release other => inferInstanceAs (Decidable (other = task))
  | .shutdown | .tick | .advanceWork | .advanceAssistant | .cascade => inferInstanceAs (Decidable False)

namespace TimingWheel

variable {Task : Type} [DecidableEq Task]

theorem step_tickCount {wheel next : TimingWheel Task} {event : WheelEvent Task}
    (taken : step wheel event = some next) :
    next.tickCount = wheel.tickCount + if event = .tick then 1 else 0 := by
  obtain ⟨_, rfl⟩ := step_some taken
  cases event with
  | addTask task ms =>
    rw [apply, addTask_frame]
    simp
  | cascade =>
    rw [apply, cascade, cascadeTasks_fields]
    simp
  | tick => simp [apply, tick]
  | _ => simp [apply, advanceWork, advanceAssistant]

theorem run_tickCount {wheel final : TimingWheel Task} {events : List (WheelEvent Task)}
    (ran : run step wheel events = some final) : wheel.tickCount ≤ final.tickCount := by
  apply run_invariant (fun reached _ => wheel.tickCount ≤ reached.tickCount) ?_ (Nat.le_refl _) ran
  intro state _ event next taken before
  have counted := step_tickCount taken
  omega

/-- While nobody touches a waiting task, a step other than `Tick` leaves it waiting. -/
theorem Waits.silent {wheel next : TimingWheel Task} {event : WheelEvent Task} {task : Task} {left : Nat}
    (waits : wheel.Waits task left) (aligned : wheel.Aligned) (taken : step wheel event = some next)
    (untouched : ¬ event.Touches task) (silent : event ≠ .tick) :
    next.Waits task left ∧ next.handedAt task = wheel.handedAt task := by
  obtain ⟨enabled, rfl⟩ := step_some taken
  cases event with
  | addTask other ms =>
    have differs : task ≠ other := fun same => untouched same.symm
    refine ⟨waits.of_same ?_ (wheel.addTask_count_other differs ms) (wheel.ticksLeft_addTask_other differs ms),
      wheel.addTask_handedAt other task ms⟩
    rw [apply, addTask_frame]
  | release other =>
    have differs : task ≠ other := fun same => untouched same.symm
    exact ⟨waits.of_same (Function.update_of_ne differs ..) (fun _ => rfl) (fun _ => rfl), rfl⟩
  | shutdown => exact ⟨waits.of_same rfl (fun _ => rfl) (fun _ => rfl), rfl⟩
  | tick => exact absurd rfl silent
  | advanceWork =>
    exact ⟨waits.of_same rfl (fun _ => by rw [apply, advanceWork_bucket]) (wheel.ticksLeft_advanceWork enabled task), rfl⟩
  | advanceAssistant =>
    exact ⟨waits.of_same rfl (fun _ => by rw [apply, advanceAssistant_bucket])
      (wheel.ticksLeft_advanceAssistant enabled task), rfl⟩
  | cascade =>
    refine ⟨waits.cascaded aligned enabled, ?_⟩
    rw [apply, cascade, cascadeTasks_fields]
    rfl

theorem Idle.keeps {wheel next : TimingWheel Task} {event : WheelEvent Task} {task : Task} (idle : wheel.Idle task)
    (alive : wheel.expired task = false) (taken : step wheel event = some next) (untouched : ¬ event.Touches task) :
    next.Idle task ∧ next.expired task = false ∧ next.handedAt task = wheel.handedAt task := by
  obtain ⟨enabled, rfl⟩ := step_some taken
  cases event with
  | addTask other ms =>
    have differs : task ≠ other := fun same => untouched same.symm
    refine ⟨fun place => (wheel.addTask_count_other differs ms place).trans (idle place), ?_,
      wheel.addTask_handedAt other task ms⟩
    rw [apply, addTask_frame]
    exact alive
  | release other =>
    have differs : task ≠ other := fun same => untouched same.symm
    exact ⟨idle, (Function.update_of_ne differs ..).trans alive, rfl⟩
  | shutdown => exact ⟨idle, alive, rfl⟩
  | tick =>
    have none := idle (.work wheel.currentWorkWheelIndex)
    simp only [bucket] at none
    refine ⟨?_, alive, ?_⟩
    · intro place
      rw [apply, tick_bucket]
      split
      · rfl
      · exact idle place
    · rw [apply, handedAt_tick wheel alive, none, List.replicate_zero, List.append_nil]
  | advanceWork =>
    refine ⟨?_, alive, rfl⟩
    intro place
    rw [apply, advanceWork_bucket, idle place]
  | advanceAssistant =>
    refine ⟨?_, alive, rfl⟩
    intro place
    rw [apply, advanceAssistant_bucket, idle place]
  | cascade =>
    refine ⟨?_, ?_, ?_⟩
    · intro place
      cases place with
      | work spot =>
        have here := idle (.work spot)
        have there := idle (.assistant wheel.currentAssistantWheelIndex)
        simp only [bucket] at here there
        rw [apply, count_cascade_work wheel alive, here, there, ite_self]
      | assistant spot =>
        rw [apply, cascade_assistant]
        split
        · rfl
        · exact idle (.assistant spot)
    · rw [apply, cascade, cascadeTasks_fields]
      exact alive
    · rw [apply, cascade, cascadeTasks_fields]
      rfl

theorem idle_start (task : Task) : ({} : TimingWheel Task).Idle task := by
  intro place
  cases place <;> rfl

theorem idle_run {wheel final : TimingWheel Task} {events : List (WheelEvent Task)} {task : Task}
    (idle : wheel.Idle task) (alive : wheel.expired task = false)
    (untouched : ∀ event ∈ events, ¬ event.Touches task) (ran : run step wheel events = some final) :
    final.Idle task ∧ final.expired task = false ∧ final.handedAt task = wheel.handedAt task := by
  induction events generalizing wheel with
  | nil =>
    cases ran
    exact ⟨idle, alive, rfl⟩
  | cons event rest ih =>
    obtain ⟨next, taken, ran⟩ := run_cons_some ran
    obtain ⟨still, living, same⟩ := idle.keeps alive taken (untouched event (List.mem_cons_self ..))
    obtain ⟨last, living', handed⟩ := ih still living
      (fun other member => untouched other (List.mem_cons_of_mem _ member)) ran
    exact ⟨last, living', handed.trans same⟩

/-- In every run that leaves a waiting task alone, the `left`-th `Tick` hands it over and no other does. -/
theorem waits_run {wheel final : TimingWheel Task} {events : List (WheelEvent Task)} {task : Task} {left : Nat}
    (waits : wheel.Waits task (left + 1)) (aligned : wheel.Aligned)
    (untouched : ∀ event ∈ events, ¬ event.Touches task) (ran : run step wheel events = some final) :
    (final.tickCount ≤ wheel.tickCount + left ∧ ¬ final.Idle task ∧ final.handedAt task = wheel.handedAt task) ∨
    (wheel.tickCount + left < final.tickCount ∧ final.Idle task ∧
      final.handedAt task = wheel.handedAt task ++ [wheel.tickCount + left + 1]) := by
  induction events generalizing wheel left with
  | nil =>
    cases ran
    left
    refine ⟨Nat.le_add_right .., ?_, rfl⟩
    intro idle
    obtain ⟨place, sits, _⟩ := waits.sits
    have once := sits place
    rw [if_pos rfl, idle place] at once
    cases once
  | cons event rest ih =>
    obtain ⟨next, taken, ran⟩ := run_cons_some ran
    have aligned' := aligned_step aligned taken
    have count := step_tickCount taken
    have here := untouched event (List.mem_cons_self ..)
    have later : ∀ other ∈ rest, ¬ other.Touches task := fun other member =>
      untouched other (List.mem_cons_of_mem _ member)
    by_cases ticks : event = .tick
    · subst ticks
      rw [if_pos rfl] at count
      obtain ⟨enabled, rfl⟩ := step_some taken
      cases left with
      | zero =>
        obtain ⟨idle, handed⟩ := waits.tick_last enabled.2
        obtain ⟨last, _, same⟩ := idle_run idle waits.alive later ran
        have more := run_tickCount ran
        right
        refine ⟨by omega, last, ?_⟩
        rw [same]
        exact handed
      | succ left =>
        obtain ⟨still, same⟩ := waits.tick_before enabled.2
        have shift : wheel.tick.tickCount + left = wheel.tickCount + (left + 1) := by
          simp only [tick]
          omega
        have rest := ih still aligned' later ran
        rw [shift, same] at rest
        exact rest
    · rw [if_neg ticks, Nat.add_zero] at count
      obtain ⟨still, same⟩ := waits.silent aligned taken here ticks
      have rest := ih still aligned' later ran
      rw [count, same] at rest
      exact rest

end TimingWheel

end CyberRT.Timer

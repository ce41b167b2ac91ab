import CyberRT.Timer.Punctual

namespace CyberRT.Timer

open Execution

namespace TimingWheel

variable {Task : Type}

/-- `AddTask` picks a bucket of the assistant wheel by an assistant index that lags behind the work index, or the very
    bucket that `Cascade` is about to empty. -/
def Skews (wheel : TimingWheel Task) (ms : Nat) : Prop :=
  wheel.phase = .wrapped ∧ workWheelSize ≤ ceilTicks ms ∨
    wheel.phase = .cascading ∧ ceilTicks ms = workWheelSize * assistantWheelSize

theorem firesAfter_of_skews {wheel : TimingWheel Task} {ms : Nat} (skews : wheel.Skews ms) :
    wheel.firesAfter ms < ceilTicks ms := by
  rcases skews with ⟨wrapped, long⟩ | ⟨cascading, longest⟩
  · simp only [workWheelSize] at long
    simp only [firesAfter, wrapped]
    rw [if_neg (by omega)]
    omega
  · simp only [workWheelSize, assistantWheelSize] at longest
    simp only [firesAfter, cascading]
    rw [if_neg (by omega)]
    omega

theorem firesAfter_of_not_skews {wheel : TimingWheel Task} {ms : Nat} (positive : 1 ≤ ms)
    (small : ms < timerMaxIntervalMs) (steady : ¬ wheel.Skews ms) :
    ceilTicks ms ≤ wheel.firesAfter ms ∧ wheel.firesAfter ms ≤ ceilTicks ms + 1 := by
  have bounds := ceilTicks_bounds positive small
  simp only [Skews, workWheelSize, assistantWheelSize, not_or, not_and] at steady
  unfold firesAfter
  cases phase : wheel.phase with
  | ticking => exact ⟨Nat.le_succ _, Nat.le_refl _⟩
  | sleeping => exact ⟨Nat.le_refl _, Nat.le_succ _⟩
  | wrapped =>
    have short := steady.1 phase
    simp only
    rw [if_pos (by omega)]
    exact ⟨Nat.le_succ _, Nat.le_refl _⟩
  | cascading =>
    have short := steady.2 phase
    simp only
    rw [if_pos (by omega)]
    exact ⟨Nat.le_succ _, Nat.le_refl _⟩

variable [DecidableEq Task]

theorem added_waits {wheel next : TimingWheel Task} {events : List (WheelEvent Task)} {task : Task} {ms : Nat}
    (ran : run step {} events = some wheel) (idle : wheel.Idle task) (positive : 1 ≤ ms)
    (small : ms < timerMaxIntervalMs) (added : step wheel (.addTask task ms) = some next) :
    ∃ left, wheel.firesAfter ms = left + 1 ∧ next.Waits task (left + 1) ∧ next.Aligned ∧ next.running = true ∧
      next.tickCount = wheel.tickCount ∧ next.handedAt task = wheel.handedAt task := by
  have aligned := aligned_run ran
  have aligned' := aligned_step aligned added
  have count := step_tickCount added
  obtain ⟨enabled, rfl⟩ := step_some added
  have waits := addTask_waits aligned idle enabled.1 positive small
  have later := wheel.firesAfter_pos positive small
  refine ⟨wheel.firesAfter ms - 1, by omega, ?_, aligned', ?_, by simpa using count, wheel.addTask_handedAt task task ms⟩
  · rw [Nat.sub_add_cancel later]
    exact waits
  · rw [apply, addTask_frame]

/-- A task added while the tick thread sleeps is handed to `Async` once, by the `Tick` its duration names. -/
theorem asleep_handed_on_time {wheel next final : TimingWheel Task} {events later : List (WheelEvent Task)}
    {task : Task} {ms : Nat} (ran : run step {} events = some wheel) (asleep : wheel.phase = .sleeping)
    (idle : wheel.Idle task) (positive : 1 ≤ ms) (small : ms < timerMaxIntervalMs)
    (added : step wheel (.addTask task ms) = some next) (untouched : ∀ event ∈ later, ¬ event.Touches task)
    (continued : run step next later = some final) :
    final.handedAt task = wheel.handedAt task ++
      if wheel.tickCount + ceilTicks ms ≤ final.tickCount then [wheel.tickCount + ceilTicks ms] else [] := by
  obtain ⟨left, fires, waits, aligned, _, count, handed⟩ := added_waits ran idle positive small added
  have exactly : ceilTicks ms = left + 1 := by
    rw [← fires, firesAfter, asleep]
  rw [exactly, ← count, ← handed]
  rcases waits_run waits aligned untouched continued with ⟨early, _, same⟩ | ⟨late, _, once⟩
  · rw [if_neg (by omega), List.append_nil, same]
  · rw [if_pos (by omega), once, Nat.add_assoc]

theorem asleep_handed_second_tick : ∃ wheel next final : TimingWheel Nat,
    run step {} [.addTask 7 2, .tick] = some wheel ∧ step wheel (.addTask 1 3) = some next ∧
    run step next [.advanceWork, .tick, .advanceWork, .addTask 8 9, .tick] = some final ∧
    wheel.tickCount = 1 ∧ final.handedAt 1 = [3] := by
  have idle := (idle_run (idle_start 1) rfl (by decide)
    (show run step {} [.addTask 7 2, .tick] = some _ from rfl)).1
  refine ⟨_, _, _, rfl, rfl, rfl, rfl, ?_⟩
  exact (@asleep_handed_on_time Nat _ _ _ _ [.addTask 7 2, .tick]
    [.advanceWork, .tick, .advanceWork, .addTask 8 9, .tick] 1 3 rfl rfl idle (by decide) (by decide) rfl (by decide)
    rfl).trans (by decide)

/-- What is wanted of a task added in this state: no `Tick` before the one its duration names hands it over, and it is
    not left in a bucket for a whole turn of the work wheel beyond that one. -/
def Punctual (wheel next : TimingWheel Task) (task : Task) (ms : Nat) : Prop :=
  ∀ later final, (∀ event ∈ later, ¬ event.Touches task) → run step next later = some final →
    (∀ fresh, final.handedAt task = wheel.handedAt task ++ fresh →
      ∀ number ∈ fresh, wheel.tickCount + ceilTicks ms ≤ number) ∧
    (¬ final.Idle task → final.tickCount < wheel.tickCount + ceilTicks ms + workWheelSize)

/-- The tick thread, on its own, executes this many further `Tick`s. -/
def Proceeds (wheel : TimingWheel Task) (ticks : Nat) : Prop :=
  ∃ events final, (∀ event ∈ events, ∀ task, ¬ event.Touches task) ∧ run step wheel events = some final ∧
    final.running = true ∧ final.tickCount = wheel.tickCount + ticks

theorem Proceeds.after {wheel : TimingWheel Task} {ticks : Nat} (event : WheelEvent Task)
    (enabled : wheel.Enabled event) (silent : ∀ task, ¬ event.Touches task)
    (proceeds : (wheel.apply event).Proceeds ticks) : wheel.Proceeds (ticks + if event = .tick then 1 else 0) := by
  obtain ⟨events, final, untouched, ran, running, count⟩ := proceeds
  have taken := step_of_enabled enabled
  have counted := step_tickCount taken
  refine ⟨event :: events, final, ?_, ?_, running, by omega⟩
  · intro other member
    rcases List.mem_cons.mp member with rfl | member
    · exact silent
    · exact untouched other member
  · rw [run_cons, taken]
    exact ran

theorem proceeds_ticking {wheel : TimingWheel Task} (running : wheel.running = true)
    (ticking : wheel.phase = .ticking) : wheel.Proceeds 1 := by
  have still : wheel.tick.Proceeds 0 := ⟨[], wheel.tick, by simp, rfl, running, rfl⟩
  exact Proceeds.after .tick ⟨running, ticking⟩ (fun _ => id) still

theorem proceeds_cascading {wheel : TimingWheel Task} (running : wheel.running = true)
    (cascading : wheel.phase = .cascading) : wheel.Proceeds 1 := by
  have running' : (wheel.cascade wheel.currentAssistantWheelIndex).running = true := by
    rw [cascade, cascadeTasks_fields]
    exact running
  exact Proceeds.after .cascade cascading (fun _ => id) (proceeds_ticking running' rfl)

theorem proceeds_wrapped {wheel : TimingWheel Task} (running : wheel.running = true)
    (wrapped : wheel.phase = .wrapped) : wheel.Proceeds 1 := by
  have moved : wheel.advanceAssistant.Proceeds 1 := proceeds_cascading running rfl
  exact Proceeds.after .advanceAssistant wrapped (fun _ => id) moved

theorem proceeds_sleeping {wheel : TimingWheel Task} (running : wheel.running = true)
    (sleeping : wheel.phase = .sleeping) : wheel.Proceeds 1 := by
  have moved : wheel.advanceWork.Proceeds 1 := by
    by_cases wraps : (getWorkWheelIndex (wheel.currentWorkWheelIndex + 1)).val = 0
    · exact proceeds_wrapped running (if_pos wraps)
    · exact proceeds_ticking running (if_neg wraps)
  exact Proceeds.after .advanceWork sleeping (fun _ => id) moved

theorem proceeds_one {wheel : TimingWheel Task} (running : wheel.running = true) : wheel.Proceeds 1 := by
  cases phase : wheel.phase with
  | ticking => exact proceeds_ticking running phase
  | sleeping => exact proceeds_sleeping running phase
  | wrapped => exact proceeds_wrapped running phase
  | cascading => exact proceeds_cascading running phase

theorem proceeds {wheel : TimingWheel Task} (running : wheel.running = true) (ticks : Nat) :
    wheel.Proceeds ticks := by
  induction ticks with
  | zero => exact ⟨[], wheel, by simp, rfl, running, rfl⟩
  | succ ticks ih =>
    obtain ⟨events, middle, untouched, ran, running, count⟩ := ih
    obtain ⟨rest, final, untouched', ran', running', count'⟩ := proceeds_one running
    refine ⟨events ++ rest, final, ?_, ?_, running', by omega⟩
    · intro event member
      rcases List.mem_append.mp member with member | member
      · exact untouched event member
      · exact untouched' event member
    · rw [run_append, ran]
      exact ran'

/-- In every reachable state, a task is handed over in time exactly when the two indices that `AddTask` reads agree on
    the bucket it needs. -/
theorem punctual_iff {wheel next : TimingWheel Task} {events : List (WheelEvent Task)} {task : Task} {ms : Nat}
    (ran : run step {} events = some wheel) (idle : wheel.Idle task) (positive : 1 ≤ ms)
    (small : ms < timerMaxIntervalMs) (added : step wheel (.addTask task ms) = some next) :
    wheel.Punctual next task ms ↔ ¬ wheel.Skews ms := by
  obtain ⟨left, fires, waits, aligned, running, count, handed⟩ := added_waits ran idle positive small added
  constructor
  · intro punctual skews
    have early := firesAfter_of_skews skews
    obtain ⟨later, final, untouched, continued, _, ticks⟩ := proceeds running (left + 1)
    have quiet : ∀ event ∈ later, ¬ event.Touches task := fun event member => untouched event member task
    rcases waits_run waits aligned quiet continued with ⟨before, _, _⟩ | ⟨_, _, once⟩
    · omega
    · rw [handed] at once
      have bound := (punctual later final quiet continued).1 _ once _ (List.mem_singleton_self _)
      omega
  · intro steady later final untouched continued
    obtain ⟨least, most⟩ := firesAfter_of_not_skews positive small steady
    simp only [workWheelSize]
    rcases waits_run waits aligned untouched continued with ⟨early, _, same⟩ | ⟨late, last, once⟩
    · constructor
      · intro fresh split number member
        rw [same, handed, List.self_eq_append_right] at split
        subst split
        cases member
      · intro _
        omega
    · constructor
      · intro fresh split number member
        rw [once, handed, List.append_cancel_left_eq] at split
        subst split
        rw [List.mem_singleton.mp member]
        omega
      · intro pending
        exact absurd last pending

theorem first_task_punctual : ∃ next : TimingWheel Nat, step {} (.addTask 1 65535) = some next ∧
    ({} : TimingWheel Nat).Punctual next 1 65535 := by
  refine ⟨_, rfl, ?_⟩
  exact (@punctual_iff Nat _ {} _ [] 1 65535 rfl (idle_start 1) (by decide) (by decide) rfl).mpr
    (by simp [Skews])

/-- The steps of the tick thread in iterations in which the work index does not wrap. -/
def iterations (count : Nat) : List (WheelEvent Task) := (List.replicate count [.tick, .advanceWork]).flatten

theorem iterations_run (count : Nat) {wheel : TimingWheel Task} (running : wheel.running = true)
    (ticking : wheel.phase = .ticking) (within : wheel.currentWorkWheelIndex + count < 512) :
    ∃ final, run step wheel (iterations count) = some final ∧ final.running = true ∧ final.phase = .ticking ∧
      final.currentWorkWheelIndex.val = wheel.currentWorkWheelIndex + count := by
  induction count generalizing wheel with
  | zero => exact ⟨wheel, rfl, running, ticking, rfl⟩
  | succ count ih =>
    have index : wheel.tick.advanceWork.currentWorkWheelIndex.val = wheel.currentWorkWheelIndex + 1 := by
      simp only [advanceWork, tick, getWorkWheelIndex_val]
      omega
    have phase : wheel.tick.advanceWork.phase = .ticking := by
      apply if_neg
      rw [getWorkWheelIndex_val]
      simp only [tick]
      omega
    obtain ⟨final, ran, running', ticking', index'⟩ := @ih wheel.tick.advanceWork running phase (by omega)
    refine ⟨final, ?_, running', ticking', by omega⟩
    have first : step wheel .tick = some wheel.tick := step_of_enabled ⟨running, ticking⟩
    have second : step wheel.tick .advanceWork = some wheel.tick.advanceWork := step_of_enabled rfl
    rw [iterations, List.replicate_succ, List.flatten_cons, List.cons_append, List.cons_append, List.nil_append,
      run_cons, first, Option.bind_some, run_cons, second]
    exact ran

/-- The whole first turn of the work wheel, up to the wrap of its index. -/
def firstTurn : List (WheelEvent Nat) := .addTask 0 2 :: (iterations 511 ++ [.tick, .advanceWork])

theorem firstTurn_wraps : ∃ wheel, run step {} firstTurn = some wheel ∧ wheel.running = true ∧
    wheel.phase = .wrapped := by
  obtain ⟨before, ran, running, ticking, index⟩ := @iterations_run Nat _ 511
    (({} : TimingWheel Nat).addTask 0 2) rfl rfl (by decide)
  have last : before.currentWorkWheelIndex.val = 511 := index
  refine ⟨before.tick.advanceWork, ?_, running, ?_⟩
  · have started : step ({} : TimingWheel Nat) (.addTask 0 2) = some (({} : TimingWheel Nat).addTask 0 2) := rfl
    have first : step before .tick = some before.tick := step_of_enabled ⟨running, ticking⟩
    have second : step before.tick .advanceWork = some before.tick.advanceWork := step_of_enabled rfl
    rw [firstTurn, run_cons, started, Option.bind_some, run_append, ran, Option.bind_some, run_cons, first,
      Option.bind_some, run_cons, second]
    rfl
  · apply if_pos
    rw [getWorkWheelIndex_val]
    simp only [tick]
    omega

/-- A task of 512 ticks, added between the wrap of the work index and the advance of the assistant index, is handed
    over by the very next `Tick`. -/
theorem wrap_hands_early : ∃ wheel next final : TimingWheel Nat, run step {} firstTurn = some wheel ∧
    step wheel (.addTask 1 1024) = some next ∧ run step next [.advanceAssistant, .cascade, .tick] = some final ∧
    ceilTicks 1024 = 512 ∧ final.handedAt 1 = [wheel.tickCount + 1] ∧ ¬ wheel.Punctual next 1 1024 := by
  obtain ⟨wheel, ran, running, wrapped⟩ := firstTurn_wraps
  have quiet : ∀ event ∈ firstTurn, ¬ event.Touches 1 := by
    intro event member touches
    simp only [firstTurn, iterations, List.mem_cons, List.mem_append, List.mem_flatten, List.mem_replicate] at member
    rcases member with rfl | ⟨_, ⟨_, rfl⟩, member⟩ | member
    · cases touches
    · simp only [List.mem_cons, List.not_mem_nil, or_false] at member
      rcases member with rfl | rfl <;> cases touches
    · simp only [List.not_mem_nil, or_false] at member
      rcases member with rfl | rfl <;> cases touches
  obtain ⟨idle, alive, none⟩ := idle_run (idle_start 1) rfl quiet ran
  have added : step wheel (.addTask 1 1024) = some (wheel.addTask 1 1024) := step_of_enabled ⟨alive, .inl running⟩
  obtain ⟨left, fires, waits, aligned, running', count, handed⟩ := added_waits ran idle (by decide) (by decide) added
  have soon : left = 0 := by
    simp only [firesAfter, wrapped] at fires
    have ticks : ceilTicks 1024 = 512 := rfl
    rw [ticks] at fires
    simpa using fires.symm
  subst soon
  have phase : (wheel.addTask 1 1024).phase = .wrapped := (wheel.addTask_phase 1 1024).trans wrapped
  have first : step (wheel.addTask 1 1024) .advanceAssistant = some (wheel.addTask 1 1024).advanceAssistant :=
    step_of_enabled phase
  obtain ⟨cascaded, second, ready⟩ : ∃ cascaded, step (wheel.addTask 1 1024).advanceAssistant .cascade = some cascaded ∧
      cascaded.Enabled .tick := by
    refine ⟨_, step_of_enabled rfl, ?_, rfl⟩
    rw [apply, cascade, cascadeTasks_fields]
    exact running'
  have third : step cascaded .tick = some cascaded.tick := step_of_enabled ready
  have continued : run step (wheel.addTask 1 1024) [.advanceAssistant, .cascade, .tick] = some cascaded.tick := by
    rw [run_cons, first, Option.bind_some, run_cons, second, Option.bind_some, run_cons, third]
    rfl
  have fired : cascaded.tick.handedAt 1 = [wheel.tickCount + 1] := by
    rcases waits_run waits aligned (by decide) continued with ⟨late, _⟩ | ⟨_, _, once⟩
    · have one := step_tickCount first
      have two := step_tickCount second
      have three := step_tickCount third
      simp only [reduceCtorEq, if_false, if_true] at one two three
      omega
    · rw [once, handed, none, count]
      rfl
  refine ⟨wheel, _, _, ran, added, continued, rfl, fired, ?_⟩
  intro punctual
  have early := (punctual _ _ (by decide) continued).1 [wheel.tickCount + 1] (by rw [fired, none]; rfl) _
    (List.mem_singleton_self _)
  have ticks : ceilTicks 1024 = 512 := rfl
  omega

end TimingWheel

end CyberRT.Timer

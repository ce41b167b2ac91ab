import Mathlib.Tactic.Ring
import CyberRT.Execution.Run
import CyberRT.Timer.TimingWheel

namespace CyberRT.Timer

open Execution

def uint64 (value : Int) : Nat := (value % 2 ^ 64).toNat

def int64 (value : Int) : Int := (value + 2 ^ 63) % 2 ^ 64 - 2 ^ 63

/-- `std::llround(static_cast<double>(ns) / 1e6)`, rounded exactly: halves go away from zero. -/
def roundToMs (ns : Int) : Int := if 0 ≤ ns then (ns + 500000) / 1000000 else - ((500000 - ns) / 1000000)

/-- The fields of a `TimerTask` that its periodic callback uses. -/
structure PeriodicTask where
  intervalMs : Nat
  nextFireDurationMs : Nat
  lastExecuteTimeNs : Nat
  accumulatedErrorNs : Int
  deriving DecidableEq, Repr

/-- The two times that the wrapper of the callback takes. -/
structure Firing where
  start : UInt64
  finish : UInt64
  deriving DecidableEq, Repr

def Firing.executeTimeMs (firing : Firing) : Nat :=
  uint64 (roundToMs (uint64 (firing.finish.toNat - firing.start.toNat)))

/-- The periodic callback, up to `AddTask`. -/
def PeriodicTask.callback (task : PeriodicTask) (firing : Firing) : PeriodicTask :=
  let error :=
    if task.lastExecuteTimeNs = 0 then task.accumulatedErrorNs
    else int64 (task.accumulatedErrorNs +
      uint64 (firing.start.toNat - task.lastExecuteTimeNs - task.intervalMs * 1000000))
  { task with
    lastExecuteTimeNs := firing.start.toNat
    accumulatedErrorNs := error
    nextFireDurationMs :=
      if task.intervalMs ≤ firing.executeTimeMs then timerResolutionMs
      else if roundToMs error ≤ int64 (uint64 (task.intervalMs - firing.executeTimeMs - timerResolutionMs)) then
        uint64 (task.intervalMs - firing.executeTimeMs - roundToMs error)
      else timerResolutionMs }

/-- A periodic task with the end of its last callback. -/
structure Periodic where
  task : PeriodicTask
  finished : Option UInt64
  deriving DecidableEq, Repr

namespace Periodic

def initTimerTask (period : UInt32) : Option Periodic :=
  if period = 0 then none
  else if timerMaxIntervalMs ≤ period.toNat then none
  else some ⟨⟨period.toNat, period.toNat, 0, 0⟩, none⟩

/-- The callback starts no earlier than one tick before the end of the duration that the one before it has armed. -/
def Waits (state : Periodic) (firing : Firing) : Prop :=
  ∀ finished ∈ state.finished,
    finished.toNat + state.task.nextFireDurationMs * 1000000 ≤ firing.start.toNat + timerResolutionMs * 1000000

instance (state : Periodic) (firing : Firing) : Decidable (state.Waits firing) :=
  Option.decidableForallMem state.finished

def step (state : Periodic) (firing : Firing) : Option Periodic :=
  if firing.start ≤ firing.finish ∧ state.Waits firing then some ⟨state.task.callback firing, some firing.finish⟩
  else none

/-- The duration that a callback has armed is one that the wheel can hold, and no difference has wrapped in it. -/
structure Armed (state : Periodic) (firing : Firing) : Prop where
  least : timerResolutionMs ≤ state.task.nextFireDurationMs
  most : state.task.nextFireDurationMs ≤ timerMaxIntervalMs
  unfolded : ∀ index : Fin workWheelSize,
    (index.val + ceilTicks state.task.nextFireDurationMs) / workWheelSize ≤ assistantWheelSize
  unwrapped : state.task.nextFireDurationMs = timerResolutionMs ∨ (state.task.nextFireDurationMs : Int) =
    state.task.intervalMs - firing.executeTimeMs - roundToMs state.task.accumulatedErrorNs

end Periodic

/-- By how much the last of these starts is behind the period counted from the first one; a start at time 0 does not
    count as one. -/
def drift (period : Nat) (starts : List UInt64) : Int :=
  match starts.dropWhile fun start => start = 0 with
  | [] => 0
  | first :: rest => int64 ((rest.getLastD first).toNat - first.toNat - rest.length * period * 1000000)

/-- The callback is not so far ahead of the period that the time up to its next place leaves the wheel. -/
def InTime (period : Nat) (past : List Firing) (firing : Firing) : Prop :=
  firing.executeTimeMs < period →
    - roundToMs (drift period ((past ++ [firing]).map Firing.start)) ≤
      timerMaxIntervalMs - period + firing.executeTimeMs

theorem int64_add (left right : Int) : int64 (int64 left + uint64 right) = int64 (left + right) := by
  unfold int64 uint64
  omega

theorem roundToMs_near (ns : Int) : 2 * ns - 1000000 ≤ 2000000 * roundToMs ns ∧ 2000000 * roundToMs ns ≤ 2 * ns + 1000000 := by
  unfold roundToMs
  split <;> omega

theorem int64_range (value : Int) : - 2 ^ 63 ≤ int64 value ∧ int64 value < 2 ^ 63 := by
  unfold int64
  omega

theorem uint64_eq {value : Int} (low : 0 ≤ value) (high : value < 2 ^ 64) : (uint64 value : Int) = value := by
  unfold uint64
  omega

theorem executeTimeMs_eq {firing : Firing} (ordered : firing.start ≤ firing.finish) :
    (firing.executeTimeMs : Int) = roundToMs (firing.finish.toNat - firing.start.toNat) := by
  have after := UInt64.le_iff_toNat_le.mp ordered
  have bound := firing.finish.toNat_lt
  have taken : (uint64 (firing.finish.toNat - firing.start.toNat) : Int) = firing.finish.toNat - firing.start.toNat :=
    uint64_eq (by omega) (by omega)
  have near := roundToMs_near (firing.finish.toNat - firing.start.toNat)
  unfold Firing.executeTimeMs
  rw [taken]
  exact uint64_eq (by omega) (by omega)

/-- What the callback arms, as a number: the rest of the period corrected by the error, or one tick. -/
inductive Arms (task next : PeriodicTask) (firing : Firing) : Prop where
  | tick (armed : next.nextFireDurationMs = timerResolutionMs)
    (late : task.intervalMs ≤ firing.executeTimeMs ∨ (task.intervalMs : Int) - firing.executeTimeMs - timerResolutionMs <
      roundToMs next.accumulatedErrorNs)
  | rest (short : firing.executeTimeMs < task.intervalMs)
    (armed : (next.nextFireDurationMs : Int) =
      task.intervalMs - firing.executeTimeMs - roundToMs next.accumulatedErrorNs)
    (least : timerResolutionMs ≤ next.nextFireDurationMs)

theorem callback_error {task : PeriodicTask} {firing : Firing}
    (range : - 2 ^ 63 ≤ task.accumulatedErrorNs ∧ task.accumulatedErrorNs < 2 ^ 63) :
    - 2 ^ 63 ≤ (task.callback firing).accumulatedErrorNs ∧ (task.callback firing).accumulatedErrorNs < 2 ^ 63 := by
  unfold PeriodicTask.callback
  dsimp only
  split
  · exact range
  · exact int64_range _

theorem callback_arms {task : PeriodicTask} {firing : Firing} (small : task.intervalMs < timerMaxIntervalMs)
    (range : - 2 ^ 63 ≤ task.accumulatedErrorNs ∧ task.accumulatedErrorNs < 2 ^ 63) :
    Arms task (task.callback firing) firing := by
  have error := @callback_error task firing range
  have near := roundToMs_near (task.callback firing).accumulatedErrorNs
  have longest : timerMaxIntervalMs = 65536 := rfl
  have resolution : timerResolutionMs = 2 := rfl
  by_cases long : task.intervalMs ≤ firing.executeTimeMs
  · exact .tick (if_pos long) (.inl long)
  · have margin : int64 (uint64 (task.intervalMs - firing.executeTimeMs - timerResolutionMs)) =
        task.intervalMs - firing.executeTimeMs - timerResolutionMs := by
      unfold int64 uint64
      omega
    by_cases ahead : roundToMs (task.callback firing).accumulatedErrorNs ≤
        int64 (uint64 (task.intervalMs - firing.executeTimeMs - timerResolutionMs))
    · have armed : (task.callback firing).nextFireDurationMs =
          uint64 (task.intervalMs - firing.executeTimeMs - roundToMs (task.callback firing).accumulatedErrorNs) :=
        (if_neg long).trans (if_pos ahead)
      rw [margin] at ahead
      have value := @uint64_eq
        (task.intervalMs - firing.executeTimeMs - roundToMs (task.callback firing).accumulatedErrorNs)
        (by omega) (by omega)
      rw [← armed] at value
      exact .rest (by omega) value (by omega)
    · have armed : (task.callback firing).nextFireDurationMs = timerResolutionMs :=
        (if_neg long).trans (if_neg ahead)
      rw [margin] at ahead
      exact .tick armed (.inr (by omega))

/-- A task whose callback is one tick apart or more, and no more than the wheel spans, stays within a turn of the
    assistant wheel. -/
theorem ceilTicks_unfolded {ms : Nat} (most : ms ≤ timerMaxIntervalMs) (index : Fin workWheelSize) :
    (index.val + ceilTicks ms) / workWheelSize ≤ assistantWheelSize := by
  have inside : index.val < 512 := index.isLt
  simp only [timerMaxIntervalMs, workWheelSize, assistantWheelSize, timerResolutionMs, ceilTicks] at *
  omega

namespace Periodic

/-- The starts from the first one on that is not at time 0. -/
def counted (past : List Firing) : List UInt64 := (past.map Firing.start).dropWhile fun start => start = 0

theorem drift_counted (period : Nat) {past : List Firing} {first : UInt64} {rest : List UInt64}
    (starts : counted past = first :: rest) : drift period (past.map Firing.start) =
      int64 ((rest.getLastD first).toNat - first.toNat - rest.length * period * 1000000) := by
  unfold counted at starts
  unfold drift
  rw [starts]

theorem drift_none (period : Nat) {past : List Firing} (starts : counted past = []) :
    drift period (past.map Firing.start) = 0 := by
  unfold counted at starts
  unfold drift
  rw [starts]

theorem counted_snoc (past : List Firing) (firing : Firing) : counted (past ++ [firing]) =
    if counted past = [] then (if firing.start = 0 then [] else [firing.start]) else counted past ++ [firing.start] := by
  unfold counted
  rw [List.map_append, List.dropWhile_append]
  by_cases none : (past.map Firing.start).dropWhile (fun start => start = 0) = []
  · simp [none, List.dropWhile_cons]
  · simp [none]

structure Tracks (period : Nat) (state : Periodic) (past : List Firing) : Prop where
  interval : state.task.intervalMs = period
  error : state.task.accumulatedErrorNs = drift period (past.map Firing.start)
  armed : ∀ finished ∈ state.finished,
    state.task.lastExecuteTimeNs ≤ finished.toNat ∧ timerResolutionMs ≤ state.task.nextFireDurationMs
  counts : (state.task.lastExecuteTimeNs = 0 ∧ counted past = []) ∨
    (∃ first rest, counted past = first :: rest ∧ state.task.lastExecuteTimeNs = (rest.getLastD first).toNat ∧
      state.task.lastExecuteTimeNs ≠ 0 ∧ state.finished.isSome)

theorem Tracks.range {period : Nat} {state : Periodic} {past : List Firing} (tracks : Tracks period state past) :
    - 2 ^ 63 ≤ state.task.accumulatedErrorNs ∧ state.task.accumulatedErrorNs < 2 ^ 63 := by
  rw [tracks.error]
  unfold drift
  split
  · decide
  · exact int64_range _

theorem Tracks.step {period : Nat} {state next : Periodic} {past : List Firing} {firing : Firing}
    (tracks : Tracks period state past) (small : period < timerMaxIntervalMs) (taken : step state firing = some next) :
    Tracks period next (past ++ [firing]) := by
  obtain ⟨⟨ordered, waits⟩, same⟩ := Option.ite_none_right_eq_some.mp taken
  cases same
  have arms := @callback_arms state.task firing (by rw [tracks.interval]; exact small) tracks.range
  have least : timerResolutionMs ≤ (state.task.callback firing).nextFireDurationMs := by
    cases arms with
    | tick armed late => rw [armed]
    | rest short armed least => exact least
  have finishes : ∀ finished ∈ some firing.finish, firing.start.toNat ≤ finished.toNat ∧
      timerResolutionMs ≤ (state.task.callback firing).nextFireDurationMs := by
    intro finished member
    cases member
    exact ⟨UInt64.le_iff_toNat_le.mp ordered, least⟩
  rcases tracks.counts with ⟨zero, none⟩ | ⟨first, rest, starts, last, nonzero, some'⟩
  · have kept : (state.task.callback firing).accumulatedErrorNs = 0 := by
      have error := tracks.error
      rw [drift_none period none] at error
      exact (if_pos zero).trans error
    have snoc := counted_snoc past firing
    rw [if_pos none] at snoc
    by_cases begins : firing.start = 0
    · rw [if_pos begins] at snoc
      refine ⟨tracks.interval, kept.trans (drift_none period snoc).symm, finishes, .inl ⟨?_, snoc⟩⟩
      show firing.start.toNat = 0
      rw [begins]
      rfl
    · rw [if_neg begins] at snoc
      refine ⟨tracks.interval, ?_, finishes, .inr ⟨firing.start, [], snoc, rfl, ?_, rfl⟩⟩
      · rw [kept, drift_counted period snoc]
        simp [int64]
      · intro zero
        exact begins (UInt64.toNat_inj.mp zero)
  · have snoc := counted_snoc past firing
    rw [if_neg (by simp [starts]), starts, List.cons_append] at snoc
    obtain ⟨finished, here⟩ := Option.isSome_iff_exists.mp some'
    have after := waits finished here
    obtain ⟨ended, before⟩ := tracks.armed finished here
    have resolution : timerResolutionMs = 2 := rfl
    have final : ((rest ++ [firing.start]).getLastD first).toNat = firing.start.toNat := by simp
    refine ⟨tracks.interval, ?_, finishes, .inr ⟨first, rest ++ [firing.start], snoc, final.symm, ?_, rfl⟩⟩
    · have error := tracks.error
      rw [drift_counted period starts, ← last] at error
      have added : (state.task.callback firing).accumulatedErrorNs = int64 (state.task.accumulatedErrorNs +
          uint64 (firing.start.toNat - state.task.lastExecuteTimeNs - state.task.intervalMs * 1000000)) :=
        if_neg nonzero
      rw [drift_counted period snoc, final, List.length_append, List.length_singleton, added, error, int64_add,
        tracks.interval]
      congr 1
      push_cast
      ring
    · show firing.start.toNat ≠ 0
      omega

theorem initTimerTask_some {period : UInt32} {start : Periodic} (accepted : initTimerTask period = some start) :
    0 < period.toNat ∧ period.toNat < timerMaxIntervalMs ∧ start = ⟨⟨period.toNat, period.toNat, 0, 0⟩, none⟩ := by
  unfold initTimerTask at accepted
  split at accepted
  · cases accepted
  · rename_i positive
    split at accepted
    · cases accepted
    · rename_i small
      cases accepted
      have nonzero : period.toNat ≠ 0 := fun zero => positive (UInt32.toNat_inj.mp zero)
      exact ⟨by omega, by omega, rfl⟩

theorem initTimerTask_tracks {period : UInt32} {start : Periodic} (accepted : initTimerTask period = some start) :
    Tracks period.toNat start [] := by
  obtain ⟨_, _, same⟩ := initTimerTask_some accepted
  rw [same]
  exact ⟨rfl, rfl, by simp, .inl ⟨rfl, rfl⟩⟩

theorem run_tracks {period : UInt32} {start state : Periodic} {past : List Firing}
    (accepted : initTimerTask period = some start) (ran : run step start past = some state) :
    Tracks period.toNat state past :=
  run_invariant (fun state past => Tracks period.toNat state past)
    (fun _ _ _ _ taken tracks => tracks.step (initTimerTask_some accepted).2.1 taken) (initTimerTask_tracks accepted) ran

theorem run_last {start final : Periodic} {past : List Firing} {firing : Firing}
    (ran : run step start (past ++ [firing]) = some final) :
    ∃ state, run step start past = some state ∧ step state firing = some final := by
  rw [run_append] at ran
  obtain ⟨state, before, last⟩ := Option.bind_eq_some_iff.mp ran
  obtain ⟨next, taken, rest⟩ := run_cons_some last
  cases rest
  exact ⟨state, before, taken⟩

theorem run_arms {period : UInt32} {start final : Periodic} {past : List Firing} {firing : Firing}
    (accepted : initTimerTask period = some start) (ran : run step start (past ++ [firing]) = some final) :
    ∃ task, task.intervalMs = period.toNat ∧ final.task.intervalMs = period.toNat ∧ Arms task final.task firing := by
  obtain ⟨state, before, taken⟩ := run_last ran
  have tracks := run_tracks accepted before
  have small := (initTimerTask_some accepted).2.1
  have interval := (run_tracks accepted ran).interval
  obtain ⟨_, same⟩ := Option.ite_none_right_eq_some.mp taken
  cases same
  exact ⟨state.task, tracks.interval, interval, callback_arms (by rw [tracks.interval]; exact small) tracks.range⟩

theorem armed_of_arms {final : Periodic} {task : PeriodicTask} {firing : Firing}
    (interval : task.intervalMs = final.task.intervalMs) (arms : Arms task final.task firing) :
    final.Armed firing ↔ (firing.executeTimeMs < final.task.intervalMs →
      - roundToMs final.task.accumulatedErrorNs ≤
        timerMaxIntervalMs - final.task.intervalMs + firing.executeTimeMs) := by
  have longest : timerMaxIntervalMs = 65536 := rfl
  have resolution : timerResolutionMs = 2 := rfl
  cases arms with
  | tick armed late =>
    rw [interval] at late
    apply Iff.intro
    · intro _ short
      rcases late with late | late
      · omega
      · omega
    · intro _
      have most : final.task.nextFireDurationMs ≤ timerMaxIntervalMs := by omega
      exact ⟨Nat.le_of_eq armed.symm, most, ceilTicks_unfolded most, .inl armed⟩
  | rest short armed least =>
    rw [interval] at short armed
    apply Iff.intro
    · intro fits _
      have most := fits.most
      omega
    · intro inTime
      have ahead := inTime short
      have most : final.task.nextFireDurationMs ≤ timerMaxIntervalMs := by omega
      exact ⟨least, most, ceilTicks_unfolded most, .inr armed⟩

/-- In every run a callback arms a duration that the wheel can hold exactly when it is not so far ahead of the period
    that the time up to its next place is longer than the wheel. -/
theorem armed_iff {period : UInt32} {start final : Periodic} {past : List Firing} {firing : Firing}
    (accepted : initTimerTask period = some start) (ran : run step start (past ++ [firing]) = some final) :
    final.Armed firing ↔ InTime period.toNat past firing := by
  obtain ⟨task, interval, same, arms⟩ := run_arms accepted ran
  unfold InTime
  rw [← (run_tracks accepted ran).error, ← same]
  exact armed_of_arms (interval.trans same.symm) arms

/-- A period of 20 s whose callback takes 3 ms and starts in time. -/
theorem armed_iff_even : ∃ start final, initTimerTask 20000 = some start ∧
    run step start [⟨1000000, 4000000⟩, ⟨20001000000, 20004000000⟩] = some final ∧
    final.task.nextFireDurationMs = 19997 ∧
    (final.Armed ⟨20001000000, 20004000000⟩ ↔ InTime 20000 [⟨1000000, 4000000⟩] ⟨20001000000, 20004000000⟩) := by
  have ran : run step ⟨⟨20000, 20000, 0, 0⟩, none⟩ ([⟨1000000, 4000000⟩] ++ [⟨20001000000, 20004000000⟩]) =
      some ⟨⟨20000, 19997, 20001000000, 0⟩, some 20004000000⟩ := by decide +kernel
  exact ⟨⟨⟨20000, 20000, 0, 0⟩, none⟩, _, by decide, ran, rfl, @armed_iff 20000 _ _ _ _ (by decide) ran⟩

/-- The longest period that is accepted, with a first execution that is rounded up. -/
theorem longest_leaves_wheel : ∃ start final, initTimerTask 65535 = some start ∧
    run step start [⟨1000000, 1500000⟩, ⟨65533500000, 65533500000⟩] = some final ∧
    final.task.nextFireDurationMs = 65538 ∧ ¬ final.Armed ⟨65533500000, 65533500000⟩ := by
  have ran : run step ⟨⟨65535, 65535, 0, 0⟩, none⟩ [⟨1000000, 1500000⟩, ⟨65533500000, 65533500000⟩] =
      some ⟨⟨65535, 65538, 65533500000, -2500000⟩, some 65533500000⟩ := by decide +kernel
  refine ⟨⟨⟨65535, 65535, 0, 0⟩, none⟩, _, by decide, ran, rfl, fun fits => ?_⟩
  exact absurd fits.most (by decide)

/-- No execution is rounded up to a whole period. -/
structure Steady (period : Nat) (firing : Firing) : Prop where
  whole : period ≤ firing.executeTimeMs → period * 1000000 ≤ firing.finish.toNat - firing.start.toNat
  early : firing.start.toNat < 2 ^ 63

/-- The error stays within the three milliseconds that one callback can be ahead of its place. -/
structure Paced (state : Periodic) : Prop where
  error : - 3000000 ≤ state.task.accumulatedErrorNs
  bounded : state.task.accumulatedErrorNs ≤ state.task.lastExecuteTimeNs
  next : ∀ finished ∈ state.finished, - 3000000 ≤ state.task.accumulatedErrorNs + finished.toNat +
    state.task.nextFireDurationMs * 1000000 - timerResolutionMs * 1000000 - state.task.lastExecuteTimeNs -
    state.task.intervalMs * 1000000

theorem Paced.step {period : Nat} {state next : Periodic} {past : List Firing} {firing : Firing}
    (paced : Paced state) (tracks : Tracks period state past) (small : period < timerMaxIntervalMs)
    (steady : Steady period firing) (taken : step state firing = some next) : Paced next := by
  obtain ⟨⟨ordered, waits⟩, same⟩ := Option.ite_none_right_eq_some.mp taken
  have arms := @callback_arms state.task firing (by rw [tracks.interval]; exact small) tracks.range
  have resolution : timerResolutionMs = 2 := rfl
  have early := steady.early
  have after := UInt64.le_iff_toNat_le.mp ordered
  have error : - 3000000 ≤ (state.task.callback firing).accumulatedErrorNs ∧
      (state.task.callback firing).accumulatedErrorNs ≤ firing.start.toNat := by
    have low := paced.error
    have high := paced.bounded
    by_cases zero : state.task.lastExecuteTimeNs = 0
    · have kept : (state.task.callback firing).accumulatedErrorNs = state.task.accumulatedErrorNs := if_pos zero
      rw [kept]
      omega
    · have added : (state.task.callback firing).accumulatedErrorNs = int64 (state.task.accumulatedErrorNs +
          uint64 (firing.start.toNat - state.task.lastExecuteTimeNs - state.task.intervalMs * 1000000)) := if_neg zero
      have some' : state.finished.isSome := by
        rcases tracks.counts with ⟨none, _⟩ | ⟨_, _, _, _, _, some'⟩
        · exact absurd none zero
        · exact some'
      obtain ⟨finished, here⟩ := Option.isSome_iff_exists.mp some'
      have enough := paced.next finished here
      have waited := waits finished here
      have exact' : int64 (state.task.accumulatedErrorNs +
          uint64 (firing.start.toNat - state.task.lastExecuteTimeNs - state.task.intervalMs * 1000000)) =
          state.task.accumulatedErrorNs +
            (firing.start.toNat - state.task.lastExecuteTimeNs - state.task.intervalMs * 1000000) := by
        unfold int64 uint64
        omega
      rw [added, exact']
      omega
  cases same
  refine ⟨error.1, error.2, ?_⟩
  intro finished member
  cases member
  have executed := executeTimeMs_eq ordered
  have taken := roundToMs_near (firing.finish.toNat - firing.start.toNat)
  have near := roundToMs_near (state.task.callback firing).accumulatedErrorNs
  have whole := steady.whole
  have interval := tracks.interval
  show - 3000000 ≤ (state.task.callback firing).accumulatedErrorNs + firing.finish.toNat +
    (state.task.callback firing).nextFireDurationMs * 1000000 - timerResolutionMs * 1000000 - firing.start.toNat -
    state.task.intervalMs * 1000000
  cases arms with
  | tick armed late =>
    rcases late with late | late
    · omega
    · omega
  | rest short armed least => omega

/-- Up to a period of 65533 ms, callbacks that are never rounded up to a whole period always arm such a duration. -/
theorem armed_of_steady {period : UInt32} {start final : Periodic} {past : List Firing} {firing : Firing}
    (accepted : initTimerTask period = some start) (margin : period.toNat + 3 ≤ timerMaxIntervalMs)
    (steady : Meets step (fun _ firing => Steady period.toNat firing) start (past ++ [firing]))
    (ran : run step start (past ++ [firing]) = some final) : final.Armed firing := by
  obtain ⟨_, small, same⟩ := initTimerTask_some accepted
  have begins : Paced start ∧ ∃ past, Tracks period.toNat start past := by
    apply And.intro
    · rw [same]
      exact ⟨by simp, by simp, by simp⟩
    · exact ⟨[], initTimerTask_tracks accepted⟩
  have held := Meets.preserves (fun state => Paced state ∧ ∃ past, Tracks period.toNat state past)
    (fun state event next steady taken held => by
      obtain ⟨paced, past, tracks⟩ := held
      exact ⟨paced.step tracks small steady taken, past ++ [event], tracks.step small taken⟩) begins steady ran
  obtain ⟨task, interval, same, arms⟩ := run_arms accepted ran
  have near := roundToMs_near final.task.accumulatedErrorNs
  have error := held.1.error
  apply (armed_of_arms (interval.trans same.symm) arms).mpr
  intro _
  omega

end Periodic

end CyberRT.Timer

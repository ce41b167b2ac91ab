import CyberRT.Startup.Process

namespace CyberRT.Startup

open Execution

namespace Process

variable {Thread : Type} {process next : Process Thread} {thread : Thread} {point : Section}

/-- Nothing has been initialised, and nothing cleaned up. -/
def Fresh (process : Process Thread) : Prop := process.succeeded = 0 ∧ process.deleted = []

/-- What the thread in the critical section relies on. -/
def Allows (process : Process Thread) : Section → Prop
  | .checkState _ | .readFirst | .readSecond => True
  | .initLogger _ => process.Fresh
  | .installHandler _ => process.Fresh ∧ process.asyncLogger.isSome = true
  | .registerExit _ | .setInitialized => process.Fresh ∧ process.handlerInstalled = true
  | .cleanUp | .setShutdown => process.state ≠ .uninitialized

/-- The state is first written by a handler or by the one `Init` that succeeds, and by then there is a logger. -/
structure Kept (process : Process Thread) : Prop where
  installed : process.state ≠ .uninitialized → process.handlerInstalled = true
  handling : ∀ thread, process.inHandler thread = true → process.handlerInstalled = true
  logger : process.handlerInstalled = true → process.asyncLogger.isSome = true
  known : ∀ logger, process.asyncLogger = some logger → logger < process.made
  deletes : ∀ logger ∈ process.deleted, logger < process.made
  once : process.succeeded ≤ 1
  fresh : process.state = .uninitialized → process.Fresh

structure Sound (process : Process Thread) : Prop extends Kept process where
  allows : ∀ thread point, process.mutex = some (thread, point) → process.Allows point

theorem start_sound : ({} : Process Thread).Sound where
  installed different := absurd rfl different
  handling := nofun
  logger := nofun
  known := nofun
  deletes := nofun
  once := Nat.zero_le 1
  fresh _ := ⟨rfl, rfl⟩
  allows := nofun

theorem Kept.leave (kept : process.Kept) : process.leave.Sound := ⟨{ kept with }, nofun⟩

theorem Kept.goTo (kept : process.Kept) (allows : process.Allows point) : (process.goTo thread point).Sound := by
  refine ⟨{ kept with }, fun _ _ here => ?_⟩
  cases here
  exact allows

theorem Sound.sectionStep (sound : process.Sound) (here : process.mutex = some (thread, point)) :
    (process.sectionStep thread point).Sound := by
  have allows := sound.allows thread point here
  cases point with
  | checkState registers =>
    dsimp only [Process.sectionStep]
    split
    · exact sound.leave
    · rename_i unset
      exact sound.goTo (sound.fresh (not_not.mp unset))
  | initLogger registers =>
    refine Kept.goTo ?_ ⟨allows, rfl⟩
    exact { sound with
      logger := fun _ => rfl
      known := fun logger same => Option.some.inj same ▸ Nat.lt_succ_self _
      deletes := fun logger member => Nat.lt_succ_of_lt (sound.deletes logger member) }
  | installHandler registers =>
    refine Kept.goTo ?_ ⟨allows.1, rfl⟩
    exact { sound with
      installed := fun _ => rfl
      handling := fun _ _ => rfl
      logger := fun _ => allows.2 }
  | registerExit registers =>
    dsimp only [Process.sectionStep]
    split
    · exact sound.goTo allows
    · split
      · exact Kept.goTo { sound with } allows
      · exact sound.leave
  | setInitialized =>
    refine Kept.leave ?_
    exact { sound with
      installed := fun _ => allows.2
      once := allows.1.1.symm ▸ Nat.le_refl 1
      fresh := nofun }
  | readFirst =>
    dsimp only [Process.sectionStep]
    split
    · exact sound.leave
    · exact sound.goTo trivial
  | readSecond =>
    dsimp only [Process.sectionStep]
    split
    · exact sound.leave
    · rename_i set_
      exact sound.goTo set_
  | cleanUp =>
    refine Kept.goTo ?_ allows
    exact { sound with
      deletes := fun logger member => (List.mem_append.mp member).elim (sound.deletes logger) fun own =>
        sound.known logger (Option.mem_toList.mp own)
      fresh := fun unset => absurd unset allows }
  | setShutdown =>
    refine Kept.leave ?_
    exact { sound with
      installed := fun _ => sound.installed allows
      fresh := nofun }

/-- No handler has read the state and not written it when `Clear` writes it. -/
def Quiet (process : Process Thread) (event : ProcessEvent Thread) : Prop :=
  ∀ thread, event = .goOn thread → process.mutex = some (thread, .setShutdown) → ∀ other, process.inHandler other = false

/-- The process has been cleaned up at most once, and if it has, the state says so or is about to. -/
structure Settled (process : Process Thread) : Prop where
  quiet : process.state = .shutdown → ∀ thread, process.inHandler thread = false
  bounded : process.deleted.length ≤ 1
  cleaned : process.deleted ≠ [] → process.state = .shutdown ∨ ∃ thread, process.mutex = some (thread, .setShutdown)
  running : ∀ thread point, process.mutex = some (thread, point) → point = .readSecond ∨ point = .cleanUp →
    process.state ≠ .shutdown

theorem start_settled : ({} : Process Thread).Settled where
  quiet := nofun
  bounded := Nat.zero_le 1
  cleaned different := absurd rfl different
  running := nofun

theorem Settled.shutdown (settled : process.Settled)
    (elsewhere : ∀ thread, process.mutex ≠ some (thread, .setShutdown)) (cleaned : process.deleted ≠ []) :
    process.state = .shutdown :=
  (settled.cleaned cleaned).resolve_right fun ⟨thread, here⟩ => elsewhere thread here

theorem Settled.leave (settled : process.Settled) (elsewhere : ∀ thread, process.mutex ≠ some (thread, .setShutdown)) :
    process.leave.Settled :=
  ⟨settled.quiet, settled.bounded, fun cleaned => Or.inl (settled.shutdown elsewhere cleaned), nofun⟩

theorem Settled.goTo (settled : process.Settled) (elsewhere : ∀ thread, process.mutex ≠ some (thread, .setShutdown))
    (running : point = .readSecond ∨ point = .cleanUp → process.state ≠ .shutdown) :
    (process.goTo thread point).Settled := by
  refine ⟨settled.quiet, settled.bounded, fun cleaned => Or.inl (settled.shutdown elsewhere cleaned), fun _ _ here => ?_⟩
  cases here
  exact running

theorem Settled.sectionStep (settled : process.Settled) (sound : process.Sound)
    (here : process.mutex = some (thread, point))
    (quiet : point = .setShutdown → ∀ other, process.inHandler other = false) :
    (process.sectionStep thread point).Settled := by
  have allows := sound.allows thread point here
  have running := settled.running thread point here
  have elsewhere : point ≠ .setShutdown → ∀ thread, process.mutex ≠ some (thread, .setShutdown) := by
    intro other thread there
    rw [here] at there
    cases there
    exact other rfl
  cases point with
  | checkState registers =>
    dsimp only [Process.sectionStep]
    split
    · exact settled.leave (elsewhere nofun)
    · exact settled.goTo (elsewhere nofun) nofun
  | initLogger registers =>
    refine Settled.goTo ?_ (elsewhere nofun) nofun
    exact { settled with }
  | installHandler registers =>
    refine Settled.goTo ?_ (elsewhere nofun) nofun
    exact { settled with }
  | registerExit registers =>
    dsimp only [Process.sectionStep]
    split
    · exact settled.goTo (elsewhere nofun) nofun
    · split
      · exact Settled.goTo { settled with } (elsewhere nofun) nofun
      · exact settled.leave (elsewhere nofun)
  | setInitialized =>
    have nothing : process.deleted = [] := allows.1.2
    exact ⟨nofun, settled.bounded, fun cleaned => absurd nothing cleaned, nofun⟩
  | readFirst =>
    dsimp only [Process.sectionStep]
    split
    · exact settled.leave (elsewhere nofun)
    · rename_i before
      exact settled.goTo (elsewhere nofun) fun _ => before
  | readSecond =>
    dsimp only [Process.sectionStep]
    split
    · exact settled.leave (elsewhere nofun)
    · exact settled.goTo (elsewhere nofun) fun _ => running (Or.inl rfl)
  | cleanUp =>
    have nothing : process.deleted = [] := by
      by_contra cleaned
      exact running (Or.inr rfl) (settled.shutdown (elsewhere nofun) cleaned)
    refine ⟨settled.quiet, ?_, fun _ => Or.inr ⟨thread, rfl⟩, fun _ _ there => ?_⟩
    · show (process.deleted ++ process.asyncLogger.toList).length ≤ 1
      rw [nothing, List.nil_append]
      cases process.asyncLogger with
      | none => exact Nat.zero_le 1
      | some logger => exact Nat.le_refl 1
    · cases there
      exact nofun
  | setShutdown => exact ⟨fun _ => quiet rfl, settled.bounded, fun _ => Or.inl rfl, nofun⟩

variable [DecidableEq Thread]

theorem Sound.step {event : ProcessEvent Thread} (sound : process.Sound) (taken : process.step event = some next) :
    next.Sound := by
  cases event with
  | init thread registers =>
    simp only [Process.step, Option.ite_none_right_eq_some, Option.some.injEq] at taken
    obtain ⟨-, rfl⟩ := taken
    exact sound.goTo trivial
  | clear thread =>
    simp only [Process.step, Option.ite_none_right_eq_some, Option.some.injEq] at taken
    obtain ⟨-, rfl⟩ := taken
    exact sound.goTo trivial
  | goOn thread =>
    simp only [Process.step] at taken
    split at taken
    · rename_i holder point here
      obtain ⟨⟨rfl, -⟩, same⟩ := Option.ite_none_right_eq_some.mp taken
      exact Option.some.inj same ▸ sound.sectionStep here
    · cases taken
  | sigint thread =>
    simp only [Process.step, Option.ite_none_right_eq_some, Option.some.injEq] at taken
    obtain ⟨⟨installed, -⟩, rfl⟩ := taken
    exact { sound with handling := fun _ _ => installed }
  | handlerStores thread =>
    simp only [Process.step, Option.ite_none_right_eq_some, Option.some.injEq] at taken
    obtain ⟨handling, rfl⟩ := taken
    have installed := sound.handling thread handling
    refine ⟨{ sound with
      installed := fun _ => installed
      handling := fun _ _ => installed
      fresh := nofun }, fun holder point here => ?_⟩
    have allows := sound.allows holder point here
    cases point
    case cleanUp => exact nofun
    case setShutdown => exact nofun
    all_goals exact allows

theorem reached {events : List (ProcessEvent Thread)} (ran : run Process.step {} events = some process) :
    process.Sound :=
  run_invariant (fun reached _ => reached.Sound) (fun _ _ _ _ taken sound => sound.step taken) start_sound ran

theorem Settled.step {event : ProcessEvent Thread} (settled : process.Settled) (sound : process.Sound)
    (quiet : process.Quiet event) (taken : process.step event = some next) : next.Settled := by
  cases event with
  | init thread registers =>
    simp only [Process.step, Option.ite_none_right_eq_some, Option.some.injEq] at taken
    obtain ⟨⟨free, -⟩, rfl⟩ := taken
    exact settled.goTo (fun _ there => nomatch free.symm.trans there) nofun
  | clear thread =>
    simp only [Process.step, Option.ite_none_right_eq_some, Option.some.injEq] at taken
    obtain ⟨⟨free, -⟩, rfl⟩ := taken
    exact settled.goTo (fun _ there => nomatch free.symm.trans there) nofun
  | goOn thread =>
    simp only [Process.step] at taken
    split at taken
    · rename_i holder point here
      obtain ⟨⟨rfl, -⟩, same⟩ := Option.ite_none_right_eq_some.mp taken
      exact Option.some.inj same ▸ settled.sectionStep sound here fun last => quiet holder rfl (last ▸ here)
    · cases taken
  | sigint thread =>
    simp only [Process.step, Option.ite_none_right_eq_some, Option.some.injEq] at taken
    obtain ⟨-, rfl⟩ := taken
    refine { settled with quiet := fun ended other => ?_ }
    have ended : process.state = .shutdown := ended
    show Function.update process.inHandler thread (decide (process.state ≠ .shutdown)) other = false
    by_cases own : other = thread
    · rw [own, Function.update_self, ended]
      rfl
    · rw [Function.update_of_ne own]
      exact settled.quiet ended other
  | handlerStores thread =>
    simp only [Process.step, Option.ite_none_right_eq_some, Option.some.injEq] at taken
    obtain ⟨handling, rfl⟩ := taken
    have before : process.state ≠ .shutdown := by
      intro ended
      rw [settled.quiet ended thread] at handling
      cases handling
    exact ⟨nofun, settled.bounded, fun cleaned => Or.inr ((settled.cleaned cleaned).resolve_left before), nofun⟩

/-- Once `Init` has succeeded, no step takes the state out of the shutdown. -/
theorem Sound.staysDown {event : ProcessEvent Thread} (sound : process.Sound) (initialised : process.succeeded = 1)
    (down : process.state.isShutdown = true) (taken : process.step event = some next) :
    next.succeeded = 1 ∧ next.state.isShutdown = true := by
  cases event with
  | init thread registers =>
    simp only [Process.step, Option.ite_none_right_eq_some, Option.some.injEq] at taken
    obtain ⟨-, rfl⟩ := taken
    exact ⟨initialised, down⟩
  | clear thread =>
    simp only [Process.step, Option.ite_none_right_eq_some, Option.some.injEq] at taken
    obtain ⟨-, rfl⟩ := taken
    exact ⟨initialised, down⟩
  | goOn thread =>
    simp only [Process.step] at taken
    split at taken
    · rename_i holder point here
      obtain ⟨-, same⟩ := Option.ite_none_right_eq_some.mp taken
      obtain rfl := Option.some.inj same
      have allows := sound.allows holder point here
      cases point with
      | setInitialized =>
        rw [allows.1.1] at initialised
        cases initialised
      | setShutdown => exact ⟨initialised, rfl⟩
      | checkState registers | readFirst | readSecond =>
        dsimp only [Process.sectionStep]
        split <;> exact ⟨initialised, down⟩
      | registerExit registers =>
        dsimp only [Process.sectionStep]
        split
        · exact ⟨initialised, down⟩
        · split <;> exact ⟨initialised, down⟩
      | initLogger registers | installHandler registers | cleanUp => exact ⟨initialised, down⟩
    · cases taken
  | sigint thread =>
    simp only [Process.step, Option.ite_none_right_eq_some, Option.some.injEq] at taken
    obtain ⟨-, rfl⟩ := taken
    exact ⟨initialised, down⟩
  | handlerStores thread =>
    simp only [Process.step, Option.ite_none_right_eq_some, Option.some.injEq] at taken
    obtain ⟨-, rfl⟩ := taken
    exact ⟨initialised, rfl⟩

/-- However the calls and the signals interleave, the process is initialised at most once, and from a shutdown that comes
    after it there is no way back. `Clear` cleans up at most once, and deletes a logger that `Init` has made, unless
    a handler reads the state before `Clear` writes it and writes it behind `Clear`. -/
theorem lifecycle {events : List (ProcessEvent Thread)} (ran : run Process.step {} events = some process) :
    process.succeeded ≤ 1 ∧ (∀ logger ∈ process.deleted, logger < process.made) ∧
      (Meets Process.step Quiet {} events → process.deleted.length ≤ 1) ∧
      (process.succeeded = 1 → process.state.isShutdown = true →
        ∀ later next, run Process.step process later = some next → next.state.isShutdown = true) := by
  have sound := reached ran
  refine ⟨sound.once, sound.deletes, fun quiet => ?_, fun initialised down later next ran' => ?_⟩
  · exact (quiet.preserves (fun reached : Process Thread => reached.Settled ∧ reached.Sound)
      (fun _ _ _ met taken holds => ⟨holds.1.step holds.2 met taken, holds.2.step taken⟩)
      ⟨start_settled, start_sound⟩ ran).1.bounded
  · have kept := run_invariant
      (fun (reached : Process Thread) _ => reached.Sound ∧ reached.succeeded = 1 ∧ reached.state.isShutdown = true)
      (fun _ _ _ _ taken holds => ⟨holds.1.step taken, holds.1.staysDown holds.2.1 holds.2.2 taken⟩)
      ⟨sound, initialised, down⟩ ran'
    exact kept.2.2

/-- A second thread handles a signal while `Clear` returns, and the exit handler cleans up again. -/
def lateHandler : List (ProcessEvent Bool) :=
  [.init true true, .goOn true, .goOn true, .goOn true, .goOn true, .goOn true,
    .clear true, .goOn true, .goOn true, .goOn true, .sigint false, .goOn true, .handlerStores false,
    .clear true, .goOn true, .goOn true, .goOn true, .goOn true]

theorem lateHandler_lifecycle : ∃ process, run Process.step {} lateHandler = some process ∧
    process.deleted = [0, 0] ∧ ¬Meets Process.step Quiet {} lateHandler := by
  have reached : (run Process.step ({} : Process Bool) lateHandler).any (fun process =>
      decide (process.deleted = [0, 0])) = true := by
    decide +kernel
  obtain ⟨process, ran, holds⟩ := (Option.any_eq_true _ _).mp reached
  have deleted := of_decide_eq_true holds
  refine ⟨process, ran, deleted, fun quiet => ?_⟩
  have once := (lifecycle ran).2.2.1 quiet
  rw [deleted] at once
  cases once
  contradiction

end Process

end CyberRT.Startup

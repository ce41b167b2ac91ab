import CyberRT.Execution.Run
import CyberRT.Logger.AsyncLogger

namespace CyberRT.Logger

open Execution

namespace AsyncLogger

variable {Thread : Type} {settings : LogSettings} {logger next : AsyncLogger Thread}

/-- The thread is between taking the flag and clearing it. -/
def WritePoint.holds : WritePoint → Bool
  | .emplaceBack _ _ | .clearFlag => true
  | _ => false

def RunPoint.holds : RunPoint → Bool
  | .swap | .clearFlag => true
  | _ => false

/-- `none` is the log thread. -/
def Holds (logger : AsyncLogger Thread) : Option Thread → Prop
  | none => RunPoint.holds logger.logThread = true
  | some thread => WritePoint.holds (logger.writer thread) = true

/-- The active buffer is appended to and swapped by one thread at a time. -/
structure Guarded (logger : AsyncLogger Thread) : Prop where
  taken : ∀ holder, logger.Holds holder → logger.flag = true
  alone : ∀ holder other, logger.Holds holder → logger.Holds other → holder = other

theorem Guarded.frame (guarded : logger.Guarded) (flag : next.flag = logger.flag)
    (held : ∀ holder, next.Holds holder → logger.Holds holder) : next.Guarded where
  taken := fun holder holds => flag ▸ guarded.taken holder (held holder holds)
  alone := fun holder other holds holds' => guarded.alone holder other (held holder holds) (held other holds')

theorem Guarded.take (guarded : logger.Guarded) (who : Option Thread) (free : logger.flag = false) (flag : next.flag = true)
    (held : ∀ holder, next.Holds holder → holder = who ∨ logger.Holds holder) : next.Guarded := by
  have only : ∀ holder, next.Holds holder → holder = who := by
    intro holder holds
    rcases held holder holds with same | before
    · exact same
    · have taken := guarded.taken holder before
      rw [free] at taken
      cases taken
  exact ⟨fun _ _ => flag, fun holder other holds holds' => (only holder holds).trans (only other holds').symm⟩

theorem Guarded.clear (guarded : logger.Guarded) (who : Option Thread) (holds : logger.Holds who)
    (left : ∀ holder, next.Holds holder → holder ≠ who ∧ logger.Holds holder) : next.Guarded := by
  have nobody : ∀ holder, ¬next.Holds holder := by
    intro holder held
    obtain ⟨differs, before⟩ := left holder held
    exact differs (guarded.alone holder who before holds)
  exact ⟨fun holder held => absurd held (nobody holder), fun holder _ held => absurd held (nobody holder)⟩

theorem Guarded.logThreadStep (guarded : logger.Guarded) (taken : logger.logThreadStep settings = some next) :
    next.Guarded := by
  have moved : ∀ point, RunPoint.holds point = false → { logger with logThread := point }.Guarded := by
    intro point free
    apply guarded.frame
    · rfl
    intro holder holds
    cases holder with
    | none =>
      have held : RunPoint.holds point = true := holds
      rw [free] at held
      cases held
    | some thread => exact holds
  unfold AsyncLogger.logThreadStep at taken
  cases here : logger.logThread with
  | unstarted => simp [here] at taken
  | returned => simp [here] at taken
  | loadState | measure =>
    simp only [here] at taken
    obtain rfl := Option.some.inj taken
    apply moved
    split <;> rfl
  | testAndSet =>
    simp only [here] at taken
    split at taken
    · obtain rfl := Option.some.inj taken
      exact guarded
    · rename_i free
      obtain rfl := Option.some.inj taken
      apply guarded.take none (by simpa using free)
      · rfl
      intro holder holds
      cases holder with
      | none => exact Or.inl rfl
      | some thread => exact Or.inr holds
  | swap =>
    simp only [here] at taken
    obtain rfl := Option.some.inj taken
    apply guarded.frame
    · rfl
    intro holder holds
    cases holder with
    | none => simp [Holds, here, RunPoint.holds]
    | some thread => exact holds
  | clearFlag =>
    simp only [here] at taken
    obtain rfl := Option.some.inj taken
    apply guarded.clear none (by simp [Holds, here, RunPoint.holds])
    intro holder holds
    cases holder with
    | none => cases holds
    | some thread => exact ⟨by simp, holds⟩
  | flush moduleName =>
    simp only [here] at taken
    split at taken
    · obtain rfl := Option.some.inj taken
      exact moved _ rfl
    · obtain rfl := Option.some.inj taken
      apply (moved (.flush _) rfl).frame
      · rfl
      intro holder holds
      cases holder <;> exact holds
  | sleep =>
    simp only [here] at taken
    obtain rfl := Option.some.inj taken
    exact moved _ rfl

theorem Guarded.stopperStep (guarded : logger.Guarded) (taken : logger.stopperStep settings = some next) :
    next.Guarded := by
  have kept : next.flag = logger.flag ∧ next.writer = logger.writer ∧ next.logThread = logger.logThread := by
    unfold AsyncLogger.stopperStep at taken
    split at taken
    · cases taken
    · cases taken
    · obtain rfl := Option.some.inj taken
      exact ⟨rfl, rfl, rfl⟩
    · split at taken
      · obtain rfl := Option.some.inj taken
        exact ⟨rfl, rfl, rfl⟩
      · cases taken
    · split at taken
      all_goals
        obtain rfl := Option.some.inj taken
        exact ⟨rfl, rfl, rfl⟩
  obtain ⟨flag, writer, logThread⟩ := kept
  apply guarded.frame flag
  intro holder holds
  cases holder <;> simpa only [Holds, writer, logThread] using holds

variable [DecidableEq Thread]

theorem holds_toWriter {thread : Thread} {point : WritePoint} {holder : Option Thread}
    (holds : (logger.toWriter thread point).Holds holder) :
    holder = some thread ∧ WritePoint.holds point = true ∨ holder ≠ some thread ∧ logger.Holds holder := by
  cases holder with
  | none => exact Or.inr ⟨by simp, holds⟩
  | some other =>
    by_cases same : other = thread
    · subst same
      simp only [Holds, toWriter, Function.update_self] at holds
      exact Or.inl ⟨rfl, holds⟩
    · simp only [Holds, toWriter, Function.update_of_ne same] at holds
      exact Or.inr ⟨by simpa using same, holds⟩

theorem Guarded.idle {thread : Thread} {point : WritePoint} (guarded : logger.Guarded)
    (free : WritePoint.holds point = false) : (logger.toWriter thread point).Guarded := by
  apply guarded.frame
  · rfl
  intro holder holds
  rcases holds_toWriter holds with ⟨_, holds⟩ | ⟨_, holds⟩
  · rw [free] at holds
    cases holds
  · exact holds

theorem Guarded.writerStep {thread : Thread} (guarded : logger.Guarded) (taken : logger.writerStep thread = some next) :
    next.Guarded := by
  unfold AsyncLogger.writerStep at taken
  cases here : logger.writer thread with
  | idle => simp [here] at taken
  | loadState forceFlush timestamp message =>
    simp only [here] at taken
    split at taken
    · obtain rfl := Option.some.inj taken
      exact guarded.idle rfl
    · split at taken
      · obtain rfl := Option.some.inj taken
        exact guarded.idle rfl
      · split at taken
        · have idle : (logger.toWriter thread .idle).Guarded := guarded.idle rfl
          unfold AsyncLogger.stop at taken
          split at taken
          · obtain rfl := Option.some.inj taken
            exact idle.frame rfl (fun holder => by cases holder <;> exact id)
          · cases taken
        · obtain rfl := Option.some.inj taken
          exact guarded.idle rfl
  | testAndSet timestamp message =>
    simp only [here] at taken
    split at taken
    · obtain rfl := Option.some.inj taken
      exact guarded
    · rename_i free
      obtain rfl := Option.some.inj taken
      apply guarded.take (some thread) (by simpa using free)
      · rfl
      intro holder holds
      have moved : (logger.toWriter thread (.emplaceBack timestamp message)).Holds holder := by cases holder <;> exact holds
      exact (holds_toWriter moved).imp And.left And.right
  | emplaceBack timestamp message =>
    simp only [here] at taken
    obtain ⟨level, _, rfl⟩ := Option.map_eq_some_iff.mp taken
    apply guarded.frame
    · rfl
    intro holder holds
    have moved : (logger.toWriter thread .clearFlag).Holds holder := by cases holder <;> exact holds
    rcases holds_toWriter moved with ⟨same, _⟩ | ⟨_, holds⟩
    · rw [same]
      simp [Holds, here, WritePoint.holds]
    · exact holds
  | clearFlag =>
    simp only [here] at taken
    obtain rfl := Option.some.inj taken
    apply guarded.clear (some thread) (by simp [Holds, here, WritePoint.holds])
    intro holder holds
    have moved : (logger.toWriter thread .idle).Holds holder := by cases holder <;> exact holds
    rcases holds_toWriter moved with ⟨_, holds⟩ | left
    · cases holds
    · exact left

theorem Guarded.step {event : LoggerEvent Thread} (taken : step settings logger event = some next)
    (guarded : logger.Guarded) : next.Guarded := by
  cases event with
  | start =>
    unfold AsyncLogger.step AsyncLogger.start at taken
    simp only at taken
    split at taken
    · obtain rfl := Option.some.inj taken
      apply guarded.frame
      · rfl
      intro holder holds
      cases holder with
      | none => cases holds
      | some thread => exact holds
    · cases taken
  | stop =>
    unfold AsyncLogger.step AsyncLogger.stop at taken
    simp only at taken
    split at taken
    · obtain rfl := Option.some.inj taken
      exact guarded.frame rfl (fun holder => by cases holder <;> exact id)
    · cases taken
  | write thread forceFlush timestamp message =>
    unfold AsyncLogger.step AsyncLogger.write at taken
    simp only at taken
    split at taken
    · obtain rfl := Option.some.inj taken
      exact guarded.idle rfl
    · cases taken
  | writer thread => exact guarded.writerStep taken
  | logThread => exact guarded.logThreadStep taken
  | stopper => exact guarded.stopperStep taken

theorem run_guarded {events : List (LoggerEvent Thread)} (ran : run (step settings) {} events = some logger) :
    logger.Guarded := by
  have start : ({} : AsyncLogger Thread).Guarded := by
    have nobody : ∀ holder, ¬({} : AsyncLogger Thread).Holds holder := by
      intro holder
      cases holder <;> simp [Holds, WritePoint.holds, RunPoint.holds]
    exact ⟨fun holder held => absurd held (nobody holder), fun holder _ held => absurd held (nobody holder)⟩
  exact Meets.preserves Guarded (fun _ _ _ _ => Guarded.step) start (meets_true _ events) ran

end AsyncLogger
end CyberRT.Logger

import CyberRT.Io.PollHandler

namespace CyberRT.Io

open CyberRT.Croutine Execution

/-- `Block` has been entered and its routine is not suspended. -/
def BlockPoint.Within : BlockPoint → Prop
  | .idle | .readResponse _ => False
  | _ => True

def BlockPoint.Waits : BlockPoint → Prop
  | .swap _ => True
  | _ => False

/-- `is_blocking_` is set. -/
def BlockPoint.Blocks : BlockPoint → Prop
  | .idle | .exchange _ _ => False
  | _ => True

def BlockPoint.InGap : BlockPoint → Prop
  | .setState _ => True
  | _ => False

/-- `NotifyTask` has been called. -/
def PollPoint.Notifies : PollPoint → Prop
  | .callback .notifyReadState _ | .callback .setUpdateFlag _ => True
  | _ => False

/-- A routine that has registered its request has no update pending. It is still to set its state, or it waits and nobody is
    about to wake it. -/
def Unaware {Processor : Type} (host : Hosting Processor) : BlockPoint → Prop
  | .setState _ => host.routine.updated = true
  | .swap _ | .readResponse _ => host.Asleep .ioWait
  | _ => False

theorem unaware_step {Processor : Type} [DecidableEq Processor] {host host' : Hosting Processor} {point : BlockPoint}
    {processor : Processor} {elapsed : Bool} (carries : host.Carries point.Within point.Waits)
    (taken : host.step processor elapsed = some host') (unaware : Unaware host' point) : Unaware host point := by
  cases point with
  | setState isRead =>
    obtain ⟨other, inside⟩ := carries.inside trivial
    rw [carries.held.step_inside inside taken] at unaware
    exact unaware
  | swap isRead | readResponse isRead => exact Hosting.asleep_step taken (Or.inr rfl) unaware
  | idle | exchange timeoutMs isRead | register isRead | leave result => exact unaware

namespace PollSession

variable {Processor : Type} {session next : PollSession Processor}

structure Attended (session : PollSession Processor) : Prop where
  carries : session.host.Carries session.block.Within session.block.Waits
  blocking : session.block.Blocks → session.handler.isBlocking = true
  notifying : session.poll.Notifies → ¬session.block.InGap

/-- The request has had its response, and neither a callback nor a processor is going to tell the routine. -/
structure Missed (session : PollSession Processor) : Prop where
  answered : session.answered = true
  unaware : Unaware session.host session.block
  noCallback : session.poll.isCallback = false

theorem Stranded.missed (stranded : session.Stranded) : session.Missed := by
  obtain ⟨isRead, waiting⟩ := stranded.waiting
  refine ⟨stranded.answered, ?_, stranded.noCallback⟩
  rw [waiting]
  exact stranded.asleep

/-- `ResponseCallback` reads the state of a routine that has registered its request and has not set its state yet, and no
    update of the routine is pending. -/
def overlooks (session : PollSession Processor) : Bool :=
  match session.poll, session.block with
  | .callback .readState _, .setState _ => session.host.routine.updated
  | _, _ => false

def notifiesInTime (session : PollSession Processor) : SessionEvent Processor → Bool
  | .callback => !session.overlooks
  | _ => true

theorem attended_start (fd pipeFd : Int) : (start fd pipeFd : PollSession Processor).Attended := by
  constructor
  · exact ⟨Hosting.held_start, fun past => past.elim, fun _ _ _ => rfl⟩
  · exact fun blocks => blocks.elim
  · exact fun notifies => notifies.elim

/-- A step of the poller, which leaves the routine alone. -/
theorem Attended.at_poller (attended : session.Attended) (host : next.host = session.host)
    (block : next.block = session.block) (blocking : next.handler.isBlocking = session.handler.isBlocking)
    (notifying : next.poll.Notifies → ¬session.block.InGap) : next.Attended := by
  constructor
  · rw [host, block]
    exact attended.carries
  · rw [block, blocking]
    exact attended.blocking
  · rw [block]
    exact notifying

theorem Attended.callbackStep (attended : session.Attended) (taken : session.callbackStep = some next) :
    next.Attended := by
  unfold PollSession.callbackStep at taken
  split at taken
  · obtain rfl := Option.some.inj taken
    refine attended.at_poller rfl rfl rfl ?_
    dsimp only
    split
    · exact fun notifies => notifies.elim
    · exact fun notifies => notifies.elim
  · obtain rfl := Option.some.inj taken
    exact attended.at_poller rfl rfl rfl fun notifies => notifies.elim
  · obtain rfl := Option.some.inj taken
    refine attended.at_poller rfl rfl rfl ?_
    dsimp only
    split
    · rename_i ioWait
      intro _ gap
      -- inside its processor and before `set_state` the routine is ready
      have within : session.block.Within := by
        cases point : session.block <;> simp_all [BlockPoint.InGap, BlockPoint.Within]
      have running : ¬session.block.Waits := by
        cases point : session.block <;> simp_all [BlockPoint.InGap, BlockPoint.Waits]
      obtain ⟨processor, inside⟩ := attended.carries.inside within
      have ready := attended.carries.resumed running processor inside
      rw [ioWait] at ready
      cases ready
    · exact fun notifies => notifies.elim
  · rename_i here
    obtain rfl := Option.some.inj taken
    refine attended.at_poller rfl rfl rfl ?_
    intro _
    apply attended.notifying
    rw [here]
    trivial
  · obtain rfl := Option.some.inj taken
    exact ⟨attended.carries.setUpdateFlag, attended.blocking, fun notifies => notifies.elim⟩
  · cases taken

/-- A step that the routine takes inside its processor. -/
theorem Attended.at_routine (attended : session.Attended) {processor : Processor}
    (inside : session.host.processor processor = .inside) (running : ¬session.block.Waits)
    (host : next.host = session.host) (blocking : next.block.Blocks → next.handler.isBlocking = true)
    (notifying : next.poll.Notifies → ¬next.block.InGap) : next.Attended := by
  constructor
  · rw [host]
    have ready := attended.carries.resumed running processor inside
    exact attended.carries.inside_to inside rfl fun _ => ready
  · exact blocking
  · exact notifying

theorem Attended.call [DecidableEq Processor] (attended : session.Attended) {processor : Processor} {timeoutMs : Int}
    {isRead : Bool} (taken : session.call processor timeoutMs isRead = some next) : next.Attended := by
  unfold PollSession.call at taken
  split at taken
  · cases taken
  · rename_i within
    have inside := not_not.mp within
    split at taken
    · rename_i here
      split at taken
      · obtain rfl := Option.some.inj taken
        exact ⟨attended.carries, attended.blocking, attended.notifying⟩
      · obtain rfl := Option.some.inj taken
        refine attended.at_routine inside ?_ rfl (fun blocks => blocks.elim) fun _ gap => gap.elim
        rw [here]
        exact id
    · cases taken

variable [DecidableEq Processor]

theorem Attended.routineStep (attended : session.Attended) {processor : Processor}
    (taken : session.routineStep processor = some next) : next.Attended := by
  have blocking := attended.blocking
  unfold PollSession.routineStep at taken
  split at taken
  · cases taken
  · rename_i within
    have inside := not_not.mp within
    split at taken
    · cases taken
    · rename_i here
      have running : ¬session.block.Waits := by rw [here]; exact id
      split at taken
      · obtain rfl := Option.some.inj taken
        exact attended.at_routine inside running rfl (fun blocks => blocks.elim) fun _ gap => gap.elim
      · obtain rfl := Option.some.inj taken
        exact attended.at_routine inside running rfl (fun _ => rfl) fun _ gap => gap.elim
    · rename_i here
      have running : ¬session.block.Waits := by rw [here]; exact id
      rw [here] at blocking
      split at taken
      · cases taken
      · rename_i outside
        split at taken
        · obtain rfl := Option.some.inj taken
          refine attended.at_routine inside running rfl (fun _ => blocking trivial) ?_
          intro notifies
          cases point : session.poll <;> simp_all [PollPoint.isCallback, PollPoint.Notifies]
        · obtain rfl := Option.some.inj taken
          exact attended.at_routine inside running rfl (fun _ => blocking trivial) fun _ gap => gap.elim
    · rename_i here
      rw [here] at blocking
      obtain rfl := Option.some.inj taken
      have lock : (session.host.routine.setState .ioWait).lock = session.host.routine.lock := rfl
      constructor
      · exact attended.carries.inside_to inside lock fun running => absurd trivial running
      · exact fun _ => blocking trivial
      · exact fun _ gap => gap.elim
    · rename_i here
      rw [here] at blocking
      obtain rfl := Option.some.inj taken
      constructor
      · exact attended.carries.leave inside id
      · exact fun _ => blocking trivial
      · exact fun _ gap => gap.elim
    · rename_i here
      have running : ¬session.block.Waits := by rw [here]; exact id
      rw [here] at blocking
      obtain rfl := Option.some.inj taken
      exact attended.at_routine inside running rfl (fun _ => blocking trivial) fun _ gap => gap.elim
    · rename_i here
      have running : ¬session.block.Waits := by rw [here]; exact id
      obtain rfl := Option.some.inj taken
      exact attended.at_routine inside running rfl (fun blocks => blocks.elim) fun _ gap => gap.elim

/-- A step of the thread of the poller outside a callback, or one of another thread. It may begin a callback. -/
structure Aside (session next : PollSession Processor) : Prop where
  host : next.host = session.host
  block : next.block = session.block
  handler : next.handler = session.handler
  answered : next.answered = session.answered
  outside : session.poll.isCallback = false
  quiet : ¬next.poll.Notifies

omit [DecidableEq Processor] in
theorem pollStep_aside {event : SessionEvent Processor} (taken : session.pollStep event = some next) :
    session.Aside next := by
  cases event with
  | handleChanges =>
    simp only [pollStep] at taken
    split at taken
    · rename_i here
      obtain rfl := Option.some.inj taken
      exact ⟨rfl, rfl, rfl, rfl, by rw [here]; rfl, id⟩
    · cases taken
  | wait ready =>
    simp only [pollStep] at taken
    split at taken
    · rename_i here
      split at taken
      · obtain rfl := Option.some.inj taken
        exact ⟨rfl, rfl, rfl, rfl, by rw [here]; rfl, id⟩
      · cases taken
    · cases taken
  | expire intervalMs =>
    simp only [pollStep] at taken
    split at taken
    · rename_i here
      obtain rfl := Option.some.inj taken
      exact ⟨rfl, rfl, rfl, rfl, by rw [here]; rfl, id⟩
    · cases taken
  | respond fd =>
    simp only [pollStep] at taken
    split at taken
    · rename_i here
      obtain ⟨response, _, rfl⟩ := Option.map_eq_some_iff.mp taken
      refine ⟨rfl, rfl, rfl, rfl, by rw [here]; rfl, ?_⟩
      dsimp only
      split <;> exact id
    · cases taken
  | responded =>
    simp only [pollStep] at taken
    split at taken
    · rename_i here
      split at taken
      · obtain rfl := Option.some.inj taken
        exact ⟨rfl, rfl, rfl, rfl, by rw [here]; rfl, id⟩
      · cases taken
    · cases taken
  | call _ _ _ | routine _ | processor _ _ | callback | register _ | unregister _ => cases taken

omit [DecidableEq Processor] in
theorem otherStep_aside {request : PollRequest PollCallback} {poller : Poller PollCallback}
    (taken : session.otherStep request poller = some next) : session.Aside next := by
  unfold PollSession.otherStep at taken
  split at taken
  · cases taken
  · rename_i free
    have outside : session.poll.isCallback = false := Bool.eq_false_iff.mpr fun busy => free (Or.inl busy)
    obtain rfl := Option.some.inj taken
    refine ⟨rfl, rfl, rfl, rfl, outside, ?_⟩
    cases point : session.poll <;> simp_all [PollPoint.isCallback, PollPoint.Notifies]

omit [DecidableEq Processor] in
theorem Attended.aside (attended : session.Attended) (aside : session.Aside next) : next.Attended := by
  apply attended.at_poller aside.host aside.block
  · rw [aside.handler]
  · exact fun notifies => absurd notifies aside.quiet

theorem Attended.step (attended : session.Attended) {event : SessionEvent Processor}
    (taken : session.step event = some next) : next.Attended := by
  cases event with
  | call processor timeoutMs isRead => exact attended.call taken
  | routine processor => exact attended.routineStep taken
  | processor processor elapsed =>
    obtain ⟨host, moved, rfl⟩ := Option.map_eq_some_iff.mp taken
    exact ⟨attended.carries.step moved, attended.blocking, attended.notifying⟩
  | callback => exact attended.callbackStep taken
  | register request | unregister request => exact attended.aside (otherStep_aside taken)
  | handleChanges | wait ready | expire intervalMs | respond fd | responded =>
    simp only [PollSession.step] at taken
    exact attended.aside (pollStep_aside taken)

theorem missed_routineStep {processor : Processor}
    (taken : session.routineStep processor = some next) (missed : next.Missed) : session.Missed := by
  have unaware := missed.unaware
  unfold PollSession.routineStep at taken
  split at taken
  · cases taken
  · rename_i within
    have inside := not_not.mp within
    split at taken
    · cases taken
    · split at taken <;> obtain rfl := Option.some.inj taken <;> exact unaware.elim
    · split at taken
      · cases taken
      · split at taken
        · obtain rfl := Option.some.inj taken
          cases missed.answered
        · obtain rfl := Option.some.inj taken
          exact unaware.elim
    · rename_i here
      obtain rfl := Option.some.inj taken
      refine ⟨missed.answered, ?_, missed.noCallback⟩
      rw [here]
      exact unaware.noUpdate
    · rename_i here
      obtain rfl := Option.some.inj taken
      refine ⟨missed.answered, ?_, missed.noCallback⟩
      rw [here]
      have asleep : Hosting.Asleep { session.host.toPoint processor .release with
          routine := session.host.routine } .ioWait := unaware
      exact asleep.before (by rw [inside]; decide) rfl rfl
    · obtain rfl := Option.some.inj taken
      exact unaware.elim
    · obtain rfl := Option.some.inj taken
      exact unaware.elim

omit [DecidableEq Processor] in
/-- The callback of a response leaves the routine unaware of it only where it overlooks the routine. -/
theorem missed_callbackStep (attended : session.Attended) (taken : session.callbackStep = some next)
    (missed : next.Missed) : session.overlooks = true := by
  have unaware := missed.unaware
  have noCallback := missed.noCallback
  unfold PollSession.callbackStep at taken
  split at taken
  · obtain rfl := Option.some.inj taken
    dsimp only at noCallback unaware
    split at noCallback
    · cases noCallback
    · rename_i notBlocking
      have blocks : session.block.Blocks := by
        cases point : session.block <;> simp_all [Unaware, BlockPoint.Blocks]
      exact absurd (attended.blocking blocks) notBlocking
  · obtain rfl := Option.some.inj taken
    cases noCallback
  · rename_i here
    obtain rfl := Option.some.inj taken
    dsimp only at noCallback unaware
    split at noCallback
    · cases noCallback
    · rename_i notWaiting
      cases point : session.block with
      | setState isRead =>
        rw [point] at unaware
        simp only [overlooks, here, point]
        exact unaware
      | swap isRead | readResponse isRead =>
        rw [point] at unaware
        exact absurd unaware.state notWaiting
      | idle | exchange timeoutMs isRead | register isRead | leave result =>
        rw [point] at unaware
        exact unaware.elim
  · rename_i here
    obtain rfl := Option.some.inj taken
    dsimp only at noCallback unaware
    split at noCallback
    · cases noCallback
    · rename_i notWaiting
      have gap := attended.notifying (by rw [here]; trivial)
      cases point : session.block with
      | setState isRead =>
        rw [point] at gap
        exact absurd trivial gap
      | swap isRead | readResponse isRead =>
        rw [point] at unaware
        exact absurd (by rw [CRoutine.isWaiting, unaware.state]; rfl) notWaiting
      | idle | exchange timeoutMs isRead | register isRead | leave result =>
        rw [point] at unaware
        exact unaware.elim
  · obtain rfl := Option.some.inj taken
    dsimp only at unaware
    cases point : session.block with
    | setState isRead =>
      rw [point] at unaware
      cases unaware
    | swap isRead | readResponse isRead =>
      rw [point] at unaware
      cases unaware.noUpdate
    | idle | exchange timeoutMs isRead | register isRead | leave result =>
      rw [point] at unaware
      exact unaware.elim
  · cases taken

omit [DecidableEq Processor] in
theorem missed_aside (aside : session.Aside next) (missed : next.Missed) : session.Missed := by
  refine ⟨aside.answered.symm.trans missed.answered, ?_, aside.outside⟩
  rw [← aside.host, ← aside.block]
  exact missed.unaware

/-- The only step at which a response comes to be missed is the access of a callback that overlooks the routine. -/
theorem missed_step (attended : session.Attended) {event : SessionEvent Processor}
    (taken : session.step event = some next) (missed : next.Missed) :
    session.Missed ∨ session.notifiesInTime event = false := by
  cases event with
  | call processor timeoutMs isRead =>
    simp only [PollSession.step, PollSession.call] at taken
    split at taken
    · cases taken
    · split at taken
      · split at taken
        · obtain rfl := Option.some.inj taken
          exact Or.inl ⟨missed.answered, missed.unaware, missed.noCallback⟩
        · obtain rfl := Option.some.inj taken
          exact missed.unaware.elim
      · cases taken
  | routine processor => exact Or.inl (missed_routineStep taken missed)
  | processor processor elapsed =>
    obtain ⟨host, moved, rfl⟩ := Option.map_eq_some_iff.mp taken
    exact Or.inl ⟨missed.answered, unaware_step attended.carries moved missed.unaware, missed.noCallback⟩
  | callback =>
    right
    rw [notifiesInTime, missed_callbackStep attended taken missed]
    rfl
  | register request | unregister request => exact Or.inl (missed_aside (otherStep_aside taken) missed)
  | handleChanges | wait ready | expire intervalMs | respond fd | responded =>
    simp only [PollSession.step] at taken
    exact Or.inl (missed_aside (pollStep_aside taken) missed)

omit [DecidableEq Processor] in
theorem not_missed_start (fd pipeFd : Int) : ¬(start fd pipeFd : PollSession Processor).Missed :=
  fun missed => missed.unaware.elim

/-- No run strands a routine whose responses all find it in time: one that is suspended after its response has been
    delivered has an update pending or a processor about to wake it. -/
theorem blocked_never_stranded {fd pipeFd : Int} {events : List (SessionEvent Processor)}
    (meets : Meets step (fun session event => session.notifiesInTime event = true) (start fd pipeFd) events)
    (ran : run step (start fd pipeFd) events = some session) : ¬session.Stranded := by
  have reached : session.Attended ∧ ¬session.Missed := by
    apply Meets.preserves (fun session => session.Attended ∧ ¬session.Missed) _ _ meets ran
    · intro session event next inTime taken ⟨attended, notMissed⟩
      refine ⟨attended.step taken, fun missed => ?_⟩
      rcases missed_step attended taken missed with before | late
      · exact notMissed before
      · rw [inTime] at late
        cases late
    · exact ⟨attended_start fd pipeFd, not_missed_start fd pipeFd⟩
  exact fun stranded => reached.2 stranded.missed

def hosted (steps : Nat) : List (SessionEvent Unit) := List.replicate steps (.processor () false)

def blocking (steps : Nat) : List (SessionEvent Unit) := List.replicate steps (.routine ())

/-- The poller hands the event of the descriptor to its callback, up to the access that reads the state. -/
def delivered : List (SessionEvent Unit) :=
  [.handleChanges, .wait [(5, epollIn)], .expire 1, .respond 5] ++ List.replicate 3 .callback

/-- The routine waits for a descriptor to be readable and is woken by the event. -/
def readableInTime : List (SessionEvent Unit) :=
  hosted 5 ++ [.call () 100 true] ++ blocking 4 ++ delivered ++ [.callback, .callback, .responded] ++ hosted 7 ++
    blocking 2

theorem readableInTime_not_stranded :
    ∃ session, run step (start 5 3) readableInTime = some session ∧ session.results = [true] ∧ ¬session.Stranded := by
  have reached : (run step (start 5 3) readableInTime).any (fun session =>
      decide (session.results = [true])) = true := by decide +kernel
  obtain ⟨session, ran, results⟩ := (Option.any_eq_true _ _).mp reached
  have inTime : Meets step (fun session event => session.notifiesInTime event = true) (start 5 3) readableInTime := by
    decide +kernel
  exact ⟨session, ran, of_decide_eq_true results, blocked_never_stranded inTime ran⟩

/-- The event is there as soon as the request is registered, before the routine has set its state. -/
def readableInGap : List (SessionEvent Unit) :=
  hosted 5 ++ [.call () 100 true] ++ blocking 2 ++ delivered ++ blocking 2 ++ hosted 1

theorem readableInGap_strands :
    ¬∀ (events : List (SessionEvent Unit)) (session : PollSession Unit),
      run step (start 5 3) events = some session → ¬session.Stranded := by
  intro never
  have reached : (run step (start 5 3) readableInGap).any (fun session =>
      decide (session.answered = true ∧ session.block = .readResponse true ∧
        session.host.routine.state = .ioWait ∧ session.host.routine.updated = true ∧
        session.host.processor () = .acquire ∧ session.poll.isCallback = false)) = true := by decide +kernel
  obtain ⟨session, ran, holds⟩ := (Option.any_eq_true _ _).mp reached
  obtain ⟨answered, waiting, ioWait, noUpdate, outside, noCallback⟩ := of_decide_eq_true holds
  refine never readableInGap session ran ⟨answered, ⟨true, waiting⟩, ⟨ioWait, noUpdate, ?_⟩, ?_, noCallback⟩
  · intro processor
    rw [outside]
    decide
  · intro processor
    rw [outside]
    decide

end PollSession

end CyberRT.Io

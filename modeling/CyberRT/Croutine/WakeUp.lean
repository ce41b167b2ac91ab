import CyberRT.Croutine.DataTask

namespace CyberRT.Croutine

open Execution

namespace DataTask

variable {Processor Dispatcher Message : Type} {task next : DataTask Processor Dispatcher Message}

/-- The routine has come back from `TryFetch` with nothing, although a message is there now, and no wake-up is on its
    way. -/
structure Missed (task : DataTask Processor Dispatcher Message) : Prop where
  unfetched : task.Unfetched
  dataWait : task.routine.state = .dataWait
  past : task.loop = .setDataWait ∨ task.loop = .yield
  noUpdate : task.routine.updated = true
  noAwaken : ∀ processor, task.processor processor ≠ .awaken
  noDispatch : ∀ dispatcher, task.dispatcher dispatcher = .idle

/-- Only the processor that holds the lock is at work on the routine, and the loop stands where its state says. -/
structure Attended (task : DataTask Processor Dispatcher Message) : Prop where
  locked : ∀ processor, task.processor processor ≠ .acquire → task.routine.lock = true
  alone : ∀ processor other, task.processor processor ≠ .acquire → task.processor other ≠ .acquire → processor = other
  inside : task.loop ≠ .setDataWait → ∃ processor, task.processor processor = .inside
  resumed : task.loop = .setDataWait → ∀ processor, task.processor processor = .inside → task.routine.state = .ready

theorem Stranded.missed (attended : task.Attended) (stranded : task.Stranded) : task.Missed := by
  refine ⟨stranded.unfetched, stranded.dataWait, ?_, stranded.noUpdate, stranded.noAwaken, stranded.noDispatch⟩
  by_contra past
  rw [not_or] at past
  obtain ⟨processor, inside⟩ := attended.inside past.1
  exact stranded.suspended processor inside

theorem attended_start (queueSize : Nat) :
    (start queueSize : DataTask Processor Dispatcher Message).Attended := by
  constructor <;> simp [start]

variable [DecidableEq Processor]

/-- A processor that holds the lock moves on without leaving the routine. -/
theorem Attended.move (attended : task.Attended) {processor : Processor} {point : ProcessorPoint}
    (working : task.processor processor ≠ .acquire) {routine : CRoutine} (lock : routine.lock = task.routine.lock)
    {loop : LoopPoint} {creator : CreatorPoint} {buffer : Data.CacheBuffer Message} {index : Nat}
    {dispatcher : Dispatcher → DispatcherPoint}
    (inside : loop ≠ .setDataWait → point = .inside)
    (resumed : loop = .setDataWait → point = .inside → routine.state = .ready) :
    Attended ⟨routine, loop, buffer, index, creator, Function.update task.processor processor point, dispatcher⟩ := by
  have others : ∀ other, Function.update task.processor processor point other ≠ .acquire →
      task.processor other ≠ .acquire := by
    intro other busy
    rw [Function.update_apply] at busy
    split at busy
    · rename_i same
      rw [same]
      exact working
    · exact busy
  constructor
  · intro other busy
    exact lock.trans (attended.locked other (others other busy))
  · intro first second busy busy'
    exact attended.alone first second (others first busy) (others second busy')
  · intro past
    exact ⟨processor, by simp [inside past]⟩
  · intro here other within
    dsimp only at within here ⊢
    rw [Function.update_apply] at within
    split at within
    · exact resumed here within
    · rename_i differs
      refine absurd (attended.alone other processor ?_ working) differs
      rw [within]
      decide

omit [DecidableEq Processor] in
theorem Attended.outside (attended : task.Attended) {processor : Processor}
    (working : task.processor processor ≠ .acquire) (outside : task.processor processor ≠ .inside) :
    task.loop = .setDataWait := by
  by_contra past
  obtain ⟨other, inside⟩ := attended.inside past
  have same := attended.alone processor other working (by rw [inside]; decide)
  exact outside (same ▸ inside)

/-- A processor that has the lock but is not inside may change the routine, unless it enters it. -/
theorem Attended.aside (attended : task.Attended) {processor : Processor} {here point : ProcessorPoint}
    (at_here : task.processor processor = here) (working : here ≠ .acquire) (outside : here ≠ .inside)
    {routine : CRoutine} (lock : routine.lock = task.routine.lock) (enters : point = .inside → routine.state = .ready) :
    Attended { task.toPoint processor point with routine := routine } := by
  rw [← at_here] at working outside
  have loop := attended.outside working outside
  exact attended.move working lock (fun past => absurd loop past) (fun _ inside => enters inside)

omit [DecidableEq Processor] in
/-- A step of the loop that does not leave the routine. -/
theorem Attended.loop (attended : task.Attended) {processor : Processor}
    (inside : task.processor processor = .inside) {routine : CRoutine} (lock : routine.lock = task.routine.lock)
    {loop : LoopPoint} (past : loop ≠ .setDataWait) {index : Nat} :
    Attended { task with routine := routine, loop := loop, nextMsgIndex := index } := by
  constructor
  · exact fun other busy => lock.trans (attended.locked other busy)
  · exact attended.alone
  · exact fun _ => ⟨processor, inside⟩
  · exact fun here => absurd here past

theorem Attended.acquired (attended : task.Attended) (processor : Processor) (lock : task.routine.lock = false) :
    Attended { task.toPoint processor .checkSleep with routine := task.routine.acquire.2 } := by
  have idle : ∀ other, task.processor other = .acquire := by
    intro other
    by_contra busy
    rw [attended.locked other busy] at lock
    cases lock
  have only : ∀ other, Function.update task.processor processor .checkSleep other ≠ .acquire → other = processor := by
    intro other busy
    by_contra differs
    rw [Function.update_of_ne differs] at busy
    exact busy (idle other)
  constructor
  · exact fun _ _ => rfl
  · exact fun first second busy busy' => (only first busy).trans (only second busy').symm
  · intro past
    obtain ⟨other, inside⟩ := attended.inside past
    rw [idle other] at inside
    cases inside
  · intro here other inside
    have updated : Function.update task.processor processor .checkSleep other = .inside := inside
    rw [only other (by rw [updated]; decide), Function.update_self] at updated
    cases updated

theorem Attended.released (attended : task.Attended) {processor : Processor}
    (here : task.processor processor = .release) :
    Attended { task.toPoint processor .acquire with routine := task.routine.release } := by
  have working : task.processor processor ≠ .acquire := by rw [here]; decide
  have loop := attended.outside working (by rw [here]; decide)
  have idle : ∀ other, Function.update task.processor processor .acquire other = .acquire := by
    intro other
    rw [Function.update_apply]
    split
    · rfl
    · rename_i differs
      by_contra busy
      exact differs (attended.alone other processor busy working)
  constructor
  · exact fun other busy => absurd (idle other) busy
  · exact fun other _ busy => absurd (idle other) busy
  · exact fun past => absurd loop past
  · intro _ other inside
    cases (idle other).symm.trans inside

theorem Attended.loopStep (attended : task.Attended) {processor : Processor}
    (inside : task.processor processor = .inside) : (task.loopStep processor).Attended := by
  have working : task.processor processor ≠ .acquire := by rw [inside]; decide
  rw [DataTask.loopStep]
  split
  · refine attended.loop inside ?_ ?_
    · rfl
    · decide
  · split
    all_goals
      refine attended.loop inside rfl ?_
      decide
  · refine attended.loop inside ?_ ?_
    · rfl
    · decide
  · exact attended.move working rfl (fun past => absurd rfl past) (fun _ inside => nomatch inside)

theorem Attended.processorStep (attended : task.Attended) {processor : Processor} {elapsed : Bool}
    (taken : task.processorStep processor elapsed = some next) : next.Attended := by
  rw [DataTask.processorStep] at taken
  split at taken
  next free =>
    split at taken
    · cases taken
    · split at taken
      next open_ =>
        obtain rfl := Option.some.inj taken
        exact attended.acquired processor (by simpa [CRoutine.acquire] using open_)
      next =>
        obtain rfl := Option.some.inj taken
        exact ⟨fun _ _ => rfl, attended.alone, attended.inside, attended.resumed⟩
  next here =>
    split at taken
    all_goals
      obtain rfl := Option.some.inj taken
      refine attended.aside here (by decide) (by decide) ?_ (by intro inside; cases inside)
      rfl
  next here =>
    obtain rfl := Option.some.inj taken
    refine attended.aside here (by decide) (by decide) ?_ (fun inside => ?_)
    · rfl
    · split at inside <;> cases inside
  next here =>
    obtain rfl := Option.some.inj taken
    refine attended.aside here (by decide) (by decide) ?_ (by intro inside; cases inside)
    rw [CRoutine.awaken]
    split <;> rfl
  next here =>
    obtain rfl := Option.some.inj taken
    refine attended.aside here (by decide) (by decide) ?_ (fun inside => ?_)
    · rfl
    · split at inside <;> cases inside
  next here =>
    split at taken
    · obtain rfl := Option.some.inj taken
      refine attended.aside here (by decide) (by decide) ?_ (by intro inside; cases inside)
      rfl
    · split at taken
      · obtain rfl := Option.some.inj taken
        exact attended.aside here (by decide) (by decide) rfl (by intro inside; cases inside)
      · rename_i ready
        obtain rfl := Option.some.inj taken
        exact attended.aside here (by decide) (by decide) rfl (fun _ => not_not.mp ready)
  next inside =>
    obtain rfl := Option.some.inj taken
    exact attended.loopStep inside
  next here =>
    obtain rfl := Option.some.inj taken
    exact attended.released here

variable [DecidableEq Dispatcher] {event : DataTaskEvent Processor Dispatcher Message}

theorem Attended.step (attended : task.Attended) (taken : task.step event = some next) : next.Attended := by
  cases event with
  | create =>
    simp only [DataTask.step, create] at taken
    split at taken
    all_goals first
      | (obtain rfl := Option.some.inj taken
         exact ⟨attended.locked, attended.alone, attended.inside, attended.resumed⟩)
      | cases taken
  | processor processor elapsed => exact attended.processorStep taken
  | fill dispatcher msg fused =>
    simp only [DataTask.step, fill] at taken
    split at taken
    · obtain rfl := Option.some.inj taken
      exact ⟨attended.locked, attended.alone, attended.inside, attended.resumed⟩
    · cases taken
  | dispatcher dispatcher =>
    simp only [DataTask.step, dispatcherStep] at taken
    split at taken
    all_goals first
      | (obtain rfl := Option.some.inj taken
         exact ⟨attended.locked, attended.alone, attended.inside, attended.resumed⟩)
      | cases taken

omit [DecidableEq Dispatcher] in
/-- A processor that was not about to awaken the routine has missed nothing that was not missed before. -/
theorem Missed.before {processor : Processor} {point : ProcessorPoint} {routine : CRoutine}
    (missed : Missed { task.toPoint processor point with routine := routine })
    (elsewhere : task.processor processor ≠ .awaken) (state : routine.state = task.routine.state)
    (updated : routine.updated = task.routine.updated) : task.Missed := by
  refine ⟨missed.unfetched, state.symm.trans missed.dataWait, missed.past, updated.symm.trans missed.noUpdate, ?_,
    missed.noDispatch⟩
  intro other
  by_cases same : other = processor
  · rw [same]
    exact elsewhere
  · have kept := missed.noAwaken other
    simp only [toPoint, Function.update_of_ne same] at kept
    exact kept

omit [DecidableEq Dispatcher] in
theorem missed_processorStep {processor : Processor} {elapsed : Bool}
    (taken : task.processorStep processor elapsed = some next) (missed : next.Missed) : task.Missed := by
  rw [processorStep] at taken
  split at taken
  next here =>
    split at taken
    · cases taken
    · split at taken
      · obtain rfl := Option.some.inj taken
        exact missed.before (by rw [here]; decide) rfl rfl
      · obtain rfl := Option.some.inj taken
        exact ⟨missed.unfetched, missed.dataWait, missed.past, missed.noUpdate, missed.noAwaken, missed.noDispatch⟩
  next here =>
    split at taken
    · obtain rfl := Option.some.inj taken
      cases missed.dataWait
    · obtain rfl := Option.some.inj taken
      exact missed.before (by rw [here]; decide) rfl rfl
  next here =>
    obtain rfl := Option.some.inj taken
    cases pending : task.routine.updated with
    | false =>
      have awakens := missed.noAwaken processor
      simp [CRoutine.takeUpdate, pending, toPoint] at awakens
    | true => exact missed.before (by rw [here]; decide) rfl (by simp [CRoutine.takeUpdate, pending])
  next here =>
    obtain rfl := Option.some.inj taken
    have waits := missed.dataWait
    simp only [CRoutine.awaken] at waits
    split at waits
    · cases waits
    · rename_i awake
      simp [CRoutine.isWaiting, waits] at awake
  next here =>
    obtain rfl := Option.some.inj taken
    exact missed.before (by rw [here]; decide) rfl rfl
  next here =>
    split at taken
    · obtain rfl := Option.some.inj taken
      cases missed.dataWait
    · split at taken
      all_goals
        obtain rfl := Option.some.inj taken
        exact missed.before (by rw [here]; decide) rfl rfl
  next here =>
    obtain rfl := Option.some.inj taken
    rw [loopStep] at missed
    split at missed
    · rcases missed.past with past | past <;> cases past
    · split at missed
      · rcases missed.past with past | past <;> cases past
      · rename_i empty
        have unfetched := missed.unfetched
        simp [Unfetched, empty] at unfetched
    · cases missed.dataWait
    · rename_i yields
      have kept : Missed { task.toPoint processor .release with routine := task.routine } :=
        ⟨missed.unfetched, missed.dataWait, Or.inr yields, missed.noUpdate, missed.noAwaken, missed.noDispatch⟩
      exact kept.before (by rw [here]; decide) rfl rfl
  next here =>
    obtain rfl := Option.some.inj taken
    exact missed.before (by rw [here]; decide) rfl rfl

/-- The only step at which a message comes to be missed is that of a dispatch that finds no callback. -/
theorem missed_step (taken : task.step event = some next) (missed : next.Missed) :
    task.Missed ∨ task.isRegistered = false ∧
      ∃ dispatcher, event = .dispatcher dispatcher ∧ task.dispatcher dispatcher = .readCallback := by
  cases event with
  | create =>
    left
    simp only [step, create] at taken
    split at taken
    all_goals first
      | (obtain rfl := Option.some.inj taken
         exact ⟨missed.unfetched, missed.dataWait, missed.past, missed.noUpdate, missed.noAwaken, missed.noDispatch⟩)
      | cases taken
  | processor processor elapsed => exact Or.inl (missed_processorStep taken missed)
  | fill dispatcher msg fused =>
    simp only [step, fill] at taken
    split at taken
    · obtain rfl := Option.some.inj taken
      have busy := missed.noDispatch dispatcher
      simp at busy
    · cases taken
  | dispatcher dispatcher =>
    simp only [step, dispatcherStep] at taken
    split at taken
    next => cases taken
    next here =>
      obtain rfl := Option.some.inj taken
      cases registered : task.isRegistered with
      | false => exact Or.inr ⟨rfl, dispatcher, rfl, here⟩
      | true =>
        have busy := missed.noDispatch dispatcher
        simp [registered] at busy
    next here =>
      obtain rfl := Option.some.inj taken
      have busy := missed.noDispatch dispatcher
      have asleep : task.routine.state = .dataWait := missed.dataWait
      have waits : task.routine.isWaiting = true := by simp [CRoutine.isWaiting, asleep]
      simp [waits] at busy
    next here =>
      obtain rfl := Option.some.inj taken
      cases missed.noUpdate

omit [DecidableEq Dispatcher] in
theorem creator_loopStep (processor : Processor) : (task.loopStep processor).creator = task.creator := by
  rw [loopStep]
  split
  · rfl
  · split <;> rfl
  · rfl
  · rfl

omit [DecidableEq Dispatcher] in
theorem creator_processorStep {processor : Processor} {elapsed : Bool}
    (taken : task.processorStep processor elapsed = some next) : next.creator = task.creator := by
  rw [processorStep] at taken
  split at taken
  next =>
    split at taken
    · cases taken
    · split at taken
      all_goals
        obtain rfl := Option.some.inj taken
        rfl
  next =>
    split at taken
    all_goals
      obtain rfl := Option.some.inj taken
      rfl
  next =>
    obtain rfl := Option.some.inj taken
    rfl
  next =>
    obtain rfl := Option.some.inj taken
    rfl
  next =>
    obtain rfl := Option.some.inj taken
    rfl
  next =>
    split at taken
    · obtain rfl := Option.some.inj taken
      rfl
    · split at taken
      all_goals
        obtain rfl := Option.some.inj taken
        rfl
  next =>
    obtain rfl := Option.some.inj taken
    exact creator_loopStep processor
  next =>
    obtain rfl := Option.some.inj taken
    rfl

theorem creator_step (taken : task.step event = some next) : event = .create ∨ next.creator = task.creator := by
  cases event with
  | create => exact Or.inl rfl
  | processor processor elapsed => exact Or.inr (creator_processorStep taken)
  | fill dispatcher msg fused =>
    simp only [step, fill] at taken
    split at taken
    · obtain rfl := Option.some.inj taken
      exact Or.inr rfl
    · cases taken
  | dispatcher dispatcher =>
    simp only [step, dispatcherStep] at taken
    split at taken
    · cases taken
    all_goals
      obtain rfl := Option.some.inj taken
      exact Or.inr rfl

theorem attended_run (attended : task.Attended) {events : List (DataTaskEvent Processor Dispatcher Message)}
    (ran : run step task events = some next) : next.Attended :=
  Meets.preserves Attended (fun _ _ _ _ taken attended => attended.step taken) attended (meets_true _ _) ran

/-- The routine goes to sleep, a message comes in and wakes it, it handles the message and goes to sleep again. -/
def wokenOnce : List (DataTaskEvent Unit Unit Nat) :=
  let work := List.replicate 10 (.processor () false)
  work ++ [.fill () 7 true, .dispatcher (), .dispatcher (), .dispatcher ()] ++ work ++ work ++ work

/-- `CreateTask` registers the callback before a message has been missed. -/
def RegistersInTime (task : DataTask Processor Dispatcher Message)
    (event : DataTaskEvent Processor Dispatcher Message) : Prop :=
  event = .create → task.creator = .registerNotifyCallback → ¬task.Missed

theorem registersInTime_step (meets : task.RegistersInTime event) (taken : task.step event = some next)
    (settled : task.isRegistered = true → ¬task.Missed) : next.isRegistered = true → ¬next.Missed := by
  intro registered missed
  rcases missed_step taken missed with before | ⟨unregistered, dispatcher, rfl, _⟩
  · rcases creator_step taken with rfl | same
    · cases here : task.creator with
      | registerNotifyCallback => exact meets rfl here before
      | dispatchTask =>
        simp only [step, create, here] at taken
        obtain rfl := Option.some.inj taken
        cases registered
      | leave => exact settled (by simp [isRegistered, here]) before
      | returned => exact settled (by simp [isRegistered, here]) before
    · rw [isRegistered, same] at registered
      exact settled registered before
  · rcases creator_step taken with impossible | same
    · cases impossible
    · rw [isRegistered, same] at registered
      exact nomatch unregistered.symm.trans registered

/-- When the callback is registered before a message has been missed, no message is stranded once `CreateTask` has
    returned. -/
theorem created_never_stranded {queueSize : Nat} {events : List (DataTaskEvent Processor Dispatcher Message)}
    (inTime : Meets step RegistersInTime (start queueSize) events)
    (ran : run step (start queueSize) events = some task) :
    ¬(task.creator = .returned ∧ task.Stranded) := by
  rintro ⟨returned, stranded⟩
  have settled : task.isRegistered = true → ¬task.Missed :=
    Meets.preserves (fun task => task.isRegistered = true → ¬task.Missed)
      (fun _ _ _ meets taken settled => registersInTime_step meets taken settled) (by simp [start, isRegistered])
      inTime ran
  exact settled (by simp [isRegistered, returned]) (stranded.missed (attended_run (attended_start queueSize) ran))

theorem wokenOnce_in_time :
    ∃ task : DataTask Unit Unit Nat, run step (start 1) (.create :: .create :: .create :: wokenOnce) = some task ∧
      task.nextMsgIndex = 2 ∧ ¬(task.creator = .returned ∧ task.Stranded) := by
  have reached : (run step (start 1 : DataTask Unit Unit Nat) (.create :: .create :: .create :: wokenOnce)).any
      (fun task => decide (task.nextMsgIndex = 2)) = true := by
    decide +kernel
  obtain ⟨task, ran, fetched⟩ := (Option.any_eq_true _ _).mp reached
  have inTime : Meets step RegistersInTime (start 1 : DataTask Unit Unit Nat)
      (.create :: .create :: .create :: wokenOnce) := by
    refine ⟨(fun _ here => nomatch here), fun next taken => ?_⟩
    obtain rfl := Option.some.inj taken
    refine ⟨(fun _ _ missed => nomatch missed.dataWait), fun next taken => ?_⟩
    obtain rfl := Option.some.inj taken
    refine ⟨(fun _ here => nomatch here), fun next taken => ?_⟩
    refine meets_of_forall (fun event member task creates => ?_) next
    subst creates
    simp [wokenOnce] at member
  exact ⟨task, ran, of_decide_eq_true fetched, created_never_stranded inTime ran⟩

/-- The routine runs before its callback is registered and finds nothing; a message arrives in the gap. -/
def arrivesInGap : List (DataTaskEvent Unit Unit Nat) :=
  .create :: List.replicate 9 (.processor () false) ++ [.fill () 7 true, .dispatcher (), .create, .create]

theorem arrivesInGap_strands :
    ¬∀ (events : List (DataTaskEvent Unit Unit Nat)) (task : DataTask Unit Unit Nat),
      run step (start 1) events = some task → ¬(task.creator = .returned ∧ task.Stranded) := by
  intro never
  have reached : (run step (start 1) arrivesInGap).any (fun task =>
      decide ((task.buffer.tryFetch task.nextMsgIndex).isSome ∧ task.routine.state = .dataWait ∧
        task.routine.updated = true ∧ task.processor () = .acquire ∧ task.dispatcher () = .idle ∧
        task.creator = .returned)) = true := by
    decide +kernel
  obtain ⟨task, ran, holds⟩ := (Option.any_eq_true _ _).mp reached
  obtain ⟨unfetched, dataWait, noUpdate, acquires, idle, returned⟩ := of_decide_eq_true holds
  refine never arrivesInGap task ran ⟨returned, unfetched, dataWait, ?_, noUpdate, ?_, fun _ => idle⟩
  all_goals
    intro processor
    rw [show task.processor processor = .acquire from acquires]
    decide

/-- A message that is missed when the callback is registered is stranded if no other message follows. -/
theorem missed_strands (attended : task.Attended) (missed : task.Missed)
    (registers : task.creator = .registerNotifyCallback) :
    ∃ events final, run step task (.create :: events) = some final ∧
      (∀ dispatcher msg fused, .fill dispatcher msg fused ∉ events) ∧
      final.creator = .returned ∧ final.Stranded := by
  have registered : task.step .create = some { task with creator := .leave } := by simp [step, create, registers]
  rcases missed.past with asleep | yields
  · refine ⟨[.create], { task with creator := .returned }, ?_, by simp, rfl, ?_⟩
    · rw [run_cons, registered]
      rfl
    · refine ⟨missed.unfetched, missed.dataWait, ?_, missed.noUpdate, missed.noAwaken, missed.noDispatch⟩
      intro processor inside
      exact nomatch missed.dataWait.symm.trans (attended.resumed asleep processor inside)
  · obtain ⟨processor, inside⟩ := attended.inside (by rw [yields]; decide)
    have swapped : ∀ other, Function.update task.processor processor .release other ≠ .inside ∧
        Function.update task.processor processor .release other ≠ .awaken := by
      intro other
      rw [Function.update_apply]
      split
      · exact ⟨by decide, by decide⟩
      · rename_i differs
        refine ⟨fun within => differs ?_, missed.noAwaken other⟩
        exact attended.alone other processor (by rw [within]; decide) (by rw [inside]; decide)
    refine ⟨[.processor processor false, .create],
      { task.toPoint processor .release with loop := .setDataWait, creator := .returned }, ?_, by simp, rfl, ?_⟩
    · rw [run_cons, registered]
      simp only [Option.bind_some, run_cons, step, processorStep, inside, loopStep, yields]
      rfl
    · exact ⟨missed.unfetched, missed.dataWait, fun other => (swapped other).1, missed.noUpdate,
        fun other => (swapped other).2, missed.noDispatch⟩

end DataTask

end CyberRT.Croutine

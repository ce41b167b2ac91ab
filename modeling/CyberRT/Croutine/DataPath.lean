import CyberRT.Croutine.WakeUp
import CyberRT.Data.Deliveries

namespace CyberRT.Data.DataVisitor

variable {Message : Type} {visitor : DataVisitor Message} {queueSize : Nat}

/-- Messages with increasing numbers stand in the history in that order. -/
theorem sublist_of_numbers {filled : List Message} {delivered : List (Nat × Option Message)} (low : Nat)
    (increasing : (delivered.map Prod.fst).Pairwise (· < ·)) (above : ∀ entry ∈ delivered, low < entry.1)
    (delivers : ∀ entry ∈ delivered, entry.1 ≤ filled.length ∧ entry.2 = filled[entry.1 - 1]?) :
    (delivered.map Prod.snd).Sublist ((filled.drop low).map some) := by
  induction delivered generalizing low with
  | nil => exact List.nil_sublist _
  | cons entry delivered ih =>
    obtain ⟨number, msg⟩ := entry
    rw [List.map_cons, List.pairwise_cons] at increasing
    obtain ⟨within, same⟩ := delivers _ List.mem_cons_self
    have later := above _ List.mem_cons_self
    dsimp only at within same later
    have here : number - 1 < filled.length := by omega
    have rest : (delivered.map Prod.snd).Sublist ((filled.drop number).map some) := by
      refine ih number increasing.2 (fun other member => ?_) fun other member => ?_
      · exact increasing.1 other.1 (List.mem_map_of_mem member)
      · exact delivers other (List.mem_cons_of_mem _ member)
    have split : (filled.drop (number - 1)).map some = msg :: (filled.drop number).map some := by
      rw [List.drop_eq_getElem_cons here, List.map_cons, same, List.getElem?_eq_getElem here,
        show number - 1 + 1 = number by omega]
    have part : (filled.drop (number - 1)).Sublist (filled.drop low) := List.drop_sublist_drop_left _ (by omega)
    refine List.Sublist.trans ?_ (part.map some)
    rw [split]
    exact rest.cons_cons msg

theorem Visits.sublist (visits : visitor.Visits queueSize) :
    (visitor.delivered.map Prod.snd).Sublist (visitor.filled.map some) := by
  refine sublist_of_numbers 0 visits.increasing (fun entry member => ?_) fun entry member => ?_
  · exact (visits.delivers entry.1 entry.2 member).1
  · exact (visits.delivers entry.1 entry.2 member).2

/-- When nothing is left to fetch, the newest message has been delivered last. -/
theorem Visits.getLast?_eq (visits : visitor.Visits queueSize) (positive : 0 < queueSize)
    (nothing : visitor.upcoming = none) :
    (visitor.delivered.map Prod.snd).getLast? = (visitor.filled.map some).getLast? := by
  have all := (visits.lawful positive).nothing.mp nothing
  rw [List.getLast?_map, List.getLast?_map]
  unfold lastDelivered at all
  cases last : visitor.delivered.getLast? with
  | none =>
    rw [last] at all
    rw [List.eq_nil_of_length_eq_zero all.symm]
    rfl
  | some entry =>
    rw [last] at all
    have number : entry.1 = visitor.filled.length := all
    obtain ⟨positive, -, same⟩ := visits.delivers entry.1 entry.2 (List.mem_of_getLast? last)
    rw [number, ← List.getLast?_eq_getElem?] at same
    obtain ⟨newest, there⟩ : ∃ newest, visitor.filled.getLast? = some newest := by
      refine ⟨visitor.filled.getLast fun none => ?_, List.getLast?_eq_some_getLast _⟩
      rw [none, List.length_nil] at number
      omega
    rw [there] at same ⊢
    exact congrArg some same

end CyberRT.Data.DataVisitor

namespace CyberRT.Croutine

open Execution Data

namespace DataTask

variable {Processor Dispatcher Message : Type} {task next : DataTask Processor Dispatcher Message}
  {visitor : DataVisitor Message} {queueSize : Nat} {event : DataTaskEvent Processor Dispatcher Message}

/-- What an event puts into the buffer of the visitor. -/
def filledBy : DataTaskEvent Processor Dispatcher Message → Option Message
  | .fill _ msg true => some msg
  | _ => none

/-- What `TryFetch` gives in the event; the routine calls the callback of the task with it next. -/
def handedBy (task : DataTask Processor Dispatcher Message) :
    DataTaskEvent Processor Dispatcher Message → Option (Option Message)
  | .processor processor _ =>
    if task.processor processor = .inside ∧ task.loop = .tryFetch then
      (task.buffer.tryFetch task.nextMsgIndex).map Prod.snd
    else none
  | _ => none

/-- `CreateTask` has returned, the routine waits for data, and nobody is about to wake it. -/
structure AtRest (task : DataTask Processor Dispatcher Message) : Prop where
  returned : task.creator = .returned
  dataWait : task.routine.state = .dataWait
  suspended : ∀ processor, task.processor processor ≠ .inside
  noUpdate : task.routine.updated = true
  noAwaken : ∀ processor, task.processor processor ≠ .awaken
  noDispatch : ∀ dispatcher, task.dispatcher dispatcher = .idle

/-- The visitor has the buffer of the task. -/
structure Tracks (task : DataTask Processor Dispatcher Message) (visitor : DataVisitor Message) : Prop where
  buffer : visitor.buffer = task.buffer
  index : visitor.nextMsgIndex = task.nextMsgIndex

theorem Tracks.upcoming (tracks : task.Tracks visitor) :
    task.buffer.tryFetch task.nextMsgIndex = visitor.upcoming.map fun fetched => (fetched.1 + 1, fetched.2) := by
  rw [CacheBuffer.tryFetch, DataVisitor.upcoming, tracks.buffer, tracks.index]

theorem Tracks.unfetched_iff (tracks : task.Tracks visitor) : task.Unfetched ↔ visitor.upcoming ≠ none := by
  rw [Unfetched, tracks.upcoming, Option.isSome_map, Option.isSome_iff_ne_none]

/-- The one access of the loop that moves the index is that to `TryFetch`. -/
theorem loopStep_kept [DecidableEq Processor] (processor : Processor) (other : task.loop ≠ .tryFetch) :
    (task.loopStep processor).buffer = task.buffer ∧ (task.loopStep processor).nextMsgIndex = task.nextMsgIndex := by
  rw [loopStep]
  split
  · exact ⟨rfl, rfl⟩
  · rename_i fetches
    exact absurd fetches other
  · exact ⟨rfl, rfl⟩
  · exact ⟨rfl, rfl⟩

theorem processorStep_kept [DecidableEq Processor] {processor : Processor} {elapsed : Bool}
    (taken : task.processorStep processor elapsed = some next)
    (other : ¬(task.processor processor = .inside ∧ task.loop = .tryFetch)) :
    next.buffer = task.buffer ∧ next.nextMsgIndex = task.nextMsgIndex := by
  rw [processorStep] at taken
  split at taken
  next =>
    split at taken
    · cases taken
    · split at taken
      all_goals
        obtain rfl := Option.some.inj taken
        exact ⟨rfl, rfl⟩
  next =>
    split at taken
    all_goals
      obtain rfl := Option.some.inj taken
      exact ⟨rfl, rfl⟩
  next =>
    obtain rfl := Option.some.inj taken
    exact ⟨rfl, rfl⟩
  next =>
    obtain rfl := Option.some.inj taken
    exact ⟨rfl, rfl⟩
  next =>
    obtain rfl := Option.some.inj taken
    exact ⟨rfl, rfl⟩
  next =>
    split at taken
    · obtain rfl := Option.some.inj taken
      exact ⟨rfl, rfl⟩
    · split at taken
      all_goals
        obtain rfl := Option.some.inj taken
        exact ⟨rfl, rfl⟩
  next here =>
    obtain rfl := Option.some.inj taken
    exact loopStep_kept processor fun fetches => other ⟨here, fetches⟩
  next =>
    obtain rfl := Option.some.inj taken
    exact ⟨rfl, rfl⟩

/-- Inside the routine the access to `TryFetch` is that of the visitor. -/
theorem Tracks.fetch [DecidableEq Processor] (tracks : task.Tracks visitor) {processor : Processor} {elapsed : Bool}
    (inside : task.processor processor = .inside) (fetches : task.loop = .tryFetch)
    (taken : task.processorStep processor elapsed = some next) :
    next.Tracks visitor.tryFetch ∧ visitor.tryFetch.delivered.map Prod.snd = visitor.delivered.map Prod.snd ++
      ((task.buffer.tryFetch task.nextMsgIndex).map Prod.snd).toList := by
  simp only [processorStep, inside, loopStep, fetches, tracks.upcoming, Option.some.injEq] at taken
  rw [tracks.upcoming, DataVisitor.tryFetch]
  cases upcoming : visitor.upcoming with
  | none =>
    simp only [upcoming, Option.map_none] at taken ⊢
    subst taken
    exact ⟨⟨tracks.buffer, tracks.index⟩, by simp⟩
  | some fetched =>
    simp only [upcoming, Option.map_some] at taken ⊢
    subst taken
    exact ⟨⟨tracks.buffer, rfl⟩, by simp⟩

variable [DecidableEq Processor] [DecidableEq Dispatcher]

/-- What `TryFetch` gives in a run. -/
def handed (task : DataTask Processor Dispatcher Message) :
    List (DataTaskEvent Processor Dispatcher Message) → List (Option Message)
  | [] => []
  | event :: events => (task.handedBy event).toList ++ ((task.step event).map fun next => handed next events).getD []

theorem Tracks.step (tracks : task.Tracks visitor) (visits : visitor.Visits queueSize) (positive : 0 < queueSize)
    (taken : task.step event = some next) : ∃ after : DataVisitor Message, next.Tracks after ∧ after.Visits queueSize ∧
      after.filled = visitor.filled ++ (filledBy event).toList ∧
      after.delivered.map Prod.snd = visitor.delivered.map Prod.snd ++ (task.handedBy event).toList := by
  have kept : next.buffer = task.buffer → next.nextMsgIndex = task.nextMsgIndex → filledBy event = none →
      task.handedBy event = none → ∃ after : DataVisitor Message, next.Tracks after ∧ after.Visits queueSize ∧
        after.filled = visitor.filled ++ (filledBy event).toList ∧
        after.delivered.map Prod.snd = visitor.delivered.map Prod.snd ++ (task.handedBy event).toList := by
    intro buffer index nothing nothing'
    refine ⟨visitor, ⟨tracks.buffer.trans buffer.symm, tracks.index.trans index.symm⟩, visits, ?_, ?_⟩
    · simp [nothing]
    · simp [nothing']
  cases event with
  | create =>
    simp only [DataTask.step, create] at taken
    split at taken
    all_goals first
      | (obtain rfl := Option.some.inj taken
         exact kept rfl rfl rfl rfl)
      | cases taken
  | processor processor elapsed =>
    by_cases fetches : task.processor processor = .inside ∧ task.loop = .tryFetch
    · obtain ⟨after, handed⟩ := tracks.fetch fetches.1 fetches.2 taken
      refine ⟨visitor.tryFetch, after, visits.tryFetch positive, ?_, ?_⟩
      · have filled : visitor.tryFetch.filled = visitor.filled := by
          rw [DataVisitor.tryFetch]
          split <;> rfl
        simp [filled, filledBy]
      · rw [handedBy, if_pos fetches]
        exact handed
    · obtain ⟨buffer, index⟩ := processorStep_kept taken fetches
      exact kept buffer index rfl (if_neg fetches)
  | fill dispatcher msg fused =>
    simp only [DataTask.step, DataTask.fill] at taken
    split at taken
    · obtain rfl := Option.some.inj taken
      cases fused with
      | false => exact kept rfl rfl rfl rfl
      | true =>
        refine ⟨visitor.fill msg, ⟨?_, tracks.index⟩, visits.fill msg, rfl, by simp [handedBy, DataVisitor.fill]⟩
        rw [DataVisitor.fill, tracks.buffer]
        rfl
    · cases taken
  | dispatcher dispatcher =>
    simp only [DataTask.step, dispatcherStep] at taken
    split at taken
    all_goals first
      | (obtain rfl := Option.some.inj taken
         exact kept rfl rfl rfl rfl)
      | cases taken

/-- The visitor of a run has what came in and what went out in it. -/
theorem Tracks.run {events : List (DataTaskEvent Processor Dispatcher Message)} (tracks : task.Tracks visitor)
    (visits : visitor.Visits queueSize) (positive : 0 < queueSize) (ran : run DataTask.step task events = some next) :
    ∃ after : DataVisitor Message, next.Tracks after ∧ after.Visits queueSize ∧
      after.filled = visitor.filled ++ events.filterMap filledBy ∧
      after.delivered.map Prod.snd = visitor.delivered.map Prod.snd ++ task.handed events := by
  induction events generalizing task visitor with
  | nil =>
    obtain rfl := Option.some.inj ran
    exact ⟨visitor, tracks, visits, by simp, by simp [handed]⟩
  | cons event events ih =>
    obtain ⟨middle, taken, rest⟩ := run_cons_some ran
    obtain ⟨between, tracks', visits', filled, delivered⟩ := tracks.step visits positive taken
    obtain ⟨after, tracks'', visits'', filled', delivered'⟩ := ih tracks' visits' rest
    refine ⟨after, tracks'', visits'', ?_, ?_⟩
    · rw [filled', filled, List.append_assoc, List.filterMap_cons]
      cases filledBy event <;> rfl
    · rw [delivered', delivered, List.append_assoc, handed, taken]
      rfl

/-- Whatever is registered in time is not missed at the end. -/
theorem AtRest.fetched (rest : task.AtRest) {events : List (DataTaskEvent Processor Dispatcher Message)}
    (inTime : Meets step RegistersInTime (start queueSize) events)
    (ran : Execution.run step (start queueSize) events = some task) : ¬task.Unfetched := by
  intro unfetched
  have stranded : task.Stranded :=
    ⟨unfetched, rest.dataWait, rest.suspended, rest.noUpdate, rest.noAwaken, rest.noDispatch⟩
  have settled : task.isRegistered = true → ¬task.Missed := by
    refine Meets.preserves (fun task => task.isRegistered = true → ¬task.Missed) ?_ ?_ inTime ran
    · exact fun _ _ _ meets taken settled => registersInTime_step meets taken settled
    · intro registered
      cases registered
  refine settled ?_ (stranded.missed (attended_run (attended_start queueSize) ran))
  rw [isRegistered, rest.returned]
  rfl

/-- The callback gets messages of the buffer only, each once and in the order of their arrival. When its task was
    registered in time and everything has come to rest, the newest message was handed to it last. -/
theorem handed_in_order {events : List (DataTaskEvent Processor Dispatcher Message)} (positive : 0 < queueSize)
    (ran : Execution.run step (start queueSize) events = some task) :
    ((start queueSize).handed events).Sublist ((events.filterMap filledBy).map some) ∧
      (Meets step RegistersInTime (start queueSize) events → task.AtRest →
        ((start queueSize).handed events).getLast? = ((events.filterMap filledBy).map some).getLast?) := by
  have tracks : (start queueSize : DataTask Processor Dispatcher Message).Tracks (.ofSize queueSize) := ⟨rfl, rfl⟩
  obtain ⟨visitor, tracks, visits, filled, delivered⟩ :=
    tracks.run (DataVisitor.visits_ofSize queueSize) positive ran
  rw [show events.filterMap filledBy = visitor.filled from filled.symm,
    show (start queueSize).handed events = visitor.delivered.map Prod.snd from delivered.symm]
  refine ⟨visits.sublist, fun inTime rest => visits.getLast?_eq positive ?_⟩
  by_contra upcoming
  exact rest.fetched inTime ran (tracks.unfetched_iff.mpr upcoming)

theorem wokenOnce_handed :
    ∃ task : DataTask Unit Unit Nat, run step (start 1) (.create :: .create :: .create :: wokenOnce) = some task ∧
      ((start 1).handed (.create :: .create :: .create :: wokenOnce)).getLast? = some (some 7) := by
  have reached : (run step (start 1 : DataTask Unit Unit Nat) (.create :: .create :: .create :: wokenOnce)).any
      (fun task => decide (task.creator = .returned ∧ task.routine.state = .dataWait ∧
        task.processor () ≠ .inside ∧ task.routine.updated = true ∧ task.processor () ≠ .awaken ∧
        task.dispatcher () = .idle)) = true := by
    decide +kernel
  obtain ⟨task, ran, holds⟩ := (Option.any_eq_true _ _).mp reached
  obtain ⟨returned, dataWait, suspended, noUpdate, noAwaken, noDispatch⟩ := of_decide_eq_true holds
  have inTime : Meets step RegistersInTime (start 1 : DataTask Unit Unit Nat)
      (.create :: .create :: .create :: wokenOnce) := by
    refine ⟨(fun _ here => nomatch here), fun next taken => ?_⟩
    obtain rfl := Option.some.inj taken
    refine ⟨(fun _ _ missed => nomatch missed.dataWait), fun next taken => ?_⟩
    obtain rfl := Option.some.inj taken
    refine ⟨(fun _ here => nomatch here), fun next taken => ?_⟩
    refine meets_of_forall (fun event member task creates => ?_) next
    subst creates
    simp [wokenOnce] at member
  refine ⟨task, ran, (handed_in_order Nat.one_pos ran).2 inTime ?_⟩
  exact ⟨returned, dataWait, fun _ => suspended, noUpdate, fun _ => noAwaken, fun _ => noDispatch⟩

end DataTask

end CyberRT.Croutine

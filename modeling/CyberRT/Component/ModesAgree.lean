import Mathlib.Data.List.Induction
import CyberRT.Component.Component

namespace CyberRT.Component

open CyberRT.Data Execution

variable {M0 : Type} {n : Nat} {M : Fin n → Type} {past : List (Arrival M0 M)} {isShutdown : Bool}

namespace Reality

variable {component next : Reality M0 M} {queueSize : Nat} {queueSizes : Fin n → Nat}

/-- `Proc` was called for every tuple delivered, and all but at most the last one due have been. -/
structure Handles (component : Reality M0 M) (isShutdown : Bool) (queueSize : Nat) (queueSizes : Fin n → Nat)
    (past : List (Arrival M0 M)) : Prop where
  follows : component.fusion.Follows queueSize queueSizes past
  inTurn : component.fusion.visitor.InTurn
  shutdown : component.isShutdown = isShutdown
  proc : component.proc = if isShutdown then [] else component.fusion.visitor.delivered.map Prod.snd

theorem handles_start (isShutdown : Bool) (queueSize : Nat) (queueSizes : Fin n → Nat) :
    (start isShutdown queueSize queueSizes : Reality M0 M).Handles isShutdown queueSize queueSizes [] := by
  constructor
  · exact AllLatest.follows_start queueSize queueSizes
  · exact DataVisitor.inTurn_ofSize queueSize
  · rfl
  · cases isShutdown <;> rfl

theorem Handles.settled_iff (handles : component.Handles isShutdown queueSize queueSizes past)
    (positive : 0 < queueSize) :
    component.Settled ↔ component.fusion.visitor.delivered.length = component.fusion.visitor.filled.length :=
  handles.inTurn.settled_iff handles.follows.visits positive

theorem Handles.dispatch (handles : component.Handles isShutdown queueSize queueSizes past) (positive : 0 < queueSize)
    (positives : ∀ channel, 0 < queueSizes channel) (settled : component.Settled) (arrival : Arrival M0 M) :
    Handles { component with fusion := component.fusion.fill arrival } isShutdown queueSize queueSizes
      (past ++ [arrival]) := by
  have all := (handles.settled_iff positive).mp settled
  have delivered : (component.fusion.fill arrival).visitor.delivered = component.fusion.visitor.delivered := by
    rcases component.fusion.fill_visitor arrival with same | ⟨data, grown⟩
    · rw [same]
    · rw [grown]
      rfl
  constructor
  · have filled : component.fusion.step (.fill arrival) = some (component.fusion.fill arrival) := rfl
    exact AllLatest.follows_step positive positives filled handles.follows
  · show (component.fusion.fill arrival).visitor.InTurn
    rcases component.fusion.fill_visitor arrival with same | ⟨data, grown⟩
    · rw [same]
      exact handles.inTurn
    · rw [grown]
      exact handles.inTurn.fill all data
  · exact handles.shutdown
  · rw [delivered]
    exact handles.proc

theorem routine_eq (component : Reality M0 M) : component.routine = { component with
    fusion := component.fusion.tryFetch
    proc := component.proc ++
      if component.isShutdown then [] else component.fusion.visitor.upcoming.toList.map Prod.snd } := by
  obtain ⟨shutdown, fusion, proc⟩ := component
  unfold Reality.routine process
  cases upcoming : fusion.visitor.upcoming with
  | none => simp
  | some entry => cases shutdown <;> simp

theorem Handles.routine (handles : component.Handles isShutdown queueSize queueSizes past) (positive : 0 < queueSize) :
    component.routine.Handles isShutdown queueSize queueSizes past ∧ component.routine.Settled := by
  have inTurn := handles.inTurn.tryFetch handles.follows.visits positive
  have fetched : component.routine.Handles isShutdown queueSize queueSizes past := by
    rw [routine_eq]
    constructor
    · exact handles.follows.tryFetch positive
    · exact inTurn.1
    · exact handles.shutdown
    · show _ = if isShutdown then [] else component.fusion.visitor.tryFetch.delivered.map Prod.snd
      rw [DataVisitor.tryFetch_delivered, handles.proc, handles.shutdown]
      cases isShutdown <;> simp
  refine ⟨fetched, (fetched.settled_iff positive).mpr ?_⟩
  rw [routine_eq]
  exact inTurn.2

theorem handles_run (positive : 0 < queueSize) (positives : ∀ channel, 0 < queueSizes channel)
    {events : List (RealityEvent M0 M)} (inTurn : Meets step InTurn (start isShutdown queueSize queueSizes) events)
    (ran : run step (start isShutdown queueSize queueSizes) events = some component) :
    component.Handles isShutdown queueSize queueSizes (events.filterMap RealityEvent.arrival) := by
  have result := Meets.invariant (fun (reached : Reality M0 M) past =>
    reached.Handles isShutdown queueSize queueSizes (past.filterMap RealityEvent.arrival)) [] ?_
    (handles_start isShutdown queueSize queueSizes) inTurn ran
  · simpa using result
  · intro reached past event next condition taken handles
    rw [List.filterMap_append]
    cases event with
    | dispatch arrival =>
      cases taken
      exact handles.dispatch positive positives condition arrival
    | routine =>
      cases taken
      rw [show [RealityEvent.routine].filterMap RealityEvent.arrival = ([] : List (Arrival M0 M)) from rfl,
        List.append_nil]
      exact (handles.routine positive).1

/-- Every sequence of messages can be handled in turn, with one round of the routine after each message. -/
theorem exists_inTurn (isShutdown : Bool) (positive : 0 < queueSize) (positives : ∀ channel, 0 < queueSizes channel)
    (arrivals : List (Arrival M0 M)) : ∃ events component,
      events.filterMap RealityEvent.arrival = arrivals ∧
      Meets step InTurn (start isShutdown queueSize queueSizes) events ∧
      run step (start isShutdown queueSize queueSizes) events = some component ∧ component.Settled := by
  induction arrivals using List.reverseRecOn with
  | nil => exact ⟨[], _, rfl, trivial, rfl, rfl⟩
  | append_singleton arrivals arrival ih =>
    obtain ⟨events, component, arrived, inTurn, ran, settled⟩ := ih
    have dispatched := run_snoc ran (show component.step (.dispatch arrival) = some _ from rfl)
    have fetched := run_snoc dispatched (show Reality.step _ .routine = some _ from rfl)
    refine ⟨events ++ [.dispatch arrival] ++ [.routine], _, ?_, ?_, fetched, ?_⟩
    · simp [List.filterMap_append, arrived, RealityEvent.arrival]
    · rw [meets_snoc dispatched, meets_snoc ran]
      exact ⟨⟨inTurn, settled⟩, trivial⟩
    · have handles := (handles_run positive positives inTurn ran).dispatch positive positives settled arrival
      exact (handles.routine positive).2

end Reality

namespace Simulation

variable {component : Simulation M0 M}

/-- The blockers of the other channels have their latest messages in front, and `Proc` was called for every tuple due. -/
structure Handles (component : Simulation M0 M) (isShutdown : Bool) (nodeName : String)
    (past : List (Arrival M0 M)) : Prop where
  capacity : ∀ channel, 0 < (component.others channel).capacity
  latest : ∀ channel, (component.others channel).getLatestPublishedPtr = latestOf past channel
  subscribed : component.main.publishedCallbacks = [(nodeName, .component)]
  shutdown : component.isShutdown = isShutdown
  proc : component.proc = if isShutdown then [] else tuples past

theorem handles_start (isShutdown : Bool) (nodeName : String) (depth : Nat) {depths : Fin n → Nat}
    (positives : ∀ channel, 0 < depths channel) :
    (start isShutdown nodeName depth depths : Simulation M0 M).Handles isShutdown nodeName [] := by
  constructor
  · exact positives
  · exact fun _ => rfl
  · rfl
  · rfl
  · cases isShutdown <;> rfl

theorem Handles.publish_main_eq {nodeName : String} (handles : component.Handles isShutdown nodeName past) (msg : M0) :
    component.publish (.main msg) = { component with
      main := component.main.enqueue msg
      proc := component.proc ++ if isShutdown then [] else (tupleAt past (.main msg)).toList } := by
  have guard : (∀ channel, !(component.others channel).isPublishedEmpty) ↔
      ∀ channel, (latestOf past channel).isSome := by
    simp only [Blocker.isPublishedEmpty_eq, handles.latest, Bool.not_not]
  have latest : (fun channel => (component.others channel).getLatestPublishedPtr) = latestOf past :=
    funext handles.latest
  simp only [publish, Blocker.enqueue_callbacks, handles.subscribed, List.foldl_cons, List.foldl_nil, onMessage, func,
    process, guard, latest, tupleAt, handles.shutdown]
  by_cases all : ∀ channel, (latestOf past channel).isSome
  · cases isShutdown <;> simp [all]
  · cases isShutdown <;> simp [all]

theorem Handles.publish_main {nodeName : String} (handles : component.Handles isShutdown nodeName past) (msg : M0) :
    (component.publish (.main msg)).Handles isShutdown nodeName (past ++ [.main msg]) := by
  rw [handles.publish_main_eq msg]
  constructor
  · exact handles.capacity
  · intro channel
    rw [latestOf, latestOf_eq_none_of_main]
    exact handles.latest channel
  · exact (component.main.enqueue_callbacks msg).trans handles.subscribed
  · exact handles.shutdown
  · show component.proc ++ _ = _
    rw [tuples_snoc, handles.proc]
    cases isShutdown <;> rfl

theorem Handles.publish_other {nodeName : String} (handles : component.Handles isShutdown nodeName past)
    (here : Fin n) (msg : M here) :
    (component.publish (.other here msg)).Handles isShutdown nodeName (past ++ [.other here msg]) := by
  constructor
  · intro channel
    show 0 < (Function.update component.others here ((component.others here).enqueue msg) channel).capacity
    by_cases same : channel = here
    · subst same
      rw [Function.update_self, Blocker.enqueue_capacity]
      exact handles.capacity channel
    · rw [Function.update_of_ne same]
      exact handles.capacity channel
  · intro channel
    show (Function.update component.others here ((component.others here).enqueue msg) channel).getLatestPublishedPtr = _
    rw [latestOf, filterMap_other]
    by_cases same : here = channel
    · subst same
      rw [Function.update_self, Blocker.getLatestPublishedPtr_enqueue _ (handles.capacity here), dif_pos rfl]
      simp
    · rw [Function.update_of_ne (Ne.symm same), dif_neg same, List.append_nil]
      exact handles.latest channel
  · exact handles.subscribed
  · exact handles.shutdown
  · rw [tuples_snoc, tupleAt, Option.toList_none, List.append_nil]
    exact handles.proc

theorem handles_run (isShutdown : Bool) (nodeName : String) (depth : Nat) {depths : Fin n → Nat}
    (positives : ∀ channel, 0 < depths channel) (arrivals : List (Arrival M0 M)) :
    (arrivals.foldl publish (start isShutdown nodeName depth depths)).Handles isShutdown nodeName arrivals := by
  induction arrivals using List.reverseRecOn with
  | nil => exact handles_start isShutdown nodeName depth positives
  | append_singleton arrivals arrival ih =>
    rw [List.foldl_append]
    cases arrival with
    | main msg => exact ih.publish_main msg
    | other channel msg => exact ih.publish_other channel msg

end Simulation

/-- On every sequence of messages that are handled in turn the two modes call `Proc` with the same arguments. -/
theorem modes_agree (queueSize depth : Nat) (queueSizes depths : Fin n → Nat) (positive : 0 < queueSize)
    (positives : ∀ channel, 0 < queueSizes channel) (positives' : ∀ channel, 0 < depths channel) (isShutdown : Bool)
    (nodeName : String) (arrivals : List (Arrival M0 M)) :
    (∃ events reality, events.filterMap RealityEvent.arrival = arrivals ∧
      Meets Reality.step Reality.InTurn (.start isShutdown queueSize queueSizes) events ∧
      run Reality.step (.start isShutdown queueSize queueSizes) events = some reality ∧ reality.Settled) ∧
    ∀ events reality, events.filterMap RealityEvent.arrival = arrivals →
      Meets Reality.step Reality.InTurn (.start isShutdown queueSize queueSizes) events →
      run Reality.step (.start isShutdown queueSize queueSizes) events = some reality → reality.Settled →
      reality.proc =
        (arrivals.foldl Simulation.publish (.start isShutdown nodeName depth depths)).proc.map some := by
  refine ⟨Reality.exists_inTurn isShutdown positive positives arrivals, ?_⟩
  intro events reality arrived inTurn ran settled
  have handles := Reality.handles_run positive positives inTurn ran
  have simulated := Simulation.handles_run isShutdown nodeName depth positives' arrivals
  have all := (handles.settled_iff positive).mp settled
  rw [arrived] at handles
  rw [handles.proc, simulated.proc]
  cases isShutdown with
  | true => rfl
  | false =>
    show reality.fusion.visitor.delivered.map Prod.snd = (tuples arrivals).map some
    rw [handles.inTurn.delivered, all, List.take_length, handles.follows.filled]

/-- The messages of three channels, the first one of the main channel before the others have one. -/
def threeReaders : List (Arrival Nat ![Nat, Nat]) := AllLatest.threeChannels.filterMap FusionEvent.arrival

theorem threeReaders_agree :
    ((threeReaders.foldl Simulation.publish (.start false "node" 1 fun _ => 1)).proc.map AllLatest.pointers3 =
      [(1, some 10, some 20), (2, some 11, some 20)]) ∧
    ∃ events reality, events.filterMap RealityEvent.arrival = threeReaders ∧
      run Reality.step (.start false 1 fun _ => 1) events = some reality ∧
      reality.proc = (threeReaders.foldl Simulation.publish (.start false "node" 1 fun _ => 1)).proc.map some := by
  have agree := modes_agree 1 1 (fun _ => 1) (fun _ => 1) Nat.one_pos (fun _ => Nat.one_pos) (fun _ => Nat.one_pos)
    false "node" threeReaders
  obtain ⟨events, reality, arrived, inTurn, ran, settled⟩ := agree.1
  exact ⟨by decide +kernel, events, reality, arrived, ran, agree.2 events reality arrived inTurn ran settled⟩

end CyberRT.Component

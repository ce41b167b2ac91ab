import Mathlib.Data.Option.Basic
import Mathlib.Logic.Relation

namespace Execution

variable {State Event : Type*}

/-- Executes the events in order and gives `none` as soon as one of them is not enabled. -/
def run (step : State → Event → Option State) : State → List Event → Option State
  | state, [] => some state
  | state, event :: events => (step state event).bind fun next => run step next events

/-- Every event of the run is taken in a state that meets `condition`. -/
def Meets (step : State → Event → Option State) (condition : State → Event → Prop) :
    State → List Event → Prop
  | _, [] => True
  | state, event :: events =>
    condition state event ∧ ∀ next, step state event = some next → Meets step condition next events

variable {step : State → Event → Option State} {condition : State → Event → Prop}

instance decidableMeets [∀ state event, Decidable (condition state event)] :
    (state : State) → (events : List Event) → Decidable (Meets step condition state events)
  | _, [] => inferInstanceAs (Decidable True)
  | state, event :: events =>
    have : Decidable (∀ next, step state event = some next → Meets step condition next events) :=
      match step state event with
      | none => isTrue (fun _ impossible => nomatch impossible)
      | some next =>
        have := decidableMeets next events
        decidable_of_iff (Meets step condition next events)
          ⟨fun meets _ same => Option.some.inj same ▸ meets, fun meets => meets next rfl⟩
    inferInstanceAs (Decidable (condition state event ∧
      ∀ next, step state event = some next → Meets step condition next events))

@[simp] theorem run_nil (state : State) : run step state [] = some state := rfl

theorem run_cons (state : State) (event : Event) (events : List Event) :
    run step state (event :: events) = (step state event).bind fun next => run step next events := rfl

theorem run_cons_some {state final : State} {event : Event} {events : List Event}
    (ran : run step state (event :: events) = some final) :
    ∃ next, step state event = some next ∧ run step next events = some final := by
  rw [run_cons] at ran
  exact Option.bind_eq_some_iff.mp ran

theorem run_append (state : State) (first second : List Event) :
    run step state (first ++ second) = (run step state first).bind fun middle => run step middle second := by
  induction first generalizing state with
  | nil => rfl
  | cons event events ih =>
    simp only [List.cons_append, run_cons]
    cases taken : step state event with
    | none => rfl
    | some next => exact ih next

theorem run_snoc {start state next : State} {past : List Event} {event : Event} (ran : run step start past = some state)
    (taken : step state event = some next) : run step start (past ++ [event]) = some next := by
  rw [run_append, ran]
  simp [run_cons, taken]

theorem meets_snoc {start state : State} {past : List Event} (ran : run step start past = some state) (event : Event) :
    Meets step condition start (past ++ [event]) ↔ Meets step condition start past ∧ condition state event := by
  induction past generalizing start with
  | nil =>
    obtain rfl := Option.some.inj ran
    simp [Meets]
  | cons head rest ih =>
    obtain ⟨next, taken, ran⟩ := run_cons_some ran
    simp only [List.cons_append, Meets, taken, Option.some.injEq, forall_eq']
    rw [ih ran, and_assoc]

theorem Meets.append {start state : State} {past events : List Event} (meets : Meets step condition start past)
    (ran : run step start past = some state) (later : Meets step condition state events) :
    Meets step condition start (past ++ events) := by
  induction past generalizing start with
  | nil =>
    obtain rfl := Option.some.inj ran
    exact later
  | cons head rest ih =>
    apply And.intro meets.1
    intro next taken
    rw [run_cons, taken] at ran
    exact ih (meets.2 next taken) ran

/-- An invariant over the state and the events executed so far holds after every run whose steps
    meet the condition, once one step keeps it. -/
theorem Meets.invariant (Holds : State → List Event → Prop) (past : List Event)
    (keep : ∀ state past event next, condition state event → step state event = some next →
      Holds state past → Holds next (past ++ [event]))
    {state final : State} {events : List Event} (start : Holds state past)
    (meets : Meets step condition state events) (ran : run step state events = some final) :
    Holds final (past ++ events) := by
  induction events generalizing state past with
  | nil =>
    obtain rfl := Option.some.inj ran
    simpa using start
  | cons event events ih =>
    obtain ⟨next, taken, rest⟩ := run_cons_some ran
    have kept := keep state past event next meets.1 taken start
    simpa using ih (past ++ [event]) kept (meets.2 next taken) rest

theorem Meets.preserves (Holds : State → Prop)
    (keep : ∀ state event next, condition state event → step state event = some next → Holds state → Holds next)
    {state final : State} {events : List Event} (start : Holds state)
    (meets : Meets step condition state events) (ran : run step state events = some final) : Holds final := by
  exact Meets.invariant (fun reached _ => Holds reached) [] (fun state _ event next => keep state event next)
    start meets ran

theorem Meets.imp {other : State → Event → Prop} (weaker : ∀ state event, condition state event → other state event)
    {state : State} {events : List Event} (meets : Meets step condition state events) :
    Meets step other state events := by
  induction events generalizing state with
  | nil => trivial
  | cons event events ih => exact ⟨weaker state event meets.1, fun next taken => ih (meets.2 next taken)⟩

theorem Meets.and {other : State → Event → Prop} {state : State} {events : List Event}
    (meets : Meets step condition state events) (meets' : Meets step other state events) :
    Meets step (fun state event => condition state event ∧ other state event) state events := by
  induction events generalizing state with
  | nil => trivial
  | cons event events ih =>
    exact ⟨⟨meets.1, meets'.1⟩, fun next taken => ih (meets.2 next taken) (meets'.2 next taken)⟩

/-- Two conditions that agree wherever an invariant holds are met by the same runs, once the steps that meet them keep
    it. -/
theorem meets_congr_of_meets {other : State → Event → Prop} (Holds : State → Prop)
    (keep : ∀ state event next, condition state event → step state event = some next → Holds state → Holds next)
    (same : ∀ state event, Holds state → (condition state event ↔ other state event))
    {state : State} (start : Holds state) (events : List Event) :
    Meets step condition state events ↔ Meets step other state events := by
  induction events generalizing state with
  | nil => exact Iff.rfl
  | cons event events ih =>
    simp only [Meets]
    rw [← same state event start]
    apply and_congr_right
    intro met
    apply forall_congr'
    intro next
    apply imp_congr_right
    intro taken
    exact ih (keep state event next met taken start)

theorem meets_congr {other : State → Event → Prop} (Holds : State → Prop)
    (keep : ∀ state event next, step state event = some next → Holds state → Holds next)
    (same : ∀ state event, Holds state → (condition state event ↔ other state event))
    {state : State} (start : Holds state) (events : List Event) :
    Meets step condition state events ↔ Meets step other state events :=
  meets_congr_of_meets Holds (fun state event next _ => keep state event next) same start events

theorem meets_of_forall {events : List Event} (all : ∀ event ∈ events, ∀ state, condition state event)
    (state : State) : Meets step condition state events := by
  induction events generalizing state with
  | nil => trivial
  | cons event events ih =>
    refine ⟨all event List.mem_cons_self state, fun next _ => ih ?_ next⟩
    exact fun later member => all later (List.mem_cons_of_mem _ member)

theorem meets_true (state : State) (events : List Event) :
    Meets step (fun _ _ => True) state events := meets_of_forall (fun _ _ _ => trivial) state

theorem run_invariant (Holds : State → List Event → Prop)
    (keep : ∀ state past event next, step state event = some next →
      Holds state past → Holds next (past ++ [event]))
    {state final : State} {events : List Event} (start : Holds state [])
    (ran : run step state events = some final) : Holds final events := by
  have result := Meets.invariant Holds [] (fun state past event next _ => keep state past event next) start
    (meets_true state events) ran
  simpa using result

/-- Where an event is enabled exactly when it meets the condition, a list of events is a run exactly when it meets it
    throughout. -/
theorem exists_run_iff_meets (Holds : State → Prop)
    (keep : ∀ state event next, step state event = some next → Holds state → Holds next)
    (enabled : ∀ state event, Holds state → ((∃ next, step state event = some next) ↔ condition state event))
    {state : State} (start : Holds state) (events : List Event) :
    (∃ final, run step state events = some final) ↔ Meets step condition state events := by
  induction events generalizing state with
  | nil => exact ⟨fun _ => trivial, fun _ => ⟨state, rfl⟩⟩
  | cons event events ih =>
    constructor
    · intro ⟨final, ran⟩
      obtain ⟨next, taken, rest⟩ := run_cons_some ran
      apply And.intro ((enabled state event start).mp ⟨next, taken⟩)
      intro other same
      rw [taken] at same
      cases same
      exact (ih (keep state event next taken start)).mp ⟨final, rest⟩
    · intro ⟨met, later⟩
      obtain ⟨next, taken⟩ := (enabled state event start).mpr met
      obtain ⟨final, rest⟩ := (ih (keep state event next taken start)).mpr (later next taken)
      exact ⟨final, by rw [run_cons, taken]; exact rest⟩

/-- Steps that meet the condition, one behind the other, make a run. -/
theorem exists_run {state final : State}
    (path : Relation.ReflTransGen (fun state next => ∃ event, condition state event ∧ step state event = some next)
      state final) :
    ∃ events, Meets step condition state events ∧ run step state events = some final := by
  induction path using Relation.ReflTransGen.head_induction_on with
  | refl => exact ⟨[], trivial, rfl⟩
  | @head state next taken _ ih =>
    obtain ⟨event, met, taken⟩ := taken
    obtain ⟨events, meets, ran⟩ := ih
    refine ⟨event :: events, ⟨met, ?_⟩, ?_⟩
    · intro other same
      rw [taken] at same
      obtain rfl := Option.some.inj same
      exact meets
    · rw [run_cons, taken]
      exact ran

/-- Where a step keeps a property exactly when it meets the condition, a run meets it exactly when every state that it
    reaches has the property. -/
theorem meets_iff_always (Holds Good : State → Prop)
    (keep : ∀ state event next, condition state event → step state event = some next → Holds state → Holds next)
    (good : ∀ state, Holds state → Good state)
    (exact : ∀ state event next, Holds state → step state event = some next → Good next → condition state event)
    {start final : State} {events : List Event} (held : Holds start) (ran : run step start events = some final) :
    Meets step condition start events ↔
      ∀ past, past <+: events → ∀ state, run step start past = some state → Good state := by
  induction events generalizing start with
  | nil =>
    apply iff_of_true trivial
    intro past within state reached
    obtain rfl := List.prefix_nil.mp within
    obtain rfl := Option.some.inj reached
    exact good _ held
  | cons event events ih =>
    obtain ⟨next, taken, rest⟩ := run_cons_some ran
    constructor
    · intro meets past within state reached
      cases past with
      | nil =>
        obtain rfl := Option.some.inj reached
        exact good _ held
      | cons first past =>
        obtain ⟨rfl, shorter⟩ := List.cons_prefix_cons.mp within
        rw [run_cons, taken] at reached
        have kept := keep start first next meets.1 taken held
        exact (ih kept rest).mp (meets.2 next taken) past shorter state reached
    · intro always
      have first := always [event] (List.prefix_cons_inj event |>.mpr List.nil_prefix) next (by simp [run_cons, taken])
      have met := exact start event next held taken first
      refine ⟨met, ?_⟩
      intro other same
      obtain rfl := Option.some.inj (taken.symm.trans same)
      apply (ih (keep start event next met taken held) rest).mpr
      intro past shorter state reached
      apply always (event :: past) ((List.prefix_cons_inj event).mpr shorter) state
      rw [run_cons, taken]
      exact reached

end Execution

import CyberRT.Common.GlobalData
import CyberRT.Scheduler.Placement

namespace CyberRT

open CyberRT.Croutine (CRoutine)
open Execution

/-- A scheduler with the names of its tasks. Routines are numbered as `CreateTask` makes them. -/
structure Tasks where
  scheduler : Scheduler Nat := { routine := fun _ => {} }
  taskIdMap : UInt64 → Option String := fun _ => none
  created : Nat := 0

inductive TaskOperation where
  | createTask (name : String)
  | removeTask (name : String)
  deriving DecidableEq, Repr

namespace Tasks

open Scheduler

def createTask (policy : Policy) (hash : String → UInt64) (tasks : Tasks) (name : String) : Option (Bool × Tasks) :=
  (registerTaskName hash tasks.taskIdMap name).bind fun (id, taskIdMap) =>
    ((tasks.scheduler.setRoutine tasks.created { name, id }).dispatchTask tasks.created policy).map
      fun (answer, scheduler) => (answer, { scheduler, taskIdMap, created := tasks.created + 1 })

def removeTask (policy : Policy) (hash : String → UInt64) (tasks : Tasks) (name : String) : Option (Bool × Tasks) :=
  (tasks.scheduler.removeTask hash name policy).map fun (answer, scheduler) => (answer, { tasks with scheduler })

def step (policy : Policy) (hash : String → UInt64) (tasks : Tasks) : TaskOperation → Option Tasks
  | .createTask name => (tasks.createTask policy hash name).map Prod.snd
  | .removeTask name => (tasks.removeTask policy hash name).map Prod.snd

end Tasks

namespace Tasks

open Scheduler

variable {policy : Policy} {hash : String → UInt64} {tasks next : Tasks}

/-- A routine with this name is scheduled. -/
def Exists (tasks : Tasks) (name : String) : Prop :=
  ∃ queue, ∃ cr ∈ (tasks.scheduler.queue queue).objects, (tasks.scheduler.routine cr).name = name

/-- `RemoveTask` removes the task of this name if there is one, and no other. -/
def RemovesOwn (policy : Policy) (hash : String → UInt64) (tasks : Tasks) (name : String) : Prop :=
  ∃ answer next, tasks.removeTask policy hash name = some (answer, next) ∧
    (tasks.Exists name → answer = true ∧ ¬next.Exists name) ∧
    ∀ queue, ∀ cr ∈ (tasks.scheduler.queue queue).objects, (tasks.scheduler.routine cr).name ≠ name →
      cr ∈ (next.scheduler.queue queue).objects

/-- Another name has the id that `RemoveTask` looks for, and one of the two tasks exists. -/
def Confused (hash : String → UInt64) (tasks : Tasks) (name : String) : Prop :=
  ∃ other, tasks.taskIdMap (hash name) = some other ∧ other ≠ name ∧ (tasks.Exists other ∨ tasks.Exists name)

structure Named (policy : Policy) (hash : String → UInt64) (tasks : Tasks) : Prop where
  consistent : tasks.scheduler.Consistent policy
  registered : ∀ id name, tasks.taskIdMap id = some name → Passes tasks.taskIdMap name id (hash name)
  named : ∀ crid cr, tasks.scheduler.idCr crid = some cr →
    tasks.taskIdMap crid = some (tasks.scheduler.routine cr).name
  created : ∀ crid cr, tasks.scheduler.idCr crid = some cr → cr < tasks.created

theorem named_start : Named policy hash {} := by
  constructor
  · exact consistent_start policy _
  all_goals
    intro _ _ found
    cases found

theorem Named.id_eq (named : tasks.Named policy hash) {first second : UInt64} {name : String}
    (owned : tasks.taskIdMap first = some name) (owned' : tasks.taskIdMap second = some name) : first = second :=
  (named.registered first name owned).unique (named.registered second name owned') owned owned'

/-- What `DispatchTask` leaves when it is given a new routine. -/
theorem registered_of_dispatchTask {scheduler after : Scheduler Nat} {cr : Nat} {answer : Bool}
    (fresh : ∀ crid, scheduler.idCr crid ≠ some cr)
    (dispatched : scheduler.dispatchTask cr policy = some (answer, after)) {crid : UInt64} {other : Nat}
    (known : after.idCr crid = some other) :
    (other = cr ∧ crid = (scheduler.routine cr).id ∧ (after.routine other).name = (scheduler.routine cr).name) ∨
      (other ≠ cr ∧ scheduler.idCr crid = some other ∧ after.routine other = scheduler.routine other) := by
  cases present : scheduler.idCr (scheduler.routine cr).id with
  | some holder =>
    rw [dispatchTask_known (by simp [present])] at dispatched
    obtain ⟨_, rfl⟩ := Prod.mk.inj (Option.some.inj dispatched)
    have apart : other ≠ cr := by
      rintro rfl
      exact fresh crid known
    exact .inr ⟨apart, known, Function.update_of_ne apart ..⟩
  | none =>
    obtain ⟨_, placed, sameId, sameName, _, rfl⟩ := dispatchTask_unknown present dispatched
    dsimp only [added] at known ⊢
    rw [Function.update_apply] at known
    split at known
    · rename_i same
      obtain rfl := Option.some.inj known
      exact .inl ⟨rfl, same.trans sameId, by rw [Function.update_self, sameName]⟩
    · have apart : other ≠ cr := by
        rintro rfl
        exact fresh crid known
      exact .inr ⟨apart, known, Function.update_of_ne apart ..⟩

theorem Named.createTask (named : tasks.Named policy hash) {name : String} {answer : Bool}
    (taken : tasks.createTask policy hash name = some (answer, next)) : next.Named policy hash := by
  obtain ⟨⟨id, taskIdMap⟩, registers, dispatches⟩ := Option.bind_eq_some_iff.mp taken
  obtain ⟨⟨answered, scheduler⟩, dispatched, same⟩ := Option.map_eq_some_iff.mp dispatches
  obtain ⟨rfl, rfl⟩ := Prod.mk.inj same
  obtain ⟨target, probed, same⟩ := Option.map_eq_some_iff.mp registers
  obtain ⟨rfl, rfl⟩ := Prod.mk.inj same
  have extends_ := extends_of_probe probed
  have fresh : ∀ crid, tasks.scheduler.idCr crid ≠ some tasks.created :=
    fun crid known => Nat.lt_irrefl _ (named.created crid _ known)
  have fresh' : ∀ crid, (tasks.scheduler.setRoutine tasks.created { name, id := target }).idCr crid ≠
      some tasks.created := fresh
  have made : (tasks.scheduler.setRoutine tasks.created { name, id := target }).routine tasks.created =
      { name, id := target } := Function.update_self ..
  have before : ∀ crid other, scheduler.idCr crid = some other →
      (other = tasks.created ∧ crid = target ∧ (scheduler.routine other).name = name) ∨
        (tasks.scheduler.idCr crid = some other ∧ scheduler.routine other = tasks.scheduler.routine other) := by
    intro crid other known
    rcases registered_of_dispatchTask fresh' dispatched known with ⟨rfl, sameId, sameName⟩ | ⟨apart, present, same⟩
    · rw [made] at sameId sameName
      exact .inl ⟨rfl, sameId, sameName⟩
    · exact .inr ⟨present, same.trans (Function.update_of_ne apart ..)⟩
  constructor
  · exact (named.consistent.setRoutine fresh _).dispatchTask (fun known => absurd known (fresh _)) dispatched
  · intro other owner owned
    dsimp only at owned
    rw [Function.update_apply] at owned
    split at owned
    · rename_i same
      obtain rfl := Option.some.inj owned
      exact same ▸ (passes_of_probe probed).1.mono extends_
    · exact (named.registered other owner owned).mono extends_
  · intro crid other known
    rcases before crid other known with ⟨_, rfl, sameName⟩ | ⟨present, same⟩
    · dsimp only
      rw [Function.update_self, sameName]
    · dsimp only
      rw [same]
      exact extends_ _ _ (named.named crid other present)
  · intro crid other known
    rcases before crid other known with ⟨rfl, _, _⟩ | ⟨present, _⟩
    · exact Nat.lt_succ_self _
    · exact Nat.lt_succ_of_lt (named.created crid other present)

theorem removeTask_unknown {name : String} (unknown : tasks.scheduler.idCr (hash name) = none) :
    tasks.removeTask policy hash name = some (false, tasks) := by
  rw [removeTask, Scheduler.removeTask, removeCRoutine_unknown unknown]
  rfl

theorem Named.removeTask_known (named : tasks.Named policy hash) {name : String} {cr : Nat}
    (known : tasks.scheduler.idCr (hash name) = some cr) :
    tasks.removeTask policy hash name = some (true, { tasks with
      scheduler := tasks.scheduler.removed cr (policy.place (tasks.scheduler.routine cr)) }) := by
  rw [removeTask, Scheduler.removeTask, removeCRoutine_known named.consistent known]
  rfl

theorem Named.removeTask (named : tasks.Named policy hash) {name : String} {answer : Bool}
    (taken : tasks.removeTask policy hash name = some (answer, next)) : next.Named policy hash := by
  cases known : tasks.scheduler.idCr (hash name) with
  | none =>
    rw [removeTask_unknown known] at taken
    obtain ⟨_, rfl⟩ := Prod.mk.inj (Option.some.inj taken)
    exact named
  | some cr =>
    rw [named.removeTask_known known] at taken
    obtain ⟨_, rfl⟩ := Prod.mk.inj (Option.some.inj taken)
    have hasId := (named.consistent.registered _ cr known).1
    have before : ∀ crid other,
        (tasks.scheduler.removed cr (policy.place (tasks.scheduler.routine cr))).idCr crid = some other →
        tasks.scheduler.idCr crid = some other ∧ other ≠ cr := by
      intro crid other present
      dsimp only [removed] at present
      rw [Function.update_apply] at present
      split at present
      · cases present
      · rename_i differs
        refine ⟨present, ?_⟩
        rintro rfl
        exact differs (named.consistent.registered crid other present).1.symm
    constructor
    · exact named.consistent.removed (hasId ▸ known)
    · exact named.registered
    · intro crid other present
      obtain ⟨here, apart⟩ := before crid other present
      dsimp only [removed]
      rw [Function.update_of_ne apart]
      exact named.named crid other here
    · exact fun crid other present => named.created crid other (before crid other present).1

theorem Named.step {operation : TaskOperation} (taken : step policy hash tasks operation = some next)
    (named : tasks.Named policy hash) : next.Named policy hash := by
  cases operation with
  | createTask name =>
    obtain ⟨⟨answer, reached⟩, created, rfl⟩ := Option.map_eq_some_iff.mp taken
    exact named.createTask created
  | removeTask name =>
    obtain ⟨⟨answer, reached⟩, removes, rfl⟩ := Option.map_eq_some_iff.mp taken
    exact named.removeTask removes

/-- The id under which a task that exists is registered. -/
theorem Named.registered_of_exists (named : tasks.Named policy hash) {name : String} (exists_ : tasks.Exists name) :
    ∃ crid cr, tasks.scheduler.idCr crid = some cr ∧ tasks.taskIdMap crid = some name := by
  obtain ⟨queue, cr, member, rfl⟩ := exists_
  have known := (named.consistent.queued queue cr member).1
  exact ⟨_, cr, known, named.named _ cr known⟩

theorem Named.exists_of_registered (named : tasks.Named policy hash) {crid : UInt64} {cr : Nat}
    (known : tasks.scheduler.idCr crid = some cr) : tasks.Exists (tasks.scheduler.routine cr).name :=
  ⟨_, cr, (named.consistent.registered crid cr known).2, rfl⟩

theorem Named.removesOwn (named : tasks.Named policy hash) (name : String) :
    tasks.RemovesOwn policy hash name ↔ ¬tasks.Confused hash name := by
  constructor
  · rintro ⟨answer, next, taken, own, others⟩ ⟨other, owned, foreign, either⟩
    cases known : tasks.scheduler.idCr (hash name) with
    | some cr =>
      have sameName := Option.some.inj ((named.named _ cr known).symm.trans owned)
      rw [named.removeTask_known known] at taken
      obtain ⟨_, rfl⟩ := Prod.mk.inj (Option.some.inj taken)
      have member := (named.consistent.registered _ cr known).2
      have stays := others _ cr member (sameName ▸ foreign)
      exact ((mem_removed named.consistent).mp stays).1 rfl
    | none =>
      rw [removeTask_unknown known] at taken
      obtain ⟨rfl, rfl⟩ := Prod.mk.inj (Option.some.inj taken)
      rcases either with exists_ | exists_
      · obtain ⟨crid, cr, present, owned'⟩ := named.registered_of_exists exists_
        rw [named.id_eq owned' owned, known] at present
        cases present
      · exact absurd (own exists_).1 Bool.false_ne_true
  · intro clear
    cases known : tasks.scheduler.idCr (hash name) with
    | some cr =>
      have owned := named.named _ cr known
      have sameName : (tasks.scheduler.routine cr).name = name := by
        by_contra foreign
        exact clear ⟨_, owned, foreign, .inl (named.exists_of_registered known)⟩
      refine ⟨true, _, named.removeTask_known known, ?_, ?_⟩
      · refine fun _ => ⟨rfl, ?_⟩
        rintro ⟨queue, other, member, ownName⟩
        obtain ⟨apart, before⟩ := (mem_removed named.consistent).mp member
        have present := (named.consistent.queued queue other before).1
        dsimp only [removed] at ownName
        rw [Function.update_of_ne apart] at ownName
        have owned' := named.named _ other present
        rw [ownName, ← sameName] at owned'
        rw [named.id_eq owned' owned, known] at present
        exact apart (Option.some.inj present).symm
      · intro queue other member differs
        refine (mem_removed named.consistent).mpr ⟨?_, member⟩
        rintro rfl
        exact differs sameName
    | none =>
      refine ⟨false, tasks, removeTask_unknown known, ?_, fun _ _ member _ => member⟩
      intro exists_
      obtain ⟨crid, cr, present, owned⟩ := named.registered_of_exists exists_
      cases named.registered crid name owned with
      | here =>
        rw [known] at present
        cases present
      | next occupied foreign _ => exact absurd ⟨_, occupied, foreign, .inr exists_⟩ clear

theorem named_run {operations : List TaskOperation} (ran : run (step policy hash) {} operations = some tasks) :
    tasks.Named policy hash :=
  Meets.preserves (fun reached => reached.Named policy hash) (fun _ _ _ _ taken named => named.step taken)
    named_start (meets_true _ operations) ran

/-- `RemoveTask` looks for the hash of the name, where `CreateTask` may have found another name. -/
theorem removesOwn_iff {operations : List TaskOperation} (ran : run (step policy hash) {} operations = some tasks)
    (name : String) : tasks.RemovesOwn policy hash name ↔ ¬tasks.Confused hash name :=
  (named_run ran).removesOwn name

def singleGroup : Policy := .classic { crConfs := fun _ => none, groups := [defaultGroupName] }

/-- All names have the same hash. -/
def colliding : List TaskOperation := [.createTask "planning", .createTask "control"]

theorem firstOfColliding_removesOwn : ∃ tasks, run (step singleGroup fun _ => 7) {} colliding = some tasks ∧
    tasks.RemovesOwn singleGroup (fun _ => 7) "planning" := by
  have reached : (run (step singleGroup fun _ => 7) {} colliding).any (fun tasks =>
      decide (tasks.taskIdMap 7 = some "planning")) = true := by
    decide +kernel
  obtain ⟨tasks, ran, holds⟩ := (Option.any_eq_true _ _).mp reached
  refine ⟨tasks, ran, (removesOwn_iff ran "planning").mpr ?_⟩
  rintro ⟨other, owned, foreign, _⟩
  exact foreign (Option.some.inj (owned.symm.trans (of_decide_eq_true holds)))

theorem secondOfColliding_removesOther : ∃ tasks next, run (step singleGroup fun _ => 7) {} colliding = some tasks ∧
    tasks.removeTask singleGroup (fun _ => 7) "control" = some (true, next) ∧
    (next.scheduler.queue (.level defaultGroupName 0)).objects = [1] ∧
    (next.scheduler.routine 1).name = "control" ∧ ¬tasks.RemovesOwn singleGroup (fun _ => 7) "control" := by
  have reached : (run (step singleGroup fun _ => 7) {} colliding).any (fun tasks =>
      decide (tasks.taskIdMap 7 = some "planning" ∧
        (tasks.scheduler.queue (.level defaultGroupName 0)).objects = [0, 1] ∧
        (tasks.scheduler.routine 1).name = "control") &&
      (tasks.removeTask singleGroup (fun _ => 7) "control").any fun answered =>
        decide (answered.1 = true ∧ (answered.2.scheduler.queue (.level defaultGroupName 0)).objects = [1] ∧
          (answered.2.scheduler.routine 1).name = "control")) = true := by
    decide +kernel
  obtain ⟨tasks, ran, holds⟩ := (Option.any_eq_true _ _).mp reached
  obtain ⟨before, after⟩ := Bool.and_eq_true_iff.mp holds
  obtain ⟨owned, queued, named⟩ := of_decide_eq_true before
  obtain ⟨⟨answer, next⟩, removes, left⟩ := (Option.any_eq_true _ _).mp after
  obtain ⟨rfl, stays, sameName⟩ := of_decide_eq_true left
  refine ⟨tasks, next, ran, removes, stays, sameName, fun own => ?_⟩
  refine ((named_run ran).removesOwn "control").mp own ⟨"planning", owned, by decide, .inr ?_⟩
  exact ⟨.level defaultGroupName 0, 1, by simp [queued], named⟩

end Tasks

end CyberRT

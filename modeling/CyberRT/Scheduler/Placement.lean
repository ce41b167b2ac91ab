import CyberRT.Execution.Run
import CyberRT.Scheduler.Dispatch

namespace CyberRT

open CyberRT.Croutine (CRoutine)
open Execution

namespace Scheduler

variable {Object : Type} [DecidableEq Object] {state next : Scheduler Object} {policy : Policy}

/-- Where `RemoveCRoutine` looks for a routine. -/
def Policy.place (cr : CRoutine) : Policy → QueueName
  | .classic _ => .level cr.groupName cr.priority
  | .choreography conf => if pid cr < conf.procNum then .own (pid cr) else .level cr.groupName cr.priority

/-- The queues there are. -/
def Policy.Offers : Policy → QueueName → Prop
  | _, .level _ prio => prio < maxPrio
  | .classic _, .own _ => False
  | .choreography conf, .own pid => pid < conf.procNum

/-- What `SchedulerChoreography` sets before it looks up the id is what the routine has. -/
def Policy.Agrees (cr : CRoutine) : Policy → Prop
  | .classic _ => True
  | .choreography conf => ∀ task, conf.crConfs cr.name = some task →
      cr.priority = task.prio ∧ ∀ processor, task.processor = some processor → cr.processorId = processor

theorem ChoreographyConf.configure_some {conf : ChoreographyConf} {cr : CRoutine} {task : ChoreographyTask}
    (found : conf.crConfs cr.name = some task) :
    conf.configure cr = { cr with priority := task.prio, processorId := task.processor.getD cr.processorId } := by
  rw [configure, found]

theorem ChoreographyConf.configure_eq_self {conf : ChoreographyConf} {cr : CRoutine} :
    conf.configure cr = cr ↔ (Policy.choreography conf).Agrees cr := by
  constructor
  · intro same task found
    rw [configure_some found] at same
    refine ⟨(congrArg CRoutine.priority same).symm, ?_⟩
    intro processor bound
    have processorId := congrArg CRoutine.processorId same
    rw [bound] at processorId
    exact processorId.symm
  · intro agrees
    cases found : conf.crConfs cr.name with
    | none => rw [configure, found]
    | some task =>
      obtain ⟨priority, processor⟩ := agrees task found
      rw [configure_some found, ← priority]
      cases bound : task.processor with
      | none => rfl
      | some pid => rw [Option.getD_some, ← processor pid bound]

theorem ChoreographyConf.configure_id (conf : ChoreographyConf) (cr : CRoutine) : (conf.configure cr).id = cr.id := by
  rw [configure]
  split <;> rfl

theorem ClassicConf.configure_id {conf : ClassicConf} {cr configured : CRoutine}
    (found : conf.configure cr = some configured) : configured.id = cr.id := by
  rw [configure] at found
  split at found
  · obtain rfl := Option.some.inj found
    rfl
  · obtain ⟨group, _, rfl⟩ := Option.map_eq_some_iff.mp found
    rfl

theorem clampPriority_id (cr : CRoutine) : (clampPriority cr).id = cr.id := by
  rw [clampPriority]
  split <;> rfl

theorem clampPriority_lt (cr : CRoutine) : (clampPriority cr).priority < maxPrio := by
  rw [clampPriority]
  split
  · exact (by decide : maxPrio - 1 < maxPrio)
  · omega

theorem clampPriority_pid (cr : CRoutine) : pid (clampPriority cr) = pid cr := by
  rw [clampPriority]
  split <;> rfl

/-- The registry and the queues hold the same routines, each where it will be looked for. -/
structure Consistent (policy : Policy) (state : Scheduler Object) : Prop where
  registered : ∀ crid cr, state.idCr crid = some cr →
    (state.routine cr).id = crid ∧ cr ∈ (state.queue (policy.place (state.routine cr))).objects
  queued : ∀ queue, ∀ cr ∈ (state.queue queue).objects,
    state.idCr (state.routine cr).id = some cr ∧ policy.place (state.routine cr) = queue ∧ policy.Offers queue
  nodup : ∀ queue, (state.queue queue).objects.Nodup

/-- The state after a routine that was not there has been registered and enqueued. -/
def added (state : Scheduler Object) (cr : Object) (placed : CRoutine) (queue : QueueName) : Scheduler Object where
  routine := Function.update state.routine cr placed
  idCr := Function.update state.idCr placed.id (some cr)
  queue := Function.update state.queue queue ((state.queue queue).emplace (queue.key placed) cr)

/-- The state after a routine has been found in this queue and removed. -/
def removed (state : Scheduler Object) (cr : Object) (queue : QueueName) : Scheduler Object where
  routine := Function.update state.routine cr (state.routine cr).stop.release
  idCr := Function.update state.idCr (state.routine cr).id none
  queue := Function.update state.queue queue ((state.queue queue).erase cr)

omit [DecidableEq Object] in
theorem consistent_start (policy : Policy) (routine : Object → CRoutine) : Consistent policy { routine } := by
  constructor
  · intro crid cr found
    cases found
  · exact fun queue cr member => absurd member List.not_mem_nil
  · exact fun queue => List.nodup_nil

omit [DecidableEq Object] in
theorem Consistent.absent (consistent : state.Consistent policy) {cr : Object}
    (unknown : state.idCr (state.routine cr).id ≠ some cr) (queue : QueueName) : cr ∉ (state.queue queue).objects :=
  fun member => unknown (consistent.queued queue cr member).1

theorem mem_added {cr found : Object} {placed : CRoutine} {queue other : QueueName} :
    found ∈ ((state.added cr placed queue).queue other).objects ↔
      found = cr ∧ other = queue ∨ found ∈ (state.queue other).objects := by
  dsimp only [added]
  rw [Function.update_apply]
  split
  · rename_i same
    subst same
    simp
  · rename_i differs
    simp [differs]

theorem Consistent.added (consistent : state.Consistent policy) {cr : Object} {placed : CRoutine} {queue : QueueName}
    (sameId : placed.id = (state.routine cr).id) (unknown : state.idCr (state.routine cr).id = none)
    (place : policy.place placed = queue) (offers : policy.Offers queue) :
    (state.added cr placed queue).Consistent policy := by
  have absent : ∀ queue, cr ∉ (state.queue queue).objects := consistent.absent (by simp [unknown])
  have others : ∀ crid other, state.idCr crid = some other → other ≠ cr := by
    rintro crid other found rfl
    rw [← (consistent.registered crid other found).1, unknown] at found
    cases found
  constructor
  · intro crid other found
    dsimp only [Scheduler.added] at found
    rw [Function.update_apply] at found
    split at found
    · rename_i same
      obtain rfl := Option.some.inj found
      refine ⟨?_, ?_⟩
      · dsimp only [Scheduler.added]
        rw [Function.update_self, same]
      · refine mem_added.mpr (.inl ⟨rfl, ?_⟩)
        dsimp only [Scheduler.added]
        rw [Function.update_self, place]
    · obtain ⟨hasId, member⟩ := consistent.registered crid other found
      have same : (state.added cr placed queue).routine other = state.routine other :=
        Function.update_of_ne (others crid other found) ..
      rw [same]
      exact ⟨hasId, mem_added.mpr (.inr member)⟩
  · intro other found member
    rcases mem_added.mp member with ⟨rfl, rfl⟩ | before
    · dsimp only [Scheduler.added]
      rw [Function.update_self]
      exact ⟨Function.update_self .., place, offers⟩
    · obtain ⟨known, there, offered⟩ := consistent.queued other found before
      have same : (state.added cr placed queue).routine found = state.routine found :=
        Function.update_of_ne (others _ found known) ..
      rw [same]
      refine ⟨?_, there, offered⟩
      dsimp only [Scheduler.added]
      rw [Function.update_of_ne]
      · exact known
      · rintro same
        rw [same, sameId, unknown] at known
        cases known
  · intro other
    dsimp only [Scheduler.added]
    rw [Function.update_apply]
    split
    · rw [CroutineQueue.nodup_objects_emplace]
      exact ⟨absent queue, consistent.nodup queue⟩
    · exact consistent.nodup other

theorem mem_removed (consistent : state.Consistent policy) {cr found : Object} {other : QueueName} :
    found ∈ ((state.removed cr (policy.place (state.routine cr))).queue other).objects ↔
      found ≠ cr ∧ found ∈ (state.queue other).objects := by
  dsimp only [removed]
  rw [Function.update_apply]
  split
  · rename_i same
    subst same
    rw [CroutineQueue.objects_erase, (consistent.nodup _).mem_erase_iff]
  · rename_i differs
    refine (and_iff_right_of_imp ?_).symm
    rintro member rfl
    exact differs (consistent.queued other found member).2.1.symm

theorem Consistent.removed (consistent : state.Consistent policy) {cr : Object}
    (known : state.idCr (state.routine cr).id = some cr) :
    (state.removed cr (policy.place (state.routine cr))).Consistent policy := by
  constructor
  · intro crid other found
    dsimp only [Scheduler.removed] at found
    rw [Function.update_apply] at found
    split at found
    · cases found
    · rename_i differs
      obtain ⟨hasId, member⟩ := consistent.registered crid other found
      have apart : other ≠ cr := by
        rintro rfl
        exact differs hasId.symm
      have same : (state.removed cr (policy.place (state.routine cr))).routine other = state.routine other :=
        Function.update_of_ne apart ..
      rw [same]
      exact ⟨hasId, (mem_removed consistent).mpr ⟨apart, member⟩⟩
  · intro other found member
    obtain ⟨apart, before⟩ := (mem_removed consistent).mp member
    obtain ⟨here, there, offered⟩ := consistent.queued other found before
    have same : (state.removed cr (policy.place (state.routine cr))).routine found = state.routine found :=
      Function.update_of_ne apart ..
    rw [same]
    refine ⟨?_, there, offered⟩
    dsimp only [Scheduler.removed]
    rw [Function.update_of_ne]
    · exact here
    · intro same
      rw [same, known] at here
      exact apart (Option.some.inj here).symm
  · intro other
    dsimp only [Scheduler.removed]
    rw [Function.update_apply]
    split
    · rw [CroutineQueue.objects_erase]
      exact (consistent.nodup _).erase cr
    · exact consistent.nodup other

/-- What `DispatchTask` sets before it looks up the id. -/
def Policy.preset (cr : CRoutine) : Policy → CRoutine
  | .classic _ => cr
  | .choreography conf => conf.configure cr

theorem Policy.preset_eq_self {cr : CRoutine} : policy.preset cr = cr ↔ policy.Agrees cr := by
  cases policy with
  | classic conf => simp [preset, Agrees]
  | choreography conf => exact ChoreographyConf.configure_eq_self

theorem setRoutine_self (cr : Object) : state.setRoutine cr (state.routine cr) = state := by
  rw [setRoutine, Function.update_eq_self]

theorem dispatchTask_known {cr : Object} (known : (state.idCr (state.routine cr).id).isSome) :
    state.dispatchTask cr policy = some (false, state.setRoutine cr (policy.preset (state.routine cr))) := by
  cases policy with
  | classic conf => rw [dispatchTask, dispatchClassic, if_pos known, Policy.preset, setRoutine_self]
  | choreography conf =>
    have known' : ((state.setRoutine cr (conf.configure (state.routine cr))).idCr
        (conf.configure (state.routine cr)).id).isSome := by
      rw [ChoreographyConf.configure_id]
      exact known
    rw [dispatchTask, dispatchChoreography, if_pos known', Policy.preset]

theorem dispatchTask_unchanged_iff {cr : Object} (known : (state.idCr (state.routine cr).id).isSome) :
    state.dispatchTask cr policy = some (false, state) ↔ policy.Agrees (state.routine cr) := by
  rw [dispatchTask_known known, ← Policy.preset_eq_self]
  constructor
  · intro same
    have routine := congrFun (congrArg Scheduler.routine (Prod.mk.inj (Option.some.inj same)).2) cr
    exact (Function.update_self ..).symm.trans routine
  · intro same
    rw [same, setRoutine_self]

theorem ChoreographyConf.configure_name (conf : ChoreographyConf) (cr : CRoutine) :
    (conf.configure cr).name = cr.name := by
  rw [configure]
  split <;> rfl

theorem ClassicConf.configure_name {conf : ClassicConf} {cr configured : CRoutine}
    (found : conf.configure cr = some configured) : configured.name = cr.name := by
  rw [configure] at found
  split at found
  · obtain rfl := Option.some.inj found
    rfl
  · obtain ⟨group, _, rfl⟩ := Option.map_eq_some_iff.mp found
    rfl

theorem clampPriority_name (cr : CRoutine) : (clampPriority cr).name = cr.name := by
  rw [clampPriority]
  split <;> rfl

theorem enqueue_setRoutine_register {cr : Object} {crid : UInt64} {placed : CRoutine} {queue : QueueName}
    (sameId : placed.id = crid) :
    ((state.register crid (some cr)).setRoutine cr placed).enqueue queue cr = state.added cr placed queue := by
  simp [register, setRoutine, enqueue, added, sameId]

theorem dispatchTask_unknown {cr : Object} (unknown : state.idCr (state.routine cr).id = none) {answer : Bool}
    (taken : state.dispatchTask cr policy = some (answer, next)) :
    answer = true ∧ ∃ placed, placed.id = (state.routine cr).id ∧ placed.name = (state.routine cr).name ∧
      policy.Offers (policy.place placed) ∧ next = state.added cr placed (policy.place placed) := by
  cases policy with
  | classic conf =>
    rw [dispatchTask, dispatchClassic, if_neg (by simp [unknown])] at taken
    obtain ⟨configured, found, same⟩ := Option.map_eq_some_iff.mp taken
    obtain ⟨rfl, rfl⟩ := Prod.mk.inj same
    have sameId : (clampPriority configured).id = (state.routine cr).id :=
      (clampPriority_id configured).trans (ClassicConf.configure_id found)
    refine ⟨rfl, clampPriority configured, sameId, ?_, clampPriority_lt configured, enqueue_setRoutine_register sameId⟩
    exact (clampPriority_name configured).trans (ClassicConf.configure_name found)
  | choreography conf =>
    have sameId := conf.configure_id (state.routine cr)
    have sameName := conf.configure_name (state.routine cr)
    have unknown' : ¬((state.setRoutine cr (conf.configure (state.routine cr))).idCr
        (conf.configure (state.routine cr)).id).isSome := by
      rw [sameId]
      simp [setRoutine, unknown]
    rw [dispatchTask, dispatchChoreography, if_neg unknown'] at taken
    split at taken
    next own =>
      obtain ⟨rfl, rfl⟩ := Prod.mk.inj (Option.some.inj taken)
      have place : (Policy.choreography conf).place (conf.configure (state.routine cr)) =
          .own (pid (conf.configure (state.routine cr))) := if_pos own
      refine ⟨rfl, conf.configure (state.routine cr), sameId, sameName, place ▸ own, ?_⟩
      rw [place, ← enqueue_setRoutine_register sameId, sameId]
      rfl
    next pool =>
      obtain ⟨rfl, rfl⟩ := Prod.mk.inj (Option.some.inj taken)
      have place : (Policy.choreography conf).place (toPool (conf.configure (state.routine cr))) =
          .level (toPool (conf.configure (state.routine cr))).groupName
            (toPool (conf.configure (state.routine cr))).priority :=
        if_neg (clampPriority_pid (conf.configure (state.routine cr)) ▸ pool)
      have pooledId : (toPool (conf.configure (state.routine cr))).id = (state.routine cr).id :=
        (clampPriority_id _).trans sameId
      refine ⟨rfl, toPool (conf.configure (state.routine cr)), pooledId, (clampPriority_name _).trans sameName,
        place ▸ clampPriority_lt _, ?_⟩
      rw [place, ← enqueue_setRoutine_register pooledId, sameId]
      simp [register, setRoutine, enqueue]

omit [DecidableEq Object] in
theorem find_known (consistent : state.Consistent policy) {crid : UInt64} {cr : Object}
    (known : state.idCr crid = some cr) :
    (state.queue (policy.place (state.routine cr))).findId (fun cr => (state.routine cr).id) crid = some cr := by
  obtain ⟨hasId, member⟩ := consistent.registered crid cr known
  cases found : (state.queue (policy.place (state.routine cr))).findId (fun cr => (state.routine cr).id) crid with
  | none =>
    have none_has := List.find?_eq_none.mp found cr member
    simp [hasId] at none_has
  | some other =>
    obtain ⟨among, sameId⟩ := CroutineQueue.findId_eq_some found
    have registered := (consistent.queued _ other among).1
    rw [sameId, known] at registered
    exact registered.symm

theorem removeFrom_known (consistent : state.Consistent policy) {crid : UInt64} {cr : Object}
    (known : state.idCr crid = some cr) :
    ((state.setRoutine cr (state.routine cr).stop).register crid none).removeFrom
      (policy.place (state.routine cr)) crid = (true, state.removed cr (policy.place (state.routine cr))) := by
  obtain ⟨hasId, member⟩ := consistent.registered crid cr known
  have sameIds : (fun other => ((state.setRoutine cr (state.routine cr).stop).routine other).id) =
      fun other => (state.routine other).id := by
    funext other
    dsimp only [setRoutine]
    rw [Function.update_apply]
    split
    · rename_i same
      rw [same]
      rfl
    · rfl
  have found := find_known consistent known
  rw [← sameIds] at found
  rw [removeFrom]
  simp only [register, setRoutine] at found ⊢
  rw [found]
  simp only [Function.update_self, Function.update_idem, removed, hasId]
  rfl

theorem removeClassic_known (consistent : state.Consistent policy) {crid : UInt64} {cr : Object}
    (known : state.idCr crid = some cr)
    (level : policy.place (state.routine cr) = .level (state.routine cr).groupName (state.routine cr).priority) :
    ((state.setRoutine cr (state.routine cr).stop).register crid none).removeClassic
      (((state.setRoutine cr (state.routine cr).stop).register crid none).routine cr) =
      some (true, state.removed cr (policy.place (state.routine cr))) := by
  obtain ⟨hasId, member⟩ := consistent.registered crid cr known
  have stopped : ((state.setRoutine cr (state.routine cr).stop).register crid none).routine cr =
      (state.routine cr).stop := Function.update_self ..
  have offered := (consistent.queued _ cr member).2.2
  have found := removeFrom_known consistent known
  rw [level] at offered found
  have inRange : (state.routine cr).stop.priority < maxPrio := offered
  rw [stopped, removeClassic, if_pos inRange, level, ← found, ← hasId]
  rfl

theorem removeCRoutine_known (consistent : state.Consistent policy) {crid : UInt64} {cr : Object}
    (known : state.idCr crid = some cr) :
    state.removeCRoutine crid policy = some (true, state.removed cr (policy.place (state.routine cr))) := by
  cases policy with
  | classic conf =>
    rw [removeCRoutine, known]
    exact removeClassic_known consistent known rfl
  | choreography conf =>
    simp only [removeCRoutine, known]
    split
    next own =>
      have place : (Policy.choreography conf).place (state.routine cr) = .own (pid (state.routine cr)) := if_pos own
      have found := removeFrom_known consistent known
      rw [place] at found ⊢
      rw [found]
    next pool => exact removeClassic_known consistent known (if_neg pool)

theorem removeCRoutine_unknown {crid : UInt64} (unknown : state.idCr crid = none) :
    state.removeCRoutine crid policy = some (false, state) := by
  rw [removeCRoutine, unknown]

/-- A routine that is already scheduled is dispatched again only as its configuration has it. -/
def Operation.Keeps (policy : Policy) (state : Scheduler Object) : Operation Object → Prop
  | .dispatchTask cr => state.idCr (state.routine cr).id = some cr → policy.Agrees (state.routine cr)
  | .removeCRoutine _ | .removeTask _ => True

/-- A routine whose id is already present is dispatched only as its configuration has it. -/
def Operation.Agrees (policy : Policy) (state : Scheduler Object) : Operation Object → Prop
  | .dispatchTask cr => (state.idCr (state.routine cr).id).isSome → policy.Agrees (state.routine cr)
  | .removeCRoutine _ | .removeTask _ => True

instance (cr : CRoutine) : Decidable (policy.Agrees cr) := decidable_of_iff (policy.preset cr = cr) Policy.preset_eq_self

instance decidableAgrees (state : Scheduler Object) :
    (operation : Operation Object) → Decidable (operation.Agrees policy state)
  | .dispatchTask cr =>
    inferInstanceAs (Decidable ((state.idCr (state.routine cr).id).isSome → policy.Agrees (state.routine cr)))
  | .removeCRoutine _ | .removeTask _ => inferInstanceAs (Decidable True)

omit [DecidableEq Object] in
theorem Operation.Agrees.keeps {operation : Operation Object} (agrees : operation.Agrees policy state) :
    operation.Keeps policy state := by
  cases operation with
  | dispatchTask cr => exact fun known => agrees (by simp [known])
  | removeCRoutine | removeTask => trivial

theorem Consistent.setRoutine (consistent : state.Consistent policy) {cr : Object}
    (foreign : ∀ crid, state.idCr crid ≠ some cr) (routine : CRoutine) :
    (state.setRoutine cr routine).Consistent policy := by
  have others : ∀ crid other, state.idCr crid = some other →
      (state.setRoutine cr routine).routine other = state.routine other := by
    intro crid other known
    refine Function.update_of_ne ?_ ..
    rintro rfl
    exact foreign crid known
  constructor
  · intro crid other known
    rw [others crid other known]
    exact consistent.registered crid other known
  · intro queue other member
    have queued := consistent.queued queue other member
    rw [others _ other queued.1]
    exact queued
  · exact consistent.nodup

theorem Consistent.dispatchTask (consistent : state.Consistent policy) {cr : Object} {answer : Bool}
    (keeps : state.idCr (state.routine cr).id = some cr → policy.Agrees (state.routine cr))
    (taken : state.dispatchTask cr policy = some (answer, next)) : next.Consistent policy := by
  cases known : state.idCr (state.routine cr).id with
  | none =>
    obtain ⟨_, placed, sameId, _, offers, rfl⟩ := dispatchTask_unknown known taken
    exact consistent.added sameId known rfl offers
  | some other =>
    rw [dispatchTask_known (by simp [known])] at taken
    obtain ⟨_, rfl⟩ := Prod.mk.inj (Option.some.inj taken)
    by_cases same : other = cr
    · subst same
      rw [Policy.preset_eq_self.mpr (keeps known), setRoutine_self]
      exact consistent
    · refine consistent.setRoutine ?_ _
      rintro crid registered
      obtain ⟨rfl, _⟩ := consistent.registered crid cr registered
      exact same (Option.some.inj (known.symm.trans registered))

theorem Consistent.removeCRoutine (consistent : state.Consistent policy) {crid : UInt64} {answer : Bool}
    (taken : state.removeCRoutine crid policy = some (answer, next)) : next.Consistent policy := by
  cases known : state.idCr crid with
  | none =>
    rw [removeCRoutine_unknown known] at taken
    obtain ⟨_, rfl⟩ := Prod.mk.inj (Option.some.inj taken)
    exact consistent
  | some cr =>
    rw [removeCRoutine_known consistent known] at taken
    obtain ⟨_, rfl⟩ := Prod.mk.inj (Option.some.inj taken)
    exact consistent.removed ((consistent.registered crid cr known).1 ▸ known)

theorem Consistent.step {hash : String → UInt64} {operation : Operation Object} (keeps : operation.Keeps policy state)
    (taken : step policy hash state operation = some next) (consistent : state.Consistent policy) :
    next.Consistent policy := by
  obtain ⟨⟨answer, reached⟩, applied, rfl⟩ := Option.map_eq_some_iff.mp taken
  cases operation with
  | dispatchTask cr => exact consistent.dispatchTask keeps applied
  | removeCRoutine crid | removeTask name => exact consistent.removeCRoutine applied

omit [DecidableEq Object] in
theorem Consistent.ids (consistent : state.Consistent policy) (crid : UInt64) :
    (state.idCr crid).isSome ↔ ∃ queue, ∃ cr ∈ (state.queue queue).objects, (state.routine cr).id = crid := by
  constructor
  · intro known
    obtain ⟨cr, known⟩ := Option.isSome_iff_exists.mp known
    obtain ⟨hasId, member⟩ := consistent.registered crid cr known
    exact ⟨_, cr, member, hasId⟩
  · rintro ⟨queue, cr, member, rfl⟩
    rw [(consistent.queued queue cr member).1]
    rfl

/-- While no routine whose id is present is dispatched otherwise than as configured, the registry and the queues hold
    the same ids, each routine is in one queue, and dispatches and removals do what they answer. -/
theorem registry_matches_queues {hash : String → UInt64} {routine : Object → CRoutine}
    {operations : List (Operation Object)}
    (meets : Meets (step policy hash) (fun state operation => operation.Agrees policy state) { routine } operations)
    (ran : run (step policy hash) { routine } operations = some state) :
    (∀ crid, (state.idCr crid).isSome ↔ ∃ queue, ∃ cr ∈ (state.queue queue).objects, (state.routine cr).id = crid) ∧
    (∀ queue, ∀ cr ∈ (state.queue queue).objects, policy.Offers queue ∧ (state.queue queue).objects.count cr = 1 ∧
      ∀ other, cr ∈ (state.queue other).objects → other = queue) ∧
    (∀ cr, (state.idCr (state.routine cr).id).isSome →
      (state.dispatchTask cr policy = some (false, state) ↔ policy.Agrees (state.routine cr))) ∧
    ∀ crid, ∃ answer next, state.removeCRoutine crid policy = some (answer, next) ∧
      (answer = true ↔ (state.idCr crid).isSome) ∧ ∀ queue cr,
        cr ∈ (next.queue queue).objects ↔ (state.routine cr).id ≠ crid ∧ cr ∈ (state.queue queue).objects := by
  have consistent : state.Consistent policy := Meets.preserves (fun reached => reached.Consistent policy)
    (fun _ _ _ agrees taken holds => holds.step agrees.keeps taken) (consistent_start policy routine) meets ran
  refine ⟨consistent.ids, ?_, fun cr => dispatchTask_unchanged_iff, ?_⟩
  · intro queue cr member
    obtain ⟨_, place, offers⟩ := consistent.queued queue cr member
    refine ⟨offers, List.count_eq_one_of_mem (consistent.nodup queue) member, ?_⟩
    intro other elsewhere
    exact (consistent.queued other cr elsewhere).2.1.symm.trans place
  · intro crid
    cases known : state.idCr crid with
    | none =>
      refine ⟨false, state, removeCRoutine_unknown known, by simp, ?_⟩
      intro queue cr
      refine (and_iff_right_of_imp ?_).symm
      rintro member rfl
      rw [(consistent.queued queue cr member).1] at known
      cases known
    | some cr =>
      refine ⟨true, _, removeCRoutine_known consistent known, by simp, ?_⟩
      intro queue other
      rw [mem_removed consistent]
      refine and_congr_left fun member => not_congr ?_
      constructor
      · rintro rfl
        exact (consistent.registered crid other known).1
      · intro sameId
        have registered := (consistent.queued queue other member).1
        rw [sameId, known] at registered
        exact (Option.some.inj registered).symm

/-- One task is configured with a priority that there is no level for. -/
def crowded : Policy :=
  .choreography { crConfs := fun name => if name = "planning" then some { prio := 25 } else none, procNum := 2 }

def twoTasks : Scheduler Bool where
  routine := fun planning => if planning then { name := "planning", id := 7 } else { name := "control", id := 8 }

def controlAgain : List (Operation Bool) :=
  [.dispatchTask true, .dispatchTask false, .dispatchTask false, .removeTask "control"]

theorem controlAgain_matches : ∃ state, run (step crowded fun _ => 8) twoTasks controlAgain = some state ∧
    (state.idCr 7).isSome ∧ ∀ crid, (state.idCr crid).isSome ↔
      ∃ queue, ∃ cr ∈ (state.queue queue).objects, (state.routine cr).id = crid := by
  have reached : (run (step crowded fun _ => 8) twoTasks controlAgain).any (fun state => (state.idCr 7).isSome) =
      true := by
    decide +kernel
  obtain ⟨state, ran, present⟩ := (Option.any_eq_true _ _).mp reached
  exact ⟨state, ran, present, (registry_matches_queues (by decide +kernel) ran).1⟩

theorem dispatchedTwice_unclamps : ∃ state next, run (step crowded fun _ => 8) twoTasks [.dispatchTask true] =
    some state ∧ (state.idCr 7).isSome ∧ state.dispatchTask true crowded = some (false, next) ∧
    (next.routine true).priority ≠ (state.routine true).priority ∧ (next.idCr 7).isSome ∧
    next.removeCRoutine 7 crowded = none := by
  have reached : (run (step crowded fun _ => 8) twoTasks [.dispatchTask true]).any (fun state =>
      (state.idCr 7).isSome && (state.dispatchTask true crowded).any fun answered =>
        decide (answered.1 = false ∧ (answered.2.routine true).priority ≠ (state.routine true).priority ∧
          (answered.2.idCr 7).isSome ∧ (answered.2.removeCRoutine 7 crowded).isNone)) = true := by
    decide +kernel
  obtain ⟨state, ran, holds⟩ := (Option.any_eq_true _ _).mp reached
  obtain ⟨present, again⟩ := Bool.and_eq_true_iff.mp holds
  obtain ⟨⟨answer, next⟩, dispatched, results⟩ := (Option.any_eq_true _ _).mp again
  obtain ⟨rfl, unclamped, still, thrown⟩ := of_decide_eq_true results
  exact ⟨state, next, ran, present, dispatched, unclamped, still, Option.isNone_iff_eq_none.mp thrown⟩

end Scheduler

end CyberRT

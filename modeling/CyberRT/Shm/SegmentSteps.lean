import Mathlib.Data.Finset.Card
import Mathlib.Data.Fintype.Basic
import CyberRT.Shm.Segment

namespace CyberRT.Shm

open Execution

/-- Where a process stands in `OpenOrCreate` and `OpenOnly`: behind an exclusive `shm_open` that found the name taken,
    behind its `shm_open`, behind its `mmap`; and in `Destroy`: behind the decrease, and behind a read of 0. -/
inductive SegmentStage where
  | idle
  | existing
  | opened (id : Nat) (creates : Bool)
  | mapped
  | decreased
  | removing
  deriving DecidableEq, Repr

/-- The segments of one name; a segment is `none` until its creator has sized it and constructed its `State`. -/
structure SegmentSteps (Process : Type) where
  bound : Option Nat := none
  created : Nat := 0
  segments : Nat → Option SharedSegment := fun _ => none
  views : Process → Segment := fun _ => {}
  stages : Process → SegmentStage := fun _ => .idle

inductive SegmentStep (Process : Type) where
  | openOrCreate (process : Process)
  | openOnly (process : Process)
  | map (process : Process)
  | increase (process : Process)
  | decrease (process : Process)
  | readCount (process : Process)
  | remove (process : Process)
  deriving DecidableEq, Repr

namespace SegmentSteps

variable {Process : Type}

/-- The process has increased the count of this segment and not begun to destroy its object. -/
def AttachedTo (memory : SegmentSteps Process) (process : Process) (id : Nat) : Prop :=
  (memory.views process).init = true ∧ (memory.views process).state = some id

variable [DecidableEq Process]

def setStage (memory : SegmentSteps Process) (process : Process) (stage : SegmentStage) : SegmentSteps Process :=
  { memory with stages := Function.update memory.stages process stage }

def setView (memory : SegmentSteps Process) (process : Process) (view : Segment) : SegmentSteps Process :=
  { memory with views := Function.update memory.views process view }

def setSegment (memory : SegmentSteps Process) (id : Nat) (segment : SharedSegment) : SegmentSteps Process :=
  { memory with segments := Function.update memory.segments id (some segment) }

/-- `state_ = ...; conf_.Update(state_->ceiling_msg_size())`. -/
def mapState (memory : SegmentSteps Process) (process : Process) (id : Nat) (segment : SharedSegment) :
    SegmentSteps Process :=
  (memory.setView process { memory.views process with
    conf := .update segment.ceilingMsgSize, state := some id }).setStage process .mapped

def increaseReferenceCounts (memory : SegmentSteps Process) (process : Process) (id : Nat) (segment : SharedSegment) :
    SegmentSteps Process :=
  ((memory.setSegment id { segment with referenceCount := segment.referenceCount + 1 }).setView process
    { memory.views process with init := true }).setStage process .idle

def decreaseReferenceCounts (memory : SegmentSteps Process) (process : Process) (id : Nat) (segment : SharedSegment) :
    SegmentSteps Process :=
  ((memory.setSegment id { segment with referenceCount := segment.referenceCount - 1 }).setView process
    { memory.views process with init := false }).setStage process .decreased

def stateOf (memory : SegmentSteps Process) (process : Process) : Option (Nat × SharedSegment) :=
  (memory.views process).state.bind fun id => (memory.segments id).map fun segment => (id, segment)

def step (memory : SegmentSteps Process) : SegmentStep Process → Option (SegmentSteps Process)
  | .openOrCreate process =>
    match memory.stages process with
    | .idle =>
      if (memory.views process).init then some memory
      else match memory.bound with
        | some _ => some (memory.setStage process .existing)
        | none => some { memory.setStage process (.opened memory.created true) with
            bound := some memory.created, created := memory.created + 1 }
    | _ => none
  | .openOnly process =>
    match memory.stages process with
    | .idle | .existing =>
      if (memory.views process).init then some memory
      else match memory.bound with
        | some id => some (memory.setStage process (.opened id false))
        | none => some (memory.setStage process .idle)
    | _ => none
  | .map process =>
    match memory.stages process with
    | .opened id true =>
      let segment : SharedSegment := { ceilingMsgSize := (memory.views process).conf.ceilingMsgSize }
      some ((memory.setSegment id segment).mapState process id segment)
    | .opened id false =>
      match memory.segments id with
      | some segment => some (memory.mapState process id segment)
      | none => some (memory.setStage process .idle)
    | _ => none
  | .increase process =>
    match memory.stages process with
    | .mapped => (memory.stateOf process).map fun state => memory.increaseReferenceCounts process state.1 state.2
    | _ => none
  | .decrease process =>
    match memory.stages process with
    | .idle =>
      if (memory.views process).init then
        (memory.stateOf process).map fun state => memory.decreaseReferenceCounts process state.1 state.2
      else some memory
    | _ => none
  | .readCount process =>
    match memory.stages process with
    | .decreased => (memory.stateOf process).map fun state =>
        memory.setStage process (if state.2.referenceCount = 0 then .removing else .idle)
    | _ => none
  | .remove process =>
    match memory.stages process with
    | .removing => some { memory.setStage process .idle with bound := none }
    | _ => none

def Deserted (memory : SegmentSteps Process) : Prop := ∀ process, (memory.views process).init = false

/-- A process increases the count of a segment that still has the name, and no `Destroy` has yet to take the name away:
    none that has read 0, and none of a segment that has lost the name. -/
def Undisturbed (memory : SegmentSteps Process) : SegmentStep Process → Prop
  | .increase process => (memory.views process).state = memory.bound ∧
      ∀ other, memory.stages other ≠ .removing ∧
        (memory.stages other = .decreased → (memory.views other).state = memory.bound)
  | _ => True

instance decidableUndisturbed [Fintype Process] (memory : SegmentSteps Process) :
    (event : SegmentStep Process) → Decidable (memory.Undisturbed event)
  | .increase process => inferInstanceAs (Decidable ((memory.views process).state = memory.bound ∧
      ∀ other, memory.stages other ≠ .removing ∧
        (memory.stages other = .decreased → (memory.views other).state = memory.bound)))
  | .openOrCreate _ | .openOnly _ | .map _ | .decrease _ | .readCount _ | .remove _ => inferInstanceAs (Decidable True)

omit [DecidableEq Process] in
theorem stateOf_some {memory : SegmentSteps Process} {process : Process} {id : Nat} {segment : SharedSegment}
    (found : memory.stateOf process = some (id, segment)) :
    (memory.views process).state = some id ∧ memory.segments id = some segment := by
  simp only [stateOf, Option.bind_eq_some_iff, Option.map_eq_some_iff, Prod.mk.injEq] at found
  obtain ⟨spot, state, same, found, rfl, rfl⟩ := found
  exact ⟨state, found⟩

/-- A `State` is constructed once, by the process that created the segment, before any process points to it. -/
structure Placed (memory : SegmentSteps Process) : Prop where
  built : ∀ process id, (memory.views process).state = some id → memory.segments id ≠ none
  within : ∀ id, memory.created ≤ id → memory.segments id = none
  creating : ∀ process id, memory.stages process = .opened id true → id < memory.created ∧ memory.segments id = none
  creator : ∀ process other id, memory.stages process = .opened id true → memory.stages other = .opened id true →
    process = other

/-- While the name is on a segment with users, no `Destroy` is on its way to take it away. -/
structure Sound (memory : SegmentSteps Process) : Prop extends memory.Placed where
  apart : ∀ process, (memory.views process).init = true → memory.stages process = .idle
  counted : ∀ id segment, memory.segments id = some segment →
    ∃ members : Finset Process, (∀ process, process ∈ members ↔ memory.AttachedTo process id) ∧
      members.card = segment.referenceCount
  named : ∀ process, (memory.views process).init = true →
    ∃ id, (memory.views process).state = some id ∧ memory.bound = some id
  removing : ∀ process, memory.stages process = .removing → memory.Deserted
  decreased : ∀ process, memory.stages process = .decreased → (memory.views process).state ≠ memory.bound →
    memory.Deserted

omit [DecidableEq Process] in
theorem sound_start : ({} : SegmentSteps Process).Sound where
  built := by simp
  within := by simp
  creating := by simp
  creator := by simp
  apart := by simp
  counted := by simp
  named := by simp
  removing := by simp
  decreased := by simp

theorem setStage_stages {memory : SegmentSteps Process} {process other : Process} {stage seen : SegmentStage}
    (here : (memory.setStage process stage).stages other = seen) :
    other = process ∧ stage = seen ∨ other ≠ process ∧ memory.stages other = seen := by
  simp only [setStage, Function.update_apply] at here
  split at here
  · exact Or.inl ⟨by assumption, here⟩
  · exact Or.inr ⟨by assumption, here⟩

theorem Sound.setStage {memory : SegmentSteps Process} (sound : memory.Sound) {process : Process}
    {stage : SegmentStage} (apart : (memory.views process).init = true → stage = .idle)
    (opens : ∀ id, stage ≠ .opened id true)
    (leaves : stage = .decreased → (memory.views process).state = memory.bound)
    (removes : stage = .removing → memory.Deserted) : (memory.setStage process stage).Sound where
  built := sound.built
  within := sound.within
  creating := by
    intro other id here
    rcases setStage_stages here with ⟨_, same⟩ | ⟨_, before⟩
    · exact absurd same (opens id)
    · exact sound.creating other id before
  creator := by
    intro first second id here here'
    rcases setStage_stages here with ⟨_, same⟩ | ⟨_, before⟩
    · exact absurd same (opens id)
    · rcases setStage_stages here' with ⟨_, same⟩ | ⟨_, before'⟩
      · exact absurd same (opens id)
      · exact sound.creator first second id before before'
  apart := by
    intro other init
    simp only [SegmentSteps.setStage, Function.update_apply]
    split
    · rename_i same
      exact apart (same ▸ init)
    · exact sound.apart other init
  counted := sound.counted
  named := sound.named
  removing := by
    intro other here
    rcases setStage_stages here with ⟨_, same⟩ | ⟨_, before⟩
    · exact removes same
    · exact sound.removing other before
  decreased := by
    intro other here
    rcases setStage_stages here with ⟨rfl, same⟩ | ⟨_, before⟩
    · exact fun lost => absurd (leaves same) lost
    · exact sound.decreased other before

omit [DecidableEq Process] in
theorem Sound.deserted {memory : SegmentSteps Process} (sound : memory.Sound) (free : memory.bound = none) :
    memory.Deserted := by
  intro process
  cases init : (memory.views process).init with
  | false => rfl
  | true =>
    obtain ⟨id, _, named⟩ := sound.named process init
    rw [free] at named
    cases named

omit [DecidableEq Process] in
theorem Sound.unname {memory : SegmentSteps Process} (sound : memory.Sound) (deserted : memory.Deserted) :
    ({ memory with bound := none } : SegmentSteps Process).Sound where
  built := sound.built
  within := sound.within
  creating := sound.creating
  creator := sound.creator
  apart := sound.apart
  counted := sound.counted
  named := by
    intro process init
    exact absurd (init.symm.trans (deserted process)) (by decide)
  removing := fun _ _ => deserted
  decreased := fun _ _ _ => deserted

theorem Sound.create {memory : SegmentSteps Process} (sound : memory.Sound) (free : memory.bound = none)
    (process : Process) :
    ({ memory.setStage process (.opened memory.created true) with
      bound := some memory.created, created := memory.created + 1 } : SegmentSteps Process).Sound where
  built := sound.built
  within := fun id later => sound.within id (Nat.le_of_succ_le later)
  creating := by
    intro other id here
    rcases setStage_stages here with ⟨_, same⟩ | ⟨_, before⟩
    · cases same
      exact ⟨Nat.lt_succ_self _, sound.within _ (Nat.le_refl _)⟩
    · have kept := sound.creating other id before
      exact ⟨Nat.lt_succ_of_lt kept.1, kept.2⟩
  creator := by
    intro first second id here here'
    rcases setStage_stages here with ⟨first_eq, same⟩ | ⟨_, before⟩
    · rcases setStage_stages here' with ⟨second_eq, _⟩ | ⟨_, before'⟩
      · rw [first_eq, second_eq]
      · cases same
        exact absurd (sound.creating second _ before').1 (Nat.lt_irrefl _)
    · rcases setStage_stages here' with ⟨_, same⟩ | ⟨_, before'⟩
      · cases same
        exact absurd (sound.creating first _ before).1 (Nat.lt_irrefl _)
      · exact sound.creator first second id before before'
  apart := by
    intro other init
    exact absurd (init.symm.trans (sound.deserted free other)) (by decide)
  counted := sound.counted
  named := by
    intro other init
    exact absurd (init.symm.trans (sound.deserted free other)) (by decide)
  removing := fun _ _ => sound.deserted free
  decreased := fun _ _ _ => sound.deserted free

omit [DecidableEq Process] in
theorem setSegment_segments {memory : SegmentSteps Process} {id spot : Nat} {segment : SharedSegment} :
    (memory.setSegment id segment).segments spot = if spot = id then some segment else memory.segments spot := by
  simp [setSegment, Function.update_apply]

omit [DecidableEq Process] in
theorem setSegment_none {memory : SegmentSteps Process} {id spot : Nat} {segment : SharedSegment}
    (built : memory.segments id ≠ none) :
    (memory.setSegment id segment).segments spot = none ↔ memory.segments spot = none := by
  rw [setSegment_segments]
  split
  · rename_i same
    simp [same, built]
  · rfl

omit [DecidableEq Process] in
theorem Sound.construct {memory : SegmentSteps Process} (sound : memory.Sound) {id : Nat} {segment : SharedSegment}
    (early : id < memory.created) (absent : memory.segments id = none) (unused : segment.referenceCount = 0)
    (created : ∀ process, memory.stages process ≠ .opened id true) : (memory.setSegment id segment).Sound where
  built := by
    intro process spot state
    rw [setSegment_segments]
    split
    · simp
    · exact sound.built process spot state
  within := by
    intro spot later
    rw [setSegment_segments, if_neg (Nat.ne_of_gt (Nat.lt_of_lt_of_le early later))]
    exact sound.within spot later
  creating := by
    intro process spot here
    have differs : spot ≠ id := fun same => created process (same ▸ here)
    rw [setSegment_segments, if_neg differs]
    exact sound.creating process spot here
  creator := sound.creator
  apart := sound.apart
  counted := by
    intro spot found same
    rw [setSegment_segments] at same
    split at same
    · rename_i here
      obtain rfl := Option.some.inj same
      refine ⟨∅, ?_, unused.symm⟩
      intro process
      simp only [Finset.notMem_empty, false_iff]
      intro attached
      exact sound.built process spot attached.2 (here ▸ absent)
    · exact sound.counted spot found same
  named := sound.named
  removing := sound.removing
  decreased := sound.decreased

theorem setView_views {memory : SegmentSteps Process} {process other : Process} {view : Segment} :
    ((memory.setView process view).views other) = if other = process then view else memory.views other := by
  simp [setView, Function.update_apply]

theorem attachedTo_setView {memory : SegmentSteps Process} {process other : Process} {view : Segment} {id : Nat} :
    (memory.setView process view).AttachedTo other id ↔
      if other = process then view.init = true ∧ view.state = some id else memory.AttachedTo other id := by
  rw [AttachedTo, setView_views]
  split <;> rfl

/-- The count of a segment that the process neither leaves nor joins. -/
theorem Sound.counted_elsewhere {memory : SegmentSteps Process} (sound : memory.Sound) {process : Process}
    {view : Segment} {id : Nat} {segment : SharedSegment} (found : memory.segments id = some segment)
    (before : ¬memory.AttachedTo process id) (after : ¬(view.init = true ∧ view.state = some id)) :
    ∃ members : Finset Process, (∀ other, other ∈ members ↔ (memory.setView process view).AttachedTo other id) ∧
      members.card = segment.referenceCount := by
  obtain ⟨members, exact, count⟩ := sound.counted id segment found
  refine ⟨members, ?_, count⟩
  intro other
  rw [exact, attachedTo_setView]
  split
  · rename_i same
    rw [same]
    exact ⟨fun attached => absurd attached before, fun attached => absurd attached after⟩
  · rfl

theorem Sound.point {memory : SegmentSteps Process} (sound : memory.Sound) {process : Process} {view : Segment}
    {id : Nat} (apart : (memory.views process).init = false) (apart' : view.init = false)
    (here : memory.stages process ≠ .decreased) (state : view.state = some id) (built : memory.segments id ≠ none) :
    (memory.setView process view).Sound where
  built := by
    intro other spot state'
    rw [setView_views] at state'
    split at state'
    · obtain rfl := Option.some.inj (state.symm.trans state')
      exact built
    · exact sound.built other spot state'
  within := sound.within
  creating := sound.creating
  creator := sound.creator
  apart := by
    intro other init
    rw [setView_views] at init
    split at init
    · exact absurd (init.symm.trans apart') (by decide)
    · exact sound.apart other init
  counted := by
    intro spot segment found
    apply sound.counted_elsewhere found
    · simp [AttachedTo, apart]
    · simp [apart']
  named := by
    intro other init
    rw [setView_views] at init ⊢
    split at init
    · exact absurd (init.symm.trans apart') (by decide)
    · rename_i differs
      rw [if_neg differs]
      exact sound.named other init
  removing := by
    intro other removing another
    rw [setView_views]
    split
    · exact apart'
    · exact sound.removing other removing another
  decreased := by
    intro other decreased lost another
    have differs : other ≠ process := fun same => here (same ▸ decreased)
    rw [setView_views, if_neg differs] at lost
    rw [setView_views]
    split
    · exact apart'
    · exact sound.decreased other decreased lost another

theorem Placed.recount {memory : SegmentSteps Process} (placed : memory.Placed) {process : Process} {view : Segment}
    {id : Nat} (segment : SharedSegment) (state : view.state = some id) (built : memory.segments id ≠ none) :
    ((memory.setSegment id segment).setView process view).Placed where
  built := by
    intro other spot here absent
    have absent := (setSegment_none built).mp absent
    rw [setView_views] at here
    split at here
    · obtain rfl := Option.some.inj (state.symm.trans here)
      exact built absent
    · exact placed.built other spot here absent
  within := fun spot later => (setSegment_none built).mpr (placed.within spot later)
  creating := by
    intro other spot here
    have kept := placed.creating other spot here
    exact ⟨kept.1, (setSegment_none built).mpr kept.2⟩
  creator := placed.creator

/-- An idle process joins the segment that has the name, while no `Destroy` is to take the name away. -/
theorem Sound.attach {memory : SegmentSteps Process} (sound : memory.Sound) {process : Process} (view : Segment)
    {id : Nat} {segment : SharedSegment} (apart : (memory.views process).init = false)
    (state : view.state = some id) (init : view.init = true)
    (idle : memory.stages process = .idle) (found : memory.segments id = some segment)
    (named : memory.bound = some id) (calm : ∀ other, memory.stages other ≠ .removing ∧
      (memory.stages other = .decreased → (memory.views other).state = memory.bound)) :
    ((memory.setSegment id { segment with referenceCount := segment.referenceCount + 1 }).setView process
      view).Sound where
  toPlaced := sound.toPlaced.recount _ state (by simp [found])
  apart := by
    intro other init
    rw [setView_views] at init
    split at init
    · rename_i same
      rw [same]
      exact idle
    · exact sound.apart other init
  counted := by
    intro spot here same
    change (memory.setSegment id _).segments spot = some here at same
    rw [setSegment_segments] at same
    split at same
    · rename_i spot_eq
      subst spot_eq
      obtain rfl := Option.some.inj same
      obtain ⟨members, exact, count⟩ := sound.counted spot segment found
      have absent : process ∉ members := by
        rw [exact]
        intro attached
        exact absurd (attached.1.symm.trans apart) (by decide)
      refine ⟨insert process members, ?_, by simp [absent, count]⟩
      intro other
      rw [Finset.mem_insert, exact, attachedTo_setView]
      split
      · simp [*]
      · simp [*, AttachedTo, setSegment]
    · rename_i differs
      apply sound.counted_elsewhere same
      · simp [AttachedTo, apart]
      · simp [state, Ne.symm differs]
  named := by
    intro other init'
    rw [setView_views] at init' ⊢
    split
    · exact ⟨id, state, named⟩
    · rename_i differs
      rw [if_neg differs] at init'
      exact sound.named other init'
  removing := fun other removing => absurd removing (calm other).1
  decreased := by
    intro other decreased lost
    rw [setView_views] at lost
    split at lost
    · exact absurd (state.trans named.symm) lost
    · exact absurd ((calm other).2 decreased) lost

theorem Sound.detach {memory : SegmentSteps Process} (sound : memory.Sound) {process : Process} {view : Segment}
    {id : Nat} {segment : SharedSegment} (attached : memory.AttachedTo process id) (left : view.init = false)
    (state : view.state = some id) (found : memory.segments id = some segment) :
    ((memory.setSegment id { segment with referenceCount := segment.referenceCount - 1 }).setView process
      view).Sound where
  toPlaced := sound.toPlaced.recount _ state (by simp [found])
  apart := by
    intro other init
    rw [setView_views] at init
    split at init
    · exact absurd (init.symm.trans left) (by decide)
    · exact sound.apart other init
  counted := by
    intro spot here same
    change (memory.setSegment id _).segments spot = some here at same
    rw [setSegment_segments] at same
    split at same
    · rename_i spot_eq
      subst spot_eq
      obtain rfl := Option.some.inj same
      obtain ⟨members, exact, count⟩ := sound.counted spot segment found
      refine ⟨members.erase process, ?_, ?_⟩
      · intro other
        rw [Finset.mem_erase, exact, attachedTo_setView]
        split
        · simp [*]
        · simp [*, AttachedTo, setSegment]
      · rw [Finset.card_erase_of_mem ((exact process).mpr attached), count]
    · rename_i differs
      apply sound.counted_elsewhere same
      · simp [AttachedTo, attached.2, Ne.symm differs]
      · simp [left]
  named := by
    intro other init
    rw [setView_views] at init ⊢
    split at init
    · exact absurd (init.symm.trans left) (by decide)
    · rename_i differs
      rw [if_neg differs]
      exact sound.named other init
  removing := by
    intro other removing
    exact absurd ((sound.removing other removing process).symm.trans attached.1) (by decide)
  decreased := by
    intro other decreased lost another
    have differs : other ≠ process := by
      intro same
      have idle := sound.apart process attached.1
      rw [← same] at idle
      exact absurd (idle.symm.trans decreased) (by decide)
    rw [setView_views, if_neg differs] at lost
    exact absurd ((sound.decreased other decreased lost process).symm.trans attached.1) (by decide)

omit [DecidableEq Process] in
theorem Sound.apart_of_stage {memory : SegmentSteps Process} (sound : memory.Sound) {process : Process}
    (busy : memory.stages process ≠ .idle) : (memory.views process).init = false := by
  cases init : (memory.views process).init with
  | false => rfl
  | true => exact absurd (sound.apart process init) busy

theorem Sound.mapState {memory : SegmentSteps Process} (sound : memory.Sound) {process : Process} {id : Nat}
    {segment : SharedSegment} (busy : (memory.views process).init = false) (built : memory.segments id ≠ none) :
    (memory.mapState process id segment).Sound := by
  have moved : (memory.setStage process .mapped).Sound :=
    sound.setStage (by simp [busy]) (by simp) (by simp) (by simp)
  have here : (memory.setStage process .mapped).stages process ≠ .decreased := by simp [SegmentSteps.setStage]
  exact moved.point busy busy here rfl built

theorem Sound.openOrCreate {memory next : SegmentSteps Process} (sound : memory.Sound) {process : Process}
    (taken : memory.step (.openOrCreate process) = some next) : next.Sound := by
  simp only [step] at taken
  split at taken
  · split at taken
    · obtain rfl := Option.some.inj taken
      exact sound
    · rename_i apart
      split at taken
      · obtain rfl := Option.some.inj taken
        exact sound.setStage (fun init => absurd init apart) (by simp) (by simp) (by simp)
      · obtain rfl := Option.some.inj taken
        exact sound.create (by assumption) process
  · cases taken

theorem Sound.openOnly {memory next : SegmentSteps Process} (sound : memory.Sound) {process : Process}
    (taken : memory.step (.openOnly process) = some next) : next.Sound := by
  simp only [step] at taken
  split at taken
  case _ | _ =>
    split at taken
    · obtain rfl := Option.some.inj taken
      exact sound
    · rename_i apart
      split at taken
      all_goals
        obtain rfl := Option.some.inj taken
        exact sound.setStage (fun init => absurd init apart) (by simp) (by simp) (by simp)
  · cases taken

theorem Sound.map {memory next : SegmentSteps Process} (sound : memory.Sound) {process : Process}
    (taken : memory.step (.map process) = some next) : next.Sound := by
  simp only [step] at taken
  split at taken
  · rename_i id opened
    obtain rfl := Option.some.inj taken
    have busy : (memory.views process).init = false := sound.apart_of_stage (by simp [opened])
    have created := sound.creating process id opened
    have moved : (memory.setStage process .mapped).Sound :=
      sound.setStage (by simp [busy]) (by simp) (by simp) (by simp)
    have alone : ∀ other, (memory.setStage process .mapped).stages other ≠ .opened id true := by
      intro other here
      rcases setStage_stages here with ⟨_, same⟩ | ⟨differs, before⟩
      · cases same
      · exact differs (sound.creator other process id before opened)
    have constructed : ((memory.setStage process .mapped).setSegment id
        { ceilingMsgSize := (memory.views process).conf.ceilingMsgSize }).Sound :=
      moved.construct created.1 created.2 rfl alone
    have here : (memory.setStage process .mapped).stages process ≠ .decreased := by simp [SegmentSteps.setStage]
    exact constructed.point busy busy here rfl (by simp [setSegment])
  · rename_i id opened
    have busy : (memory.views process).init = false := sound.apart_of_stage (by simp [opened])
    split at taken
    · rename_i segment found
      obtain rfl := Option.some.inj taken
      exact sound.mapState busy (by simp [found])
    · obtain rfl := Option.some.inj taken
      exact sound.setStage (by simp) (by simp) (by simp) (by simp)
  · cases taken

theorem Sound.increase {memory next : SegmentSteps Process} (sound : memory.Sound) {process : Process}
    (undisturbed : memory.Undisturbed (.increase process)) (taken : memory.step (.increase process) = some next) :
    next.Sound := by
  simp only [step] at taken
  split at taken
  · rename_i mapped
    obtain ⟨⟨id, segment⟩, found, rfl⟩ := Option.map_eq_some_iff.mp taken
    obtain ⟨state, found⟩ := stateOf_some found
    have busy : (memory.views process).init = false := sound.apart_of_stage (by simp [mapped])
    have idle : (memory.setStage process .idle).Sound :=
      sound.setStage (by simp) (by simp) (by simp) (by simp)
    apply idle.attach { memory.views process with init := true } busy state rfl _ found
      (undisturbed.1.symm.trans state)
    · intro other
      constructor
      · intro here
        rcases setStage_stages here with ⟨_, same⟩ | ⟨_, before⟩
        · cases same
        · exact (undisturbed.2 other).1 before
      · intro here
        rcases setStage_stages here with ⟨_, same⟩ | ⟨_, before⟩
        · cases same
        · exact (undisturbed.2 other).2 before
    · simp [SegmentSteps.setStage]
  · cases taken

theorem Sound.decrease {memory next : SegmentSteps Process} (sound : memory.Sound) {process : Process}
    (taken : memory.step (.decrease process) = some next) : next.Sound := by
  simp only [step] at taken
  split at taken
  · split at taken
    · rename_i init
      obtain ⟨⟨id, segment⟩, found, rfl⟩ := Option.map_eq_some_iff.mp taken
      obtain ⟨state, found⟩ := stateOf_some found
      obtain ⟨spot, state', named⟩ := sound.named process init
      have left : ((memory.setSegment id { segment with referenceCount := segment.referenceCount - 1 }).setView process
          { memory.views process with init := false }).Sound := sound.detach ⟨init, state⟩ rfl state found
      apply left.setStage
      · simp [setView]
      · simp
      · intro _
        rw [setView_views, if_pos rfl]
        exact state'.trans named.symm
      · simp
    · obtain rfl := Option.some.inj taken
      exact sound
  · cases taken

/-- A count of 0 that `Destroy` reads leaves no user: of the segment with the name it is exact, and a segment that has
    lost the name is destroyed only while there are none. -/
theorem Sound.readCount {memory next : SegmentSteps Process} (sound : memory.Sound) {process : Process}
    (taken : memory.step (.readCount process) = some next) : next.Sound := by
  simp only [step] at taken
  split at taken
  · rename_i decreased
    obtain ⟨⟨id, segment⟩, found, rfl⟩ := Option.map_eq_some_iff.mp taken
    obtain ⟨state, found⟩ := stateOf_some found
    have busy : (memory.views process).init = false := sound.apart_of_stage (by simp [decreased])
    apply sound.setStage
    · simp [busy]
    · intro spot
      split <;> simp
    · split <;> simp
    · intro removing
      split at removing
      · rename_i zero
        by_cases named : memory.bound = some id
        · obtain ⟨members, exact, count⟩ := sound.counted id segment found
          have empty : members = ∅ := Finset.card_eq_zero.mp (count.trans zero)
          intro other
          cases init : (memory.views other).init with
          | false => rfl
          | true =>
            obtain ⟨spot, state', named'⟩ := sound.named other init
            obtain rfl := Option.some.inj (named.symm.trans named')
            have member := (exact other).mpr ⟨init, state'⟩
            simp [empty] at member
        · exact sound.decreased process decreased (by rw [state]; exact Ne.symm named)
      · cases removing
  · cases taken

theorem Sound.remove {memory next : SegmentSteps Process} (sound : memory.Sound) {process : Process}
    (taken : memory.step (.remove process) = some next) : next.Sound := by
  simp only [step] at taken
  split at taken
  · rename_i removing
    obtain rfl := Option.some.inj taken
    have deserted := sound.removing process removing
    have idle : (memory.setStage process .idle).Sound := sound.setStage (by simp) (by simp) (by simp) (by simp)
    exact idle.unname deserted
  · cases taken

theorem Sound.step {memory next : SegmentSteps Process} (sound : memory.Sound) {event : SegmentStep Process}
    (undisturbed : memory.Undisturbed event) (taken : memory.step event = some next) : next.Sound := by
  cases event with
  | openOrCreate process => exact sound.openOrCreate taken
  | openOnly process => exact sound.openOnly taken
  | map process => exact sound.map taken
  | increase process => exact sound.increase undisturbed taken
  | decrease process => exact sound.decrease taken
  | readCount process => exact sound.readCount taken
  | remove process => exact sound.remove taken

end SegmentSteps

end CyberRT.Shm

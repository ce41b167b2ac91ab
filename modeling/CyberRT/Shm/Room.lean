import CyberRT.Shm.Attachment
import CyberRT.Shm.WriteCalls

namespace CyberRT.Shm

open Execution

namespace SharedMemory

variable {Process : Type}

/-- A mapping knows the size class of its segment. -/
structure ViewSized (memory : SharedMemory Process) (view : Segment) : Prop where
  conf : ∃ size, view.conf = .update size
  pointed : view.init = true → ∃ id, view.state = some id
  known : ∀ id, view.state = some id → id < memory.created ∧
    view.conf = .update (memory.segments id).ceilingMsgSize

structure Sized (memory : SharedMemory Process) : Prop where
  named : ∀ id, memory.bound = some id → id < memory.created
  class_ : ∀ id, id < memory.created → ∃ size, (memory.segments id).ceilingMsgSize = ShmConf.getCeilingMessageSize size
  views : ∀ process, memory.ViewSized (memory.views process)

theorem sized_start : ({} : SharedMemory Process).Sized where
  named := by simp
  class_ := by simp
  views := fun _ => ⟨⟨_, rfl⟩, by simp, by simp⟩

/-- The segments that were there keep their size class. -/
structure Resized (memory next : SharedMemory Process) : Prop where
  created : memory.created ≤ next.created
  same : ∀ id, id < memory.created → (next.segments id).ceilingMsgSize = (memory.segments id).ceilingMsgSize

theorem Resized.refl (memory : SharedMemory Process) : memory.Resized memory := ⟨Nat.le_refl _, fun _ _ => rfl⟩

theorem Resized.trans {memory middle next : SharedMemory Process} (first : memory.Resized middle)
    (second : middle.Resized next) : memory.Resized next where
  created := Nat.le_trans first.created second.created
  same := fun id known => (second.same id (Nat.lt_of_lt_of_le known first.created)).trans (first.same id known)

theorem ViewSized.resized {memory next : SharedMemory Process} {view : Segment} (sized : memory.ViewSized view)
    (resized : memory.Resized next) : next.ViewSized view where
  conf := sized.conf
  pointed := sized.pointed
  known := by
    intro id points
    obtain ⟨known, conf⟩ := sized.known id points
    rw [resized.same id known]
    exact ⟨Nat.lt_of_lt_of_le known resized.created, conf⟩

theorem Sized.frame {memory next : SharedMemory Process} (sized : memory.Sized) (created : next.created = memory.created)
    (same : ∀ id, (next.segments id).ceilingMsgSize = (memory.segments id).ceilingMsgSize)
    (named : ∀ id, next.bound = some id → memory.bound = some id)
    (views : ∀ process, next.views process = memory.views process ∨ memory.ViewSized (next.views process)) : next.Sized where
  named := by
    intro id bound
    rw [created]
    exact sized.named id (named id bound)
  class_ := by
    intro id known
    rw [created] at known
    rw [same]
    exact sized.class_ id known
  views := by
    intro process
    have resized : memory.Resized next := ⟨Nat.le_of_eq created.symm, fun id _ => same id⟩
    rcases views process with kept | fits
    · rw [kept]
      exact (sized.views process).resized resized
    · exact fits.resized resized

theorem setSegment_ceiling {memory : SharedMemory Process} {id : Nat} {segment : SharedSegment}
    (same : segment.ceilingMsgSize = (memory.segments id).ceilingMsgSize) (other : Nat) :
    ((memory.setSegment id segment).segments other).ceilingMsgSize = (memory.segments other).ceilingMsgSize := by
  simp only [setSegment, Function.update_apply]
  split
  · rename_i here
    rw [here, same]
  · rfl

theorem Sized.setSegment {memory : SharedMemory Process} {id : Nat} {segment : SharedSegment} (sized : memory.Sized)
    (same : segment.ceilingMsgSize = (memory.segments id).ceilingMsgSize) : (memory.setSegment id segment).Sized :=
  sized.frame rfl (setSegment_ceiling same) (fun _ bound => bound) (fun _ => Or.inl rfl)

theorem Sized.remove {memory : SharedMemory Process} (sized : memory.Sized) : memory.remove.2.Sized :=
  sized.frame rfl (fun _ => rfl) (by simp [SharedMemory.remove]) (fun _ => Or.inl rfl)

theorem Sized.setNeedRemap {memory : SharedMemory Process} (process : Process) (sized : memory.Sized) :
    (memory.setNeedRemap process).Sized := by
  unfold SharedMemory.setNeedRemap
  split
  · exact sized.setSegment rfl
  · exact sized

theorem Sized.create {memory : SharedMemory Process} {ceilingMsgSize : Nat} (sized : memory.Sized)
    (class_ : ∃ size, ceilingMsgSize = ShmConf.getCeilingMessageSize size) :
    ({ memory.setSegment memory.created { ceilingMsgSize := ceilingMsgSize } with
      bound := some memory.created, created := memory.created + 1 } : SharedMemory Process).Sized where
  named := by
    intro id bound
    obtain rfl := Option.some.inj bound
    exact Nat.lt_succ_self _
  class_ := by
    intro id known
    by_cases here : id = memory.created
    · subst here
      simpa [SharedMemory.setSegment] using class_
    · have before : id < memory.created := by
        have bound : id < memory.created + 1 := known
        omega
      simpa [SharedMemory.setSegment, here] using sized.class_ id before
  views := by
    intro process
    apply (sized.views process).resized
    apply Resized.mk (Nat.le_succ _)
    intro id known
    simp [SharedMemory.setSegment, Nat.ne_of_lt known]

theorem Sized.releaseBlock {memory next : SharedMemory Process} {process : Process} {index : Nat} {change : Int}
    (sized : memory.Sized) (taken : memory.releaseBlock process index change = some next) : next.Sized := by
  unfold SharedMemory.releaseBlock at taken
  split at taken
  · obtain rfl := Option.some.inj taken
    exact sized
  · obtain ⟨id, _, rfl⟩ := Option.map_eq_some_iff.mp taken
    exact sized.setSegment rfl

theorem Sized.tryLockForRead {memory : SharedMemory Process} (process : Process) (index : Nat) (sized : memory.Sized) :
    (memory.tryLockForRead process index).2.Sized := by
  unfold SharedMemory.tryLockForRead
  split
  · exact sized
  · simp only
    split
    · exact sized
    · exact sized.setSegment rfl

/-- The other processes keep their mappings. -/
def Elsewhere (memory : SharedMemory Process) (process : Process) (next : SharedMemory Process) : Prop :=
  ∀ other, other ≠ process → next.views other = memory.views other

theorem Elsewhere.trans {memory middle next : SharedMemory Process} {process : Process}
    (first : memory.Elsewhere process middle) (second : middle.Elsewhere process next) : memory.Elsewhere process next :=
  fun other differs => (second other differs).trans (first other differs)

theorem elsewhere_of_views {memory next : SharedMemory Process} (process : Process) (same : next.views = memory.views) :
    memory.Elsewhere process next := fun _ _ => by rw [same]

theorem elsewhere_releaseBlock {memory next : SharedMemory Process} {process : Process} {index : Nat} {change : Int}
    (taken : memory.releaseBlock process index change = some next) : memory.Elsewhere process next :=
  elsewhere_of_views process (releaseBlock_locksOnly taken).views

variable [DecidableEq Process]

theorem Sized.setView {memory : SharedMemory Process} {process : Process} {view : Segment} (sized : memory.Sized)
    (fits : memory.ViewSized view) : (memory.setView process view).Sized := by
  apply sized.frame
  · rfl
  · exact fun _ => rfl
  · exact fun _ bound => bound
  · intro other
    simp only [SharedMemory.setView, Function.update_apply]
    split
    · exact Or.inr fits
    · exact Or.inl rfl

theorem Sized.reset {memory : SharedMemory Process} {process : Process} (sized : memory.Sized)
    (left : (memory.views process).init = false) : (memory.reset process).Sized :=
  sized.setView ⟨(sized.views process).conf, by simp [left], by simp⟩

theorem Sized.setInit {memory : SharedMemory Process} (process : Process) (sized : memory.Sized) :
    (memory.setInit process false).Sized :=
  sized.setView ⟨(sized.views process).conf, by simp, (sized.views process).known⟩

theorem Sized.attach {memory : SharedMemory Process} {process : Process} {id : Nat} (sized : memory.Sized)
    (known : id < memory.created) : (memory.attach process id).Sized := by
  let segment := memory.segments id
  let counted := { segment with referenceCount := segment.referenceCount + 1 }
  have same : ((memory.setSegment id counted).segments id).ceilingMsgSize = segment.ceilingMsgSize := by
    simp [SharedMemory.setSegment, counted]
  have grown : (memory.setSegment id counted).Sized := sized.setSegment rfl
  apply grown.setView
  apply ViewSized.mk ⟨_, rfl⟩ (fun _ => ⟨id, rfl⟩)
  intro other points
  obtain rfl := Option.some.inj points
  exact ⟨known, congrArg ShmConf.update same.symm⟩

theorem Sized.openOnly {memory : SharedMemory Process} (process : Process) (sized : memory.Sized) :
    (memory.openOnly process).2.Sized := by
  unfold SharedMemory.openOnly
  split
  · exact sized
  · split
    · rename_i id bound
      exact sized.attach (sized.named id bound)
    · exact sized

theorem Sized.openOrCreate {memory : SharedMemory Process} (process : Process) (sized : memory.Sized) :
    (memory.openOrCreate process).2.Sized := by
  unfold SharedMemory.openOrCreate
  split
  · exact sized
  · split
    · exact sized.openOnly process
    · obtain ⟨size, conf⟩ := (sized.views process).conf
      have class_ : ∃ size, (memory.views process).conf.ceilingMsgSize = ShmConf.getCeilingMessageSize size :=
        ⟨size, by rw [conf]; rfl⟩
      exact (sized.create class_).attach (Nat.lt_succ_self _)

theorem Sized.updateConf {memory : SharedMemory Process} {process : Process} (sized : memory.Sized)
    (unmapped : (memory.views process).init = false ∧ (memory.views process).state = none) (msgSize : Nat) :
    (memory.updateConf process msgSize).Sized :=
  sized.setView ⟨⟨msgSize, rfl⟩, by simp [unmapped.1], by simp [unmapped.2]⟩

theorem Sized.remap {memory : SharedMemory Process} (process : Process) (sized : memory.Sized) :
    (memory.remap process).2.Sized := by
  have left : ((memory.setInit process false).views process).init = false := by simp [SharedMemory.setInit, SharedMemory.setView]
  exact ((sized.setInit process).reset left).openOnly process

theorem Sized.leave {memory : SharedMemory Process} (process : Process) (sized : memory.Sized) :
    (WriteCalls.leave memory process).Sized := by
  apply ((sized.setInit process).setNeedRemap process).reset
  rw [setNeedRemap_views]
  simp [SharedMemory.setInit, SharedMemory.setView]

theorem Sized.openToWrite {memory : SharedMemory Process} (process : Process) (sized : memory.Sized) :
    (memory.openToWrite process).2.Sized := by
  unfold SharedMemory.openToWrite
  split
  · exact sized
  · exact sized.openOrCreate process

theorem Sized.openToRead {memory : SharedMemory Process} (process : Process) (sized : memory.Sized) :
    (memory.openToRead process).2.Sized := by
  unfold SharedMemory.openToRead
  split
  · exact sized
  · exact sized.openOnly process

theorem Sized.acquireBlockToRead {memory : SharedMemory Process} (process : Process) (index : Nat)
    (sized : memory.Sized) : (memory.acquireBlockToRead process index).2.Sized := by
  have opened := sized.openToRead process
  have remapped : ((memory.openToRead process).2.remapIfNeeded process).2.Sized := by
    unfold SharedMemory.remapIfNeeded
    split
    · exact opened.remap process
    · exact opened
  unfold SharedMemory.acquireBlockToRead
  simp only
  split
  · exact opened
  · split
    · exact opened
    · split
      · exact remapped
      · exact remapped.tryLockForRead process index

theorem Sized.destroy {memory : SharedMemory Process} (process : Process) (sized : memory.Sized) :
    (memory.destroy process).Sized := by
  have left := sized.setInit process
  unfold SharedMemory.destroy
  split
  · split
    · exact left
    · rename_i id _
      have decreased : ((memory.setInit process false).decreaseReferenceCounts id).Sized := left.setSegment rfl
      simp only
      split
      · exact decreased.remove
      · exact decreased
  · exact sized

theorem elsewhere_setView (memory : SharedMemory Process) (process : Process) (view : Segment) :
    memory.Elsewhere process (memory.setView process view) :=
  fun _ differs => Function.update_of_ne differs _ _

theorem elsewhere_openOnly (memory : SharedMemory Process) (process : Process) :
    memory.Elsewhere process (memory.openOnly process).2 := by
  unfold openOnly
  split
  · exact elsewhere_of_views process rfl
  · split
    · exact elsewhere_setView _ process _
    · exact elsewhere_of_views process rfl

theorem elsewhere_openOrCreate (memory : SharedMemory Process) (process : Process) :
    memory.Elsewhere process (memory.openOrCreate process).2 := by
  unfold openOrCreate
  split
  · exact elsewhere_of_views process rfl
  · split
    · exact elsewhere_openOnly memory process
    · exact elsewhere_setView _ process _

theorem elsewhere_remap (memory : SharedMemory Process) (process : Process) :
    memory.Elsewhere process (memory.remap process).2 :=
  ((elsewhere_setView memory process _).trans (elsewhere_setView _ process _)).trans (elsewhere_openOnly _ process)

theorem elsewhere_leave (memory : SharedMemory Process) (process : Process) :
    memory.Elsewhere process (WriteCalls.leave memory process) :=
  ((elsewhere_setView memory process _).trans
    (elsewhere_of_views process (setNeedRemap_views _ process))).trans (elsewhere_setView _ process _)

theorem elsewhere_openToWrite (memory : SharedMemory Process) (process : Process) :
    memory.Elsewhere process (memory.openToWrite process).2 := by
  unfold openToWrite
  split
  · exact elsewhere_of_views process rfl
  · exact elsewhere_openOrCreate memory process

theorem elsewhere_openToRead (memory : SharedMemory Process) (process : Process) :
    memory.Elsewhere process (memory.openToRead process).2 := by
  unfold openToRead
  split
  · exact elsewhere_of_views process rfl
  · exact elsewhere_openOnly memory process

theorem elsewhere_acquireBlockToRead (memory : SharedMemory Process) (process : Process) (index : Nat) :
    memory.Elsewhere process (memory.acquireBlockToRead process index).2 := by
  have opened := elsewhere_openToRead memory process
  have remapped : memory.Elsewhere process ((memory.openToRead process).2.remapIfNeeded process).2 := by
    apply opened.trans
    unfold remapIfNeeded
    split
    · exact elsewhere_remap _ process
    · exact elsewhere_of_views process rfl
  unfold acquireBlockToRead
  simp only
  split
  · exact opened
  · split
    · exact opened
    · split
      · exact remapped
      · exact remapped.trans (elsewhere_of_views process (tryLockForRead_locksOnly _ process index).views)

theorem elsewhere_destroy (memory : SharedMemory Process) (process : Process) :
    memory.Elsewhere process (memory.destroy process) := by
  have left := elsewhere_setView memory process { memory.views process with init := false }
  unfold destroy
  split
  · split
    · exact left
    · simp only
      split
      · exact left.trans (elsewhere_of_views process rfl)
      · exact left.trans (elsewhere_of_views process rfl)
  · exact elsewhere_of_views process rfl

/-- What an `OpenOrCreate` of an object that is not attached leads to: a mapping of the named segment, or of a new one in
    its own size class. -/
theorem openOrCreate_view {memory : SharedMemory Process} {process : Process}
    (detached : (memory.views process).init = false) :
    (memory.openOrCreate process).1 = true ∧ ((memory.openOrCreate process).2.views process).init = true ∧
      ((memory.openOrCreate process).2.views process).conf = .update (match memory.bound with
        | some id => (memory.segments id).ceilingMsgSize
        | none => (memory.views process).conf.ceilingMsgSize) := by
  unfold openOrCreate
  rw [if_neg (by simp [detached])]
  cases bound : memory.bound with
  | none => simp [attach, setView, setSegment]
  | some id =>
    unfold openOnly
    rw [if_neg (by simp [detached]), bound]
    simp [attach, setView, setSegment]

end SharedMemory

namespace WriteCall

variable {Process : Type}

/-- The process that makes the call. -/
def process : WriteCall Process → Process
  | .acquireBlockToWrite process _ | .next process _ | .releaseWrittenBlock process | .acquireBlockToRead process _
  | .releaseReadBlock process _ | .destroy process => process

def isNext : WriteCall Process → Bool
  | .next _ _ => true
  | .acquireBlockToWrite _ _ | .releaseWrittenBlock _ | .acquireBlockToRead _ _ | .releaseReadBlock _ _ | .destroy _ =>
    false

end WriteCall

namespace WriteCalls

variable {Process : Type}

/-- What a process knows of its mapping at each place in `AcquireBlockToWrite`. -/
def StageFits (view : Segment) : WriteStage → Prop
  | .idle | .open _ | .remap _ | .setNeedRemap _ => True
  | .needRemap _ => view.init = true
  | .compare _ result => result = true → view.init = true
  | .remove _ | .openOrCreate _ => view.init = false ∧ view.state = none
  | .fetchAddSeq msgSize => view.init = true ∧ msgSize + messageInfoKSize ≤ view.conf.blockBufSize
  | .tryLockForWrite msgSize index | .writing msgSize index =>
    view.init = true ∧ msgSize + messageInfoKSize ≤ view.conf.blockBufSize ∧ index < view.conf.blockNum

structure Fits (calls : WriteCalls Process) : Prop where
  sized : calls.memory.Sized
  stages : ∀ process, StageFits (calls.memory.views process) (calls.stages process)

/-- Between the `Reset` and the `OpenOrCreate` of a `Recreate` a process is detached. -/
def StageDetached (view : Segment) : WriteStage → Prop
  | .remove _ | .openOrCreate _ => view.init = false ∧ view.state = none
  | .idle | .open _ | .needRemap _ | .remap _ | .compare _ _ | .setNeedRemap _ | .fetchAddSeq _ | .tryLockForWrite _ _
  | .writing _ _ => True

structure Steady (calls : WriteCalls Process) : Prop where
  sized : calls.memory.Sized
  detached : ∀ process, StageDetached (calls.memory.views process) (calls.stages process)

/-- A step of the process leaves the mappings and the places of the others. -/
structure Moved (calls : WriteCalls Process) (process : Process) (next : WriteCalls Process) : Prop where
  sized : next.memory.Sized
  elsewhere : calls.memory.Elsewhere process next.memory
  stages : ∀ other, other ≠ process → next.stages other = calls.stages other
  detached : StageDetached (next.memory.views process) (next.stages process)

theorem Fits.steady {calls : WriteCalls Process} (fits : calls.Fits) : calls.Steady where
  sized := fits.sized
  detached := by
    intro process
    have here := fits.stages process
    cases stage : calls.stages process with
    | remove msgSize => rwa [stage] at here
    | openOrCreate msgSize => rwa [stage] at here
    | _ => trivial

theorem Fits.moved {calls next : WriteCalls Process} {process : Process} (fits : calls.Fits)
    (moved : calls.Moved process next) (stageFits : StageFits (next.memory.views process) (next.stages process)) :
    next.Fits where
  sized := moved.sized
  stages := by
    intro other
    by_cases same : other = process
    · rw [same]
      exact stageFits
    · rw [moved.stages other same, moved.elsewhere other same]
      exact fits.stages other

theorem Steady.moved {calls next : WriteCalls Process} {process : Process} (steady : calls.Steady)
    (moved : calls.Moved process next) : next.Steady where
  sized := moved.sized
  detached := by
    intro other
    by_cases same : other = process
    · rw [same]
      exact moved.detached
    · rw [moved.stages other same, moved.elsewhere other same]
      exact steady.detached other

variable [DecidableEq Process]

@[simp] theorem advance_stage (calls : WriteCalls Process) (process : Process) (memory : SharedMemory Process)
    (stage : WriteStage) : (calls.advance process memory stage).stages process = stage := Function.update_self _ _ _

@[simp] theorem advance_memory (calls : WriteCalls Process) (process : Process) (memory : SharedMemory Process)
    (stage : WriteStage) : (calls.advance process memory stage).memory = memory := rfl

theorem moved_advance {calls : WriteCalls Process} {process : Process} {memory : SharedMemory Process} {stage : WriteStage}
    (sized : memory.Sized) (elsewhere : calls.memory.Elsewhere process memory)
    (detached : StageDetached (memory.views process) stage) : calls.Moved process (calls.advance process memory stage) where
  sized := sized
  elsewhere := elsewhere
  stages := fun _ differs => Function.update_of_ne differs _ _
  detached := by
    rw [advance_stage]
    exact detached

/-- Every access of `AcquireBlockToWrite`, whatever `Recreate` finds. -/
theorem Steady.nextStep {calls next : WriteCalls Process} {process : Process} {spurious : Bool} (steady : calls.Steady)
    (taken : calls.nextStep process spurious = some next) : calls.Moved process next := by
  have here := steady.detached process
  have still := SharedMemory.elsewhere_of_views process (rfl : calls.memory.views = calls.memory.views)
  unfold WriteCalls.nextStep at taken
  cases stage : calls.stages process with
  | idle => simp [stage] at taken
  | writing msgSize index => simp [stage] at taken
  | «open» msgSize =>
    simp only [stage] at taken
    obtain rfl := Option.some.inj taken
    apply moved_advance (steady.sized.openToWrite process) (SharedMemory.elsewhere_openToWrite _ process)
    split <;> trivial
  | needRemap msgSize =>
    simp only [stage] at taken
    obtain ⟨id, points, rfl⟩ := Option.map_eq_some_iff.mp taken
    apply moved_advance steady.sized still
    split <;> trivial
  | remap msgSize =>
    simp only [stage] at taken
    obtain rfl := Option.some.inj taken
    exact moved_advance (steady.sized.remap process) (SharedMemory.elsewhere_remap _ process) trivial
  | compare msgSize result =>
    simp only [stage] at taken
    obtain rfl := Option.some.inj taken
    apply moved_advance steady.sized still
    split
    · trivial
    · split <;> trivial
  | setNeedRemap msgSize =>
    simp only [stage] at taken
    obtain ⟨id, points, rfl⟩ := Option.map_eq_some_iff.mp taken
    apply moved_advance (steady.sized.leave process) (SharedMemory.elsewhere_leave _ process)
    simp [StageDetached, leave, SharedMemory.reset, SharedMemory.setView, SharedMemory.setNeedRemap_views,
      SharedMemory.setInit]
  | remove msgSize =>
    rw [stage] at here
    simp only [stage] at taken
    obtain rfl := Option.some.inj taken
    exact moved_advance steady.sized.remove (SharedMemory.elsewhere_of_views process rfl) here
  | openOrCreate msgSize =>
    rw [stage] at here
    simp only [stage] at taken
    obtain rfl := Option.some.inj taken
    apply moved_advance ((steady.sized.updateConf here msgSize).openOrCreate process)
    · exact (SharedMemory.elsewhere_setView _ process _).trans (SharedMemory.elsewhere_openOrCreate _ process)
    · split <;> trivial
  | fetchAddSeq msgSize =>
    simp only [stage] at taken
    obtain ⟨id, points, rfl⟩ := Option.map_eq_some_iff.mp taken
    exact moved_advance (steady.sized.setSegment rfl) (SharedMemory.elsewhere_of_views process rfl) trivial
  | tryLockForWrite msgSize tryIdx =>
    simp only [stage] at taken
    obtain ⟨id, points, rfl⟩ := Option.map_eq_some_iff.mp taken
    split
    · exact moved_advance (steady.sized.setSegment rfl) (SharedMemory.elsewhere_of_views process rfl) trivial
    · exact moved_advance steady.sized still trivial

theorem openToWrite_init {memory : SharedMemory Process} {process : Process} :
    ((memory.openToWrite process).2.views process).init = true := by
  unfold SharedMemory.openToWrite
  split
  · assumption
  · rename_i detached
    exact (SharedMemory.openOrCreate_view (by simpa using detached)).2.1

theorem remap_init {memory : SharedMemory Process} {process : Process} (mapped : (memory.remap process).1 = true) :
    ((memory.remap process).2.views process).init = true := by
  revert mapped
  unfold SharedMemory.remap SharedMemory.openOnly
  split
  · exact fun _ => by assumption
  · split
    · simp [SharedMemory.attach, SharedMemory.setView]
    · simp

theorem Fits.nextStep {calls next : WriteCalls Process} {process : Process} {spurious : Bool} (fits : calls.Fits)
    (roomy : calls.RecreatesRoomy (.next process spurious)) (taken : calls.nextStep process spurious = some next) :
    next.Fits := by
  apply fits.moved (fits.steady.nextStep taken)
  have here := fits.stages process
  unfold WriteCalls.nextStep at taken
  cases stage : calls.stages process with
  | idle => simp [stage] at taken
  | writing msgSize index => simp [stage] at taken
  | «open» msgSize =>
    simp only [stage] at taken
    obtain rfl := Option.some.inj taken
    rw [advance_stage, advance_memory]
    split
    · exact openToWrite_init
    · trivial
  | needRemap msgSize =>
    rw [stage] at here
    simp only [stage] at taken
    obtain ⟨id, points, rfl⟩ := Option.map_eq_some_iff.mp taken
    rw [advance_stage, advance_memory]
    split
    · trivial
    · exact fun _ => here
  | remap msgSize =>
    simp only [stage] at taken
    obtain rfl := Option.some.inj taken
    rw [advance_stage, advance_memory]
    exact remap_init
  | compare msgSize result =>
    rw [stage] at here
    simp only [stage] at taken
    obtain rfl := Option.some.inj taken
    rw [advance_stage, advance_memory]
    split
    · trivial
    · rename_i below
      split
      · rename_i mapped
        obtain ⟨size, conf⟩ := (fits.sized.views process).conf
        rw [conf] at below
        apply And.intro (here mapped)
        rw [conf]
        have buffer : (ShmConf.update size).blockBufSize = (ShmConf.update size).ceilingMsgSize + 1024 := rfl
        have small : messageInfoKSize = 24 := rfl
        omega
      · trivial
  | setNeedRemap msgSize =>
    simp only [stage] at taken
    obtain ⟨id, points, rfl⟩ := Option.map_eq_some_iff.mp taken
    simp [StageFits, leave, SharedMemory.reset, SharedMemory.setView, SharedMemory.setNeedRemap_views,
      SharedMemory.setInit]
  | remove msgSize =>
    rw [stage] at here
    simp only [stage] at taken
    obtain rfl := Option.some.inj taken
    rw [advance_stage]
    exact here
  | openOrCreate msgSize =>
    rw [stage] at here
    simp only [stage] at taken
    obtain rfl := Option.some.inj taken
    have detached : ((calls.memory.updateConf process msgSize).views process).init = false := by
      simp [SharedMemory.updateConf, SharedMemory.setView, here.1]
    obtain ⟨opened, attached, conf⟩ := SharedMemory.openOrCreate_view detached
    rw [advance_stage, advance_memory, if_pos opened]
    apply And.intro attached
    simp only [RecreatesRoomy, stage] at roomy
    rw [conf]
    unfold recreatedCeiling at roomy
    show _ ≤ ShmConf.getBlockBufSize (ShmConf.getCeilingMessageSize (match calls.memory.bound with
      | some id => (calls.memory.segments id).ceilingMsgSize
      | none => ((calls.memory.updateConf process msgSize).views process).conf.ceilingMsgSize))
    cases bound : calls.memory.bound with
    | some id =>
      obtain ⟨size, class_⟩ := fits.sized.class_ id (fits.sized.named id bound)
      rw [bound] at roomy
      simp only [class_] at roomy ⊢
      rwa [ShmConf.getCeilingMessageSize_idem]
    | none =>
      have updated : ((calls.memory.updateConf process msgSize).views process).conf = .update msgSize := by
        simp [SharedMemory.updateConf, SharedMemory.setView]
      rw [bound] at roomy
      simp only [updated]
      exact (ShmConf.getCeilingMessageSize_idem msgSize).symm ▸ roomy
  | fetchAddSeq msgSize =>
    rw [stage] at here
    simp only [stage] at taken
    obtain ⟨id, points, rfl⟩ := Option.map_eq_some_iff.mp taken
    obtain ⟨size, conf⟩ := (fits.sized.views process).conf
    have blocks : 0 < (calls.memory.views process).conf.blockNum := by
      rw [conf]
      exact ShmConf.update_blockNum_pos size
    rw [advance_stage]
    exact ⟨here.1, here.2, Nat.mod_lt _ blocks⟩
  | tryLockForWrite msgSize tryIdx =>
    rw [stage] at here
    simp only [stage] at taken
    obtain ⟨id, points, rfl⟩ := Option.map_eq_some_iff.mp taken
    split
    · rw [advance_stage]
      exact here
    · rw [advance_stage]
      exact ⟨here.1, here.2.1⟩

/-- The calls that are one step, and the begin of `AcquireBlockToWrite`. -/
theorem Steady.call {calls next : WriteCalls Process} {event : WriteCall Process} (steady : calls.Steady)
    (whole : event.isNext = false) (taken : step calls event = some next) :
    calls.Moved event.process next ∧
      ((∃ msgSize, next.stages event.process = .open msgSize) ∨ next.stages event.process = .idle) := by
  have still : ∀ process, calls.memory.Elsewhere process calls.memory :=
    fun process => SharedMemory.elsewhere_of_views process rfl
  unfold WriteCalls.step at taken
  cases event with
  | acquireBlockToWrite process msgSize =>
    simp only at taken
    split at taken
    · obtain rfl := Option.some.inj taken
      exact ⟨moved_advance steady.sized (still process) trivial, .inl ⟨msgSize, advance_stage ..⟩⟩
    · cases taken
  | next process spurious => cases whole
  | releaseWrittenBlock process =>
    simp only at taken
    split at taken
    · obtain ⟨memory, released, rfl⟩ := Option.map_eq_some_iff.mp taken
      exact ⟨moved_advance (steady.sized.releaseBlock released) (SharedMemory.elsewhere_releaseBlock released) trivial,
        .inr (advance_stage ..)⟩
    · cases taken
  | acquireBlockToRead process index =>
    simp only at taken
    split at taken
    · obtain rfl := Option.some.inj taken
      exact ⟨moved_advance (steady.sized.acquireBlockToRead process index)
        (SharedMemory.elsewhere_acquireBlockToRead _ process index) trivial, .inr (advance_stage ..)⟩
    · cases taken
  | releaseReadBlock process index =>
    simp only at taken
    split at taken
    · obtain ⟨memory, released, rfl⟩ := Option.map_eq_some_iff.mp taken
      exact ⟨moved_advance (steady.sized.releaseBlock released) (SharedMemory.elsewhere_releaseBlock released) trivial,
        .inr (advance_stage ..)⟩
    · cases taken
  | destroy process =>
    simp only at taken
    split at taken
    · obtain rfl := Option.some.inj taken
      exact ⟨moved_advance (steady.sized.destroy process) (SharedMemory.elsewhere_destroy _ process) trivial,
        .inr (advance_stage ..)⟩
    · cases taken

theorem Steady.step {calls next : WriteCalls Process} {event : WriteCall Process} (steady : calls.Steady)
    (taken : step calls event = some next) : calls.Moved event.process next := by
  by_cases whole : event.isNext = false
  · exact (steady.call whole taken).1
  · cases event with
    | next process spurious => exact steady.nextStep taken
    | _ => exact absurd rfl whole

theorem Fits.step {calls next : WriteCalls Process} {event : WriteCall Process} (roomy : calls.RecreatesRoomy event)
    (taken : step calls event = some next) (fits : calls.Fits) : next.Fits := by
  by_cases whole : event.isNext = false
  · obtain ⟨moved, stage⟩ := fits.steady.call whole taken
    apply fits.moved moved
    rcases stage with ⟨msgSize, stage⟩ | stage
    · rw [stage]
      trivial
    · rw [stage]
      trivial
  · cases event with
    | next process spurious => exact fits.nextStep roomy taken
    | _ => exact absurd rfl whole

/-- Where every `Recreate` creates or opens a segment with room for its message, every block that a process may write to
    has room for what `Transmit` writes. -/
theorem acquired_roomy {events : List (WriteCall Process)} {calls : WriteCalls Process}
    (roomy : Meets step RecreatesRoomy {} events) (ran : run step {} events = some calls) (process : Process)
    (msgSize index : Nat) (acquired : calls.stages process = .writing msgSize index) : calls.Roomy process msgSize index := by
  have fits : calls.Fits := by
    have start : ({} : WriteCalls Process).Fits := ⟨SharedMemory.sized_start, fun _ => trivial⟩
    exact Meets.preserves Fits (fun _ _ _ => Fits.step) start roomy ran
  have here := fits.stages process
  rw [acquired] at here
  obtain ⟨attached, room, bound⟩ := here
  obtain ⟨id, points⟩ := (fits.sized.views process).pointed attached
  exact ⟨attached, bound, room, id, points, ((fits.sized.views process).known id points).2⟩

instance (calls : WriteCalls Process) : (event : WriteCall Process) → Decidable (calls.RecreatesRoomy event)
  | .next process _ =>
    match stage : calls.stages process with
    | .openOrCreate msgSize =>
      decidable_of_iff (msgSize + messageInfoKSize ≤ ShmConf.getBlockBufSize (recreatedCeiling calls.memory msgSize))
        (by simp only [RecreatesRoomy, stage])
    | .idle | .open _ | .needRemap _ | .remap _ | .compare _ _ | .setNeedRemap _ | .remove _ | .fetchAddSeq _
    | .tryLockForWrite _ _ | .writing _ _ => isTrue (by simp only [RecreatesRoomy, stage])
  | .acquireBlockToWrite _ _ | .releaseWrittenBlock _ | .acquireBlockToRead _ _ | .releaseReadBlock _ _ | .destroy _ =>
    isTrue trivial

/-- A message that outgrows the first size class. -/
def largeMessage : List (WriteCall Bool) :=
  .acquireBlockToWrite true 100000 :: List.replicate 8 (.next true false)

theorem largeMessage_roomy : ∃ calls, run step {} largeMessage = some calls ∧ calls.Roomy true 100000 0 := by
  have reached : (run step {} largeMessage).any (fun calls => decide (calls.stages true = .writing 100000 0)) = true := by
    decide +kernel
  obtain ⟨calls, ran, acquired⟩ := (Option.any_eq_true _ _).mp reached
  have roomy : Meets step RecreatesRoomy ({} : WriteCalls Bool) largeMessage := by decide +kernel
  exact ⟨calls, ran, acquired_roomy roomy ran true 100000 0 (of_decide_eq_true acquired)⟩

/-- A message that outgrows the last one. -/
example : (run step {} (.acquireBlockToWrite true 33555433 :: List.replicate 8 (.next true false))).any (fun calls =>
    decide (calls.stages true = .writing 33555433 0 ∧
      (calls.memory.views true).conf.blockBufSize < 33555433 + messageInfoKSize)) = true := by
  decide +kernel

/-- A process creates a segment of the first size class between the `Remove` and the `OpenOrCreate` of another one's
    `Recreate`. -/
def racedRecreate : List (WriteCall Bool) :=
  .acquireBlockToWrite true 100000 :: List.replicate 5 (.next true false) ++
    [.acquireBlockToWrite false 10, .next false false] ++ List.replicate 3 (.next true false)

theorem racedRecreate_not_roomy : ¬∀ (events : List (WriteCall Bool)) calls, run step {} events = some calls →
    ∀ process msgSize index, calls.stages process = .writing msgSize index → calls.Roomy process msgSize index := by
  intro roomy
  have reached : (run step {} racedRecreate).any (fun calls => decide (calls.stages true = .writing 100000 0 ∧
      (calls.memory.views true).conf.blockBufSize = 17408)) = true := by decide +kernel
  obtain ⟨calls, ran, facts⟩ := (Option.any_eq_true _ _).mp reached
  obtain ⟨acquired, small⟩ := of_decide_eq_true facts
  obtain ⟨_, _, room, _⟩ := roomy racedRecreate calls ran true 100000 0 acquired
  rw [small] at room
  have size : messageInfoKSize = 24 := rfl
  omega

end WriteCalls

end CyberRT.Shm

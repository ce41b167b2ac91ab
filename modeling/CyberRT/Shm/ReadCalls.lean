import CyberRT.Shm.BlockSteps
import CyberRT.Shm.Room

namespace CyberRT.Shm

open Execution

/-- What a process does next in `AcquireBlockToRead` for the block of a notification; `reading` is what it returns true
    with. -/
inductive ReadStage where
  | idle
  | open (index : Nat)
  | checkIndex (index : Nat)
  | needRemap (index : Nat)
  | remap (index : Nat)
  | loadLockNum (index tryTimes : Nat)
  | exchangeLockNum (index tryTimes : Nat) (lockNum : Int)
  | reading (index : Nat)
  deriving DecidableEq, Repr

namespace ReadStage

/-- The block that `TryLockForRead` works on, or that the call has returned. -/
def block : ReadStage → Option Nat
  | .loadLockNum index _ | .exchangeLockNum index _ _ | .reading index => some index
  | .idle | .open _ | .checkIndex _ | .needRemap _ | .remap _ => none

/-- The index that a `Remap` is made with. -/
def remapped : ReadStage → Option Nat
  | .remap index => some index
  | .idle | .open _ | .checkIndex _ | .needRemap _ | .loadLockNum _ _ | .exchangeLockNum _ _ _ | .reading _ => none

end ReadStage

def WriteCall.isRead {Process : Type} : WriteCall Process → Bool
  | .acquireBlockToRead _ _ | .releaseReadBlock _ _ => true
  | .acquireBlockToWrite _ _ | .next _ _ | .releaseWrittenBlock _ | .destroy _ => false

/-- The number of blocks behind the `State` of the segment. -/
def SharedSegment.blockNum (segment : SharedSegment) : Nat := ShmConf.getBlockNum segment.ceilingMsgSize

structure ReadCalls (Process : Type) where
  calls : WriteCalls Process := {}
  readers : Process → ReadStage := fun _ => .idle

/-- `next` is the next access of the process within `AcquireBlockToRead`; `spurious` lets the weak exchange of
    `TryLockForRead` fail. -/
inductive ReadCall (Process : Type) where
  | write (call : WriteCall Process)
  | acquireBlockToRead (process : Process) (index : Nat)
  | next (process : Process) (spurious : Bool)
  | releaseReadBlock (process : Process)
  deriving DecidableEq, Repr

namespace ReadCalls

variable {Process : Type} [DecidableEq Process]

def advance (reads : ReadCalls Process) (process : Process) (memory : SharedMemory Process) (stage : ReadStage) :
    ReadCalls Process :=
  ⟨{ reads.calls with memory := memory }, Function.update reads.readers process stage⟩

/-- `TryLockForRead` accesses the block through `blocks_` with the index that was checked before `Remap`. -/
def nextStep (reads : ReadCalls Process) (process : Process) (spurious : Bool) : Option (ReadCalls Process) :=
  let memory := reads.calls.memory
  let view := memory.views process
  match reads.readers process with
  | .idle | .reading _ => none
  | .open index =>
    let opened := memory.openToRead process
    some (reads.advance process opened.2 (if opened.1 then .checkIndex index else .idle))
  | .checkIndex index =>
    some (reads.advance process memory (if view.conf.blockNum ≤ index then .idle else .needRemap index))
  | .needRemap index => view.state.map fun id =>
    reads.advance process memory (if (memory.segments id).needRemap then .remap index else .loadLockNum index 0)
  | .remap index =>
    let remapped := memory.remap process
    some (reads.advance process remapped.2 (if remapped.1 then .loadLockNum index 0 else .idle))
  | .loadLockNum index tryTimes => view.state.map fun id =>
    let lockNum := (memory.segments id).lockNum index
    reads.advance process memory (if lockNum < 0 then .idle else .exchangeLockNum index tryTimes lockNum)
  | .exchangeLockNum index tryTimes lockNum => view.state.map fun id =>
    let segment := memory.segments id
    if segment.lockNum index = lockNum ∧ spurious = false then
      reads.advance process
        (memory.setSegment id { segment with lockNum := Function.update segment.lockNum index (lockNum + 1) })
        (.reading index)
    else reads.advance process memory
      (if tryTimes + 1 = kMaxTryLockTimes then .idle else .loadLockNum index (tryTimes + 1))

/-- A process makes one call at a time. -/
def step (reads : ReadCalls Process) : ReadCall Process → Option (ReadCalls Process)
  | .write call =>
    if call.isRead = false ∧ reads.readers call.process = .idle then
      (WriteCalls.step reads.calls call).map fun calls => { reads with calls := calls }
    else none
  | .acquireBlockToRead process index =>
    if reads.calls.stages process = .idle ∧ reads.readers process = .idle then
      some (reads.advance process reads.calls.memory (.open index))
    else none
  | .next process spurious => reads.nextStep process spurious
  | .releaseReadBlock process =>
    match reads.readers process with
    | .reading index => (reads.calls.memory.releaseBlock process index (-1)).map fun memory =>
      reads.advance process memory .idle
    | _ => none

/-- The block is one of the segment that the process has mapped. -/
def InBounds (reads : ReadCalls Process) (process : Process) (index : Nat) : Prop :=
  ∃ id, (reads.calls.memory.views process).state = some id ∧ index < (reads.calls.memory.segments id).blockNum

/-- The segment that a `Remap` of `AcquireBlockToRead` is about to open still has the block that was asked for. -/
def RemapsInBounds (reads : ReadCalls Process) : ReadCall Process → Prop
  | .next process _ => ∀ index ∈ (reads.readers process).remapped, ∀ id ∈ reads.calls.memory.bound,
    index < (reads.calls.memory.segments id).blockNum
  | .write _ | .acquireBlockToRead _ _ | .releaseReadBlock _ => True

instance (reads : ReadCalls Process) : (event : ReadCall Process) → Decidable (reads.RemapsInBounds event)
  | .next process _ =>
    have : DecidablePred fun index => ∀ id ∈ reads.calls.memory.bound,
        index < (reads.calls.memory.segments id).blockNum :=
      fun _ => Option.decidableForallMem reads.calls.memory.bound
    Option.decidableForallMem (reads.readers process).remapped
  | .write _ | .acquireBlockToRead _ _ | .releaseReadBlock _ => isTrue trivial

end ReadCalls

namespace SharedMemory

variable {Process : Type}

/-- A size class is its own ceiling, so an object that maps the segment knows the number of its blocks. -/
theorem Sized.blockNum {memory : SharedMemory Process} (sized : memory.Sized) {id : Nat} (known : id < memory.created) :
    (ShmConf.update (memory.segments id).ceilingMsgSize).blockNum = (memory.segments id).blockNum := by
  rcases sized.class_ id known with ⟨size, ceiling⟩
  show ShmConf.getBlockNum (ShmConf.getCeilingMessageSize _) = ShmConf.getBlockNum _
  rw [ceiling, ShmConf.getCeilingMessageSize_idem]

/-- An attached object has mapped a segment with as many blocks as its configuration says. -/
theorem Sized.attached {memory : SharedMemory Process} (sized : memory.Sized) {process : Process}
    (init : (memory.views process).init = true) :
    ∃ id, (memory.views process).state = some id ∧ (memory.views process).conf.blockNum = (memory.segments id).blockNum := by
  rcases (sized.views process).pointed init with ⟨id, points⟩
  rcases (sized.views process).known id points with ⟨known, conf⟩
  refine ⟨id, points, ?_⟩
  rw [conf]
  exact sized.blockNum known

variable [DecidableEq Process]

theorem remap_none {memory : SharedMemory Process} (process : Process) (bound : memory.bound = none) :
    (memory.remap process).1 = false := by
  have detached : (((memory.setInit process false).reset process).views process).init = false := by
    simp [setInit, reset, setView]
  have unnamed : ((memory.setInit process false).reset process).bound = none := bound
  unfold remap openOnly
  rw [if_neg (by simp [detached]), unnamed]

theorem remap_some {memory : SharedMemory Process} (process : Process) {id : Nat} (bound : memory.bound = some id) :
    (memory.remap process).1 = true ∧
      (memory.remap process).2.views process = ⟨true, .update (memory.segments id).ceilingMsgSize, some id⟩ ∧
      ((memory.remap process).2.segments id).ceilingMsgSize = (memory.segments id).ceilingMsgSize := by
  have detached : (((memory.setInit process false).reset process).views process).init = false := by
    simp [setInit, reset, setView]
  have named : ((memory.setInit process false).reset process).bound = some id := bound
  unfold remap openOnly
  rw [if_neg (by simp [detached]), named]
  simp [attach, setInit, reset, setView, setSegment]

theorem openToRead_init {memory : SharedMemory Process} {process : Process}
    (opened : (memory.openToRead process).1 = true) : ((memory.openToRead process).2.views process).init = true := by
  revert opened
  unfold openToRead openOnly
  split
  · exact fun _ => by assumption
  · split
    · simp [attach, setView]
    · simp

end SharedMemory

namespace ReadCalls

variable {Process : Type}

/-- What a process knows of its mapping at each place in `AcquireBlockToRead`. -/
def StageFits (view : Segment) : ReadStage → Prop
  | .idle | .open _ | .remap _ => True
  | .checkIndex _ => view.init = true
  | .needRemap index | .loadLockNum index _ | .exchangeLockNum index _ _ | .reading index =>
    view.init = true ∧ index < view.conf.blockNum

structure Fits (reads : ReadCalls Process) : Prop where
  steady : reads.calls.Steady
  alone : ∀ process, reads.readers process ≠ .idle → reads.calls.stages process = .idle
  stages : ∀ process, StageFits (reads.calls.memory.views process) (reads.readers process)

variable [DecidableEq Process]

theorem Fits.advance {reads : ReadCalls Process} {process : Process} {memory : SharedMemory Process} {stage : ReadStage}
    (fits : reads.Fits) (free : reads.calls.stages process = .idle) (sized : memory.Sized)
    (elsewhere : reads.calls.memory.Elsewhere process memory) (stageFits : StageFits (memory.views process) stage) :
    (reads.advance process memory stage).Fits where
  steady := by
    apply WriteCalls.Steady.mk sized
    intro other
    show WriteCalls.StageDetached (memory.views other) (reads.calls.stages other)
    by_cases same : other = process
    · rw [same, free]
      trivial
    · rw [elsewhere other same]
      exact fits.steady.detached other
  alone := by
    intro other
    show Function.update reads.readers process stage other ≠ .idle → reads.calls.stages other = .idle
    by_cases same : other = process
    · rw [same]
      exact fun _ => free
    · rw [Function.update_of_ne same]
      exact fits.alone other
  stages := by
    intro other
    show StageFits (memory.views other) (Function.update reads.readers process stage other)
    by_cases same : other = process
    · rw [same, Function.update_self]
      exact stageFits
    · rw [Function.update_of_ne same, elsewhere other same]
      exact fits.stages other

theorem Fits.nextStep {reads next : ReadCalls Process} {process : Process} {spurious : Bool} (fits : reads.Fits)
    (bounds : reads.RemapsInBounds (.next process spurious)) (taken : reads.nextStep process spurious = some next) :
    next.Fits := by
  have here := fits.stages process
  have free := fits.alone process
  have sized := fits.steady.sized
  have still := SharedMemory.elsewhere_of_views process (rfl : reads.calls.memory.views = reads.calls.memory.views)
  unfold ReadCalls.nextStep at taken
  cases stage : reads.readers process with
  | idle => simp [stage] at taken
  | reading index => simp [stage] at taken
  | «open» index =>
    rw [stage] at free
    simp only [stage] at taken
    cases taken
    apply fits.advance (free (by simp)) (sized.openToRead process) (SharedMemory.elsewhere_openToRead _ process)
    split
    · rename_i opened
      exact SharedMemory.openToRead_init opened
    · trivial
  | checkIndex index =>
    rw [stage] at here free
    simp only [stage] at taken
    cases taken
    apply fits.advance (free (by simp)) sized still
    split
    · trivial
    · rename_i below
      exact ⟨here, Nat.lt_of_not_le below⟩
  | needRemap index =>
    rw [stage] at here free
    simp only [stage] at taken
    rcases Option.map_eq_some_iff.mp taken with ⟨id, points, rfl⟩
    apply fits.advance (free (by simp)) sized still
    split
    · trivial
    · exact here
  | remap index =>
    rw [stage] at free
    simp only [stage] at taken
    cases taken
    apply fits.advance (free (by simp)) (sized.remap process) (SharedMemory.elsewhere_remap _ process)
    cases bound : reads.calls.memory.bound with
    | none =>
      rw [SharedMemory.remap_none process bound]
      trivial
    | some id =>
      -- the condition is about the segment that the key denotes now, not about the one that the index was checked for
      have within := bounds index (by rw [stage]; rfl) id bound
      rcases SharedMemory.remap_some process bound with ⟨mapped, view, _⟩
      rw [if_pos mapped, view]
      apply And.intro rfl
      rw [sized.blockNum (sized.named id bound)]
      exact within
  | loadLockNum index tryTimes =>
    rw [stage] at here free
    simp only [stage] at taken
    rcases Option.map_eq_some_iff.mp taken with ⟨id, points, rfl⟩
    apply fits.advance (free (by simp)) sized still
    split
    · trivial
    · exact here
  | exchangeLockNum index tryTimes lockNum =>
    rw [stage] at here free
    simp only [stage] at taken
    rcases Option.map_eq_some_iff.mp taken with ⟨id, points, rfl⟩
    split
    · exact fits.advance (free (by simp)) (sized.setSegment rfl) (SharedMemory.elsewhere_of_views process rfl) here
    · apply fits.advance (free (by simp)) sized still
      split
      · trivial
      · exact here

theorem Fits.write {reads : ReadCalls Process} {calls : WriteCalls Process} {call : WriteCall Process} (fits : reads.Fits)
    (idle : reads.readers call.process = .idle) (taken : WriteCalls.step reads.calls call = some calls) :
    Fits { reads with calls := calls } := by
  have moved := fits.steady.step taken
  apply Fits.mk (fits.steady.moved moved)
  · intro process busy
    have other : process ≠ call.process := fun same => busy (same ▸ idle)
    show calls.stages process = .idle
    rw [moved.stages process other]
    exact fits.alone process busy
  · intro process
    show StageFits (calls.memory.views process) (reads.readers process)
    by_cases same : process = call.process
    · rw [same, idle]
      trivial
    · rw [moved.elsewhere process same]
      exact fits.stages process

theorem Fits.step {reads next : ReadCalls Process} {event : ReadCall Process} (bounds : reads.RemapsInBounds event)
    (taken : step reads event = some next) (fits : reads.Fits) : next.Fits := by
  unfold ReadCalls.step at taken
  cases event with
  | write call =>
    simp only at taken
    split at taken
    · rename_i enabled
      rcases Option.map_eq_some_iff.mp taken with ⟨calls, moved, rfl⟩
      exact fits.write enabled.2 moved
    · cases taken
  | acquireBlockToRead process index =>
    simp only at taken
    split at taken
    · rename_i enabled
      cases taken
      exact fits.advance enabled.1 fits.steady.sized (SharedMemory.elsewhere_of_views process rfl) trivial
    · cases taken
  | next process spurious => exact fits.nextStep bounds taken
  | releaseReadBlock process =>
    simp only at taken
    split at taken
    · rename_i index stage
      rcases Option.map_eq_some_iff.mp taken with ⟨memory, released, rfl⟩
      exact fits.advance (fits.alone process (by simp [stage])) (fits.steady.sized.releaseBlock released)
        (SharedMemory.elsewhere_releaseBlock released) trivial
    · cases taken

/-- Any other `Remap` makes the reader go on with a block that its segment does not have. -/
theorem remap_out_of_bounds {reads : ReadCalls Process} {process : Process} {index id : Nat} (spurious : Bool)
    (remaps : reads.readers process = .remap index) (bound : reads.calls.memory.bound = some id)
    (beyond : (reads.calls.memory.segments id).blockNum ≤ index) : ∃ next, step reads (.next process spurious) = some next ∧
      (next.readers process).block = some index ∧ ¬next.InBounds process index := by
  rcases SharedMemory.remap_some process bound with ⟨mapped, view, same⟩
  let memory := (reads.calls.memory.remap process).2
  have taken : step reads (.next process spurious) = some (reads.advance process memory (.loadLockNum index 0)) := by
    show reads.nextStep process spurious = _
    unfold nextStep
    simp only [remaps]
    rw [if_pos mapped]
  refine ⟨_, taken, ?_, ?_⟩
  · show ReadStage.block (Function.update reads.readers process (.loadLockNum index 0) process) = some index
    rw [Function.update_self]
    rfl
  · intro within
    rcases within with ⟨other, points, below⟩
    have points' : (memory.views process).state = some other := points
    rw [view] at points'
    cases points'
    have below' : index < ShmConf.getBlockNum (memory.segments id).ceilingMsgSize := below
    rw [same] at below'
    exact absurd beyond (Nat.not_le_of_lt below')

/-- `Transmit` of the process `true`, up to `ReleaseWrittenBlock`. -/
def transmitted (msgSize accesses : Nat) : List (ReadCall Bool) :=
  .write (.acquireBlockToWrite true msgSize) ::
    (List.replicate accesses (.write (.next true false)) ++ [.write (.releaseWrittenBlock true)])

end ReadCalls

end CyberRT.Shm

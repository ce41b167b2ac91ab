import CyberRT.Base.AtomicRWLock

namespace CyberRT.Base

open Execution

/-- What a thread does next in the functions of the lock. Each of them looks at `write_thread_id_` when it is called,
    except for `WriteUnlock`, which starts with its addition to `lock_num_`. -/
inductive ReentrantPoint where
  | idle
  | loadLockNum
  | loadWaitNum (lockNum : Int32)
  | exchangeLockNum (lockNum : Int32)
  | nestWrite
  | fetchAddWaitNum
  | exchangeFree
  | storeThreadId
  | fetchSubWaitNum
  | leaveRead
  | storeNullId
  deriving DecidableEq

/-- `guards` has the guards of a thread in the order in which it leaves them. -/
structure ReentrantRWLock (Thread : Type) where
  writeFirst : Bool
  writeThreadId : Option Thread := none
  writeLockWaitNum : UInt32 := 0
  lockNum : Int32 := 0
  point : Thread → ReentrantPoint := fun _ => .idle
  guards : List (LockGuard Thread) := []

/-- `unlock` leaves the innermost guard of the thread. -/
inductive ReentrantEvent (Thread : Type) where
  | readLock (thread : Thread)
  | writeLock (thread : Thread)
  | access (thread : Thread) (spurious : Bool)
  | unlock (thread : Thread)

theorem toInt_sub_one {number : Int32} (above : -2 ^ 31 < number.toInt) : (number - 1).toInt = number.toInt - 1 := by
  have below := number.toInt_lt
  rw [Int32.toInt_sub, Int32.toInt_one]
  apply Int.bmod_eq_of_le <;> omega

theorem toInt_add_one {number : Int32} (below : number.toInt < 2 ^ 31 - 1) :
    (number + 1).toInt = number.toInt + 1 := by
  have above := number.le_toInt
  rw [Int32.toInt_add, Int32.toInt_one]
  apply Int.bmod_eq_of_le <;> omega

namespace ReentrantRWLock

variable {Thread : Type} [DecidableEq Thread] (lock : ReentrantRWLock Thread)

def toPoint (thread : Thread) (point : ReentrantPoint) : ReentrantRWLock Thread :=
  { lock with point := Function.update lock.point thread point }

def enter (thread : Thread) (mode : LockMode) : ReentrantRWLock Thread :=
  { lock with guards := ⟨thread, mode⟩ :: lock.guards }

def leave (thread : Thread) (mode : LockMode) : ReentrantRWLock Thread :=
  { lock with guards := lock.guards.erase ⟨thread, mode⟩ }

/-- Where `ReadLock` goes on with this value of `lock_num`. -/
def retry (lockNum : Int32) : ReentrantPoint :=
  if lockNum < 0 then .loadLockNum
  else if lock.writeFirst then .loadWaitNum lockNum
  else .exchangeLockNum lockNum

def accessStep (thread : Thread) (spurious : Bool) : Option (ReentrantRWLock Thread) :=
  match lock.point thread with
  | .idle => none
  | .loadLockNum => some (lock.toPoint thread (lock.retry lock.lockNum))
  | .loadWaitNum lockNum =>
    some (lock.toPoint thread (if 0 < lock.writeLockWaitNum then .loadLockNum else .exchangeLockNum lockNum))
  | .exchangeLockNum lockNum =>
    if lock.lockNum = lockNum ∧ spurious = false then
      some { (lock.enter thread .read).toPoint thread .idle with lockNum := lockNum + 1 }
    else some (lock.toPoint thread (lock.retry lock.lockNum))
  | .nestWrite => some { (lock.enter thread .write).toPoint thread .idle with lockNum := lock.lockNum - 1 }
  | .fetchAddWaitNum =>
    some { lock.toPoint thread .exchangeFree with writeLockWaitNum := lock.writeLockWaitNum + 1 }
  | .exchangeFree =>
    if lock.lockNum = 0 ∧ spurious = false then some { lock.toPoint thread .storeThreadId with lockNum := -1 }
    else some lock
  | .storeThreadId => some { (lock.enter thread .write).toPoint thread .fetchSubWaitNum with writeThreadId := thread }
  | .fetchSubWaitNum => some { lock.toPoint thread .idle with writeLockWaitNum := lock.writeLockWaitNum - 1 }
  | .leaveRead => some { (lock.leave thread .read).toPoint thread .idle with lockNum := lock.lockNum - 1 }
  | .storeNullId => some { lock.toPoint thread .idle with writeThreadId := none }

def readLock (thread : Thread) : ReentrantRWLock Thread :=
  if lock.writeThreadId = thread then lock.enter thread .read else lock.toPoint thread .loadLockNum

def writeLock (thread : Thread) : ReentrantRWLock Thread :=
  lock.toPoint thread (if lock.writeThreadId = thread then .nestWrite else .fetchAddWaitNum)

def readUnlock (thread : Thread) : ReentrantRWLock Thread :=
  if lock.writeThreadId = thread then lock.leave thread .read else lock.toPoint thread .leaveRead

def writeUnlock (thread : Thread) : ReentrantRWLock Thread :=
  { (lock.leave thread .write).toPoint thread (if lock.lockNum = -1 then .storeNullId else .idle) with
    lockNum := lock.lockNum + 1 }

def step (lock : ReentrantRWLock Thread) : ReentrantEvent Thread → Option (ReentrantRWLock Thread)
  | .readLock thread => if lock.point thread = .idle then some (lock.readLock thread) else none
  | .writeLock thread => if lock.point thread = .idle then some (lock.writeLock thread) else none
  | .access thread spurious => lock.accessStep thread spurious
  | .unlock thread =>
    if lock.point thread = .idle then
      (lock.guards.find? (·.thread = thread)).map fun guard =>
        match guard.mode with
        | .read => lock.readUnlock thread
        | .write => lock.writeUnlock thread
    else none

def depth (thread : Thread) : Nat := lock.guards.count ⟨thread, .write⟩

/-- A thread inside a write section has the lock alone and gets in again at once, and a lock that no thread uses is
    free. -/
structure Reentrant : Prop where
  writing : ∀ thread, 0 < lock.depth thread →
    lock.lockNum.toInt = -lock.depth thread ∧ lock.writeThreadId = thread ∧
      ∀ guard ∈ lock.guards, guard.thread = thread
  readsAgain : ∀ thread, 0 < lock.depth thread → lock.point thread = .idle →
    lock.step (.readLock thread) = some (lock.enter thread .read)
  writesAgain : ∀ thread, 0 < lock.depth thread → lock.point thread = .idle → ∀ spurious,
    ∃ next, run step lock [.writeLock thread, .access thread spurious] = some next ∧
      next.point thread = .idle ∧ next.guards = ⟨thread, .write⟩ :: lock.guards
  free : (∀ thread, lock.point thread = .idle) → lock.guards = [] → lock.lockNum = 0 ∧ lock.writeThreadId = none

/-- `WriteUnlock` stores `NULL_THREAD_ID` before another thread is inside a write section, and the write sections of a
    thread do not nest deeper than `lock_num_` counts. -/
def ClearedInTime (lock : ReentrantRWLock Thread) : ReentrantEvent Thread → Prop
  | .access thread _ =>
    (lock.point thread = .storeNullId → ∀ guard ∈ lock.guards, guard.mode = .read) ∧
      (lock.point thread = .nestWrite → lock.depth thread < 2 ^ 31)
  | _ => True

instance decidableClearedInTime (lock : ReentrantRWLock Thread) :
    (event : ReentrantEvent Thread) → Decidable (lock.ClearedInTime event)
  | .access thread _ =>
    inferInstanceAs (Decidable ((lock.point thread = .storeNullId → ∀ guard ∈ lock.guards, guard.mode = .read) ∧
      (lock.point thread = .nestWrite → lock.depth thread < 2 ^ 31)))
  | .readLock _ | .writeLock _ | .unlock _ => isTrue trivial

/-- What `lock_num_` says about the guards. A thread that enters a write section has not stored its id yet. -/
inductive Locked : Prop
  | shared (readers : ∀ guard ∈ lock.guards, guard.mode = .read) (few : lock.guards.length ≤ 2 ^ 31)
      (number : lock.lockNum = Int32.ofNat lock.guards.length)
      (entering : ∀ thread, lock.point thread ≠ .storeThreadId)
  | entering (writer : Thread) (entering : ∀ thread, lock.point thread = .storeThreadId ↔ thread = writer)
      (empty : lock.guards = []) (number : lock.lockNum = -1)
  | exclusive (writer : Thread) (owned : ∀ guard ∈ lock.guards, guard.thread = writer)
      (outermost : lock.guards.getLast? = some ⟨writer, .write⟩) (number : lock.lockNum.toInt = -lock.depth writer)
      (identity : lock.writeThreadId = writer) (entering : ∀ thread, lock.point thread ≠ .storeThreadId)

def Fits (thread : Thread) : ReentrantPoint → Prop
  | .loadWaitNum lockNum | .exchangeLockNum lockNum => 0 ≤ lockNum
  | .nestWrite => 0 < lock.depth thread
  | .leaveRead => ⟨thread, .read⟩ ∈ lock.guards ∧ lock.depth thread = 0
  | _ => True

structure Consistent : Prop where
  locked : lock.Locked
  identity : ∀ thread, lock.writeThreadId = some thread → 0 < lock.depth thread ∨ lock.point thread = .storeNullId
  points : ∀ thread, lock.Fits thread (lock.point thread)

variable {lock}

theorem consistent_start (writeFirst : Bool) : ({ writeFirst } : ReentrantRWLock Thread).Consistent where
  locked := .shared (by simp) (by simp) rfl (by simp)
  identity := by simp
  points := fun _ => trivial

theorem depth_pos_iff {thread : Thread} : 0 < lock.depth thread ↔ ⟨thread, .write⟩ ∈ lock.guards := List.count_pos_iff

/-- A thread inside a write section. -/
theorem Locked.writer {thread : Thread} (locked : lock.Locked) (inside : 0 < lock.depth thread) :
    (∀ guard ∈ lock.guards, guard.thread = thread) ∧ lock.guards.getLast? = some ⟨thread, .write⟩ ∧
      lock.lockNum.toInt = -lock.depth thread ∧ lock.writeThreadId = thread ∧
      ∀ other, lock.point other ≠ .storeThreadId := by
  have held := depth_pos_iff.mp inside
  cases locked with
  | shared readers few number entering => cases readers _ held
  | entering writer entering empty number =>
    rw [empty] at held
    cases held
  | exclusive writer owned outermost number identity entering =>
    obtain rfl : thread = writer := owned _ held
    exact ⟨owned, outermost, number, identity, entering⟩

theorem Locked.readers {thread : Thread} (locked : lock.Locked) (held : ⟨thread, .read⟩ ∈ lock.guards)
    (outside : lock.depth thread = 0) : (∀ guard ∈ lock.guards, guard.mode = .read) ∧
      lock.guards.length ≤ 2 ^ 31 ∧ lock.lockNum = Int32.ofNat lock.guards.length ∧
      ∀ other, lock.point other ≠ .storeThreadId := by
  cases locked with
  | shared readers few number entering => exact ⟨readers, few, number, entering⟩
  | entering writer entering empty number =>
    rw [empty] at held
    cases held
  | exclusive writer owned outermost number identity entering =>
    obtain rfl : thread = writer := owned _ held
    have inside := depth_pos_iff.mpr (List.mem_of_getLast? outermost)
    omega

/-- Only a thread that has the lock can find its own id. -/
theorem Consistent.inside_of_id {thread : Thread} (consistent : lock.Consistent) (idle : lock.point thread = .idle)
    (own : lock.writeThreadId = thread) : 0 < lock.depth thread := by
  rcases consistent.identity thread own with inside | storing
  · exact inside
  · rw [idle] at storing
    cases storing

theorem Consistent.outside_of_id {thread : Thread} (consistent : lock.Consistent)
    (other : lock.writeThreadId ≠ thread) : lock.depth thread = 0 := by
  by_contra inside
  exact other (consistent.locked.writer (Nat.pos_of_ne_zero inside)).2.2.2.1

theorem Consistent.reentrant (consistent : lock.Consistent) : lock.Reentrant where
  writing := by
    intro thread inside
    obtain ⟨owned, -, number, identity, -⟩ := consistent.locked.writer inside
    exact ⟨number, identity, owned⟩
  readsAgain := by
    intro thread inside idle
    have identity := (consistent.locked.writer inside).2.2.2.1
    simp [step, idle, readLock, identity]
  writesAgain := by
    intro thread inside idle spurious
    have identity := (consistent.locked.writer inside).2.2.2.1
    have called : step lock (.writeLock thread) = some (lock.toPoint thread .nestWrite) := by
      simp [step, idle, writeLock, identity]
    refine ⟨{ ((lock.toPoint thread .nestWrite).enter thread .write).toPoint thread .idle with
      lockNum := lock.lockNum - 1 }, ?_, ?_, rfl⟩
    · rw [run_cons, called]
      simp [run_cons, step, accessStep, toPoint, enter]
    · simp [toPoint]
  free := by
    intro idle empty
    constructor
    · cases consistent.locked with
      | shared readers few number entering =>
        rw [number, empty]
        rfl
      | entering writer entering _ number =>
        have storing := (entering writer).mpr rfl
        rw [idle] at storing
        cases storing
      | exclusive writer owned outermost number identity entering =>
        rw [empty] at outermost
        cases outermost
    · by_contra stored
      obtain ⟨thread, own⟩ := Option.ne_none_iff_exists'.mp stored
      have inside := depth_pos_iff.mp (consistent.inside_of_id (idle thread) own)
      rw [empty] at inside
      cases inside

section Moves

variable {next : ReentrantRWLock Thread} {thread : Thread} {point : ReentrantPoint}

theorem entering_update (moved : next.point = Function.update lock.point thread point)
    (before : lock.point thread ≠ .storeThreadId) (after : point ≠ .storeThreadId) (other : Thread) :
    next.point other = .storeThreadId ↔ lock.point other = .storeThreadId := by
  have same : (point = .storeThreadId) = (lock.point thread = .storeThreadId) := propext (iff_of_false after before)
  rw [moved]
  exact iff_of_eq (apply_update_same (· = ReentrantPoint.storeThreadId) same other)

theorem Locked.frame (locked : lock.Locked) (guards : next.guards = lock.guards) (number : next.lockNum = lock.lockNum)
    (identity : (∀ guard ∈ lock.guards, guard.mode = .read) ∨ next.writeThreadId = lock.writeThreadId)
    (entering : ∀ other, next.point other = .storeThreadId ↔ lock.point other = .storeThreadId) : next.Locked := by
  cases locked with
  | shared readers few value nobody =>
    refine .shared (guards ▸ readers) (guards ▸ few) (by rw [number, guards, value]) ?_
    exact fun other storing => nobody other ((entering other).mp storing)
  | entering writer exact empty value =>
    exact .entering writer (fun other => (entering other).trans (exact other)) (guards.trans empty) (number.trans value)
  | exclusive writer owned outermost value own nobody =>
    have kept : next.writeThreadId = lock.writeThreadId := by
      rcases identity with readers | same
      · cases readers _ (List.mem_of_getLast? outermost)
      · exact same
    refine .exclusive writer (guards ▸ owned) (guards ▸ outermost) ?_ (kept.trans own) ?_
    · rw [number, value, depth, depth, guards]
    · exact fun other storing => nobody other ((entering other).mp storing)

/-- Only the thread's own guards count. -/
theorem Fits.frame (fits : lock.Fits thread point)
    (guards : ∀ mode, next.guards.count ⟨thread, mode⟩ = lock.guards.count ⟨thread, mode⟩) : next.Fits thread point := by
  have same : next.depth thread = lock.depth thread := guards .write
  cases point with
  | nestWrite =>
    show 0 < next.depth thread
    rw [same]
    exact fits
  | leaveRead =>
    obtain ⟨reading, outside⟩ := fits
    refine ⟨?_, same.trans outside⟩
    rw [← List.count_pos_iff, guards]
    exact List.count_pos_iff.mpr reading
  | _ => exact fits

/-- A thread goes on and leaves the guards of the others as they are. -/
theorem Consistent.go (thread : Thread) (consistent : lock.Consistent)
    (moved : next.point = Function.update lock.point thread point)
    (others : ∀ other, other ≠ thread → ∀ mode, next.guards.count ⟨other, mode⟩ = lock.guards.count ⟨other, mode⟩)
    (locked : next.Locked) (kept : ∀ other, other ≠ thread → next.writeThreadId = some other →
      lock.writeThreadId = some other)
    (own : next.writeThreadId = some thread → 0 < next.depth thread ∨ point = .storeNullId)
    (fits : next.Fits thread point) : next.Consistent where
  locked := locked
  identity := by
    intro other stored
    rw [moved]
    by_cases same : other = thread
    · rw [same, Function.update_self]
      exact own (same ▸ stored)
    · rw [Function.update_of_ne same, depth, others other same]
      exact consistent.identity other (kept other same stored)
  points := by
    rw [moved]
    apply (Function.forall_update_iff _ fun other => next.Fits other).mpr
    exact ⟨fits, fun other differs => (consistent.points other).frame (others other differs)⟩

/-- A thread goes on without a change of what the lock says. -/
theorem Consistent.move (consistent : lock.Consistent) (moved : next.point = Function.update lock.point thread point)
    (guards : next.guards = lock.guards) (number : next.lockNum = lock.lockNum)
    (identity : next.writeThreadId = lock.writeThreadId)
    (before : lock.point thread ≠ .storeThreadId ∧ lock.point thread ≠ .storeNullId) (after : point ≠ .storeThreadId)
    (fits : lock.Fits thread point) : next.Consistent := by
  refine consistent.go thread moved (fun _ _ _ => by rw [guards]) ?_ ?_ ?_ ?_
  · exact consistent.locked.frame guards number (.inr identity) (entering_update moved before.1 after)
  · exact fun other _ stored => identity ▸ stored
  · intro stored
    rcases consistent.identity thread (identity ▸ stored) with inside | storing
    · left
      rw [depth, guards]
      exact inside
    · exact absurd storing before.2
  · exact fits.frame fun mode => by rw [guards]

theorem count_enter (mode : LockMode) {other : Thread} (differs : other ≠ thread) (mode' : LockMode) :
    (lock.enter thread mode).guards.count ⟨other, mode'⟩ = lock.guards.count ⟨other, mode'⟩ := by
  apply List.count_cons_of_ne
  intro same
  cases same
  exact differs rfl

theorem count_leave (mode : LockMode) {other : Thread} (differs : other ≠ thread) (mode' : LockMode) :
    (lock.leave thread mode).guards.count ⟨other, mode'⟩ = lock.guards.count ⟨other, mode'⟩ := by
  apply List.count_erase_of_ne
  intro same
  cases same
  exact differs rfl

/-- A thread that is inside a write section enters another section. -/
theorem Locked.nest (locked : lock.Locked) (inside : 0 < lock.depth thread) (mode : LockMode)
    (guards : next.guards = (lock.enter thread mode).guards) (identity : next.writeThreadId = lock.writeThreadId)
    (number : next.lockNum.toInt = -next.depth thread)
    (entering : ∀ other, next.point other = .storeThreadId ↔ lock.point other = .storeThreadId) : next.Locked := by
  obtain ⟨owned, outermost, -, own, nobody⟩ := locked.writer inside
  refine .exclusive thread ?_ ?_ number (identity.trans own) ?_
  · rw [guards]
    exact List.forall_mem_cons.mpr ⟨rfl, owned⟩
  · rw [guards, enter, List.getLast?_cons, outermost]
    rfl
  · exact fun other storing => nobody other ((entering other).mp storing)

theorem Locked.unwritten (locked : lock.Locked) (unwritten : 0 ≤ lock.lockNum) :
    (∀ guard ∈ lock.guards, guard.mode = .read) ∧ lock.guards.length < 2 ^ 31 ∧
      lock.lockNum = Int32.ofNat lock.guards.length ∧ ∀ other, lock.point other ≠ .storeThreadId := by
  cases locked with
  | shared readers few number entering =>
    exact ⟨readers, readers_lt few (number ▸ unwritten), number, entering⟩
  | entering writer entering empty number =>
    rw [number] at unwritten
    exact absurd unwritten (by decide)
  | exclusive writer owned outermost number identity entering =>
    have inside := depth_pos_iff.mpr (List.mem_of_getLast? outermost)
    rw [Int32.le_iff_toInt_le, number, Int32.toInt_zero] at unwritten
    omega

theorem depth_of_readers (readers : ∀ guard ∈ lock.guards, guard.mode = .read) : lock.depth thread = 0 := by
  apply List.count_eq_zero.mpr
  intro held
  cases readers _ held

/-- `lock_num_` goes from readers to one reader more. -/
theorem Consistent.enterRead (consistent : lock.Consistent) {lockNum : Int32}
    (here : lock.point thread = .exchangeLockNum lockNum) (same : lock.lockNum = lockNum) :
    ({ (lock.enter thread .read).toPoint thread .idle with lockNum := lockNum + 1 } :
      ReentrantRWLock Thread).Consistent := by
  have fits := consistent.points thread
  rw [here] at fits
  obtain ⟨readers, few, number, nobody⟩ := consistent.locked.unwritten (same ▸ fits)
  refine consistent.go thread rfl (fun _ differs mode => count_enter .read differs mode) ?_ ?_ ?_ ?_
  · apply Locked.shared
    · exact List.forall_mem_cons.mpr ⟨rfl, readers⟩
    · exact few
    · show lockNum + 1 = Int32.ofNat (lock.guards.length + 1)
      rw [← same, number, Int32.ofNat_add]
      rfl
    · intro other storing
      apply nobody other
      exact (entering_update rfl (by simp [here]) (by simp) other).mp storing
  · exact fun _ _ stored => stored
  · intro stored
    rcases consistent.identity thread stored with inside | storing
    · rw [depth_of_readers readers] at inside
      omega
    · rw [here] at storing
      cases storing
  · trivial

theorem Consistent.nest (consistent : lock.Consistent) (here : lock.point thread = .nestWrite)
    (room : lock.depth thread < 2 ^ 31) :
    ({ (lock.enter thread .write).toPoint thread .idle with lockNum := lock.lockNum - 1 } :
      ReentrantRWLock Thread).Consistent := by
  have inside := consistent.points thread
  rw [here] at inside
  obtain ⟨-, -, number, -, -⟩ := consistent.locked.writer inside
  have deeper : (lock.enter thread .write).depth thread = lock.depth thread + 1 := List.count_cons_self
  refine consistent.go thread rfl (fun _ differs mode => count_enter .write differs mode) ?_ ?_ ?_ ?_
  · refine consistent.locked.nest inside .write rfl rfl ?_ ?_
    · show (lock.lockNum - 1).toInt = -((lock.enter thread .write).depth thread : Int)
      rw [toInt_sub_one (by omega), number, deeper]
      omega
    · exact entering_update rfl (by simp [here]) (by simp)
  · exact fun _ _ stored => stored
  · intro _
    left
    show 0 < (lock.enter thread .write).depth thread
    omega
  · trivial

theorem Consistent.exchange (consistent : lock.Consistent) (here : lock.point thread = .exchangeFree)
    (free : lock.lockNum = 0) :
    ({ lock.toPoint thread .storeThreadId with lockNum := -1 } : ReentrantRWLock Thread).Consistent := by
  obtain ⟨readers, few, number, nobody⟩ := consistent.locked.unwritten (by rw [free]; decide)
  have empty := readers_eq_zero (Nat.le_of_lt few) (number.symm.trans free)
  refine consistent.go thread rfl (fun _ _ _ => rfl) ?_ ?_ ?_ ?_
  · apply Locked.entering thread
    · intro other
      show Function.update lock.point thread .storeThreadId other = .storeThreadId ↔ other = thread
      by_cases same : other = thread
      · simp [same]
      · simp [same, nobody other]
    · exact List.length_eq_zero_iff.mp empty
    · rfl
  · exact fun _ _ stored => stored
  · intro stored
    rcases consistent.identity thread stored with inside | storing
    · exact .inl inside
    · rw [here] at storing
      cases storing
  · trivial

theorem Consistent.store (consistent : lock.Consistent) (here : lock.point thread = .storeThreadId) :
    ({ (lock.enter thread .write).toPoint thread .fetchSubWaitNum with writeThreadId := thread } :
      ReentrantRWLock Thread).Consistent := by
  refine consistent.go thread rfl (fun _ differs mode => count_enter .write differs mode) ?_ ?_ ?_ ?_
  · cases consistent.locked with
    | shared readers few number nobody => exact absurd here (nobody thread)
    | entering writer entering empty number =>
      obtain rfl := (entering thread).mp here
      apply Locked.exclusive thread
      · simp [toPoint, enter, empty]
      · simp [toPoint, enter, empty]
      · simp only [toPoint, enter, empty, depth, number]
        rw [List.count_cons_self, List.count_nil]
        decide
      · rfl
      · intro other storing
        simp only [toPoint] at storing
        by_cases same : other = thread
        · simp [same] at storing
        · rw [Function.update_of_ne same] at storing
          exact same ((entering other).mp storing)
    | exclusive writer owned outermost number identity nobody => exact absurd here (nobody thread)
  · intro other differs stored
    exact absurd (Option.some.inj stored).symm differs
  · exact fun _ => .inl (depth_pos_iff.mpr List.mem_cons_self)
  · trivial

theorem Consistent.leaveRead (consistent : lock.Consistent) (here : lock.point thread = .leaveRead) :
    ({ (lock.leave thread .read).toPoint thread .idle with lockNum := lock.lockNum - 1 } :
      ReentrantRWLock Thread).Consistent := by
  have fits := consistent.points thread
  rw [here] at fits
  obtain ⟨held, outside⟩ := fits
  obtain ⟨readers, few, number, nobody⟩ := consistent.locked.readers held outside
  have fewer := List.length_erase_of_mem held
  have present := List.length_pos_of_mem held
  refine consistent.go thread rfl (fun _ differs mode => count_leave .read differs mode) ?_ ?_ ?_ ?_
  · apply Locked.shared
    · exact fun guard member => readers guard (List.mem_of_mem_erase member)
    · show (lock.guards.erase ⟨thread, .read⟩).length ≤ 2 ^ 31
      omega
    · show lock.lockNum - 1 = Int32.ofNat (lock.guards.erase ⟨thread, .read⟩).length
      rw [fewer, number, Int32.ofNat_sub _ _ present]
      rfl
    · intro other storing
      exact nobody other ((entering_update rfl (by simp [here]) (by simp) other).mp storing)
  · exact fun _ _ stored => stored
  · intro stored
    rcases consistent.identity thread stored with inside | storing
    · omega
    · rw [here] at storing
      cases storing
  · trivial

theorem Consistent.clear (consistent : lock.Consistent) (here : lock.point thread = .storeNullId)
    (readers : ∀ guard ∈ lock.guards, guard.mode = .read) :
    ({ lock.toPoint thread .idle with writeThreadId := none } : ReentrantRWLock Thread).Consistent := by
  refine consistent.go thread rfl (fun _ _ _ => rfl) ?_ ?_ ?_ ?_
  · exact consistent.locked.frame rfl rfl (.inl readers) (entering_update rfl (by simp [here]) (by simp))
  · exact fun _ _ stored => by cases stored
  · exact fun stored => by cases stored
  · trivial

/-- The innermost guard of a thread that has the lock alone. -/
theorem first_of_alone {guard : LockGuard Thread} (owned : ∀ guard ∈ lock.guards, guard.thread = thread)
    (held : lock.guards.find? (·.thread = thread) = some guard) : ∃ rest, lock.guards = guard :: rest := by
  cases first : lock.guards with
  | nil => simp [first] at held
  | cons other rest =>
    have belongs : other.thread = thread := owned other (by simp [first])
    rw [first, List.find?_cons_of_pos (by simpa using belongs)] at held
    obtain rfl := Option.some.inj held
    exact ⟨rest, rfl⟩

theorem Consistent.readLock (consistent : lock.Consistent) (idle : lock.point thread = .idle) :
    (lock.readLock thread).Consistent := by
  unfold ReentrantRWLock.readLock
  split
  · rename_i own
    have inside := consistent.inside_of_id idle own
    have same : (lock.enter thread .read).depth thread = lock.depth thread := List.count_cons_of_ne (by simp)
    have still : (lock.enter thread .read).point = Function.update lock.point thread .idle :=
      (Function.update_eq_self_iff.mpr idle.symm).symm
    refine consistent.go thread still (fun _ differs mode => count_enter .read differs mode) ?_ ?_ ?_ ?_
    · refine consistent.locked.nest inside .read rfl rfl ?_ (fun _ => Iff.rfl)
      rw [same]
      exact (consistent.locked.writer inside).2.2.1
    · exact fun _ _ stored => stored
    · intro _
      left
      rw [same]
      exact inside
    · trivial
  · exact consistent.move rfl rfl rfl rfl (by simp [idle]) (by simp) trivial

theorem Consistent.writeLock (consistent : lock.Consistent) (idle : lock.point thread = .idle) :
    (lock.writeLock thread).Consistent := by
  unfold ReentrantRWLock.writeLock
  split
  · rename_i own
    exact consistent.move rfl rfl rfl rfl (by simp [idle]) (by simp) (consistent.inside_of_id idle own)
  · exact consistent.move rfl rfl rfl rfl (by simp [idle]) (by simp) trivial

theorem Consistent.readUnlock (consistent : lock.Consistent) (idle : lock.point thread = .idle)
    (held : lock.guards.find? (·.thread = thread) = some ⟨thread, .read⟩) :
    (lock.readUnlock thread).Consistent := by
  unfold ReentrantRWLock.readUnlock
  split
  · rename_i own
    have inside := consistent.inside_of_id idle own
    obtain ⟨owned, outermost, number, -, nobody⟩ := consistent.locked.writer inside
    have same : (lock.leave thread .read).depth thread = lock.depth thread := List.count_erase_of_ne (by simp)
    have still : (lock.leave thread .read).point = Function.update lock.point thread .idle :=
      (Function.update_eq_self_iff.mpr idle.symm).symm
    refine consistent.go thread still (fun _ differs mode => count_leave .read differs mode) ?_ ?_ ?_ ?_
    · refine .exclusive thread ?_ ?_ (same.symm ▸ number) own nobody
      · exact fun guard member => owned guard (List.mem_of_mem_erase member)
      · -- The guard that is left is not the outermost one.
        obtain ⟨rest, first⟩ := first_of_alone owned held
        rw [first] at outermost
        simp only [leave, first, List.erase_cons_head]
        cases rest with
        | nil => simp at outermost
        | cons other rest => simpa using outermost
    · exact fun _ _ stored => stored
    · intro _
      left
      rw [same]
      exact inside
    · trivial
  · rename_i other
    refine consistent.move rfl rfl rfl rfl (by simp [idle]) (by simp) ?_
    exact ⟨List.mem_of_find?_eq_some held, consistent.outside_of_id other⟩

theorem Consistent.writeUnlock (consistent : lock.Consistent) (idle : lock.point thread = .idle)
    (held : lock.guards.find? (·.thread = thread) = some ⟨thread, .write⟩) :
    (lock.writeUnlock thread).Consistent := by
  have inside := depth_pos_iff.mpr (List.mem_of_find?_eq_some held)
  obtain ⟨owned, outermost, number, own, nobody⟩ := consistent.locked.writer inside
  obtain ⟨rest, first⟩ := first_of_alone owned held
  have left : (lock.leave thread .write).guards = rest := by simp [leave, first]
  have deeper : lock.depth thread = rest.count ⟨thread, .write⟩ + 1 := by
    rw [depth, first, List.count_cons_self]
  have above := lock.lockNum.le_toInt
  have fewer : (lock.lockNum + 1).toInt = -(rest.count ⟨thread, .write⟩ : Int) := by
    rw [toInt_add_one (by omega), number, deeper]
    omega
  unfold ReentrantRWLock.writeUnlock
  have others : ∀ other, other ≠ thread → ∀ mode,
      (lock.leave thread .write).guards.count ⟨other, mode⟩ = lock.guards.count ⟨other, mode⟩ :=
    fun _ differs mode => count_leave .write differs mode
  cases rest with
  | nil =>
    have last : lock.lockNum = -1 := by
      apply Int32.toInt_inj.mp
      rw [number, deeper]
      rfl
    rw [if_pos last]
    refine consistent.go thread rfl others ?_ (fun _ _ stored => stored) (fun _ => .inr rfl) trivial
    apply Locked.shared
    · simp [toPoint, left]
    · simp [toPoint, left]
    · show lock.lockNum + 1 = Int32.ofNat (lock.leave thread .write).guards.length
      rw [left, last, List.length_nil]
      decide
    · intro other storing
      exact nobody other ((entering_update rfl (by simp [idle]) (by simp) other).mp storing)
  | cons guard rest =>
    have outermost' : (guard :: rest).getLast? = some ⟨thread, .write⟩ := by
      rw [first] at outermost
      simpa using outermost
    have still : 0 < (guard :: rest).count ⟨thread, .write⟩ :=
      List.count_pos_iff.mpr (List.mem_of_getLast? outermost')
    have more : lock.lockNum ≠ -1 := by
      intro last
      rw [last] at number
      have one : (-1 : Int32).toInt = -1 := by decide
      omega
    rw [if_neg more]
    refine consistent.go thread rfl others ?_ (fun _ _ stored => stored) (fun _ => .inl ?_) trivial
    · refine .exclusive thread ?_ (left ▸ outermost') ?_ own ?_
      · intro guard member
        apply owned guard
        rw [first]
        exact List.mem_cons_of_mem _ (left ▸ member)
      · show (lock.lockNum + 1).toInt = -((lock.leave thread .write).guards.count ⟨thread, .write⟩ : Int)
        rw [left, fewer]
      · intro other storing
        exact nobody other ((entering_update rfl (by simp [idle]) (by simp) other).mp storing)
    · show 0 < (lock.leave thread .write).guards.count ⟨thread, .write⟩
      rw [left]
      exact still

theorem fits_retry (thread : Thread) (lockNum : Int32) :
    lock.Fits thread (lock.retry lockNum) ∧ lock.retry lockNum ≠ .storeThreadId := by
  unfold retry
  split
  · exact ⟨trivial, by simp⟩
  · have unwritten : 0 ≤ lockNum := Int32.not_lt.mp ‹_›
    split <;> exact ⟨unwritten, by simp⟩

theorem Consistent.access {spurious : Bool} (consistent : lock.Consistent)
    (inTime : lock.ClearedInTime (.access thread spurious))
    (taken : lock.accessStep thread spurious = some next) : next.Consistent := by
  have fits := consistent.points thread
  unfold accessStep at taken
  cases here : lock.point thread with
  | idle =>
    rw [here] at taken
    cases taken
  | loadLockNum =>
    rw [here] at taken
    obtain rfl := Option.some.inj taken
    obtain ⟨fits, after⟩ := fits_retry thread lock.lockNum
    exact consistent.move rfl rfl rfl rfl (by simp [here]) after fits
  | loadWaitNum lockNum =>
    rw [here] at taken fits
    obtain rfl := Option.some.inj taken
    split
    · exact consistent.move rfl rfl rfl rfl (by simp [here]) (by simp) trivial
    · exact consistent.move rfl rfl rfl rfl (by simp [here]) (by simp) fits
  | exchangeLockNum lockNum =>
    rw [here] at taken
    dsimp only at taken
    split at taken
    · rename_i exchanged
      obtain rfl := Option.some.inj taken
      exact consistent.enterRead here exchanged.1
    · obtain rfl := Option.some.inj taken
      obtain ⟨fits, after⟩ := fits_retry thread lock.lockNum
      exact consistent.move rfl rfl rfl rfl (by simp [here]) after fits
  | nestWrite =>
    rw [here] at taken
    obtain rfl := Option.some.inj taken
    exact consistent.nest here (inTime.2 here)
  | fetchAddWaitNum =>
    rw [here] at taken
    obtain rfl := Option.some.inj taken
    exact consistent.move rfl rfl rfl rfl (by simp [here]) (by simp) trivial
  | exchangeFree =>
    rw [here] at taken
    dsimp only at taken
    split at taken
    · rename_i exchanged
      obtain rfl := Option.some.inj taken
      exact consistent.exchange here exchanged.1
    · obtain rfl := Option.some.inj taken
      exact consistent
  | storeThreadId =>
    rw [here] at taken
    obtain rfl := Option.some.inj taken
    exact consistent.store here
  | fetchSubWaitNum =>
    rw [here] at taken
    obtain rfl := Option.some.inj taken
    exact consistent.move rfl rfl rfl rfl (by simp [here]) (by simp) trivial
  | leaveRead =>
    rw [here] at taken
    obtain rfl := Option.some.inj taken
    exact consistent.leaveRead here
  | storeNullId =>
    rw [here] at taken
    obtain rfl := Option.some.inj taken
    exact consistent.clear here (inTime.1 here)

theorem Consistent.step {event : ReentrantEvent Thread} (consistent : lock.Consistent)
    (inTime : lock.ClearedInTime event) (taken : lock.step event = some next) : next.Consistent := by
  cases event with
  | access thread spurious => exact consistent.access inTime taken
  | readLock thread =>
    simp only [ReentrantRWLock.step] at taken
    split at taken
    · rename_i idle
      obtain rfl := Option.some.inj taken
      exact consistent.readLock idle
    · cases taken
  | writeLock thread =>
    simp only [ReentrantRWLock.step] at taken
    split at taken
    · rename_i idle
      obtain rfl := Option.some.inj taken
      exact consistent.writeLock idle
    · cases taken
  | unlock thread =>
    simp only [ReentrantRWLock.step] at taken
    split at taken
    · rename_i idle
      obtain ⟨⟨owner, mode⟩, held, rfl⟩ := Option.map_eq_some_iff.mp taken
      obtain rfl : owner = thread := by simpa using List.find?_some held
      cases mode with
      | read => exact consistent.readUnlock idle held
      | write => exact consistent.writeUnlock idle held
    · cases taken

/-- A step that does not meet the condition takes the id or the count from a thread inside a write section. -/
theorem Reentrant.clearedInTime {event : ReentrantEvent Thread} (reentrant : next.Reentrant)
    (taken : lock.step event = some next) : lock.ClearedInTime event := by
  cases event with
  | access thread spurious =>
    constructor
    · intro here guard held
      simp only [ReentrantRWLock.step, accessStep, here] at taken
      obtain rfl := Option.some.inj taken
      obtain ⟨owner, mode⟩ := guard
      cases mode with
      | read => rfl
      | write =>
        have stored := (reentrant.writing owner (depth_pos_iff.mpr held)).2.1
        cases stored
    · intro here
      simp only [ReentrantRWLock.step, accessStep, here] at taken
      obtain rfl := Option.some.inj taken
      have deeper : (lock.enter thread .write).depth thread = lock.depth thread + 1 := List.count_cons_self
      have number := (reentrant.writing thread (depth_pos_iff.mpr List.mem_cons_self)).1
      have above := (lock.lockNum - 1).le_toInt
      change (lock.lockNum - 1).toInt = -((lock.enter thread .write).depth thread : Int) at number
      rw [deeper] at number
      omega
  | readLock thread | writeLock thread | unlock thread => trivial

theorem reentrant_iff (writeFirst : Bool) (events : List (ReentrantEvent Thread)) {final : ReentrantRWLock Thread}
    (ran : run step { writeFirst } events = some final) :
    Meets step ClearedInTime { writeFirst } events ↔
      ∀ past, past <+: events → ∀ lock, run step { writeFirst } past = some lock → lock.Reentrant := by
  apply meets_iff_always Consistent Reentrant _ _ _ (consistent_start writeFirst) ran
  · exact fun state event next inTime taken consistent => consistent.step inTime taken
  · exact fun state consistent => consistent.reentrant
  · exact fun state event next _ taken reentrant => reentrant.clearedInTime taken

end Moves

/-- Nested sections of the first thread, which it leaves again before the second thread goes on. -/
def nested : List (ReentrantEvent Bool) :=
  .writeLock true :: List.replicate 4 (.access true false) ++
    [.writeLock false, .readLock true, .writeLock true, .access true false, .readLock true, .unlock true] ++
    List.replicate 2 (.access false false) ++ List.replicate 3 (.unlock true) ++ .access true false ::
    List.replicate 3 (.access false false)

theorem nested_reentrant : ∃ final, run step { writeFirst := true } nested = some final ∧
    final.guards = [⟨false, .write⟩] ∧ final.Reentrant := by
  have reached : (run step { writeFirst := true } nested).any
      (fun final => decide (final.guards = [⟨false, .write⟩])) = true := by
    decide +kernel
  obtain ⟨final, ran, inside⟩ := (Option.any_eq_true _ _).mp reached
  have meets : Meets step ClearedInTime { writeFirst := true } nested := by
    decide +kernel
  exact ⟨final, ran, of_decide_eq_true inside,
    (reentrant_iff true nested ran).mp meets nested (List.prefix_refl nested) final ran⟩

/-- The first thread has counted its write section down but not stored `NULL_THREAD_ID` yet when the second thread
    enters. -/
def clearedLate : List (ReentrantEvent Bool) :=
  .writeLock true :: List.replicate 4 (.access true false) ++ [.unlock true, .writeLock false] ++
    List.replicate 3 (.access false false) ++ [.access true false]

theorem clearedLate_not_reentrant : ∃ final, run step { writeFirst := true } clearedLate = some final ∧
    final.depth false = 1 ∧ final.writeThreadId = none ∧ ¬final.Reentrant := by
  have reached : (run step { writeFirst := true } clearedLate).any
      (fun final => decide (final.depth false = 1 ∧ final.writeThreadId = none)) = true := by
    decide +kernel
  obtain ⟨final, ran, holds⟩ := (Option.any_eq_true _ _).mp reached
  obtain ⟨inside, cleared⟩ := of_decide_eq_true holds
  refine ⟨final, ran, inside, cleared, ?_⟩
  intro reentrant
  have stored := (reentrant.writing false (by omega)).2.1
  rw [cleared] at stored
  cases stored

end ReentrantRWLock

end CyberRT.Base

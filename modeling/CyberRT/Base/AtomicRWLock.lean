import Mathlib.Algebra.Ring.Int.Defs
import Mathlib.Algebra.Ring.Nat
import CyberRT.Execution.Run
import CyberRT.Execution.Tally

namespace CyberRT.Base

open Execution

inductive LockMode where
  | read
  | write
  deriving DecidableEq, Repr

/-- A section that a thread is inside of. -/
structure LockGuard (Thread : Type) where
  thread : Thread
  mode : LockMode
  deriving DecidableEq, Repr

/-- What a thread does next in `ReadLock` and `WriteLock`. A writer is announced from its addition to
    `write_lock_wait_num_` to the subtraction. -/
inductive LockPoint where
  | idle
  | loadLockNum
  | loadWaitNum (lockNum : Int32)
  | exchangeLockNum (lockNum : Int32)
  | fetchAddWaitNum
  | exchangeFree
  | fetchSubWaitNum
  deriving DecidableEq

def LockPoint.Announced : LockPoint → Prop
  | .exchangeFree | .fetchSubWaitNum => True
  | _ => False

structure AtomicRWLock (Thread : Type) where
  writeFirst : Bool
  writeLockWaitNum : UInt32 := 0
  lockNum : Int32 := 0
  point : Thread → LockPoint := fun _ => .idle
  guards : List (LockGuard Thread) := []

/-- `access` is the next access of that thread. `spurious` is a failure of `compare_exchange_weak` for no reason. -/
inductive LockEvent (Thread : Type) where
  | readLock (thread : Thread)
  | writeLock (thread : Thread)
  | access (thread : Thread) (spurious : Bool)
  | unlock (guard : LockGuard Thread)

/-- A number of readers that `lock_num_` does not give as negative has room for one more. -/
theorem readers_lt {readers : Nat} (few : readers ≤ 2 ^ 31) (unwritten : 0 ≤ Int32.ofNat readers) :
    readers < 2 ^ 31 := by
  rcases Nat.lt_or_eq_of_le few with below | full
  · exact below
  · subst full
    exact absurd unwritten (by decide)

theorem readers_eq_zero {readers : Nat} (few : readers ≤ 2 ^ 31) (free : Int32.ofNat readers = 0) : readers = 0 := by
  have below := readers_lt few (by rw [free]; decide)
  have value := congrArg Int32.toInt free
  rw [Int32.toInt_ofNat_of_lt below] at value
  simpa using value

namespace AtomicRWLock

variable {Thread : Type} (lock : AtomicRWLock Thread)

section Steps

variable [DecidableEq Thread]

def toPoint (thread : Thread) (point : LockPoint) : AtomicRWLock Thread :=
  { lock with point := Function.update lock.point thread point }

/-- Where `ReadLock` goes on with this value of `lock_num`. -/
def retry (lockNum : Int32) : LockPoint :=
  if lockNum < 0 then .loadLockNum
  else if lock.writeFirst then .loadWaitNum lockNum
  else .exchangeLockNum lockNum

def accessStep (thread : Thread) (spurious : Bool) : Option (AtomicRWLock Thread) :=
  match lock.point thread with
  | .idle => none
  | .loadLockNum => some (lock.toPoint thread (lock.retry lock.lockNum))
  | .loadWaitNum lockNum =>
    some (lock.toPoint thread (if 0 < lock.writeLockWaitNum then .loadLockNum else .exchangeLockNum lockNum))
  | .exchangeLockNum lockNum =>
    if lock.lockNum = lockNum ∧ spurious = false then
      some { lock.toPoint thread .idle with lockNum := lockNum + 1, guards := ⟨thread, .read⟩ :: lock.guards }
    else some (lock.toPoint thread (lock.retry lock.lockNum))
  | .fetchAddWaitNum =>
    some { lock.toPoint thread .exchangeFree with writeLockWaitNum := lock.writeLockWaitNum + 1 }
  | .exchangeFree =>
    if lock.lockNum = 0 ∧ spurious = false then
      some { lock.toPoint thread .fetchSubWaitNum with lockNum := -1, guards := ⟨thread, .write⟩ :: lock.guards }
    else some lock
  | .fetchSubWaitNum => some { lock.toPoint thread .idle with writeLockWaitNum := lock.writeLockWaitNum - 1 }

/-- `ReadUnlock` and `WriteUnlock` are one access each. -/
def unlock (guard : LockGuard Thread) : AtomicRWLock Thread :=
  { lock with
    lockNum := match guard.mode with
      | .read => lock.lockNum - 1
      | .write => lock.lockNum + 1
    guards := lock.guards.erase guard }

def step (lock : AtomicRWLock Thread) : LockEvent Thread → Option (AtomicRWLock Thread)
  | .readLock thread => if lock.point thread = .idle then some (lock.toPoint thread .loadLockNum) else none
  | .writeLock thread => if lock.point thread = .idle then some (lock.toPoint thread .fetchAddWaitNum) else none
  | .access thread spurious => lock.accessStep thread spurious
  | .unlock guard =>
    if lock.point guard.thread = .idle ∧ guard ∈ lock.guards then some (lock.unlock guard) else none

end Steps

def inside (mode : LockMode) : Nat := lock.guards.countP (·.mode = mode)

/-- The counters say who is inside and who is announced. -/
structure Accounted : Prop where
  locked : (lock.lockNum = Int32.ofNat (lock.inside .read) ∧ lock.inside .write = 0) ∨
    (lock.lockNum = -1 ∧ lock.inside .write = 1 ∧ lock.inside .read = 0)
  few : lock.inside .read ≤ 2 ^ 31
  announced : ∃ writers, Tally LockPoint.Announced lock.point writers ∧ lock.writeLockWaitNum = UInt32.ofNat writers
  unlocked : lock.guards = [] → lock.lockNum = 0
  withdrawn : (∀ thread, ¬(lock.point thread).Announced) → lock.writeLockWaitNum = 0

/-- What `lock_num_` says about the guards. -/
inductive Locked : Prop
  | shared (readers : ∀ guard ∈ lock.guards, guard.mode = .read) (few : lock.guards.length ≤ 2 ^ 31)
      (number : lock.lockNum = Int32.ofNat lock.guards.length)
  | exclusive (writer : Thread) (alone : lock.guards = [⟨writer, .write⟩]) (number : lock.lockNum = -1)

/-- A reader goes on only with a value at which no writer has the lock. -/
def Fits : LockPoint → Prop
  | .loadWaitNum lockNum | .exchangeLockNum lockNum => 0 ≤ lockNum
  | _ => True

structure Consistent : Prop where
  locked : lock.Locked
  announced : ∃ writers, Tally LockPoint.Announced lock.point writers ∧ lock.writeLockWaitNum = UInt32.ofNat writers
  points : ∀ thread, Fits (lock.point thread)

variable {lock}

theorem consistent_start (writeFirst : Bool) : ({ writeFirst } : AtomicRWLock Thread).Consistent where
  locked := .shared (by simp) (by simp) rfl
  announced := ⟨0, Tally.none fun _ => id, rfl⟩
  points := fun _ => trivial

theorem Locked.frame {next : AtomicRWLock Thread} (locked : lock.Locked) (number : next.lockNum = lock.lockNum)
    (guards : next.guards = lock.guards) : next.Locked := by
  cases locked with
  | shared readers few value => exact .shared (guards ▸ readers) (guards ▸ few) (by rw [number, guards, value])
  | exclusive writer alone value => exact .exclusive writer (guards.trans alone) (number.trans value)

theorem Locked.enterRead {next : AtomicRWLock Thread} (locked : lock.Locked) (thread : Thread)
    (unwritten : 0 ≤ lock.lockNum) (number : next.lockNum = lock.lockNum + 1)
    (guards : next.guards = ⟨thread, .read⟩ :: lock.guards) : next.Locked := by
  cases locked with
  | shared readers few value =>
    have room := readers_lt few (value ▸ unwritten)
    apply Locked.shared
    · rw [guards]
      exact List.forall_mem_cons.mpr ⟨rfl, readers⟩
    · rw [guards, List.length_cons]
      omega
    · rw [number, value, guards, List.length_cons, Int32.ofNat_add]
      rfl
  | exclusive writer alone value =>
    rw [value] at unwritten
    exact absurd unwritten (by decide)

theorem Locked.enterWrite {next : AtomicRWLock Thread} (locked : lock.Locked) (thread : Thread)
    (free : lock.lockNum = 0) (number : next.lockNum = -1) (guards : next.guards = ⟨thread, .write⟩ :: lock.guards) :
    next.Locked := by
  cases locked with
  | shared readers few value =>
    have empty := readers_eq_zero few (value.symm.trans free)
    rw [List.length_eq_zero_iff.mp empty] at guards
    exact .exclusive thread guards number
  | exclusive writer alone value =>
    rw [value] at free
    exact absurd free (by decide)

theorem fits_retry (lockNum : Int32) : Fits (lock.retry lockNum) := by
  unfold retry
  split
  · trivial
  · have unwritten : 0 ≤ lockNum := Int32.not_lt.mp ‹_›
    split <;> exact unwritten

theorem announced_retry (lockNum : Int32) : ¬(lock.retry lockNum).Announced := by
  unfold retry
  split
  · exact id
  · split <;> exact id

theorem Consistent.accounted (consistent : lock.Consistent) : lock.Accounted := by
  obtain ⟨locked, announced, points⟩ := consistent
  obtain ⟨writers, tally, waiting⟩ := announced
  have withdrawn : (∀ thread, ¬(lock.point thread).Announced) → lock.writeLockWaitNum = 0 := by
    intro outside
    rw [waiting, tally.eq_zero outside]
    rfl
  cases locked with
  | shared readers few number =>
    have reading : lock.inside .read = lock.guards.length := by
      apply List.countP_eq_length.mpr
      exact fun guard member => by simp [readers guard member]
    have writing : lock.inside .write = 0 := by
      apply List.countP_eq_zero.mpr
      exact fun guard member => by simp [readers guard member]
    refine ⟨.inl ⟨?_, writing⟩, reading.symm ▸ few, ⟨writers, tally, waiting⟩, ?_, withdrawn⟩
    · rw [reading, number]
    · intro empty
      rw [number, empty]
      rfl
  | exclusive writer alone number =>
    have reading : lock.inside .read = 0 := by simp [inside, alone]
    have writing : lock.inside .write = 1 := by simp [inside, alone]
    refine ⟨.inr ⟨number, writing, reading⟩, by omega, ⟨writers, tally, waiting⟩, ?_, withdrawn⟩
    intro empty
    rw [alone] at empty
    cases empty

variable [DecidableEq Thread]

theorem Locked.unlock {guard : LockGuard Thread} (locked : lock.Locked) (held : guard ∈ lock.guards) :
    (lock.unlock guard).Locked := by
  cases locked with
  | shared readers few value =>
    have fewer : (lock.guards.erase guard).length = lock.guards.length - 1 := List.length_erase_of_mem held
    apply Locked.shared
    · exact fun other member => readers other (List.mem_of_mem_erase member)
    · show (lock.guards.erase guard).length ≤ 2 ^ 31
      omega
    · have present : 1 ≤ lock.guards.length := List.length_pos_of_mem held
      simp only [AtomicRWLock.unlock, readers guard held]
      rw [fewer, value, Int32.ofNat_sub _ _ present]
      rfl
  | exclusive writer alone value =>
    rw [alone] at held
    obtain rfl := List.mem_singleton.mp held
    apply Locked.shared
    · simp [AtomicRWLock.unlock, alone]
    · simp [AtomicRWLock.unlock, alone]
    · simp only [AtomicRWLock.unlock, alone, value, List.erase_cons_head, List.length_nil]
      decide

theorem fits_update (points : ∀ thread, Fits (lock.point thread)) (thread : Thread) {point : LockPoint}
    (fits : Fits point) : ∀ other, Fits (Function.update lock.point thread point other) := by
  apply (Function.forall_update_iff _ fun _ => Fits).mpr
  exact ⟨fits, fun other _ => points other⟩

/-- A thread goes on without a change of the counters. -/
theorem Consistent.move (consistent : lock.Consistent) {thread : Thread} {point : LockPoint}
    (before : ¬(lock.point thread).Announced) (after : ¬point.Announced) (fits : Fits point) :
    (lock.toPoint thread point).Consistent where
  locked := consistent.locked.frame rfl rfl
  announced := by
    obtain ⟨writers, tally, number⟩ := consistent.announced
    exact ⟨writers, tally.stay (iff_of_false after before), number⟩
  points := fits_update consistent.points thread fits

theorem Consistent.access {next : AtomicRWLock Thread} {thread : Thread} {spurious : Bool}
    (consistent : lock.Consistent) (taken : lock.accessStep thread spurious = some next) : next.Consistent := by
  obtain ⟨writers, tally, waiting⟩ := consistent.announced
  have fits := consistent.points thread
  unfold accessStep at taken
  cases here : lock.point thread with
  | idle =>
    rw [here] at taken
    cases taken
  | loadLockNum =>
    rw [here] at taken
    obtain rfl := Option.some.inj taken
    exact consistent.move (by rw [here]; exact id) (announced_retry _) (fits_retry _)
  | loadWaitNum lockNum =>
    rw [here] at taken fits
    obtain rfl := Option.some.inj taken
    split
    · exact consistent.move (by rw [here]; exact id) id trivial
    · exact consistent.move (by rw [here]; exact id) id fits
  | exchangeLockNum lockNum =>
    rw [here] at taken fits
    dsimp only at taken
    split at taken
    · rename_i exchanged
      obtain rfl := Option.some.inj taken
      refine ⟨?_, ⟨writers, ?_, waiting⟩, fits_update consistent.points thread trivial⟩
      · exact consistent.locked.enterRead thread (exchanged.1 ▸ fits) (by rw [exchanged.1]) rfl
      · exact tally.stay (iff_of_false id (by rw [here]; exact id))
    · obtain rfl := Option.some.inj taken
      exact consistent.move (by rw [here]; exact id) (announced_retry _) (fits_retry _)
  | fetchAddWaitNum =>
    rw [here] at taken
    obtain rfl := Option.some.inj taken
    refine ⟨consistent.locked.frame rfl rfl, ⟨writers + 1, ?_, ?_⟩, fits_update consistent.points thread trivial⟩
    · exact tally.enter (by rw [here]; exact id) trivial
    · show lock.writeLockWaitNum + 1 = _
      rw [waiting, UInt32.ofNat_add]
      rfl
  | exchangeFree =>
    rw [here] at taken
    dsimp only at taken
    split at taken
    · rename_i exchanged
      obtain rfl := Option.some.inj taken
      refine ⟨?_, ⟨writers, ?_, waiting⟩, fits_update consistent.points thread trivial⟩
      · exact consistent.locked.enterWrite thread exchanged.1 rfl rfl
      · exact tally.stay (iff_of_true trivial (by rw [here]; trivial))
    · obtain rfl := Option.some.inj taken
      exact consistent
  | fetchSubWaitNum =>
    rw [here] at taken
    obtain rfl := Option.some.inj taken
    have counted : (lock.point thread).Announced := by
      rw [here]
      trivial
    refine ⟨consistent.locked.frame rfl rfl, ⟨writers - 1, ?_, ?_⟩, fits_update consistent.points thread trivial⟩
    · exact tally.leave counted id
    · show lock.writeLockWaitNum - 1 = _
      rw [waiting, UInt32.ofNat_sub (tally.pos counted)]
      rfl

theorem Consistent.step {next : AtomicRWLock Thread} {event : LockEvent Thread} (consistent : lock.Consistent)
    (taken : lock.step event = some next) : next.Consistent := by
  cases event with
  | access thread spurious => exact consistent.access taken
  | readLock thread | writeLock thread =>
    simp only [AtomicRWLock.step] at taken
    split at taken
    · rename_i idle
      obtain rfl := Option.some.inj taken
      exact consistent.move (by rw [idle]; exact id) id trivial
    · cases taken
  | unlock guard =>
    simp only [AtomicRWLock.step] at taken
    split at taken
    · rename_i held
      obtain rfl := Option.some.inj taken
      exact ⟨consistent.locked.unlock held.2, consistent.announced, consistent.points⟩
    · cases taken

theorem accounted_after (writeFirst : Bool) (events : List (LockEvent Thread)) {final : AtomicRWLock Thread}
    (ran : run step { writeFirst } events = some final) : final.Accounted := by
  have consistent : final.Consistent := by
    apply run_invariant (fun reached _ => reached.Consistent) _ (consistent_start writeFirst) ran
    exact fun state _ event next taken held => held.step taken
  exact consistent.accounted

/-- A writer announces itself between the two loads of a reader, whose exchange then fails once for no reason. -/
def overtaken : List (LockEvent Bool) :=
  [.readLock true, .access true false, .writeLock false, .access false false, .access true false, .access false true,
    .access false false, .access true false, .access false false, .unlock ⟨false, .write⟩] ++
    List.replicate 2 (.access true false) ++ .access true true :: List.replicate 2 (.access true false)

theorem overtaken_accounted : ∃ final, run step { writeFirst := true } overtaken = some final ∧
    final.guards = [⟨true, .read⟩] ∧ final.Accounted := by
  have reached : (run step { writeFirst := true } overtaken).any
      (fun final => decide (final.guards = [⟨true, .read⟩])) = true := by
    decide +kernel
  obtain ⟨final, ran, inside⟩ := (Option.any_eq_true _ _).mp reached
  exact ⟨final, ran, of_decide_eq_true inside, accounted_after true overtaken ran⟩

end AtomicRWLock

end CyberRT.Base

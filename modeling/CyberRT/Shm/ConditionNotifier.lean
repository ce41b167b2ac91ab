import Mathlib.Data.List.Range
import Mathlib.Logic.Function.Basic
import CyberRT.Execution.Run

namespace CyberRT.Shm

open Execution

structure ReadableInfo where
  hostId : UInt64 := 0
  blockIndex : UInt32 := 0
  channelId : UInt64 := 0
  deriving DecidableEq, Repr

def kBufLength : Nat := 4096

/-- `seq % kBufLength`. -/
def slot (seq : Nat) : Fin kBufLength := ⟨seq % kBufLength, Nat.mod_lt _ (by decide)⟩

theorem slot_eq_iff (left right : Nat) : slot left = slot right ↔ left % 4096 = right % 4096 := by
  simp [slot, kBufLength]

/-- The shared memory of all notifiers. -/
structure Indicator where
  nextSeq : Nat := 0
  infos : Fin kBufLength → ReadableInfo := fun _ => {}
  seqs : Fin kBufLength → Nat := fun _ => 0

namespace Indicator

def fetchAdd (indicator : Indicator) : Nat × Indicator :=
  (indicator.nextSeq, { indicator with nextSeq := indicator.nextSeq + 1 })

def writeInfo (indicator : Indicator) (index : Fin kBufLength) (info : ReadableInfo) : Indicator :=
  { indicator with infos := Function.update indicator.infos index info }

def writeSeq (indicator : Indicator) (index : Fin kBufLength) (seq : Nat) : Indicator :=
  { indicator with seqs := Function.update indicator.seqs index seq }

end Indicator

/-- The `ConditionNotifier` of one process. -/
structure ConditionNotifier where
  nextSeq : Nat
  isShutdown : Bool := false
  deriving DecidableEq, Repr

namespace ConditionNotifier

def init (indicator : Indicator) : ConditionNotifier := ⟨indicator.nextSeq, false⟩

def notify (notifier : ConditionNotifier) (indicator : Indicator) (info : ReadableInfo) : Bool × Indicator :=
  if notifier.isShutdown then (false, indicator)
  else
    let fetched := indicator.fetchAdd
    let index := slot fetched.1
    (true, (fetched.2.writeInfo index info).writeSeq index fetched.1)

/-- The body of the loop of `Listen`: what it returns true with, and the notifier after it. -/
def listenOnce (notifier : ConditionNotifier) (indicator : Indicator) : Option (ReadableInfo × ConditionNotifier) :=
  if indicator.nextSeq ≠ notifier.nextSeq then
    let index := slot notifier.nextSeq
    let actualSeq := indicator.seqs index
    if notifier.nextSeq ≤ actualSeq then
      some (indicator.infos index, { notifier with nextSeq := actualSeq + 1 })
    else none
  else none

/-- The loop of `Listen` with the number of sleeps that are left before the timeout. -/
def listenLoop (notifier : ConditionNotifier) (indicator : Indicator) : Nat → Option (ReadableInfo × ConditionNotifier)
  | 0 => notifier.listenOnce indicator
  | sleeps + 1 => (notifier.listenOnce indicator).or (notifier.listenLoop indicator sleeps)

/-- `Listen` sleeps 50 µs at a time while `timeout_us` is positive. -/
def listen (notifier : ConditionNotifier) (indicator : Indicator) (timeoutMs : Int) :
    Option (ReadableInfo × ConditionNotifier) :=
  if notifier.isShutdown then none
  else notifier.listenLoop indicator ((timeoutMs * 1000 + 49) / 50).toNat

theorem listenLoop_eq (notifier : ConditionNotifier) (indicator : Indicator) (sleeps : Nat) :
    notifier.listenLoop indicator sleeps = notifier.listenOnce indicator := by
  induction sleeps with
  | zero => rfl
  | succ sleeps ih =>
    rw [listenLoop, ih]
    cases notifier.listenOnce indicator <;> rfl

theorem listen_some {notifier after : ConditionNotifier} {indicator : Indicator} {timeoutMs : Int}
    {info : ReadableInfo} (heard : notifier.listen indicator timeoutMs = some (info, after)) :
    indicator.nextSeq ≠ notifier.nextSeq ∧ notifier.nextSeq ≤ indicator.seqs (slot notifier.nextSeq) ∧
      info = indicator.infos (slot notifier.nextSeq) ∧
      after = { notifier with nextSeq := indicator.seqs (slot notifier.nextSeq) + 1 } := by
  unfold listen at heard
  split at heard
  · cases heard
  · rw [listenLoop_eq, listenOnce] at heard
    split at heard
    · rename_i unread
      simp only at heard
      split at heard
      · rename_i ready
        cases heard
        exact ⟨unread, ready, rfl, rfl⟩
      · cases heard
    · cases heard

end ConditionNotifier

/-- The notifiers of all processes; `stored` has the info of each sequence number, and `returned` what the `Listen`
    calls of the listening process returned true with. -/
structure Notifications (Process : Type) where
  indicator : Indicator := {}
  notifiers : Process → Option ConditionNotifier := fun _ => none
  stored : List ReadableInfo := []
  returned : List (Nat × ReadableInfo) := []

inductive NotifierEvent (Process : Type) where
  | init (process : Process)
  | notify (process : Process) (info : ReadableInfo)
  | listen (timeoutMs : Int)
  | shutdown (process : Process)
  deriving DecidableEq, Repr

namespace Notifications

variable {Process : Type} [DecidableEq Process] (listener : Process)

def setNotifier (state : Notifications Process) (process : Process) (notifier : ConditionNotifier) :
    Notifications Process :=
  { state with notifiers := Function.update state.notifiers process (some notifier) }

/-- `Notify` and `Listen` as atomic steps; the sequence number that `Listen` consumes is the one before its new
    `next_seq_`. -/
def step (state : Notifications Process) : NotifierEvent Process → Option (Notifications Process)
  | .init process =>
    if state.notifiers process = none then some (state.setNotifier process (.init state.indicator)) else none
  | .notify process info =>
    (state.notifiers process).map fun notifier =>
      let result := notifier.notify state.indicator info
      { state with indicator := result.2, stored := if result.1 then state.stored ++ [info] else state.stored }
  | .listen timeoutMs =>
    (state.notifiers listener).map fun notifier =>
      match notifier.listen state.indicator timeoutMs with
      | some (info, after) =>
        { state.setNotifier listener after with returned := state.returned ++ [(after.nextSeq - 1, info)] }
      | none => state
  | .shutdown process =>
    (state.notifiers process).map fun notifier => state.setNotifier process { notifier with isShutdown := true }

end Notifications

end CyberRT.Shm

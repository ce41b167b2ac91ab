import Mathlib.Data.Nat.Notation

namespace CyberRT.Component

/-- `Blocker` with the newest message in front. The callbacks stand under their ids. -/
structure Blocker (Message Callback : Type) where
  capacity : Nat
  publishedMsgQueue : List Message := []
  publishedCallbacks : List (String × Callback) := []

namespace Blocker

variable {Message Callback : Type}

variable (blocker : Blocker Message Callback)

/-- `push_front`, then `pop_back` until the queue fits. -/
def enqueue (msg : Message) : Blocker Message Callback :=
  if blocker.capacity = 0 then blocker
  else { blocker with publishedMsgQueue := (msg :: blocker.publishedMsgQueue).take blocker.capacity }

def isPublishedEmpty : Bool := blocker.publishedMsgQueue.isEmpty

def getLatestPublishedPtr : Option Message := blocker.publishedMsgQueue.head?

def subscribe (callbackId : String) (callback : Callback) : Bool × Blocker Message Callback :=
  if blocker.publishedCallbacks.any fun item => item.1 = callbackId then (false, blocker)
  else (true, { blocker with publishedCallbacks := blocker.publishedCallbacks ++ [(callbackId, callback)] })

@[simp] theorem enqueue_capacity (msg : Message) : (blocker.enqueue msg).capacity = blocker.capacity := by
  unfold enqueue
  split <;> rfl

@[simp] theorem enqueue_callbacks (msg : Message) :
    (blocker.enqueue msg).publishedCallbacks = blocker.publishedCallbacks := by
  unfold enqueue
  split <;> rfl

theorem getLatestPublishedPtr_enqueue (positive : 0 < blocker.capacity) (msg : Message) :
    (blocker.enqueue msg).getLatestPublishedPtr = some msg := by
  rw [enqueue, if_neg (Nat.ne_of_gt positive), getLatestPublishedPtr]
  obtain ⟨fewer, same⟩ := Nat.exists_eq_add_of_lt positive
  rw [same]
  simp

theorem isPublishedEmpty_eq : blocker.isPublishedEmpty = !blocker.getLatestPublishedPtr.isSome := by
  unfold isPublishedEmpty getLatestPublishedPtr
  cases blocker.publishedMsgQueue <;> rfl

end Blocker

end CyberRT.Component

import Mathlib.Logic.Function.Basic
import CyberRT.Transport.Roles

namespace CyberRT.Transport

/-- `slots_` of a `Signal` with the address of each slot; `Disconnect` clears a slot as it marks it. -/
structure Signal (L : Type) where
  slots : List (Nat × L) := []
  nextSlot : Nat := 0

namespace Signal

variable {L : Type}

def connect (signal : Signal L) (callback : L) : Signal L :=
  ⟨signal.slots ++ [(signal.nextSlot, callback)], signal.nextSlot + 1⟩

def disconnect (signal : Signal L) (slot : Nat) : Signal L :=
  { signal with slots := signal.slots.filter fun entry => entry.1 ≠ slot }

def callbacks (signal : Signal L) : List L := signal.slots.map Prod.snd

@[simp] theorem callbacks_connect (signal : Signal L) (callback : L) :
    (signal.connect callback).callbacks = signal.callbacks ++ [callback] := by
  simp [callbacks, connect]

end Signal

/-- `signal_` is the signal under `none` and `signals_[oppo_id]` the one under `some oppo_id`, where a
    signal that has not been made calls nothing; `signal_conns_` and `signals_conns_` in the same way. -/
structure ListenerHandler (L : Type) where
  signals : Option UInt64 → Signal L := fun _ => {}
  conns : Option UInt64 → UInt64 → Option Nat := fun _ _ => none

namespace ListenerHandler

variable {L : Type}

def connectUnder (handler : ListenerHandler L) (oppoId : Option UInt64) (selfId : UInt64) (listener : L) :
    ListenerHandler L where
  signals := Function.update handler.signals oppoId ((handler.signals oppoId).connect listener)
  conns := Function.update handler.conns oppoId
    (Function.update (handler.conns oppoId) selfId (some (handler.signals oppoId).nextSlot))

def disconnectUnder (handler : ListenerHandler L) (oppoId : Option UInt64) (selfId : UInt64) :
    ListenerHandler L :=
  match handler.conns oppoId selfId with
  | none => handler
  | some slot =>
    { signals := Function.update handler.signals oppoId ((handler.signals oppoId).disconnect slot)
      conns := Function.update handler.conns oppoId (Function.update (handler.conns oppoId) selfId none) }

def connect (handler : ListenerHandler L) (selfId : UInt64) (listener : L) : ListenerHandler L :=
  handler.connectUnder none selfId listener

def connectOpposite (handler : ListenerHandler L) (selfId oppoId : UInt64) (listener : L) : ListenerHandler L :=
  handler.connectUnder (some oppoId) selfId listener

def disconnect (handler : ListenerHandler L) (selfId : UInt64) : ListenerHandler L :=
  handler.disconnectUnder none selfId

def disconnectOpposite (handler : ListenerHandler L) (selfId oppoId : UInt64) : ListenerHandler L :=
  handler.disconnectUnder (some oppoId) selfId

/-- The listeners that `Run` calls for a message of `senderId`. -/
def run (handler : ListenerHandler L) (senderId : UInt64) : List L :=
  (handler.signals none).callbacks ++ (handler.signals (some senderId)).callbacks

@[simp] theorem signals_connectUnder_self (handler : ListenerHandler L) (oppoId : Option UInt64)
    (selfId : UInt64) (listener : L) :
    (handler.connectUnder oppoId selfId listener).signals oppoId = (handler.signals oppoId).connect listener := by
  simp [connectUnder]

@[simp] theorem signals_connectUnder_ne (handler : ListenerHandler L) {oppoId other : Option UInt64}
    (selfId : UInt64) (listener : L) (different : other ≠ oppoId) :
    (handler.connectUnder oppoId selfId listener).signals other = handler.signals other := by
  simp [connectUnder, different]

theorem conns_connectUnder (handler : ListenerHandler L) (oppoId other : Option UInt64)
    (selfId id : UInt64) (listener : L) :
    (handler.connectUnder oppoId selfId listener).conns other id =
      if other = oppoId ∧ id = selfId then some (handler.signals oppoId).nextSlot else handler.conns other id := by
  by_cases group : other = oppoId
  · subst other
    by_cases self : id = selfId <;> simp [connectUnder, self]
  · simp [connectUnder, group]

theorem disconnectUnder_absent {handler : ListenerHandler L} {oppoId : Option UInt64} {selfId : UInt64}
    (absent : handler.conns oppoId selfId = none) : handler.disconnectUnder oppoId selfId = handler := by
  simp [disconnectUnder, absent]

@[simp] theorem signals_disconnectUnder_ne (handler : ListenerHandler L) {oppoId other : Option UInt64}
    (selfId : UInt64) (different : other ≠ oppoId) :
    (handler.disconnectUnder oppoId selfId).signals other = handler.signals other := by
  unfold disconnectUnder
  split <;> simp [different]

theorem conns_disconnectUnder (handler : ListenerHandler L) (oppoId other : Option UInt64) (selfId id : UInt64) :
    (handler.disconnectUnder oppoId selfId).conns other id =
      if other = oppoId ∧ id = selfId then none else handler.conns other id := by
  unfold disconnectUnder
  split
  · rename_i absent
    split
    · rename_i same
      rw [same.1, same.2, absent]
    · rfl
  · by_cases group : other = oppoId
    · subst other
      by_cases self : id = selfId <;> simp [self]
    · simp [group]

end ListenerHandler

end CyberRT.Transport

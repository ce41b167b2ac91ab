import Mathlib.Data.List.Basic

namespace CyberRT.Base

/-- A `Slot`, where an empty function is no callback. -/
structure Slot (L : Type) where
  callback : Option L
  connected : Bool := true
  deriving DecidableEq, Repr

namespace Slot

variable {L : Type}

/-- The call of a slot: what it calls. -/
def call (slot : Slot L) : Option L := if slot.connected then slot.callback else none

def disconnect (slot : Slot L) : Slot L := { slot with connected := false }

end Slot

/-- A `Signal` beside the slots that it has made: `slots_` holds their addresses, and so does a `Connection`. -/
structure Signal (L : Type) where
  made : List (Slot L) := []
  slots : List Nat := []
  deriving DecidableEq, Repr

namespace Signal

variable {L : Type}

/-- `Connection::IsConnected`. -/
def isConnected (signal : Signal L) (connection : Nat) : Bool := (signal.made[connection]?).any Slot.connected

def clearDisconnectedSlots (signal : Signal L) : Signal L :=
  { signal with slots := signal.slots.filter signal.isConnected }

/-- `operator()`: the callbacks that are called, and the signal afterwards. -/
def call (signal : Signal L) : List L × Signal L :=
  (signal.slots.filterMap fun slot => signal.made[slot]?.bind Slot.call, signal.clearDisconnectedSlots)

def connect (signal : Signal L) (callback : Option L) : Nat × Signal L :=
  (signal.made.length, ⟨signal.made ++ [{ callback := callback }], signal.slots ++ [signal.made.length]⟩)

/-- The loop of `Disconnect` over `slots_`. -/
def disconnectSlots (connection : Nat) : List Nat → Bool × List (Slot L) → Bool × List (Slot L)
  | [], state => state
  | slot :: slots, (find, made) =>
    if connection = slot then disconnectSlots connection slots (true, made.modify slot Slot.disconnect)
    else disconnectSlots connection slots (find, made)

def disconnect (signal : Signal L) (connection : Nat) : Bool × Signal L :=
  let (find, made) := disconnectSlots connection signal.slots (false, signal.made)
  if find then (true, { signal with made := made }.clearDisconnectedSlots) else (false, { signal with made := made })

/-- The slots that a call reaches, with their addresses. -/
def live (signal : Signal L) : List (Nat × Option L) :=
  signal.slots.filterMap fun slot =>
    signal.made[slot]?.bind fun object => if object.connected then some (slot, object.callback) else none

theorem call_eq (signal : Signal L) : signal.call.1 = signal.live.filterMap Prod.snd := by
  simp only [call, live, List.filterMap_filterMap]
  apply List.filterMap_congr
  intro slot _
  cases signal.made[slot]? with
  | none => rfl
  | some object =>
    simp only [Option.bind_some, Slot.call]
    split <;> rfl

theorem live_clearDisconnectedSlots (signal : Signal L) : signal.clearDisconnectedSlots.live = signal.live := by
  simp only [live, clearDisconnectedSlots, List.filterMap_filter]
  apply List.filterMap_congr
  intro slot _
  unfold isConnected
  cases signal.made[slot]? with
  | none => rfl
  | some object => cases connected : object.connected <;> simp [connected]

theorem live_connect (signal : Signal L) (callback : Option L) (known : ∀ slot ∈ signal.slots, slot < signal.made.length) :
    (signal.connect callback).2.live = signal.live ++ [(signal.made.length, callback)] := by
  simp only [live, connect, List.filterMap_append]
  congr 1
  · apply List.filterMap_congr
    intro slot member
    rw [List.getElem?_append_left (known slot member)]
  · simp

theorem isConnected_connect (signal : Signal L) (callback : Option L) :
    (signal.connect callback).2.isConnected (signal.connect callback).1 = true := by
  simp [connect, isConnected]

theorem disconnectSlots_getElem? (connection : Nat) (slots : List Nat) (find : Bool) (made : List (Slot L)) (slot : Nat) :
    (disconnectSlots connection slots (find, made)).2[slot]? =
      if connection ∈ slots ∧ slot = connection then made[slot]?.map Slot.disconnect else made[slot]? := by
  induction slots generalizing find made with
  | nil => simp [disconnectSlots]
  | cons head slots ih =>
    rw [disconnectSlots]
    by_cases here : connection = head
    · subst here
      rw [if_pos rfl, ih]
      have twice : Slot.disconnect ∘ Slot.disconnect = Slot.disconnect (L := L) := rfl
      by_cases same : slot = connection
      · subst same
        simp [twice]
      · have other : connection ≠ slot := fun equal => same equal.symm
        simp [same, other]
    · rw [if_neg here, ih]
      simp [here]

theorem disconnectSlots_length (connection : Nat) (slots : List Nat) (find : Bool) (made : List (Slot L)) :
    (disconnectSlots connection slots (find, made)).2.length = made.length := by
  induction slots generalizing find made with
  | nil => rfl
  | cons head slots ih =>
    rw [disconnectSlots]
    split
    · rw [ih, List.length_modify]
    · exact ih _ _

/-- A disconnection takes the slot of its connection and no other. -/
theorem live_disconnect (signal : Signal L) (connection : Nat) :
    (signal.disconnect connection).2.live = signal.live.filter fun slot => slot.1 ≠ connection := by
  have marked : { signal with made := (disconnectSlots connection signal.slots (false, signal.made)).2 }.live =
      signal.live.filter fun slot => slot.1 ≠ connection := by
    simp only [live, disconnectSlots_getElem?, List.filter_filterMap]
    apply List.filterMap_congr
    intro slot member
    by_cases same : slot = connection
    · subst same
      rw [if_pos ⟨member, rfl⟩]
      cases signal.made[slot]? with
      | none => rfl
      | some object => cases connected : object.connected <;> simp [Slot.disconnect, connected, Option.filter_some]
    · rw [if_neg fun both => same both.2]
      cases signal.made[slot]? with
      | none => rfl
      | some object => cases connected : object.connected <;> simp [same, connected, Option.filter_some]
  unfold disconnect
  simp only
  split
  · rw [live_clearDisconnectedSlots, marked]
  · exact marked

theorem disconnect_keeps (signal : Signal L) (connection : Nat) :
    (signal.disconnect connection).2.made.length = signal.made.length ∧
    (signal.disconnect connection).2.slots ⊆ signal.slots := by
  have length := disconnectSlots_length connection signal.slots false signal.made
  unfold disconnect
  simp only
  split
  · exact ⟨length, List.filter_subset_self _⟩
  · exact ⟨length, List.Subset.refl _⟩

end Signal

end CyberRT.Base

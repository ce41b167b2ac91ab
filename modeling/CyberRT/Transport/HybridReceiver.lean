import CyberRT.Transport.Hybrid

namespace CyberRT.Transport

/-- A listener in the dispatcher of a process, with or without an opposite. A channel stands here for the
    id that `RegisterChannel` gives to its name. -/
structure DispatcherListener where
  transport : SubTransport
  hostIp : String
  processId : Int
  channelName : String
  selfId : UInt64
  oppositeId : Option UInt64
  deriving DecidableEq, Repr

/-- How far a sub-transport carries: `IntraDispatcher` is one object per process and `ShmDispatcher`
    drops what comes from another host. -/
def SubTransport.Reaches : SubTransport → String → Int → String → Int → Prop
  | .intra, hostIp, processId, otherIp, otherProcess => otherIp = hostIp ∧ otherProcess = processId
  | .shm, hostIp, _, otherIp, _ => otherIp = hostIp
  | .rtps, _, _, _, _ => True

instance decidableReaches : (transport : SubTransport) → (hostIp : String) → (processId : Int) →
    (otherIp : String) → (otherProcess : Int) →
      Decidable (transport.Reaches hostIp processId otherIp otherProcess)
  | .intra, hostIp, processId, otherIp, otherProcess =>
    inferInstanceAs (Decidable (otherIp = hostIp ∧ otherProcess = processId))
  | .shm, hostIp, _, otherIp, _ => inferInstanceAs (Decidable (otherIp = hostIp))
  | .rtps, _, _, _, _ => inferInstanceAs (Decidable True)

/-- A dispatcher calls the listeners of the channel that have no opposite or the sender as opposite. -/
def DispatcherListener.Hears {M : Type} (listener : DispatcherListener) (sample : Sample M) : Prop :=
  listener.transport = sample.transport ∧ listener.channelName = sample.channelName ∧
    sample.transport.Reaches sample.hostIp sample.processId listener.hostIp listener.processId ∧
    (listener.oppositeId = none ∨ listener.oppositeId = some sample.senderId)

instance decidableHears {M : Type} (listener : DispatcherListener) (sample : Sample M) :
    Decidable (listener.Hears sample) :=
  inferInstanceAs (Decidable (_ ∧ _ ∧ _ ∧ _))

/-- What `Enable(opposite)` of the sub-receiver of a mode adds to its dispatcher. -/
def RoleAttributes.listener (attr : RoleAttributes) (m : OptionalMode) (opposite : RoleAttributes) :
    DispatcherListener :=
  ⟨m.subTransport, attr.hostIp, attr.processId, attr.channelName, attr.id, some opposite.id⟩

structure HybridReceiver where
  attr : RoleAttributes
  mode : CommunicationMode
  transmitters : OptionalMode → UInt64 → Option RoleAttributes

namespace HybridReceiver

def init (attr : RoleAttributes) (mode : CommunicationMode) : HybridReceiver := ⟨attr, mode, fun _ _ => none⟩

def select (r : HybridReceiver) (opposite : RoleAttributes) : Option OptionalMode :=
  r.mode.select r.attr opposite

def setTransmitter (r : HybridReceiver) (m : OptionalMode) (id : UInt64) (entry : Option RoleAttributes) :
    HybridReceiver :=
  { r with transmitters := Function.update r.transmitters m (Function.update (r.transmitters m) id entry) }

/-- `Enable(opposite)` and the listener it adds, if it adds one. -/
def enable (r : HybridReceiver) (opposite : RoleAttributes) : HybridReceiver × Option DispatcherListener :=
  match r.select opposite with
  | none => (r, none)
  | some m =>
    if r.transmitters m opposite.id = none then
      (r.setTransmitter m opposite.id (some opposite), some (r.attr.listener m opposite))
    else (r, none)

/-- `Disable(opposite)` and the listener it removes, if it removes one. -/
def disable (r : HybridReceiver) (opposite : RoleAttributes) : HybridReceiver × Option DispatcherListener :=
  match r.select opposite with
  | none => (r, none)
  | some m =>
    if r.transmitters m opposite.id = none then (r, none)
    else (r.setTransmitter m opposite.id none, some (r.attr.listener m opposite))

theorem setTransmitter_apply (r : HybridReceiver) (m k : OptionalMode) (id other : UInt64)
    (entry : Option RoleAttributes) : (r.setTransmitter m id entry).transmitters k other =
      if k = m ∧ other = id then entry else r.transmitters k other := by
  by_cases mode : k = m
  · subst k
    by_cases same : other = id <;> simp [setTransmitter, same]
  · simp [setTransmitter, mode]

theorem enable_role (r : HybridReceiver) (opposite : RoleAttributes) :
    (r.enable opposite).1.attr = r.attr ∧ (r.enable opposite).1.mode = r.mode := by
  unfold enable
  split
  · exact ⟨rfl, rfl⟩
  · split <;> exact ⟨rfl, rfl⟩

theorem disable_role (r : HybridReceiver) (opposite : RoleAttributes) :
    (r.disable opposite).1.attr = r.attr ∧ (r.disable opposite).1.mode = r.mode := by
  unfold disable
  split
  · exact ⟨rfl, rfl⟩
  · split <;> exact ⟨rfl, rfl⟩

theorem enable_registered (r : HybridReceiver) (opposite : RoleAttributes) (m : OptionalMode) (id : UInt64) :
    (r.enable opposite).1.transmitters m id ≠ none ↔
      r.transmitters m id ≠ none ∨ (r.select opposite = some m ∧ id = opposite.id) := by
  unfold enable
  split
  · rename_i unrelated
    simp [unrelated]
  · rename_i k selected
    rw [selected]
    by_cases here : m = k ∧ id = opposite.id
    · obtain ⟨rfl, rfl⟩ := here
      split
      · simp [setTransmitter_apply]
      · rename_i present
        simp [present]
    · have elsewhere : ¬ (k = m ∧ id = opposite.id) := fun same => here ⟨same.1.symm, same.2⟩
      split <;> simp [setTransmitter_apply, here, elsewhere]

theorem disable_registered (r : HybridReceiver) (opposite : RoleAttributes) (m : OptionalMode) (id : UInt64) :
    (r.disable opposite).1.transmitters m id ≠ none ↔
      r.transmitters m id ≠ none ∧ ¬ (r.select opposite = some m ∧ id = opposite.id) := by
  unfold disable
  split
  · rename_i unrelated
    simp [unrelated]
  · rename_i k selected
    rw [selected]
    by_cases here : m = k ∧ id = opposite.id
    · obtain ⟨rfl, rfl⟩ := here
      split
      · rename_i absent
        simp [absent]
      · simp [setTransmitter_apply]
    · have elsewhere : ¬ (k = m ∧ id = opposite.id) := fun same => here ⟨same.1.symm, same.2⟩
      split <;> simp [setTransmitter_apply, here, elsewhere]

theorem enable_listener (r : HybridReceiver) (opposite : RoleAttributes) (listener : DispatcherListener) :
    (r.enable opposite).2 = some listener ↔
      ∃ m, r.select opposite = some m ∧ r.transmitters m opposite.id = none ∧
        listener = r.attr.listener m opposite := by
  unfold enable
  split
  · rename_i unrelated
    simp [unrelated]
  · rename_i m selected
    split
    · rename_i absent
      simp [selected, absent, eq_comm]
    · rename_i present
      simp [selected, present]

theorem disable_listener (r : HybridReceiver) (opposite : RoleAttributes) (listener : DispatcherListener) :
    (r.disable opposite).2 = some listener ↔
      ∃ m, r.select opposite = some m ∧ r.transmitters m opposite.id ≠ none ∧
        listener = r.attr.listener m opposite := by
  unfold disable
  split
  · rename_i unrelated
    simp [unrelated]
  · rename_i m selected
    split
    · rename_i absent
      simp [selected, absent]
    · rename_i present
      rw [selected]
      constructor
      · intro removed
        exact ⟨m, rfl, present, (Option.some.inj removed).symm⟩
      · rintro ⟨k, same, _, rfl⟩
        obtain rfl := Option.some.inj same
        rfl

end HybridReceiver

end CyberRT.Transport

import Mathlib.Data.Finset.Basic
import CyberRT.Transport.Roles

namespace CyberRT.Transport

/-- The dispatcher behind a mode; `InitTransmitters` and `InitReceivers` treat every mode other than
    `INTRA` and `SHM` as RTPS. -/
inductive SubTransport where
  | intra | shm | rtps
  deriving DecidableEq, Repr

def OptionalMode.subTransport : OptionalMode → SubTransport
  | .intra => .intra
  | .shm => .shm
  | .hybrid | .rtps => .rtps

theorem OptionalMode.subTransport_eq {m k : OptionalMode} (same : m.subTransport = k.subTransport) :
    m = k ∨ (m = .hybrid ∧ k = .rtps) ∨ (m = .rtps ∧ k = .hybrid) := by
  cases m <;> cases k <;> simp_all [subTransport]

structure History (M : Type) where
  enabled : Bool
  depth : Nat
  msgs : List M

/-- `InitHistory` with the configured `max_history_depth`. -/
def History.init {M : Type} (qos : QosProfile) (maxDepth : Nat) : History M where
  enabled := qos.durability = .transientLocal
  depth := if qos.history = .keepAll then maxDepth else min qos.depth maxDepth
  msgs := []

def History.add {M : Type} (history : History M) (msg : M) : History M :=
  if history.enabled then
    { history with msgs := (history.msgs ++ [msg]).drop (history.msgs.length + 1 - history.depth) }
  else history

/-- One message on its way to the dispatchers: where it was published and by whom. -/
structure Sample (M : Type) where
  transport : SubTransport
  channelName : String
  hostIp : String
  processId : Int
  senderId : UInt64
  msg : M
  deriving DecidableEq, Repr

/-- The arguments of an `Async` call of `HybridTransmitter::ThreadFunc`. -/
structure HistoryTask (M : Type) where
  opposite : RoleAttributes
  msgs : List M

structure HybridTransmitter (M : Type) where
  attr : RoleAttributes
  mode : CommunicationMode
  /-- `participant_` is set and `createPublisher` returns a publisher. -/
  rtpsReady : Bool
  enabled : OptionalMode → Bool
  receivers : OptionalMode → Finset UInt64
  history : History M

namespace HybridTransmitter

variable {M : Type}

def init (attr : RoleAttributes) (mode : CommunicationMode) (rtpsReady : Bool) (maxDepth : Nat) :
    HybridTransmitter M where
  attr := attr
  mode := mode
  rtpsReady := rtpsReady
  enabled := fun _ => false
  receivers := fun _ => ∅
  history := .init attr.qosProfile maxDepth

/-- `Enable()` of the sub-transmitter of a mode: only RTPS can fail. -/
def enableMode (t : HybridTransmitter M) (m : OptionalMode) : HybridTransmitter M :=
  let succeeds := m.subTransport ≠ .rtps || t.rtpsReady
  { t with enabled := Function.update t.enabled m (t.enabled m || succeeds) }

def disableMode (t : HybridTransmitter M) (m : OptionalMode) : HybridTransmitter M :=
  { t with enabled := Function.update t.enabled m false }

def select (t : HybridTransmitter M) (opposite : RoleAttributes) : Option OptionalMode :=
  t.mode.select t.attr opposite

def transmitHistoryMsg (t : HybridTransmitter M) (opposite : RoleAttributes) : Option (HistoryTask M) :=
  if t.attr.qosProfile.durability ≠ .transientLocal then none
  else if t.history.msgs = [] then none
  else some ⟨opposite, t.history.msgs⟩

def enable (t : HybridTransmitter M) (opposite : RoleAttributes) :
    HybridTransmitter M × Option (HistoryTask M) :=
  match t.select opposite with
  | none => (t, none)
  | some m =>
    let inserted := { t with receivers := Function.update t.receivers m (insert opposite.id (t.receivers m)) }
    let enabled := inserted.enableMode m
    (enabled, enabled.transmitHistoryMsg opposite)

def disable (t : HybridTransmitter M) (opposite : RoleAttributes) : HybridTransmitter M :=
  match t.select opposite with
  | none => t
  | some m =>
    let erased := { t with receivers := Function.update t.receivers m ((t.receivers m).erase opposite.id) }
    if erased.receivers m = ∅ then erased.disableMode m else erased

/-- The samples the enabled sub-transmitters publish for one message. -/
def samples (t : HybridTransmitter M) (msg : M) : List (Sample M) :=
  (t.mode.modes.filter t.enabled).map fun m =>
    ⟨m.subTransport, t.attr.channelName, t.attr.hostIp, t.attr.processId, t.attr.id, msg⟩

def transmit (t : HybridTransmitter M) (msg : M) : HybridTransmitter M × List (Sample M) :=
  ({ t with history := t.history.add msg }, t.samples msg)

theorem enable_none {t : HybridTransmitter M} {opposite : RoleAttributes}
    (unrelated : t.select opposite = none) : (t.enable opposite).1 = t := by
  simp [enable, unrelated]

theorem enable_some {t : HybridTransmitter M} {opposite : RoleAttributes} {m : OptionalMode}
    (selected : t.select opposite = some m) : (t.enable opposite).1 =
      { t with
        receivers := Function.update t.receivers m (insert opposite.id (t.receivers m))
        enabled := Function.update t.enabled m
          (t.enabled m || (m.subTransport ≠ .rtps || t.rtpsReady)) } := by
  simp [enable, selected, enableMode]

theorem disable_none {t : HybridTransmitter M} {opposite : RoleAttributes}
    (unrelated : t.select opposite = none) : t.disable opposite = t := by
  simp [disable, unrelated]

theorem disable_some {t : HybridTransmitter M} {opposite : RoleAttributes} {m : OptionalMode}
    (selected : t.select opposite = some m) : t.disable opposite =
      { t with
        receivers := Function.update t.receivers m ((t.receivers m).erase opposite.id)
        enabled := if (t.receivers m).erase opposite.id = ∅
          then Function.update t.enabled m false else t.enabled } := by
  simp only [disable, selected, Function.update_self, disableMode]
  split <;> rfl

theorem transmitHistoryMsg_some {t : HybridTransmitter M} {opposite : RoleAttributes} {task : HistoryTask M}
    (started : t.transmitHistoryMsg opposite = some task) : task = ⟨opposite, t.history.msgs⟩ := by
  unfold transmitHistoryMsg at started
  split at started
  · cases started
  · split at started
    · cases started
    · exact (Option.some.inj started).symm

theorem enable_task {t : HybridTransmitter M} {opposite : RoleAttributes} {task : HistoryTask M}
    (started : (t.enable opposite).2 = some task) :
    t.select opposite ≠ none ∧ task = ⟨opposite, t.history.msgs⟩ := by
  cases selected : t.select opposite with
  | none => simp [enable, selected] at started
  | some m =>
    simp only [enable, selected] at started
    exact ⟨by simp, transmitHistoryMsg_some started⟩

structure SameRole (t u : HybridTransmitter M) : Prop where
  attr : u.attr = t.attr
  mode : u.mode = t.mode
  rtpsReady : u.rtpsReady = t.rtpsReady
  history : u.history = t.history

theorem SameRole.select {t u : HybridTransmitter M} (same : SameRole t u) (opposite : RoleAttributes) :
    u.select opposite = t.select opposite := by
  unfold HybridTransmitter.select
  rw [same.attr, same.mode]

theorem enable_sameRole (t : HybridTransmitter M) (opposite : RoleAttributes) :
    SameRole t (t.enable opposite).1 := by
  cases selected : t.select opposite with
  | none => rw [enable_none selected]; exact ⟨rfl, rfl, rfl, rfl⟩
  | some m => rw [enable_some selected]; exact ⟨rfl, rfl, rfl, rfl⟩

theorem disable_sameRole (t : HybridTransmitter M) (opposite : RoleAttributes) :
    SameRole t (t.disable opposite) := by
  cases selected : t.select opposite with
  | none => rw [disable_none selected]; exact ⟨rfl, rfl, rfl, rfl⟩
  | some m => rw [disable_some selected]; exact ⟨rfl, rfl, rfl, rfl⟩

/-- The `enabled_` flag of every sub-transmitter follows its set of receivers. -/
def Tracks (t : HybridTransmitter M) : Prop :=
  ∀ m, t.enabled m = true ↔ (t.receivers m).Nonempty

theorem init_tracks (attr : RoleAttributes) (mode : CommunicationMode) (rtpsReady : Bool) (maxDepth : Nat) :
    (init attr mode rtpsReady maxDepth : HybridTransmitter M).Tracks := by
  intro m
  simp [init]

theorem Tracks.enable {t : HybridTransmitter M} (tracks : t.Tracks) (ready : t.rtpsReady = true)
    (opposite : RoleAttributes) : (t.enable opposite).1.Tracks := by
  cases selected : t.select opposite with
  | none => rwa [enable_none selected]
  | some m =>
    rw [enable_some selected]
    intro k
    by_cases same : k = m
    · subst k
      simp [ready]
    · simpa [same] using tracks k

theorem Tracks.disable {t : HybridTransmitter M} (tracks : t.Tracks) (opposite : RoleAttributes) :
    (t.disable opposite).Tracks := by
  cases selected : t.select opposite with
  | none => rwa [disable_none selected]
  | some m =>
    rw [disable_some selected]
    intro k
    by_cases same : k = m
    · subst k
      by_cases last : (t.receivers m).erase opposite.id = ∅
      · simp [last]
      · have remaining : ((t.receivers m).erase opposite.id).Nonempty := Finset.nonempty_iff_ne_empty.mpr last
        have before : t.enabled m = true := (tracks m).mpr (remaining.mono (Finset.erase_subset _ _))
        simpa [last, before] using remaining
    · have unchanged := tracks k
      split <;> simpa [same] using unchanged

theorem mem_receivers_enable {t : HybridTransmitter M} {opposite : RoleAttributes} {m : OptionalMode}
    {id : UInt64} : id ∈ (t.enable opposite).1.receivers m ↔
      id ∈ t.receivers m ∨ (t.select opposite = some m ∧ id = opposite.id) := by
  cases selected : t.select opposite with
  | none => simp [enable_none selected]
  | some k =>
    rw [enable_some selected]
    by_cases same : m = k
    · subst m
      simp [or_comm]
    · have different : k ≠ m := fun h => same h.symm
      simp [same, different]

theorem mem_receivers_disable {t : HybridTransmitter M} {opposite : RoleAttributes} {m : OptionalMode}
    {id : UInt64} : id ∈ (t.disable opposite).receivers m ↔
      id ∈ t.receivers m ∧ ¬ (t.select opposite = some m ∧ id = opposite.id) := by
  cases selected : t.select opposite with
  | none => simp [disable_none selected]
  | some k =>
    rw [disable_some selected]
    by_cases same : m = k
    · subst m
      simp [and_comm]
    · have different : k ≠ m := fun h => same h.symm
      simp [same, different]

end HybridTransmitter

end CyberRT.Transport

import CyberRT.Base.Signal
import CyberRT.Transport.Listener

namespace CyberRT.Transport

/-- A `ListenerHandler` with the slots of its signals, dead ones included; a connection is the address of its slot. -/
structure SlotHandler (L : Type) where
  signal : Base.Signal L := {}
  signalConns : UInt64 → Option Nat := fun _ => none
  signals : UInt64 → Option (Base.Signal L) := fun _ => none
  signalsConns : UInt64 → Option (UInt64 → Option Nat) := fun _ => none

namespace SlotHandler

variable {L : Type}

def connect (handler : SlotHandler L) (selfId : UInt64) (listener : Option L) : SlotHandler L :=
  let (connection, signal) := handler.signal.connect listener
  let handler := { handler with signal := signal }
  if signal.isConnected connection then
    { handler with signalConns := Function.update handler.signalConns selfId (some connection) }
  else handler

def connectOpposite (handler : SlotHandler L) (selfId oppoId : UInt64) (listener : Option L) : SlotHandler L :=
  let (connection, signal) := ((handler.signals oppoId).getD {}).connect listener
  let handler := { handler with signals := Function.update handler.signals oppoId (some signal) }
  if signal.isConnected connection then
    let conns := (handler.signalsConns oppoId).getD fun _ => none
    { handler with
      signalsConns := Function.update handler.signalsConns oppoId (some (Function.update conns selfId (some connection))) }
  else handler

def disconnect (handler : SlotHandler L) (selfId : UInt64) : SlotHandler L :=
  match handler.signalConns selfId with
  | none => handler
  | some connection =>
    { handler with
      signal := (handler.signal.disconnect connection).2
      signalConns := Function.update handler.signalConns selfId none }

def disconnectOpposite (handler : SlotHandler L) (selfId oppoId : UInt64) : SlotHandler L :=
  match handler.signalsConns oppoId with
  | none => handler
  | some conns =>
    match conns selfId with
    | none => handler
    | some connection =>
      { handler with
        signals := Function.update handler.signals oppoId
          ((handler.signals oppoId).map fun signal => (signal.disconnect connection).2)
        signalsConns := Function.update handler.signalsConns oppoId (some (Function.update conns selfId none)) }

/-- `Run` for a message of this sender: the listeners that are called, and the handler afterwards. -/
def run (handler : SlotHandler L) (senderId : UInt64) : List L × SlotHandler L :=
  let (called, signal) := handler.signal.call
  let handler := { handler with signal := signal }
  match handler.signals senderId with
  | none => (called, handler)
  | some signal =>
    (called ++ signal.call.1, { handler with signals := Function.update handler.signals senderId (some signal.call.2) })

end SlotHandler

/-- `self_id` and, where there is one, `oppo_id`. -/
abbrev ListenerKey := UInt64 × Option UInt64

inductive HandlerEvent (L : Type) where
  | connect (key : ListenerKey) (listener : Option L)
  | disconnect (key : ListenerKey)
  | run (senderId : UInt64)

namespace HandlerEvent

variable {L : Type}

def connects (key : ListenerKey) : HandlerEvent L → Bool
  | .connect other _ => other = key
  | _ => false

def disconnects (key : ListenerKey) : HandlerEvent L → Bool
  | .disconnect other => other = key
  | _ => false

end HandlerEvent

namespace SlotHandler

variable {L : Type}

def step (handler : SlotHandler L) : HandlerEvent L → SlotHandler L
  | .connect (selfId, none) listener => handler.connect selfId listener
  | .connect (selfId, some oppoId) listener => handler.connectOpposite selfId oppoId listener
  | .disconnect (selfId, none) => handler.disconnect selfId
  | .disconnect (selfId, some oppoId) => handler.disconnectOpposite selfId oppoId
  | .run senderId => (handler.run senderId).2

def after (events : List (HandlerEvent L)) : SlotHandler L := events.foldl step {}

/-- The signal shows its live slots, in the order of their connections. -/
structure SignalShows (signal : Base.Signal L) (shown : Signal (Option L)) : Prop where
  live : shown.slots = signal.live
  next : shown.nextSlot = signal.made.length
  known : ∀ slot ∈ signal.slots, slot < signal.made.length

theorem SignalShows.connect {signal : Base.Signal L} {shown : Signal (Option L)} (shows' : SignalShows signal shown)
    (callback : Option L) : SignalShows (signal.connect callback).2 (shown.connect callback) where
  live := by
    have live := Base.Signal.live_connect signal callback shows'.known
    rw [live, ← shows'.live, ← shows'.next]
    rfl
  next := by
    rw [Signal.connect, shows'.next]
    simp [Base.Signal.connect]
  known := by
    intro slot member
    simp only [Base.Signal.connect, List.mem_append, List.mem_singleton, List.length_append, List.length_singleton]
      at member ⊢
    rcases member with old | new
    · have bound := shows'.known slot old
      omega
    · omega

theorem SignalShows.disconnect {signal : Base.Signal L} {shown : Signal (Option L)} (shows' : SignalShows signal shown)
    (connection : Nat) : SignalShows (signal.disconnect connection).2 (shown.disconnect connection) where
  live := by
    rw [Base.Signal.live_disconnect, ← shows'.live]
    rfl
  next := by
    rw [(signal.disconnect_keeps connection).1, ← shows'.next]
    rfl
  known := by
    intro slot member
    rw [(signal.disconnect_keeps connection).1]
    exact shows'.known slot ((signal.disconnect_keeps connection).2 member)

theorem SignalShows.call {signal : Base.Signal L} {shown : Signal (Option L)} (shows' : SignalShows signal shown) :
    signal.call.1 = shown.callbacks.filterMap id ∧ SignalShows signal.call.2 shown := by
  apply And.intro
  · rw [Base.Signal.call_eq, ← shows'.live, Signal.callbacks, List.filterMap_map]
    rfl
  · exact ⟨shows'.live.trans signal.live_clearDisconnectedSlots.symm, shows'.next,
      fun slot member => shows'.known slot (List.mem_of_mem_filter member)⟩

/-- A handler whose dead slots are left out. -/
structure Shows (handler : SlotHandler L) (shown : ListenerHandler (Option L)) : Prop where
  signal : SignalShows handler.signal (shown.signals none)
  signals : ∀ oppoId, SignalShows ((handler.signals oppoId).getD {}) (shown.signals (some oppoId))
  signalConns : ∀ selfId, shown.conns none selfId = handler.signalConns selfId
  signalsConns : ∀ oppoId selfId, shown.conns (some oppoId) selfId = (handler.signalsConns oppoId).bind (· selfId)

theorem shows_initial : Shows ({} : SlotHandler L) {} where
  signal := ⟨rfl, rfl, by simp⟩
  signals := fun _ => ⟨rfl, rfl, by simp⟩
  signalConns := fun _ => rfl
  signalsConns := fun _ _ => rfl

theorem Shows.connect {handler : SlotHandler L} {shown : ListenerHandler (Option L)} (shows' : Shows handler shown)
    (selfId : UInt64) (listener : Option L) : Shows (handler.connect selfId listener) (shown.connect selfId listener) := by
  have connected := Base.Signal.isConnected_connect handler.signal listener
  have made : handler.connect selfId listener =
      { handler with
        signal := (handler.signal.connect listener).2
        signalConns := Function.update handler.signalConns selfId (some (handler.signal.connect listener).1) } :=
    if_pos connected
  rw [made, ListenerHandler.connect]
  refine ⟨?_, ?_, ?_, ?_⟩
  · rw [ListenerHandler.signals_connectUnder_self]
    exact shows'.signal.connect listener
  · intro oppoId
    rw [ListenerHandler.signals_connectUnder_ne _ _ _ (Option.some_ne_none oppoId)]
    exact shows'.signals oppoId
  · intro id
    rw [ListenerHandler.conns_connectUnder, shows'.signal.next, shows'.signalConns]
    by_cases same : id = selfId <;> simp [same, Base.Signal.connect]
  · intro oppoId id
    rw [ListenerHandler.conns_connectUnder, if_neg (by simp), shows'.signalsConns]

theorem Shows.connectOpposite {handler : SlotHandler L} {shown : ListenerHandler (Option L)}
    (shows' : Shows handler shown) (selfId oppoId : UInt64) (listener : Option L) :
    Shows (handler.connectOpposite selfId oppoId listener) (shown.connectOpposite selfId oppoId listener) := by
  have connected := Base.Signal.isConnected_connect ((handler.signals oppoId).getD {}) listener
  have made : handler.connectOpposite selfId oppoId listener =
      { handler with
        signals := Function.update handler.signals oppoId
          (some (((handler.signals oppoId).getD {}).connect listener).2)
        signalsConns := Function.update handler.signalsConns oppoId
          (some (Function.update ((handler.signalsConns oppoId).getD fun _ => none) selfId
            (some (((handler.signals oppoId).getD {}).connect listener).1))) } :=
    if_pos connected
  rw [made, ListenerHandler.connectOpposite]
  refine ⟨?_, ?_, ?_, ?_⟩
  · rw [ListenerHandler.signals_connectUnder_ne _ _ _ (Option.some_ne_none oppoId).symm]
    exact shows'.signal
  · intro other
    by_cases here : other = oppoId
    · subst here
      rw [ListenerHandler.signals_connectUnder_self]
      simp only [Function.update_self, Option.getD_some]
      exact (shows'.signals other).connect listener
    · rw [ListenerHandler.signals_connectUnder_ne _ _ _ (by simpa using here)]
      simp only [Function.update_of_ne here]
      exact shows'.signals other
  · intro id
    rw [ListenerHandler.conns_connectUnder, if_neg (by simp), shows'.signalConns]
  · intro other id
    rw [ListenerHandler.conns_connectUnder, (shows'.signals oppoId).next, shows'.signalsConns]
    by_cases here : other = oppoId
    · subst here
      by_cases same : id = selfId
      · simp [same, Base.Signal.connect]
      · cases stored : handler.signalsConns other <;> simp [same]
    · simp [here]

theorem Shows.disconnect {handler : SlotHandler L} {shown : ListenerHandler (Option L)} (shows' : Shows handler shown)
    (selfId : UInt64) : Shows (handler.disconnect selfId) (shown.disconnect selfId) := by
  have stored := shows'.signalConns selfId
  unfold SlotHandler.disconnect ListenerHandler.disconnect
  cases connection : handler.signalConns selfId with
  | none =>
    rw [connection] at stored
    rw [ListenerHandler.disconnectUnder_absent stored]
    exact shows'
  | some slot =>
    rw [connection] at stored
    have signal : (shown.disconnectUnder none selfId).signals none = (shown.signals none).disconnect slot := by
      simp [ListenerHandler.disconnectUnder, stored]
    refine ⟨?_, ?_, ?_, ?_⟩
    · rw [signal]
      exact shows'.signal.disconnect slot
    · intro oppoId
      rw [ListenerHandler.signals_disconnectUnder_ne _ _ (Option.some_ne_none oppoId)]
      exact shows'.signals oppoId
    · intro id
      rw [ListenerHandler.conns_disconnectUnder, shows'.signalConns]
      by_cases same : id = selfId <;> simp [same]
    · intro oppoId id
      rw [ListenerHandler.conns_disconnectUnder, if_neg (by simp), shows'.signalsConns]

theorem Shows.disconnectOpposite {handler : SlotHandler L} {shown : ListenerHandler (Option L)}
    (shows' : Shows handler shown) (selfId oppoId : UInt64) :
    Shows (handler.disconnectOpposite selfId oppoId) (shown.disconnectOpposite selfId oppoId) := by
  have stored := shows'.signalsConns oppoId selfId
  unfold SlotHandler.disconnectOpposite ListenerHandler.disconnectOpposite
  cases group : handler.signalsConns oppoId with
  | none =>
    rw [group] at stored
    rw [ListenerHandler.disconnectUnder_absent stored]
    exact shows'
  | some conns =>
    rw [group, Option.bind_some] at stored
    dsimp only
    cases connection : conns selfId with
    | none =>
      rw [connection] at stored
      rw [ListenerHandler.disconnectUnder_absent stored]
      exact shows'
    | some slot =>
      rw [connection] at stored
      have signal : (shown.disconnectUnder (some oppoId) selfId).signals (some oppoId) =
          (shown.signals (some oppoId)).disconnect slot := by
        simp [ListenerHandler.disconnectUnder, stored]
      refine ⟨?_, ?_, ?_, ?_⟩
      · rw [ListenerHandler.signals_disconnectUnder_ne _ _ (Option.some_ne_none oppoId).symm]
        exact shows'.signal
      · intro other
        by_cases here : other = oppoId
        · subst here
          have now := (shows'.signals other).disconnect slot
          rw [signal]
          simp only [Function.update_self]
          cases made : handler.signals other with
          | none =>
            rw [made] at now
            exact now
          | some signal =>
            rw [made] at now
            exact now
        · rw [ListenerHandler.signals_disconnectUnder_ne _ _ (by simpa using here)]
          simp only [Function.update_of_ne here]
          exact shows'.signals other
      · intro id
        rw [ListenerHandler.conns_disconnectUnder, if_neg (by simp), shows'.signalConns]
      · intro other id
        rw [ListenerHandler.conns_disconnectUnder, shows'.signalsConns]
        by_cases here : other = oppoId
        · subst here
          by_cases same : id = selfId <;> simp [same, group]
        · simp [here]

theorem Shows.run {handler : SlotHandler L} {shown : ListenerHandler (Option L)} (shows' : Shows handler shown)
    (senderId : UInt64) :
    (handler.run senderId).1 = (shown.run senderId).filterMap id ∧ Shows (handler.run senderId).2 shown := by
  obtain ⟨own, cleared⟩ := shows'.signal.call
  have other := shows'.signals senderId
  unfold SlotHandler.run ListenerHandler.run
  simp only [List.filterMap_append]
  cases made : handler.signals senderId with
  | none =>
    have nothing : (shown.signals (some senderId)).callbacks = [] := by
      rw [made] at other
      simp only [Signal.callbacks, other.live]
      rfl
    rw [nothing, own]
    exact ⟨(List.append_nil _).symm, cleared, shows'.signals, shows'.signalConns, shows'.signalsConns⟩
  | some signal =>
    rw [made] at other
    obtain ⟨more, swept⟩ := other.call
    rw [own]
    refine ⟨congrArg _ more, cleared, ?_, shows'.signalConns, shows'.signalsConns⟩
    intro oppoId
    by_cases here : oppoId = senderId
    · subst here
      simp only [Function.update_self]
      exact swept
    · simp only [Function.update_of_ne here]
      exact shows'.signals oppoId

end SlotHandler

end CyberRT.Transport

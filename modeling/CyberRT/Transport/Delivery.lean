import CyberRT.Transport.IntraDispatcher

namespace CyberRT.Transport

open Execution

inductive ListenerEvent (L : Type) where
  | add (messageType : String) (selfAttr : RoleAttributes) (oppositeAttr : Option RoleAttributes) (listener : L)
  | remove (messageType : String) (selfAttr : RoleAttributes) (oppositeAttr : Option RoleAttributes)

/-- A dispatcher beside the registry of what callers have added and not removed. -/
structure Dispatching (L : Type) where
  dispatcher : IntraDispatcher L := {}
  registry : Registry L := []

namespace Dispatching

variable {L : Type}

def step (state : Dispatching L) : ListenerEvent L → Option (Dispatching L)
  | .add messageType selfAttr oppositeAttr listener => some
    { dispatcher := match oppositeAttr with
        | none => state.dispatcher.addListener messageType selfAttr listener
        | some opposite => state.dispatcher.addListenerOpposite messageType selfAttr opposite listener
      registry := state.registry ++
        [⟨selfAttr.channelId, oppositeAttr.map RoleAttributes.id, selfAttr.id, listener⟩] }
  | .remove messageType selfAttr oppositeAttr => some
    { dispatcher := match oppositeAttr with
        | none => state.dispatcher.removeListener messageType selfAttr
        | some opposite => state.dispatcher.removeListenerOpposite messageType selfAttr opposite
      registry := state.registry.remove selfAttr.channelId (oppositeAttr.map RoleAttributes.id) selfAttr.id }

/-- One message type per channel, and no key is added again before it is removed. -/
def Proper (types : UInt64 → String) (state : Dispatching L) : ListenerEvent L → Prop
  | .add messageType selfAttr oppositeAttr _ => messageType = types selfAttr.channelId ∧
      ∀ entry ∈ state.registry.group selfAttr.channelId (oppositeAttr.map RoleAttributes.id),
        entry.selfId ≠ selfAttr.id
  | .remove messageType selfAttr _ => messageType = types selfAttr.channelId

/-- A removal finds no other listener registered for the same channel and opposite. -/
def RemovesLast (state : Dispatching L) : ListenerEvent L → Prop
  | .add _ _ _ _ => True
  | .remove _ selfAttr oppositeAttr =>
      ∀ entry ∈ state.registry.group selfAttr.channelId (oppositeAttr.map RoleAttributes.id),
        entry.selfId = selfAttr.id

/-- Every message is handed once to each matching registered listener and to nobody else. -/
def Delivers (traits : MessageTraits) (types : UInt64 → String) (state : Dispatching L) : Prop :=
  ∀ channelId msg senderId, msg.messageType = types channelId →
    (state.dispatcher.onMessage traits channelId msg senderId).Perm
      ((state.registry.matching channelId senderId).map fun listener => (listener, msg))

def baseHandler (state : Dispatching L) (channelId : UInt64) : ListenerHandler Wrapper :=
  ((state.dispatcher.msgListeners channelId).map Prod.snd).getD {}

/-- The chain holds the listeners of a group and the base handler one wrapper for them, connected by
    the oldest of them. -/
structure GroupInStep (types : UInt64 → String) (state : Dispatching L) (channelId : UInt64)
    (oppoId : Option UInt64) : Prop where
  idle : state.registry.group channelId oppoId = [] →
    state.dispatcher.chain.handlers oppoId channelId = [] ∧
    ((state.baseHandler channelId).signals oppoId).slots = [] ∧
    ∀ selfId, (state.baseHandler channelId).conns oppoId selfId = none
  busy : ∀ first rest, state.registry.group channelId oppoId = first :: rest →
    (∃ handler, state.dispatcher.chain.handlers oppoId channelId = [(types channelId, handler)] ∧
      (handler.signals oppoId).callbacks = (first :: rest).map Registration.listener ∧
      ∀ other, other ≠ oppoId → (handler.signals other).callbacks = []) ∧
    (∃ slot, ((state.baseHandler channelId).signals oppoId).slots =
        [(slot, ⟨first.selfId, oppoId, channelId, types channelId⟩)] ∧
      ∀ selfId, (state.baseHandler channelId).conns oppoId selfId =
        if selfId = first.selfId then some slot else none) ∧
    (state.dispatcher.msgListeners channelId).isSome

structure InStep (types : UInt64 → String) (state : Dispatching L) : Prop where
  running : state.dispatcher.isShutdown = false
  typed : ∀ channelId entry, state.dispatcher.msgListeners channelId = some entry → entry.1 = types channelId
  groups : ∀ channelId oppoId, GroupInStep types state channelId oppoId

theorem initial_inStep (types : UInt64 → String) : InStep types ({} : Dispatching L) where
  running := rfl
  typed := by simp
  groups := fun channelId oppoId =>
    { idle := by simp [baseHandler]
      busy := by simp [Registry.group] }

theorem GroupInStep.chain_run {types : UInt64 → String} {state : Dispatching L} {channelId : UInt64}
    {oppoId : Option UInt64} (group : GroupInStep types state channelId oppoId)
    (traits : MessageTraits) (msg : Message) (senderId : UInt64) (heard : oppoId = none ∨ oppoId = some senderId) :
    state.dispatcher.chain.run traits oppoId channelId (types channelId) msg senderId =
      ((state.registry.group channelId oppoId).map Registration.listener).map fun listener => (listener, msg) := by
  cases registered : state.registry.group channelId oppoId with
  | nil => simp [ChannelChain.run, (group.idle registered).1]
  | cons first rest =>
    obtain ⟨⟨handler, stored, callbacks, others⟩, _⟩ := group.busy first rest registered
    have listeners : handler.run senderId = (first :: rest).map Registration.listener := by
      unfold ListenerHandler.run
      rcases heard with rfl | rfl
      · rw [callbacks, others (some senderId) (by simp), List.append_nil]
      · rw [callbacks, others none (by simp), List.nil_append]
    simp [ChannelChain.run, stored, listeners]

theorem GroupInStep.wrappers {types : UInt64 → String} {state : Dispatching L} {channelId : UInt64}
    {oppoId : Option UInt64} (group : GroupInStep types state channelId oppoId)
    (traits : MessageTraits) (msg : Message) (senderId : UInt64) (heard : oppoId = none ∨ oppoId = some senderId) :
    (((state.baseHandler channelId).signals oppoId).callbacks.flatMap fun wrapper =>
      state.dispatcher.chain.run traits wrapper.oppoId wrapper.channelId wrapper.messageType msg senderId) =
        ((state.registry.group channelId oppoId).map Registration.listener).map fun listener => (listener, msg) := by
  cases registered : state.registry.group channelId oppoId with
  | nil => simp [Signal.callbacks, (group.idle registered).2.1]
  | cons first rest =>
    obtain ⟨_, ⟨slot, slots, _⟩, _⟩ := group.busy first rest registered
    have chained := group.chain_run traits msg senderId heard
    rw [registered] at chained
    simpa [Signal.callbacks, slots] using chained

/-- `OnMessage` with a message of the channel's type runs the wrappers of the base handler. -/
theorem onMessage_eq {types : UInt64 → String} {state : Dispatching L}
    (running : state.dispatcher.isShutdown = false)
    (typed : ∀ channelId entry, state.dispatcher.msgListeners channelId = some entry → entry.1 = types channelId)
    (traits : MessageTraits) (channelId : UInt64) (msg : Message) (senderId : UInt64)
    (type : msg.messageType = types channelId) :
    state.dispatcher.onMessage traits channelId msg senderId =
      (((state.baseHandler channelId).signals none).callbacks.flatMap fun wrapper =>
        state.dispatcher.chain.run traits wrapper.oppoId wrapper.channelId wrapper.messageType msg senderId) ++
      (((state.baseHandler channelId).signals (some senderId)).callbacks.flatMap fun wrapper =>
        state.dispatcher.chain.run traits wrapper.oppoId wrapper.channelId wrapper.messageType msg senderId) := by
  rw [← List.flatMap_append]
  unfold IntraDispatcher.onMessage
  rw [if_neg (by simp [running])]
  cases stored : state.dispatcher.msgListeners channelId with
  | none => simp [baseHandler, stored, Signal.callbacks]
  | some entry =>
    have same : entry.1 = msg.messageType := (typed channelId entry stored).trans type.symm
    simp [baseHandler, stored, same, IntraDispatcher.runWrappers, ListenerHandler.run]

theorem InStep.delivers {types : UInt64 → String} {state : Dispatching L} (inStep : InStep types state)
    (traits : MessageTraits) : state.Delivers traits types := by
  intro channelId msg senderId type
  rw [onMessage_eq inStep.running inStep.typed traits channelId msg senderId type,
    (inStep.groups channelId none).wrappers traits msg senderId (.inl rfl),
    (inStep.groups channelId (some senderId)).wrappers traits msg senderId (.inr rfl), ← List.map_append]
  exact ((state.registry.matching_perm channelId senderId).map _).symm

theorem GroupInStep.frame {types : UInt64 → String} {state next : Dispatching L} {channelId : UInt64}
    {oppoId : Option UInt64} (inStep : GroupInStep types state channelId oppoId)
    (group : next.registry.group channelId oppoId = state.registry.group channelId oppoId)
    (chain : next.dispatcher.chain.handlers oppoId channelId = state.dispatcher.chain.handlers oppoId channelId)
    (signals : (next.baseHandler channelId).signals oppoId = (state.baseHandler channelId).signals oppoId)
    (conns : (next.baseHandler channelId).conns oppoId = (state.baseHandler channelId).conns oppoId)
    (present : (state.dispatcher.msgListeners channelId).isSome → (next.dispatcher.msgListeners channelId).isSome) :
    GroupInStep types next channelId oppoId := by
  constructor
  · intro idle
    rw [chain, signals, conns]
    exact inStep.idle (group.symm.trans idle)
  · intro first rest busy
    rw [chain, signals, conns]
    have before := inStep.busy first rest (group.symm.trans busy)
    exact ⟨before.1, before.2.1, present before.2.2⟩

theorem handlers_setHandlers (chain : ChannelChain L) (oppoId other : Option UInt64) (channelId otherChannel : UInt64)
    (entries : List (String × ListenerHandler L)) :
    (chain.setHandlers oppoId channelId entries).handlers other otherChannel =
      if other = oppoId ∧ otherChannel = channelId then entries else chain.handlers other otherChannel := by
  by_cases group : other = oppoId
  · subst other
    by_cases channel : otherChannel = channelId <;> simp [ChannelChain.setHandlers, channel]
  · simp [ChannelChain.setHandlers, group]

theorem handlers_addListener_ne (chain : ChannelChain L) (selfId : UInt64) {oppoId other : Option UInt64}
    {channelId otherChannel : UInt64} (messageType : String) (listener : L)
    (different : ¬ (otherChannel = channelId ∧ other = oppoId)) :
    (chain.addListener selfId oppoId channelId messageType listener).1.handlers other otherChannel =
      chain.handlers other otherChannel := by
  have elsewhere : ¬ (other = oppoId ∧ otherChannel = channelId) := fun same => different same.symm
  unfold ChannelChain.addListener
  dsimp only
  split <;> simp [handlers_setHandlers, elsewhere]

theorem InStep.getHandler {types : UInt64 → String} {state : Dispatching L} (inStep : InStep types state)
    (channelId : UInt64) : state.dispatcher.getHandler channelId (types channelId) =
      some (state.baseHandler channelId) := by
  unfold IntraDispatcher.getHandler baseHandler
  cases stored : state.dispatcher.msgListeners channelId with
  | none => rfl
  | some entry => simp [inStep.typed channelId entry stored]

theorem InStep.added {types : UInt64 → String} {state : Dispatching L} (inStep : InStep types state)
    (channelId selfId : UInt64) (oppoId : Option UInt64) (listener : L) :
    state.dispatcher.addListenerUnder (types channelId) channelId selfId oppoId listener =
      { state.dispatcher with
        chain := (state.dispatcher.chain.addListener selfId oppoId channelId (types channelId) listener).1
        msgListeners := Function.update state.dispatcher.msgListeners channelId (some (types channelId,
          if (state.dispatcher.chain.addListener selfId oppoId channelId (types channelId) listener).2 then
            (state.baseHandler channelId).connectUnder oppoId selfId ⟨selfId, oppoId, channelId, types channelId⟩
          else state.baseHandler channelId)) } := by
  unfold IntraDispatcher.addListenerUnder
  rw [if_neg (by simp [inStep.running])]
  simp only [inStep.getHandler channelId]

theorem baseHandler_update (state : Dispatching L) (chain : ChannelChain L) (registry : Registry L)
    (channelId other : UInt64) (entry : String × ListenerHandler Wrapper) :
    baseHandler ⟨{ state.dispatcher with
        chain := chain, msgListeners := Function.update state.dispatcher.msgListeners channelId (some entry) },
      registry⟩ other = if other = channelId then entry.2 else state.baseHandler other := by
  by_cases channel : other = channelId
  · subst other
    simp [baseHandler]
  · simp [baseHandler, channel]

theorem InStep.add {types : UInt64 → String} {state : Dispatching L} (inStep : InStep types state)
    (channelId selfId : UInt64) (oppoId : Option UInt64) (listener : L) :
    InStep types
      ⟨state.dispatcher.addListenerUnder (types channelId) channelId selfId oppoId listener,
        state.registry ++ [⟨channelId, oppoId, selfId, listener⟩]⟩ := by
  rw [inStep.added channelId selfId oppoId listener]
  refine ⟨inStep.running, ?_, ?_⟩
  · intro otherChannel entry stored
    by_cases channel : otherChannel = channelId
    · subst otherChannel
      simp only [Function.update_self, Option.some.injEq] at stored
      rw [← stored]
    · simp only [Function.update_of_ne channel] at stored
      exact inStep.typed otherChannel entry stored
  · intro otherChannel other
    have before := inStep.groups otherChannel other
    by_cases here : otherChannel = channelId ∧ other = oppoId
    · obtain ⟨rfl, rfl⟩ := here
      have grown : Registry.group (state.registry ++ [⟨otherChannel, other, selfId, listener⟩]) otherChannel other =
          state.registry.group otherChannel other ++ [⟨otherChannel, other, selfId, listener⟩] := by
        simp [Registry.group_append]
      cases registered : state.registry.group otherChannel other with
      | nil =>
        obtain ⟨chain, slots, conns⟩ := before.idle registered
        refine ⟨by simp [grown], ?_⟩
        intro first rest busy
        rw [grown, registered] at busy
        obtain ⟨rfl, rfl⟩ := List.cons.inj busy
        have created : (state.dispatcher.chain.addListener selfId other otherChannel (types otherChannel) listener).2 =
            true := by
          simp [ChannelChain.addListener, chain]
        refine ⟨⟨({} : ListenerHandler L).connectUnder other selfId listener, ?_, ?_, ?_⟩, ?_, by simp⟩
        · simp [ChannelChain.addListener, chain, handlers_setHandlers]
        · simp [Signal.callbacks, Signal.connect]
        · intro elsewhere different
          simp [different, Signal.callbacks]
        · rw [baseHandler_update, if_pos rfl]
          simp only [created, ↓reduceIte]
          refine ⟨((state.baseHandler otherChannel).signals other).nextSlot, ?_, ?_⟩
          · simp [Signal.connect, slots]
          · intro id
            simp [ListenerHandler.conns_connectUnder, conns]
      | cons first rest =>
        obtain ⟨⟨handler, chain, callbacks, others⟩, ⟨slot, slots, conns⟩, present⟩ :=
          before.busy first rest registered
        refine ⟨by simp [grown], ?_⟩
        intro oldest newer busy
        rw [grown, registered] at busy
        obtain ⟨rfl, rfl⟩ := List.cons.inj busy
        have found : (state.dispatcher.chain.addListener selfId other otherChannel (types otherChannel) listener).2 =
            false := by
          simp [ChannelChain.addListener, chain]
        refine ⟨⟨handler.connectUnder other selfId listener, ?_, ?_, ?_⟩, ?_, by simp⟩
        · simp [ChannelChain.addListener, chain, handlers_setHandlers]
        · simp [callbacks]
        · intro elsewhere different
          simpa [different] using others elsewhere different
        · rw [baseHandler_update, if_pos rfl]
          simp only [found, Bool.false_eq_true, ↓reduceIte]
          exact ⟨slot, slots, conns⟩
    · apply before.frame
      · rw [Registry.group_append, if_neg (fun same => here ⟨same.1.symm, same.2.symm⟩)]
      · exact handlers_addListener_ne _ _ _ _ here
      · rw [baseHandler_update]
        split
        · rename_i channel
          have elsewhere : other ≠ oppoId := fun same => here ⟨channel, same⟩
          split <;> simp [elsewhere, channel]
        · rfl
      · rw [baseHandler_update]
        split
        · rename_i channel
          have elsewhere : other ≠ oppoId := fun same => here ⟨channel, same⟩
          funext id
          split <;> simp [ListenerHandler.conns_connectUnder, elsewhere, channel]
        · rfl
      · by_cases channel : otherChannel = channelId <;> simp [channel]

theorem handlers_removeListener (chain : ChannelChain L) (oppoId other : Option UInt64)
    (channelId otherChannel : UInt64) (messageType : String) :
    (chain.removeListener oppoId channelId messageType).handlers other otherChannel =
      if other = oppoId ∧ otherChannel = channelId then
        (chain.handlers oppoId channelId).filter fun entry => entry.1 ≠ messageType
      else chain.handlers other otherChannel :=
  handlers_setHandlers chain oppoId other channelId otherChannel _

theorem InStep.removed_dispatcher {types : UInt64 → String} {state : Dispatching L} (inStep : InStep types state)
    (channelId selfId : UInt64) (oppoId : Option UInt64) :
    state.dispatcher.removeListenerUnder (types channelId) channelId selfId oppoId =
      { state.dispatcher with
        msgListeners := Function.update state.dispatcher.msgListeners channelId
          ((state.dispatcher.msgListeners channelId).map fun entry => (entry.1, entry.2.disconnectUnder oppoId selfId))
        chain := state.dispatcher.chain.removeListener oppoId channelId (types channelId) } := by
  unfold IntraDispatcher.removeListenerUnder
  rw [if_neg (by simp [inStep.running])]

theorem baseHandler_disconnect (state : Dispatching L) (chain : ChannelChain L) (registry : Registry L)
    (channelId other selfId : UInt64) (oppoId : Option UInt64) :
    baseHandler ⟨{ state.dispatcher with
        msgListeners := Function.update state.dispatcher.msgListeners channelId
          ((state.dispatcher.msgListeners channelId).map fun entry => (entry.1, entry.2.disconnectUnder oppoId selfId))
        chain := chain }, registry⟩ other =
      if other = channelId then (state.baseHandler channelId).disconnectUnder oppoId selfId
      else state.baseHandler other := by
  by_cases channel : other = channelId
  · subst other
    cases stored : state.dispatcher.msgListeners channelId with
    | none => simp [baseHandler, stored, ListenerHandler.disconnectUnder]
    | some entry => simp [baseHandler, stored]
  · simp [baseHandler, channel]

/-- A removal as the callers see it: from the dispatcher and from the registry. -/
def removed (state : Dispatching L) (messageType : String) (channelId selfId : UInt64) (oppoId : Option UInt64) :
    Dispatching L :=
  ⟨state.dispatcher.removeListenerUnder messageType channelId selfId oppoId,
    state.registry.remove channelId oppoId selfId⟩

theorem InStep.removed_typed {types : UInt64 → String} {state : Dispatching L} (inStep : InStep types state)
    (channelId selfId : UInt64) (oppoId : Option UInt64) (otherChannel : UInt64)
    (entry : String × ListenerHandler Wrapper)
    (stored : (state.removed (types channelId) channelId selfId oppoId).dispatcher.msgListeners otherChannel =
      some entry) : entry.1 = types otherChannel := by
  rw [removed, inStep.removed_dispatcher channelId selfId oppoId] at stored
  by_cases channel : otherChannel = channelId
  · subst otherChannel
    simp only [Function.update_self, Option.map_eq_some_iff] at stored
    obtain ⟨before, present, rfl⟩ := stored
    exact inStep.typed channelId before present
  · simp only [Function.update_of_ne channel] at stored
    exact inStep.typed otherChannel entry stored

theorem InStep.removed_other {types : UInt64 → String} {state : Dispatching L} (inStep : InStep types state)
    {channelId selfId otherChannel : UInt64} {oppoId other : Option UInt64}
    (different : ¬ (otherChannel = channelId ∧ other = oppoId)) :
    GroupInStep types (state.removed (types channelId) channelId selfId oppoId) otherChannel other := by
  rw [removed, inStep.removed_dispatcher channelId selfId oppoId]
  apply (inStep.groups otherChannel other).frame
  · exact Registry.group_remove_ne _ _ different
  · rw [handlers_removeListener, if_neg (fun same => different same.symm)]
  · rw [baseHandler_disconnect]
    split
    · rename_i channel
      have elsewhere : other ≠ oppoId := fun same => different ⟨channel, same⟩
      simp [elsewhere, channel]
    · rfl
  · rw [baseHandler_disconnect]
    split
    · rename_i channel
      have elsewhere : other ≠ oppoId := fun same => different ⟨channel, same⟩
      funext id
      simp [ListenerHandler.conns_disconnectUnder, elsewhere, channel]
    · rfl
  · by_cases channel : otherChannel = channelId
    · subst otherChannel
      simp
    · simp [channel]

theorem InStep.removed_chain {types : UInt64 → String} {state : Dispatching L} (inStep : InStep types state)
    (channelId selfId : UInt64) (oppoId : Option UInt64) :
    (state.removed (types channelId) channelId selfId oppoId).dispatcher.chain.handlers oppoId channelId = [] := by
  rw [removed, inStep.removed_dispatcher channelId selfId oppoId]
  dsimp only
  rw [handlers_removeListener, if_pos ⟨rfl, rfl⟩]
  have group := inStep.groups channelId oppoId
  cases registered : state.registry.group channelId oppoId with
  | nil => simp [(group.idle registered).1]
  | cons first rest =>
    obtain ⟨⟨handler, chain, _⟩, _⟩ := group.busy first rest registered
    simp [chain]

theorem InStep.remove {types : UInt64 → String} {state : Dispatching L} (inStep : InStep types state)
    (channelId selfId : UInt64) (oppoId : Option UInt64)
    (last : ∀ entry ∈ state.registry.group channelId oppoId, entry.selfId = selfId) :
    InStep types (state.removed (types channelId) channelId selfId oppoId) := by
  have equation := inStep.removed_dispatcher channelId selfId oppoId
  refine ⟨by rw [removed, equation]; exact inStep.running, inStep.removed_typed channelId selfId oppoId, ?_⟩
  intro otherChannel other
  by_cases here : otherChannel = channelId ∧ other = oppoId
  · obtain ⟨rfl, rfl⟩ := here
    have emptied : (state.registry.remove otherChannel other selfId).group otherChannel other = [] := by
      rw [Registry.group_remove_self, List.filter_eq_nil_iff]
      intro entry member
      simpa using last entry member
    refine ⟨fun _ => ⟨inStep.removed_chain otherChannel selfId other, ?_⟩,
      fun first rest busy => by simp [removed, emptied] at busy⟩
    rw [removed, equation, baseHandler_disconnect, if_pos rfl]
    have before := inStep.groups otherChannel other
    cases registered : state.registry.group otherChannel other with
    | nil =>
      obtain ⟨_, slots, conns⟩ := before.idle registered
      rw [ListenerHandler.disconnectUnder_absent (conns selfId)]
      exact ⟨slots, conns⟩
    | cons first rest =>
      obtain ⟨_, ⟨slot, slots, conns⟩, _⟩ := before.busy first rest registered
      have oldest : first.selfId = selfId := last first (by simp [registered])
      refine ⟨?_, ?_⟩
      · simp [ListenerHandler.disconnectUnder, conns, oldest, Signal.disconnect, slots]
      · intro id
        rw [ListenerHandler.conns_disconnectUnder, conns id, oldest]
        by_cases self : id = selfId <;> simp [self]
  · exact inStep.removed_other here

theorem InStep.removed_wrappers {types : UInt64 → String} {state : Dispatching L} (inStep : InStep types state)
    (traits : MessageTraits) (channelId selfId : UInt64) (oppoId : Option UInt64) (msg : Message) (senderId : UInt64) :
    let next := state.removed (types channelId) channelId selfId oppoId
    (((next.baseHandler channelId).signals oppoId).callbacks.flatMap fun wrapper =>
      next.dispatcher.chain.run traits wrapper.oppoId wrapper.channelId wrapper.messageType msg senderId) = [] := by
  intro next
  rw [List.flatMap_eq_nil_iff]
  intro wrapper member
  have captured : wrapper.oppoId = oppoId ∧ wrapper.channelId = channelId := by
    have subset : ((next.baseHandler channelId).signals oppoId).slots ⊆
        ((state.baseHandler channelId).signals oppoId).slots := by
      simp only [next, removed, inStep.removed_dispatcher channelId selfId oppoId]
      rw [baseHandler_disconnect, if_pos rfl]
      unfold ListenerHandler.disconnectUnder
      split
      · exact List.Subset.refl _
      · simp [Signal.disconnect]
    obtain ⟨entry, stored, rfl⟩ := List.mem_map.mp member
    have group := inStep.groups channelId oppoId
    cases registered : state.registry.group channelId oppoId with
    | nil => simpa [(group.idle registered).2.1] using subset stored
    | cons first rest =>
      obtain ⟨_, ⟨slot, slots, _⟩, _⟩ := group.busy first rest registered
      have only : entry = (slot, ⟨first.selfId, oppoId, channelId, types channelId⟩) := by
        simpa [slots] using subset stored
      simp [only]
  rw [ChannelChain.run, captured.1, captured.2, inStep.removed_chain channelId selfId oppoId]
  rfl

/-- A removal that finds another listener of its group cuts that listener off. -/
theorem InStep.removed_not_delivers {types : UInt64 → String} {state : Dispatching L} (inStep : InStep types state)
    (traits : MessageTraits) (channelId selfId : UInt64) (oppoId : Option UInt64) (entry : Registration L)
    (member : entry ∈ state.registry.group channelId oppoId) (kept : entry.selfId ≠ selfId) :
    ¬ (state.removed (types channelId) channelId selfId oppoId).Delivers traits types := by
  intro delivers
  let next := state.removed (types channelId) channelId selfId oppoId
  let msg : Message := ⟨types channelId, []⟩
  have running : next.dispatcher.isShutdown = false := by
    simp only [next, removed, inStep.removed_dispatcher channelId selfId oppoId]
    exact inStep.running
  have remains : 0 < (next.registry.group channelId oppoId).length := by
    apply List.length_pos_of_mem (a := entry)
    simp only [next, removed]
    rw [Registry.group_remove_self, List.mem_filter]
    exact ⟨member, by simpa using kept⟩
  have lengths : ∀ senderId, (next.dispatcher.onMessage traits channelId msg senderId).length =
      (next.registry.group channelId none).length + (next.registry.group channelId (some senderId)).length := by
    intro senderId
    have perm := (delivers channelId msg senderId rfl).trans ((next.registry.matching_perm channelId senderId).map _)
    simpa using perm.length_eq
  have calls := fun senderId =>
    onMessage_eq running (inStep.removed_typed channelId selfId oppoId) traits channelId msg senderId rfl
  cases oppoId with
  | none =>
    have silent := inStep.removed_wrappers traits channelId selfId none msg selfId
    have others : GroupInStep types next channelId (some selfId) := inStep.removed_other (by simp)
    have count := lengths selfId
    rw [calls selfId, silent, others.wrappers traits msg selfId (.inr rfl)] at count
    simp only [List.nil_append, List.length_map] at count
    omega
  | some opposite =>
    have silent := inStep.removed_wrappers traits channelId selfId (some opposite) msg opposite
    have others : GroupInStep types next channelId none := inStep.removed_other (by simp)
    have count := lengths opposite
    rw [calls opposite, silent, others.wrappers traits msg opposite (.inl rfl)] at count
    simp only [List.append_nil, List.length_map] at count
    omega

theorem step_remove (state : Dispatching L) (messageType : String) (selfAttr : RoleAttributes)
    (oppositeAttr : Option RoleAttributes) : step state (.remove messageType selfAttr oppositeAttr) =
      some (state.removed messageType selfAttr.channelId selfAttr.id (oppositeAttr.map RoleAttributes.id)) := by
  cases oppositeAttr <;> rfl

theorem step_inStep (types : UInt64 → String) (state : Dispatching L) (event : ListenerEvent L)
    (next : Dispatching L) (meets : Proper types state event ∧ RemovesLast state event)
    (taken : step state event = some next) (inStep : InStep types state) : InStep types next := by
  cases event with
  | add messageType selfAttr oppositeAttr listener =>
    obtain rfl := Option.some.inj taken
    obtain rfl : messageType = types selfAttr.channelId := meets.1.1
    cases oppositeAttr with
    | none => exact inStep.add selfAttr.channelId selfAttr.id none listener
    | some opposite => exact inStep.add selfAttr.channelId selfAttr.id (some opposite.id) listener
  | remove messageType selfAttr oppositeAttr =>
    rw [step_remove] at taken
    obtain rfl := Option.some.inj taken
    obtain rfl : messageType = types selfAttr.channelId := meets.1
    exact inStep.remove selfAttr.channelId selfAttr.id _ meets.2

theorem removesLast_of_delivers {types : UInt64 → String} {state next : Dispatching L} {event : ListenerEvent L}
    (inStep : InStep types state) (traits : MessageTraits) (proper : Proper types state event)
    (taken : step state event = some next) (delivers : next.Delivers traits types) : RemovesLast state event := by
  cases event with
  | add messageType selfAttr oppositeAttr listener => trivial
  | remove messageType selfAttr oppositeAttr =>
    rw [step_remove] at taken
    obtain rfl := Option.some.inj taken
    obtain rfl : messageType = types selfAttr.channelId := proper
    intro entry member
    by_contra kept
    exact inStep.removed_not_delivers traits _ _ _ entry member kept delivers

/-- Every state that the events reach one after the other. -/
def Reaches (state : Dispatching L) (events : List (ListenerEvent L)) (reached : Dispatching L) : Prop :=
  ∃ before after, events = before ++ after ∧ run step state before = some reached

theorem InStep.delivers_iff {types : UInt64 → String} (traits : MessageTraits) (events : List (ListenerEvent L))
    (state : Dispatching L) (inStep : InStep types state) (proper : Meets step (Proper types) state events) :
    (∀ reached, Reaches state events reached → reached.Delivers traits types) ↔ Meets step RemovesLast state events := by
  induction events generalizing state with
  | nil =>
    refine ⟨fun _ => trivial, ?_⟩
    rintro _ reached ⟨before, after, split, ran⟩
    obtain ⟨rfl, rfl⟩ := List.append_eq_nil_iff.mp split.symm
    obtain rfl := Option.some.inj ran
    exact inStep.delivers traits
  | cons event events ih =>
    constructor
    · intro delivers
      have first : ∀ next, step state event = some next → RemovesLast state event ∧ next.Delivers traits types := by
        intro next taken
        have reached := delivers next ⟨[event], events, rfl, by simp [run_cons, taken]⟩
        exact ⟨removesLast_of_delivers inStep traits proper.1 taken reached, reached⟩
      obtain ⟨next, taken⟩ : ∃ next, step state event = some next := by cases event <;> exact ⟨_, rfl⟩
      refine ⟨(first next taken).1, ?_⟩
      intro other same
      obtain rfl := Option.some.inj (taken.symm.trans same)
      have kept := step_inStep types state event next ⟨proper.1, (first next taken).1⟩ taken inStep
      apply (ih next kept (proper.2 next taken)).mp
      rintro reached ⟨before, after, split, ran⟩
      exact delivers reached ⟨event :: before, after, by simp [split], by simp [run_cons, taken, ran]⟩
    · rintro ⟨last, rest⟩ reached ⟨before, after, split, ran⟩
      cases before with
      | nil =>
        obtain rfl := Option.some.inj ran
        exact inStep.delivers traits
      | cons head before =>
        obtain ⟨rfl, rfl⟩ := List.cons.inj split
        obtain ⟨next, taken, ran⟩ := run_cons_some ran
        have kept := step_inStep types state event next ⟨proper.1, last⟩ taken inStep
        exact (ih next kept (proper.2 next taken)).mpr (rest next taken) reached ⟨before, after, rfl, ran⟩

/-- Delivery is exact in every state of a run if and only if every removal finds no other listener
    registered for its channel and opposite. -/
theorem delivers_iff_removesLast (traits : MessageTraits) (types : UInt64 → String)
    (events : List (ListenerEvent L)) (proper : Meets step (Proper types) {} events) :
    (∀ state, Reaches {} events state → state.Delivers traits types) ↔ Meets step RemovesLast {} events :=
  InStep.delivers_iff traits events {} (initial_inStep types) proper

def noTraits : MessageTraits := ⟨fun _ => none, fun _ _ => none⟩

def chatterAttr (id : UInt64) : RoleAttributes := ⟨"10.0.0.1", 100, "/chatter", 5, "Chatter", id, {}⟩

def takeTurns : List (ListenerEvent Nat) :=
  [.add "Chatter" (chatterAttr 1) none 10, .remove "Chatter" (chatterAttr 1) none,
    .add "Chatter" (chatterAttr 2) none 20, .add "Chatter" (chatterAttr 1) (some (chatterAttr 9)) 30]

theorem takeTurns_delivers :
    Meets step (Proper fun _ => "Chatter") {} takeTurns ∧
      ∀ state, Reaches {} takeTurns state → state.Delivers noTraits fun _ => "Chatter" := by
  have proper : Meets step (Proper fun _ => "Chatter") {} takeTurns := by
    simp only [takeTurns, Meets, step, Proper, Registry.group, Registry.remove, chatterAttr]
    simp
    rintro entry (⟨rfl, _⟩ | rfl) <;> simp
  refine ⟨proper, (delivers_iff_removesLast noTraits (fun _ => "Chatter") takeTurns proper).mpr ?_⟩
  simp [takeTurns, Meets, step, RemovesLast, Registry.group, Registry.remove, chatterAttr]

/-- Removing the first of two listeners silences the second. -/
theorem removed_sibling_silenced : ∃ state : Dispatching Nat,
    run step {} [.add "Chatter" (chatterAttr 1) none 10, .add "Chatter" (chatterAttr 2) none 20,
      .remove "Chatter" (chatterAttr 1) none] = some state ∧
    state.registry.matching 5 9 = [20] ∧
    state.dispatcher.onMessage noTraits 5 ⟨"Chatter", []⟩ 9 = [] ∧
    ¬ state.Delivers noTraits fun _ => "Chatter" := by
  refine ⟨_, rfl, by decide, by decide, fun delivers => ?_⟩
  exact absurd (delivers 5 ⟨"Chatter", []⟩ 9 rfl) (by decide)

end Dispatching

end CyberRT.Transport

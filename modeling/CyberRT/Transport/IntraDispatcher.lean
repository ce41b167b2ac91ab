import Mathlib.Data.List.Perm.Basic
import CyberRT.Execution.Run
import CyberRT.Transport.Listener

namespace CyberRT.Transport

open Execution

structure Message where
  messageType : String
  content : List UInt8
  deriving DecidableEq, Repr

/-- `message::FullByteSize` with `SerializeToHC`, and `ParseFromHC` into a message type. -/
structure MessageTraits where
  serializeToHC : Message → Option (List UInt8)
  parseFromHC : String → List UInt8 → Option Message

/-- `handlers_` under `none` and `oppo_handlers_[oppo_id]` under `some oppo_id`, each a table from
    channels to the handlers of its message types; an absent channel and an absent opposite are empty. -/
structure ChannelChain (L : Type) where
  handlers : Option UInt64 → UInt64 → List (String × ListenerHandler L) := fun _ _ => []

namespace ChannelChain

variable {L : Type}

def setHandlers (chain : ChannelChain L) (oppoId : Option UInt64) (channelId : UInt64)
    (entries : List (String × ListenerHandler L)) : ChannelChain L :=
  ⟨Function.update chain.handlers oppoId (Function.update (chain.handlers oppoId) channelId entries)⟩

/-- `AddListener`; the flag says that `GetHandler` created the handler. -/
def addListener (chain : ChannelChain L) (selfId : UInt64) (oppoId : Option UInt64) (channelId : UInt64)
    (messageType : String) (listener : L) : ChannelChain L × Bool :=
  let entries := chain.handlers oppoId channelId
  if entries.any fun entry => entry.1 = messageType then
    (chain.setHandlers oppoId channelId (entries.map fun entry =>
      if entry.1 = messageType then (entry.1, entry.2.connectUnder oppoId selfId listener) else entry), false)
  else
    (chain.setHandlers oppoId channelId
      (entries ++ [(messageType, ({} : ListenerHandler L).connectUnder oppoId selfId listener)]), true)

/-- `RemoveListener` takes the whole handler of the message type out of the table and disconnects the
    listener from what it has taken out. -/
def removeListener (chain : ChannelChain L) (oppoId : Option UInt64) (channelId : UInt64)
    (messageType : String) : ChannelChain L :=
  chain.setHandlers oppoId channelId ((chain.handlers oppoId channelId).filter fun entry => entry.1 ≠ messageType)

def runFromString (traits : MessageTraits) (messageType : String) (handler : ListenerHandler L)
    (str : List UInt8) (senderId : UInt64) : List (L × Message) :=
  match traits.parseFromHC messageType str with
  | none => []
  | some msg => (handler.run senderId).map fun listener => (listener, msg)

def run (traits : MessageTraits) (chain : ChannelChain L) (oppoId : Option UInt64) (channelId : UInt64)
    (messageType : String) (msg : Message) (senderId : UInt64) : List (L × Message) :=
  (chain.handlers oppoId channelId).flatMap fun entry =>
    if messageType = entry.1 then (entry.2.run senderId).map fun listener => (listener, msg)
    else match traits.serializeToHC msg with
      | none | some [] => []
      | some str => runFromString traits entry.1 entry.2 str senderId

end ChannelChain

structure Wrapper where
  selfId : UInt64
  oppoId : Option UInt64
  channelId : UInt64
  messageType : String
  deriving DecidableEq, Repr

structure IntraDispatcher (L : Type) where
  isShutdown : Bool := false
  msgListeners : UInt64 → Option (String × ListenerHandler Wrapper) := fun _ => none
  chain : ChannelChain L := {}

namespace IntraDispatcher

variable {L : Type}

/-- The base `GetHandler`: a handler of another message type is left alone and not returned. -/
def getHandler (d : IntraDispatcher L) (channelId : UInt64) (messageType : String) :
    Option (ListenerHandler Wrapper) :=
  match d.msgListeners channelId with
  | some (type, handler) => if type = messageType then some handler else none
  | none => some {}

def addListenerUnder (d : IntraDispatcher L) (messageType : String) (channelId selfId : UInt64)
    (oppoId : Option UInt64) (listener : L) : IntraDispatcher L :=
  if d.isShutdown then d else
  let (chain, created) := d.chain.addListener selfId oppoId channelId messageType listener
  match d.getHandler channelId messageType with
  | none => { d with chain := chain }
  | some handler =>
    let connected := if created then
      handler.connectUnder oppoId selfId ⟨selfId, oppoId, channelId, messageType⟩ else handler
    { d with chain := chain, msgListeners := Function.update d.msgListeners channelId (some (messageType, connected)) }

def removeListenerUnder (d : IntraDispatcher L) (messageType : String) (channelId selfId : UInt64)
    (oppoId : Option UInt64) : IntraDispatcher L :=
  if d.isShutdown then d else
  { d with
    msgListeners := Function.update d.msgListeners channelId
      ((d.msgListeners channelId).map fun entry => (entry.1, entry.2.disconnectUnder oppoId selfId))
    chain := d.chain.removeListener oppoId channelId messageType }

def addListener (d : IntraDispatcher L) (messageType : String) (selfAttr : RoleAttributes) (listener : L) :
    IntraDispatcher L :=
  d.addListenerUnder messageType selfAttr.channelId selfAttr.id none listener

def addListenerOpposite (d : IntraDispatcher L) (messageType : String) (selfAttr oppositeAttr : RoleAttributes)
    (listener : L) : IntraDispatcher L :=
  d.addListenerUnder messageType selfAttr.channelId selfAttr.id (some oppositeAttr.id) listener

def removeListener (d : IntraDispatcher L) (messageType : String) (selfAttr : RoleAttributes) : IntraDispatcher L :=
  d.removeListenerUnder messageType selfAttr.channelId selfAttr.id none

def removeListenerOpposite (d : IntraDispatcher L) (messageType : String)
    (selfAttr oppositeAttr : RoleAttributes) : IntraDispatcher L :=
  d.removeListenerUnder messageType selfAttr.channelId selfAttr.id (some oppositeAttr.id)

def runWrappers (traits : MessageTraits) (d : IntraDispatcher L) (handler : ListenerHandler Wrapper)
    (msg : Message) (senderId : UInt64) : List (L × Message) :=
  (handler.run senderId).flatMap fun wrapper =>
    d.chain.run traits wrapper.oppoId wrapper.channelId wrapper.messageType msg senderId

/-- The listeners that `OnMessage` calls, each with the message it is given. -/
def onMessage (traits : MessageTraits) (d : IntraDispatcher L) (channelId : UInt64) (msg : Message)
    (senderId : UInt64) : List (L × Message) :=
  if d.isShutdown then [] else
  match d.msgListeners channelId with
  | none => []
  | some (type, handler) =>
    if type = msg.messageType then d.runWrappers traits handler msg senderId
    else match traits.serializeToHC msg with
      | none => []
      | some str => match traits.parseFromHC type str with
        | none => []
        | some parsed => d.runWrappers traits handler parsed senderId

end IntraDispatcher

/-- A listener that has been added and not removed. -/
structure Registration (L : Type) where
  channelId : UInt64
  oppoId : Option UInt64
  selfId : UInt64
  listener : L

/-- What a dispatcher is for: the registrations in the order in which they were made. -/
abbrev Registry (L : Type) := List (Registration L)

namespace Registry

variable {L : Type}

def group (registry : Registry L) (channelId : UInt64) (oppoId : Option UInt64) : List (Registration L) :=
  registry.filter fun entry => entry.channelId = channelId ∧ entry.oppoId = oppoId

def remove (registry : Registry L) (channelId : UInt64) (oppoId : Option UInt64) (selfId : UInt64) : Registry L :=
  registry.filter fun entry => ¬ (entry.channelId = channelId ∧ entry.oppoId = oppoId ∧ entry.selfId = selfId)

/-- The listeners of a channel without an opposite or with the sender as their opposite. -/
def matching (registry : Registry L) (channelId senderId : UInt64) : List L :=
  (registry.filter fun entry => entry.channelId = channelId ∧
    (entry.oppoId = none ∨ entry.oppoId = some senderId)).map Registration.listener

theorem matching_perm (registry : Registry L) (channelId senderId : UInt64) :
    (registry.matching channelId senderId).Perm ((registry.group channelId none).map Registration.listener ++
      (registry.group channelId (some senderId)).map Registration.listener) := by
  unfold matching group
  rw [← List.map_append]
  apply List.Perm.map
  induction registry with
  | nil => simp
  | cons entry registry ih =>
    by_cases channel : entry.channelId = channelId
    · rcases opposite : entry.oppoId with _ | id
      · simpa [channel, opposite] using ih
      · by_cases sender : id = senderId
        · subst id
          simpa [channel, opposite] using (ih.cons entry).trans List.perm_middle.symm
        · simpa [channel, opposite, sender] using ih
    · simpa [channel] using ih

theorem group_append (registry : Registry L) (entry : Registration L) (channelId : UInt64)
    (oppoId : Option UInt64) : Registry.group (registry ++ [entry]) channelId oppoId =
      if entry.channelId = channelId ∧ entry.oppoId = oppoId then registry.group channelId oppoId ++ [entry]
      else registry.group channelId oppoId := by
  unfold group
  rw [List.filter_append]
  split
  · rename_i same
    simp [same]
  · rename_i different
    simp [different]

theorem group_remove_ne (registry : Registry L) {channelId otherChannel : UInt64} {oppoId other : Option UInt64}
    (selfId : UInt64) (different : ¬ (otherChannel = channelId ∧ other = oppoId)) :
    (registry.remove channelId oppoId selfId).group otherChannel other = registry.group otherChannel other := by
  unfold group remove
  rw [List.filter_filter]
  apply List.filter_congr
  intro entry _
  by_cases here : entry.channelId = otherChannel ∧ entry.oppoId = other
  · obtain ⟨rfl, rfl⟩ := here
    by_cases channel : entry.channelId = channelId
    · have opposite : entry.oppoId ≠ oppoId := fun equal => different ⟨channel, equal⟩
      simp [opposite]
    · simp [channel]
  · simp [here]

theorem group_remove_self (registry : Registry L) (channelId : UInt64) (oppoId : Option UInt64) (selfId : UInt64) :
    (registry.remove channelId oppoId selfId).group channelId oppoId =
      (registry.group channelId oppoId).filter fun entry => entry.selfId ≠ selfId := by
  unfold group remove
  rw [List.filter_filter, List.filter_filter]
  apply List.filter_congr
  intro entry _
  by_cases channel : entry.channelId = channelId <;> by_cases opposite : entry.oppoId = oppoId <;>
    simp [channel, opposite]

end Registry

end CyberRT.Transport

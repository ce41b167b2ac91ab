import Mathlib.Data.List.Basic
import Mathlib.Logic.Function.Basic
import CyberRT.Data.CacheBuffer
import CyberRT.Execution.Run

namespace CyberRT.Data

/-- A visitor with its buffer. Messages are numbered from one in the order of the fills; `filled` has them all, and
    `delivered` what `TryFetch` gave, each with the index it was fetched at. -/
structure DataVisitor (Message : Type) where
  buffer : CacheBuffer Message
  nextMsgIndex : Nat := 0
  filled : List Message := []
  delivered : List (Nat × Option Message) := []

namespace DataVisitor

variable {Message : Type}

def ofSize (queueSize : Nat) : DataVisitor Message := { buffer := .ofSize queueSize }

variable (visitor : DataVisitor Message)

def fill (msg : Message) : DataVisitor Message :=
  { visitor with buffer := visitor.buffer.fill msg, filled := visitor.filled ++ [msg] }

/-- What the next `TryFetch` gives, with the index it fetches at. -/
def upcoming : Option (Nat × Option Message) := visitor.buffer.fetch visitor.nextMsgIndex

def tryFetch : DataVisitor Message :=
  match visitor.upcoming with
  | some (index, msg) =>
    { visitor with nextMsgIndex := index + 1, delivered := visitor.delivered ++ [(index, msg)] }
  | none => visitor

/-- The number of the message delivered last, zero before the first. -/
def lastDelivered : Nat := (visitor.delivered.getLast?.map Prod.fst).getD 0

end DataVisitor

/-- `DataDispatcher` with the visitors behind the buffers it knows, and for each thread the rest of its loop in
    `Dispatch`. An expired visitor is one whose weak pointer no longer locks. -/
structure DataDispatcher (Thread Channel Visitor Message : Type) where
  isShutdown : Bool := false
  buffersMap : Channel → Option (List Visitor)
  visitors : Visitor → DataVisitor Message
  expired : Visitor → Bool := fun _ => false
  dispatching : Thread → Option (Message × List Visitor) := fun _ => none

inductive DispatchEvent (Thread Channel Visitor Message : Type) where
  | dispatch (thread : Thread) (channel : Channel) (msg : Message)
  | fill (thread : Thread)
  | tryFetch (visitor : Visitor)
  | release (visitor : Visitor)
  | shutdown

namespace DataDispatcher

variable {Thread Channel Visitor Message : Type} [DecidableEq Thread] [DecidableEq Visitor]

/-- Visitors that have all been added before the first message. -/
def start (buffersMap : Channel → Option (List Visitor)) (queueSize : Visitor → Nat) :
    DataDispatcher Thread Channel Visitor Message where
  buffersMap := buffersMap
  visitors visitor := .ofSize (queueSize visitor)

variable (dispatcher : DataDispatcher Thread Channel Visitor Message)

def setVisitor (visitor : Visitor) (value : DataVisitor Message) : DataDispatcher Thread Channel Visitor Message :=
  { dispatcher with visitors := Function.update dispatcher.visitors visitor value }

def setThread (thread : Thread) (rest : Option (Message × List Visitor)) :
    DataDispatcher Thread Channel Visitor Message :=
  { dispatcher with dispatching := Function.update dispatcher.dispatching thread rest }

def dispatch (thread : Thread) (channel : Channel) (msg : Message) :
    Option (DataDispatcher Thread Channel Visitor Message) :=
  match dispatcher.dispatching thread with
  | some _ => none
  | none =>
    if dispatcher.isShutdown then some dispatcher
    else
      match dispatcher.buffersMap channel with
      | none => some dispatcher
      | some buffers => some (dispatcher.setThread thread (some (msg, buffers)))

/-- One round of the loop of `Dispatch`, which holds the lock of the buffer during the fill. -/
def fillNext (thread : Thread) : Option (DataDispatcher Thread Channel Visitor Message) :=
  match dispatcher.dispatching thread with
  | none => none
  | some (_, []) => some (dispatcher.setThread thread none)
  | some (msg, visitor :: rest) =>
    let advanced := dispatcher.setThread thread (some (msg, rest))
    if dispatcher.expired visitor then some advanced
    else some (advanced.setVisitor visitor ((dispatcher.visitors visitor).fill msg))

def step (dispatcher : DataDispatcher Thread Channel Visitor Message) :
    DispatchEvent Thread Channel Visitor Message → Option (DataDispatcher Thread Channel Visitor Message)
  | .dispatch thread channel msg => dispatcher.dispatch thread channel msg
  | .fill thread => dispatcher.fillNext thread
  | .tryFetch visitor =>
    if dispatcher.expired visitor then none
    else some (dispatcher.setVisitor visitor (dispatcher.visitors visitor).tryFetch)
  | .release visitor => some { dispatcher with expired := Function.update dispatcher.expired visitor true }
  | .shutdown => some { dispatcher with isShutdown := true }

end DataDispatcher

end CyberRT.Data

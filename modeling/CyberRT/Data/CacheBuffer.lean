import Mathlib.Data.Nat.Notation

namespace CyberRT.Data

/-- The ring of a visitor, over pointers to messages; `none` is the null pointer of a slot never filled. -/
structure CacheBuffer (Message : Type) where
  head : Nat := 0
  tail : Nat := 0
  capacity : Nat
  buffer : List (Option Message)

namespace CacheBuffer

variable {Message : Type}

def ofSize (size : Nat) : CacheBuffer Message where
  capacity := size + 1
  buffer := List.replicate (size + 1) none

variable (cache : CacheBuffer Message)

def getIndex (pos : Nat) : Nat := pos % cache.capacity

def at_ (pos : Nat) : Option Message := (cache.buffer[cache.getIndex pos]?).join

def headIndex : Nat := cache.head + 1

def isEmpty : Bool := cache.tail = 0

def isFull : Bool := cache.capacity - 1 = cache.tail - cache.head

/-- `Fill` without a fusion callback. -/
def fill (value : Message) : CacheBuffer Message :=
  if cache.isFull then
    { cache with
      buffer := cache.buffer.set (cache.getIndex cache.head) (some value)
      head := cache.head + 1
      tail := cache.tail + 1 }
  else
    { cache with
      buffer := cache.buffer.set (cache.getIndex (cache.tail + 1)) (some value)
      tail := cache.tail + 1 }

/-- `ChannelBuffer::Fetch`: the index it leaves behind and the message, or failure. -/
def fetch (index : Nat) : Option (Nat × Option Message) :=
  if cache.isEmpty then none
  else if index = 0 then some (cache.tail, cache.at_ cache.tail)
  else if index = cache.tail + 1 then none
  else if index < cache.headIndex then some (cache.tail, cache.at_ cache.tail)
  else some (index, cache.at_ index)

/-- `ChannelBuffer::Latest`: the message behind `Back`, or failure. -/
def latest : Option (Option Message) := if cache.isEmpty then none else some (cache.at_ cache.tail)

/-- `DataVisitor::TryFetch`, which moves on to the next index once it has fetched. -/
def tryFetch (nextMsgIndex : Nat) : Option (Nat × Option Message) :=
  (cache.fetch nextMsgIndex).map fun fetched => (fetched.1 + 1, fetched.2)

end CacheBuffer

end CyberRT.Data

import Mathlib.Algebra.Group.Nat.Defs
import Mathlib.Order.Lattice
import CyberRT.Execution.Run
import CyberRT.Lists.Linked

namespace CyberRT.Base

/-- The template arguments: a table of `2 ^ bits` buckets and the conversion of the integral keys. -/
structure TableTraits (Key : Type) where
  bits : Nat := 7
  toUInt64 : Key → UInt64

def TableTraits.tableSize {Key : Type} (traits : TableTraits Key) : Nat := 2 ^ traits.bits

def TableTraits.index {Key : Type} (traits : TableTraits Key) (key : Key) : Nat :=
  (traits.toUInt64 key).toNat &&& (traits.tableSize - 1)

/-- The three overloads of `Set` differ in the value: that of the default constructor, a copy, or one that is moved from
    when `rvalue` holds. -/
inductive Operation (Key Value : Type) where
  | has (key : Key)
  | get (key : Key)
  | set (key : Key) (value : Value) (rvalue : Bool)
  deriving DecidableEq, Repr

/-- What a call returns. A successful `Get` returns what its pointer leads to. -/
inductive Result (Value : Type) where
  | has (found : Bool)
  | get (value : Option (Option Value))
  | set
  deriving DecidableEq, Repr

structure Entry (Key : Type) where
  key : Key
  valuePtr : Option Nat := none
  next : Option Nat := none

/-- The next access of a thread: to the `next` of an entry in `Has` or `Find`, or to an entry that `Find` has returned. -/
inductive MapPoint where
  | search (prev : Nat)
  | loadValue (target : Nat)
  | exchangeValue (target : Nat) (oldValPtr : Option Nat)
  | storeNext (prev : Nat) (target : Option Nat)
  | exchangeNext (prev : Nat) (target : Option Nat)
  deriving DecidableEq, Repr

/-- A call under way, `before` being the number of the calls that had returned when it began. -/
structure Call (Key Value : Type) where
  operation : Operation Key Value
  before : Nat
  point : MapPoint
  newEntry : Option Nat := none
  newValue : Option Nat := none

structure Completed (Key Value : Type) where
  operation : Operation Key Value
  result : Result Value
  before : Nat
  deriving DecidableEq, Repr

/-- Entries and values stand at their addresses; the heads of the buckets have those below the size of the table. A value
    that was moved from is `none`. -/
structure MapMemory (Key Value : Type) where
  entry : Nat → Entry Key
  allocated : Nat
  values : List (Option Value) := []

/-- `completed` has the calls in the order of their returns. -/
structure AtomicHashMap (Thread Key Value : Type) extends MapMemory Key Value where
  call : Thread → Option (Call Key Value) := fun _ => none
  completed : List (Completed Key Value) := []

inductive MapEvent (Thread Key Value : Type) where
  | call (thread : Thread) (operation : Operation Key Value)
  | access (thread : Thread)
  deriving DecidableEq, Repr

def Operation.key {Key Value : Type} : Operation Key Value → Key
  | .has key | .get key | .set key _ _ => key

def Result.found {Value : Type} : Result Value → Bool
  | .has found => found
  | .get value => value.isSome
  | .set => true

namespace MapMemory

variable {Key Value : Type} (memory : MapMemory Key Value)

def next (address : Nat) : Option Nat := (memory.entry address).next

def setEntry (address : Nat) (entry : Entry Key) : MapMemory Key Value :=
  { memory with entry := Function.update memory.entry address entry }

def newValue (value : Option Value) : MapMemory Key Value := { memory with values := memory.values ++ [value] }

def newEntry (entry : Entry Key) : MapMemory Key Value :=
  { memory.setEntry memory.allocated entry with allocated := memory.allocated + 1 }

theorem entry_setEntry (address other : Nat) (entry : Entry Key) :
    (memory.setEntry address entry).entry other = if other = address then entry else memory.entry other :=
  Function.update_apply memory.entry address entry other

/-- No entry is given another key. -/
theorem keys_setEntry (address other : Nat) {entry : Entry Key} (same : entry.key = (memory.entry address).key) :
    ((memory.setEntry address entry).entry other).key = (memory.entry other).key := by
  rw [entry_setEntry]
  split <;> simp [*]

theorem values_setEntry (address other : Nat) {entry : Entry Key}
    (same : entry.valuePtr = (memory.entry address).valuePtr) :
    ((memory.setEntry address entry).entry other).valuePtr = (memory.entry other).valuePtr := by
  rw [entry_setEntry]
  split <;> simp [*]

theorem next_setEntry (address : Nat) (entry : Entry Key) :
    (memory.setEntry address entry).next = Function.update memory.next address entry.next := by
  funext other
  show ((memory.setEntry address entry).entry other).next = Function.update memory.next address entry.next other
  rw [entry_setEntry, Function.update_apply]
  split <;> rfl

end MapMemory

namespace AtomicHashMap

variable {Thread Key Value : Type} [DecidableEq Thread] [LinearOrder Key]

/-- Every bucket has its head, whose key is that of the default constructor. -/
def init (traits : TableTraits Key) (key : Key) : AtomicHashMap Thread Key Value where
  entry _ := { key := key }
  allocated := traits.tableSize

variable (map : AtomicHashMap Thread Key Value)

def setMemory (memory : MapMemory Key Value) : AtomicHashMap Thread Key Value := { map with toMapMemory := memory }

def setCall (thread : Thread) (call : Call Key Value) : AtomicHashMap Thread Key Value :=
  { map with call := Function.update map.call thread (some call) }

def return_ (thread : Thread) (call : Call Key Value) (result : Result Value) : AtomicHashMap Thread Key Value :=
  { map with
    call := Function.update map.call thread none
    completed := map.completed ++ [⟨call.operation, result, call.before⟩] }

def moveTo (thread : Thread) (call : Call Key Value) (point : MapPoint) : AtomicHashMap Thread Key Value :=
  map.setCall thread { call with point := point }

/-- `Bucket::Has` after it has loaded the next entry. -/
def hasStep (thread : Thread) (call : Call Key Value) (key : Key) : Option Nat → AtomicHashMap Thread Key Value
  | none => map.return_ thread call (.has false)
  | some target =>
    if (map.entry target).key < key then map.moveTo thread call (.search target)
    else map.return_ thread call (.has ((map.entry target).key = key))

/-- `Bucket::Find` after it has loaded the next entry; `Get` fails and `Insert` goes on when the key is not found. -/
def findStep (thread : Thread) (call : Call Key Value) (key : Key) (prev : Nat)
    (notFound : Nat → Option Nat → AtomicHashMap Thread Key Value) : Option Nat → AtomicHashMap Thread Key Value
  | none => notFound prev none
  | some target =>
    if (map.entry target).key = key then map.moveTo thread call (.loadValue target)
    else if key < (map.entry target).key then notFound prev (some target)
    else map.moveTo thread call (.search target)

def searchStep (thread : Thread) (call : Call Key Value) (prev : Nat) : AtomicHashMap Thread Key Value :=
  match call.operation with
  | .has key => map.hasStep thread call key (map.next prev)
  | .get key => map.findStep thread call key prev (fun _ _ => map.return_ thread call (.get none)) (map.next prev)
  | .set key _ _ =>
    map.findStep thread call key prev (fun prev target => map.moveTo thread call (.storeNext prev target))
      (map.next prev)

/-- The value parameter of `Insert`, which an rvalue overload has moved into `new_value`. -/
def argument (call : Call Key Value) (value : Value) (rvalue : Bool) : Option Value :=
  if rvalue && call.newValue.isSome then none else some value

/-- The load of `value_ptr`: `Get` returns; `Insert` has its new value before the load. -/
def loadValueStep (thread : Thread) (call : Call Key Value) (target : Nat) : AtomicHashMap Thread Key Value :=
  let valuePtr := (map.entry target).valuePtr
  match call.operation with
  | .set _ value rvalue =>
    match call.newValue with
    | some _ => map.moveTo thread call (.exchangeValue target valuePtr)
    | none =>
      (map.setMemory (map.newValue (argument call value rvalue))).moveTo thread
        { call with newValue := some map.values.length } (.exchangeValue target valuePtr)
  | _ => map.return_ thread call (.get (some (valuePtr.bind fun value => (map.values[value]?).join)))

def exchangeValueStep (traits : TableTraits Key) (thread : Thread) (call : Call Key Value) (target : Nat)
    (oldValPtr : Option Nat) : AtomicHashMap Thread Key Value :=
  if (map.entry target).valuePtr = oldValPtr then
    (map.setMemory (map.setEntry target { map.entry target with valuePtr := call.newValue })).return_ thread call .set
  else map.moveTo thread call (.search (traits.index call.operation.key))

/-- The store of `next` in the new entry, which is made here unless an earlier round has made it. -/
def storeNextStep (thread : Thread) (call : Call Key Value) (prev : Nat) (target : Option Nat) :
    AtomicHashMap Thread Key Value :=
  match call.operation, call.newEntry with
  | _, some new =>
    (map.setMemory (map.setEntry new { map.entry new with next := target })).moveTo thread call
      (.exchangeNext prev target)
  | .set key value rvalue, none =>
    let made := (map.newValue (argument call value rvalue)).newEntry
      { key := key, valuePtr := some map.values.length, next := target }
    (map.setMemory made).moveTo thread { call with newEntry := some map.allocated } (.exchangeNext prev target)
  | _, none => map

def exchangeNextStep (traits : TableTraits Key) (thread : Thread) (call : Call Key Value) (prev : Nat)
    (target : Option Nat) : AtomicHashMap Thread Key Value :=
  if map.next prev = target then
    (map.setMemory (map.setEntry prev { map.entry prev with next := call.newEntry })).return_ thread call .set
  else map.moveTo thread call (.search (traits.index call.operation.key))

def access (traits : TableTraits Key) (thread : Thread) (call : Call Key Value) : AtomicHashMap Thread Key Value :=
  match call.point with
  | .search prev => map.searchStep thread call prev
  | .loadValue target => map.loadValueStep thread call target
  | .exchangeValue target oldValPtr => map.exchangeValueStep traits thread call target oldValPtr
  | .storeNext prev target => map.storeNextStep thread call prev target
  | .exchangeNext prev target => map.exchangeNextStep traits thread call prev target

def step (traits : TableTraits Key) (map : AtomicHashMap Thread Key Value) :
    MapEvent Thread Key Value → Option (AtomicHashMap Thread Key Value)
  | .call thread operation =>
    match map.call thread with
    | some _ => none
    | none => some (map.setCall thread
        { operation := operation, before := map.completed.length, point := .search (traits.index operation.key) })
  | .access thread => (map.call thread).map (map.access traits thread)

end AtomicHashMap

end CyberRT.Base

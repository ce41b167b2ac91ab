import CyberRT.Base.Buckets

namespace CyberRT.Base

open Execution Lists

namespace MapMemory

variable {Thread Key Value : Type} [LinearOrder Key] {traits : TableTraits Key}
  {memory next : MapMemory Key Value} {chains chains' : Nat → List Nat} {key : Key}
  {past past' : List (MapEvent Thread Key Value)}

/-- Some call of `Set` was given the value for the key. -/
def Stored (past : List (MapEvent Thread Key Value)) (key : Key) (value : Value) : Prop :=
  ∃ thread rvalue, MapEvent.call thread (.set key value rvalue) ∈ past

/-- The pointer leads to a value that was stored for the key. -/
def Carries (memory : MapMemory Key Value) (past : List (MapEvent Thread Key Value)) (key : Key)
    (valuePtr : Option Nat) : Prop :=
  ∃ address value, valuePtr = some address ∧ memory.values[address]? = some (some value) ∧ Stored past key value

def PointFits (traits : TableTraits Key) (memory : MapMemory Key Value) (chains : Nat → List Nat) (key : Key) :
    MapPoint → Prop
  | .search prev => memory.Precedes traits chains key prev
  | .loadValue target | .exchangeValue target _ =>
    target ∈ chains (traits.index key) ∧ (memory.entry target).key = key
  | .storeNext prev target | .exchangeNext prev target => memory.Precedes traits chains key prev ∧
      ∀ address, target = some address → address ∈ chains (traits.index key) ∧ key < (memory.entry address).key

/-- An entry that no bucket has, made for the key. -/
structure Private (traits : TableTraits Key) (memory : MapMemory Key Value) (chains : Nat → List Nat)
    (past : List (MapEvent Thread Key Value)) (key : Key) (new : Nat) : Prop where
  fresh : traits.tableSize ≤ new ∧ new < memory.allocated
  apart : ∀ bucket, bucket < traits.tableSize → new ∉ chains bucket
  named : (memory.entry new).key = key
  carries : memory.Carries past key (memory.entry new).valuePtr

/-- What a call has found, made and announced. A value is made only for a key that was found, and an entry only before. -/
structure Fits (traits : TableTraits Key) (memory : MapMemory Key Value) (chains : Nat → List Nat)
    (past : List (MapEvent Thread Key Value)) (call : Call Key Value) : Prop where
  called : ∃ thread, MapEvent.call thread call.operation ∈ past
  point : memory.PointFits traits chains call.operation.key call.point
  newEntry : ∀ new, call.newEntry = some new → memory.Private traits chains past call.operation.key new
  newValue : call.newValue ≠ none → memory.Carries past call.operation.key call.newValue ∧
    ∃ address ∈ chains (traits.index call.operation.key), (memory.entry address).key = call.operation.key
  storing : ∀ prev target, call.point = .storeNext prev target ∨ call.point = .exchangeNext prev target →
    (∃ key value rvalue, call.operation = .set key value rvalue) ∧ call.newValue = none
  linking : ∀ prev target, call.point = .exchangeNext prev target →
    ∃ new, call.newEntry = some new ∧ memory.next new = target
  loading : ∀ target, call.point = .loadValue target → ∀ key, call.operation ≠ .has key
  exchanging : ∀ target oldValPtr, call.point = .exchangeValue target oldValPtr →
    (∃ key value rvalue, call.operation = .set key value rvalue) ∧ call.newValue ≠ none

/-- What the accesses of other threads leave of the memory: keys, values and the entries of the buckets. -/
structure Grows (traits : TableTraits Key) (memory : MapMemory Key Value) (chains : Nat → List Nat)
    (next : MapMemory Key Value) (chains' : Nat → List Nat) : Prop where
  allocated : memory.allocated ≤ next.allocated
  keys : ∀ address, address < memory.allocated → (next.entry address).key = (memory.entry address).key
  members : ∀ bucket, bucket < traits.tableSize → ∀ address ∈ chains bucket, address ∈ chains' bucket
  values : ∀ (address : Nat) (value : Option Value), memory.values[address]? = some value →
    next.values[address]? = some value

omit [LinearOrder Key] in
theorem Stored.mono {value : Value} (stored : Stored past key value) (earlier : past ⊆ past') :
    Stored past' key value := by
  obtain ⟨thread, rvalue, member⟩ := stored
  exact ⟨thread, rvalue, earlier member⟩

omit [LinearOrder Key] in
theorem Carries.grow {valuePtr : Option Nat} (carries : memory.Carries past key valuePtr)
    (grows : memory.Grows traits chains next chains') (earlier : past ⊆ past') : next.Carries past' key valuePtr := by
  obtain ⟨address, value, leads, held, stored⟩ := carries
  exact ⟨address, value, leads, grows.values address _ held, stored.mono earlier⟩

theorem Shaped.member_below (shaped : memory.Shaped traits chains) {address : Nat}
    (member : address ∈ chains (traits.index key)) : address < memory.allocated :=
  (shaped.inside _ (traits.index_lt key) address member).2.1

theorem Precedes.grow {prev : Nat} (precedes : memory.Precedes traits chains key prev) (shaped : memory.Shaped traits chains)
    (grows : memory.Grows traits chains next chains') : next.Precedes traits chains' key prev := by
  rcases precedes with head | ⟨member, less⟩
  · exact Or.inl head
  · refine Or.inr ⟨grows.members _ (traits.index_lt key) prev member, ?_⟩
    rw [grows.keys prev (shaped.member_below member)]
    exact less

theorem PointFits.grow {point : MapPoint} (fits : memory.PointFits traits chains key point)
    (shaped : memory.Shaped traits chains) (grows : memory.Grows traits chains next chains') :
    next.PointFits traits chains' key point := by
  have here := traits.index_lt key
  cases point with
  | search prev => exact Precedes.grow fits shaped grows
  | loadValue target | exchangeValue target oldValPtr =>
    refine ⟨grows.members _ here target fits.1, ?_⟩
    rw [grows.keys target (shaped.member_below fits.1)]
    exact fits.2
  | storeNext prev target | exchangeNext prev target =>
    refine ⟨fits.1.grow shaped grows, ?_⟩
    intro address leads
    obtain ⟨member, larger⟩ := fits.2 address leads
    refine ⟨grows.members _ here address member, ?_⟩
    rw [grows.keys address (shaped.member_below member)]
    exact larger

/-- A call fits on while other threads go on, as they do not touch the entry it has made. -/
theorem Fits.grow {call : Call Key Value} (fits : memory.Fits traits chains past call)
    (shaped : memory.Shaped traits chains) (grows : memory.Grows traits chains next chains') (earlier : past ⊆ past')
    (untouched : ∀ new, call.newEntry = some new → next.entry new = memory.entry new ∧
      ∀ bucket, bucket < traits.tableSize → new ∉ chains' bucket) :
    next.Fits traits chains' past' call := by
  constructor
  · obtain ⟨thread, member⟩ := fits.called
    exact ⟨thread, earlier member⟩
  · exact fits.point.grow shaped grows
  · intro new made
    obtain ⟨same, apart⟩ := untouched new made
    have own := fits.newEntry new made
    constructor
    · exact ⟨own.fresh.1, Nat.lt_of_lt_of_le own.fresh.2 grows.allocated⟩
    · exact apart
    · rw [same]
      exact own.named
    · rw [same]
      exact own.carries.grow grows earlier
  · intro made
    obtain ⟨carries, address, member, same⟩ := fits.newValue made
    refine ⟨carries.grow grows earlier, address, grows.members _ (traits.index_lt _) address member, ?_⟩
    rw [grows.keys address (shaped.member_below member)]
    exact same
  · exact fits.storing
  · intro prev target here
    obtain ⟨new, made, leads⟩ := fits.linking prev target here
    refine ⟨new, made, ?_⟩
    show (next.entry new).next = target
    rw [(untouched new made).1]
    exact leads
  · exact fits.loading
  · exact fits.exchanging

end MapMemory

namespace AtomicHashMap

variable {Thread Key Value : Type} [LinearOrder Key] {traits : TableTraits Key}
  {map next : AtomicHashMap Thread Key Value} {chains chains' : Nat → List Nat} {key : Key}
  {past past' : List (MapEvent Thread Key Value)}

structure Sound (traits : TableTraits Key) (map : AtomicHashMap Thread Key Value) (chains : Nat → List Nat)
    (past : List (MapEvent Thread Key Value)) : Prop where
  shaped : map.Shaped traits chains
  carried : ∀ bucket, bucket < traits.tableSize → ∀ address ∈ chains bucket,
    map.Carries past (map.entry address).key (map.entry address).valuePtr
  fits : ∀ thread call, map.call thread = some call → map.Fits traits chains past call
  apart : ∀ first second call call' new, map.call first = some call → map.call second = some call' →
    call.newEntry = some new → call'.newEntry = some new → first = second

theorem sound_init (traits : TableTraits Key) (key : Key) :
    (init traits key : AtomicHashMap Thread Key Value).Sound traits (fun _ => []) [] := by
  constructor
  · exact MapMemory.shaped_heads traits key
  · simp
  · simp [init]
  · simp [init]

variable [DecidableEq Thread] {thread : Thread} {call : Call Key Value}

/-- A thread changes the memory behind the backs of the others, and goes on with a call that fits or with none. -/
theorem Sound.advance (sound : map.Sound traits chains past) {memory : MapMemory Key Value} {now : Option (Call Key Value)}
    {completed : List (Completed Key Value)} (earlier : past ⊆ past') (shaped : memory.Shaped traits chains')
    (grows : map.Grows traits chains memory chains')
    (carried : ∀ bucket, bucket < traits.tableSize → ∀ address ∈ chains' bucket,
      memory.Carries past' (memory.entry address).key (memory.entry address).valuePtr)
    (untouched : ∀ other call new, other ≠ thread → map.call other = some call → call.newEntry = some new →
      memory.entry new = map.entry new ∧ ∀ bucket, bucket < traits.tableSize → new ∉ chains' bucket)
    (fits : ∀ call, now = some call → memory.Fits traits chains' past' call)
    (own : ∀ call other call' new, now = some call → other ≠ thread → map.call other = some call' →
      call.newEntry = some new → call'.newEntry ≠ some new) :
    Sound traits ⟨memory, Function.update map.call thread now, completed⟩ chains' past' := by
  have calls : ∀ other found, Function.update map.call thread now other = some found →
      other = thread ∧ now = some found ∨ other ≠ thread ∧ map.call other = some found := by
    intro other found running
    by_cases same : other = thread
    · rw [same, Function.update_self] at running
      exact Or.inl ⟨same, running⟩
    · rw [Function.update_of_ne same] at running
      exact Or.inr ⟨same, running⟩
  constructor
  · exact shaped
  · exact carried
  · intro other found running
    rcases calls other found running with ⟨-, current⟩ | ⟨differs, before⟩
    · exact fits found current
    · exact (sound.fits other found before).grow sound.shaped grows earlier fun new made =>
        untouched other found new differs before made
  · intro first second found found' new running running' made made'
    rcases calls first found running with ⟨same, current⟩ | ⟨differs, before⟩
    · rcases calls second found' running' with ⟨same', -⟩ | ⟨differs', before'⟩
      · exact same.trans same'.symm
      · exact absurd made' (own found second found' new current differs' before' made)
    · rcases calls second found' running' with ⟨-, current'⟩ | ⟨differs', before'⟩
      · exact absurd made (own found' first found new current' differs before made')
      · exact sound.apart first second found found' new before before' made made'

omit [DecidableEq Thread] in
theorem Sound.untouched (sound : map.Sound traits chains past) {other : Thread} {new : Nat}
    (running : map.call other = some call) (made : call.newEntry = some new) :
    map.entry new = map.entry new ∧ ∀ bucket, bucket < traits.tableSize → new ∉ chains bucket :=
  ⟨rfl, ((sound.fits other call running).newEntry new made).apart⟩

omit [LinearOrder Key] [DecidableEq Thread] in
theorem grows_refl (traits : TableTraits Key) (map : AtomicHashMap Thread Key Value) (chains : Nat → List Nat) :
    map.Grows traits chains map.toMapMemory chains :=
  ⟨Nat.le.refl, fun _ _ => rfl, fun _ _ _ member => member, fun _ _ held => held⟩

omit [DecidableEq Thread] in
theorem Sound.mono (sound : map.Sound traits chains past) (earlier : past ⊆ past') : map.Sound traits chains past' := by
  have grows := grows_refl traits map chains
  constructor
  · exact sound.shaped
  · exact fun bucket within address member => (sound.carried bucket within address member).grow grows earlier
  · exact fun thread call running => (sound.fits thread call running).grow sound.shaped grows earlier
      fun new made => sound.untouched running made
  · exact sound.apart

theorem Sound.setCall (sound : map.Sound traits chains past) (earlier : past ⊆ past')
    (fits : map.Fits traits chains past' call)
    (own : ∀ other call' new, other ≠ thread → map.call other = some call' → call.newEntry = some new →
      call'.newEntry ≠ some new) : (map.setCall thread call).Sound traits chains past' := by
  have grows := grows_refl traits map chains
  apply sound.advance earlier sound.shaped grows
  · exact fun bucket within address member => (sound.carried bucket within address member).grow grows earlier
  · exact fun other found new _ running made => sound.untouched running made
  · rintro found ⟨⟩
    exact fits
  · rintro found other call' new ⟨⟩
    exact own other call' new

theorem Sound.return_ (sound : map.Sound traits chains past) (thread : Thread) (call : Call Key Value)
    (result : Result Value) : (map.return_ thread call result).Sound traits chains past := by
  apply sound.advance (List.Subset.refl past) sound.shaped (grows_refl traits map chains) sound.carried
  · exact fun other found new _ running made => sound.untouched running made
  · rintro found ⟨⟩
  · rintro found other call' new ⟨⟩

omit [DecidableEq Thread] in
theorem Sound.own (sound : map.Sound traits chains past) (running : map.call thread = some call) {other : Thread}
    {call' : Call Key Value} {new : Nat} (differs : other ≠ thread) (running' : map.call other = some call')
    (made : call.newEntry = some new) : call'.newEntry ≠ some new :=
  fun made' => differs (sound.apart other thread call' call new running' running made' made)

/-- A call moves on with what it has made. -/
theorem Sound.moveTo (sound : map.Sound traits chains past) (running : map.call thread = some call)
    {point : MapPoint} (fits : map.PointFits traits chains call.operation.key point)
    (storing : ∀ prev target, point = .storeNext prev target ∨ point = .exchangeNext prev target →
      (∃ key value rvalue, call.operation = .set key value rvalue) ∧ call.newValue = none)
    (linking : ∀ prev target, point = .exchangeNext prev target →
      ∃ new, call.newEntry = some new ∧ map.next new = target)
    (loading : ∀ target, point = .loadValue target → ∀ key, call.operation ≠ .has key)
    (exchanging : ∀ target oldValPtr, point = .exchangeValue target oldValPtr →
      (∃ key value rvalue, call.operation = .set key value rvalue) ∧ call.newValue ≠ none) :
    (map.moveTo thread call point).Sound traits chains past := by
  have fit := sound.fits thread call running
  apply sound.setCall (List.Subset.refl past)
  · exact ⟨fit.called, fits, fit.newEntry, fit.newValue, storing, linking, loading, exchanging⟩
  · exact fun other call' new differs running' made => sound.own running differs running' made

end AtomicHashMap

end CyberRT.Base

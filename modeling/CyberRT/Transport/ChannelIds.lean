import Mathlib.Data.Set.Function
import CyberRT.Common.GlobalData
import CyberRT.Execution.Run

namespace CyberRT.Transport

open Execution

/-- What `SegmentFactory::CreateSegment` makes of a channel id: the `key_t` of a XSI segment or the name of a POSIX one. -/
inductive SegmentKey where
  | xsi (key : Int32)
  | posix (shmName : String)
  deriving DecidableEq, Repr

/-- `shmType` is the `shm_type` of the configuration. -/
def segmentKey (shmType : Option String) (channelId : UInt64) : SegmentKey :=
  if shmType = some "posix" then .posix (toString channelId.toNat) else .xsi channelId.toUInt32.toInt32

structure ChannelAttr where
  channelName : String
  channelId : UInt64
  deriving DecidableEq, Repr

/-- One process: `attrs` are the attributes filled in with an id of `RegisterChannel`, and `msgListeners` the listeners of
    its RtpsDispatcher by their own attributes. -/
structure ChannelTables where
  channelIdMap : UInt64 → Option String := fun _ => none
  attrs : List ChannelAttr := []
  msgListeners : UInt64 → List ChannelAttr := fun _ => []

namespace ChannelTables

def register (hash : String → UInt64) (tables : ChannelTables) (channel : String) : Option ChannelTables :=
  (registerChannel hash tables.channelIdMap channel).map fun (id, channelIdMap) =>
    { tables with channelIdMap, attrs := tables.attrs ++ [⟨channel, id⟩] }

/-- `RtpsDispatcher::AddListener`; its subscriber has the topic `channel_name`. -/
def addListener (tables : ChannelTables) (attr : ChannelAttr) : Option ChannelTables :=
  if attr ∈ tables.attrs then
    let listeners := tables.msgListeners attr.channelId ++ [attr]
    some { tables with msgListeners := Function.update tables.msgListeners attr.channelId listeners }
  else none

/-- The id that `SubListener::onNewDataMessage` gives to `OnMessage`. -/
def topicId (hash : String → UInt64) (topicName : String) : UInt64 := hash topicName

/-- The listeners that a sample of the topic gets to. -/
def onNewDataMessage (hash : String → UInt64) (tables : ChannelTables) (topicName : String) : List ChannelAttr :=
  tables.msgListeners (topicId hash topicName)

end ChannelTables

inductive ChannelCall where
  | register (channel : String)
  | addListener (attr : ChannelAttr)
  deriving DecidableEq, Repr

def ChannelCall.channelName : ChannelCall → String
  | .register channel => channel
  | .addListener attr => attr.channelName

abbrev Processes (Process : Type) := Process → ChannelTables

namespace Processes

variable {Process : Type}

/-- Two processes, and the two receive paths, mean the same channel by an id. -/
structure SharedIds (hash : String → UInt64) (shmType : Option String) (processes : Processes Process) : Prop where
  agree : ∀ process other, ∀ attr ∈ (processes process).attrs, ∀ attr' ∈ (processes other).attrs,
    attr.channelName = attr'.channelName → attr.channelId = attr'.channelId
  dispatched : ∀ process id, ∀ listener ∈ (processes process).msgListeners id,
    ChannelTables.topicId hash listener.channelName = id
  apart : ∀ process other, ∀ attr ∈ (processes process).attrs, ∀ attr' ∈ (processes other).attrs,
    attr.channelName ≠ attr'.channelName → segmentKey shmType attr.channelId ≠ segmentKey shmType attr'.channelId

/-- Every name of the set has its plain hash as its id. -/
structure Plain (hash : String → UInt64) (names : Set String) (tables : ChannelTables) : Prop where
  mapped : ∀ id name, tables.channelIdMap id = some name → name ∈ names ∧ id = hash name
  attrs : ∀ attr ∈ tables.attrs, attr.channelName ∈ names ∧ attr.channelId = hash attr.channelName
  listeners : ∀ id, ∀ listener ∈ tables.msgListeners id, listener ∈ tables.attrs ∧ listener.channelId = id

variable {hash : String → UInt64} {shmType : Option String} {names : Set String} {tables next : ChannelTables}

theorem plain_start : Plain hash names {} where
  mapped := by simp
  attrs := by simp
  listeners := by simp

theorem registerChannel_plain (apart : Set.InjOn hash names) (plain : Plain hash names tables) {channel : String}
    (member : channel ∈ names) : registerChannel hash tables.channelIdMap channel =
      some (hash channel, Function.update tables.channelIdMap (hash channel) (some channel)) := by
  apply registerTaskName_plain
  cases occupied : tables.channelIdMap (hash channel) with
  | none => exact Or.inl rfl
  | some other =>
    obtain ⟨known, same⟩ := plain.mapped _ _ occupied
    rw [apart known member same.symm]
    exact Or.inr rfl

theorem Plain.register (apart : Set.InjOn hash names) (plain : Plain hash names tables) {channel : String}
    (member : channel ∈ names) (taken : tables.register hash channel = some next) : Plain hash names next := by
  rw [ChannelTables.register, registerChannel_plain apart plain member] at taken
  obtain rfl := Option.some.inj taken
  apply Plain.mk
  · intro id name occupied
    simp only [Function.update_apply] at occupied
    split at occupied
    · rename_i here
      obtain rfl := Option.some.inj occupied
      exact ⟨member, here⟩
    · exact plain.mapped id name occupied
  · intro attr known
    rcases List.mem_append.mp known with old | new
    · exact plain.attrs attr old
    · obtain rfl := List.mem_singleton.mp new
      exact ⟨member, rfl⟩
  · intro id listener known
    obtain ⟨old, under⟩ := plain.listeners id listener known
    exact ⟨List.mem_append_left _ old, under⟩

theorem Plain.addListener (plain : Plain hash names tables) {attr : ChannelAttr}
    (taken : tables.addListener attr = some next) : Plain hash names next := by
  unfold ChannelTables.addListener at taken
  split at taken
  · rename_i filled
    obtain rfl := Option.some.inj taken
    apply Plain.mk
    · exact plain.mapped
    · exact plain.attrs
    · intro id listener known
      simp only [Function.update_apply] at known
      split at known
      · rename_i here
        rcases List.mem_append.mp known with old | new
        · obtain ⟨filled', under⟩ := plain.listeners _ listener old
          exact ⟨filled', under.trans here.symm⟩
        · obtain rfl := List.mem_singleton.mp new
          exact ⟨filled, here.symm⟩
      · exact plain.listeners id listener known
  · cases taken

/-- The listeners of one channel hear the samples of its topic and no others. -/
theorem Plain.onNewDataMessage (apart : Set.InjOn hash names) (plain : Plain hash names tables) {topicName : String}
    (member : topicName ∈ names) {listener : ChannelAttr}
    (hears : listener ∈ tables.onNewDataMessage hash topicName) : listener.channelName = topicName := by
  obtain ⟨filled, under⟩ := plain.listeners _ listener hears
  obtain ⟨known, id⟩ := plain.attrs listener filled
  apply apart known member
  exact id.symm.trans under

theorem sharedIds_of_plain {processes : Processes Process} (apart : Set.InjOn (fun name => segmentKey shmType (hash name)) names)
    (plain : ∀ process, Plain hash names (processes process)) : SharedIds hash shmType processes where
  agree := by
    intro process other attr filled attr' filled' same
    rw [((plain process).attrs attr filled).2, ((plain other).attrs attr' filled').2, same]
  dispatched := by
    intro process id listener known
    obtain ⟨filled, under⟩ := (plain process).listeners id listener known
    exact ((plain process).attrs listener filled).2.symm.trans under
  apart := by
    intro process other attr filled attr' filled' differ same
    obtain ⟨known, id⟩ := (plain process).attrs attr filled
    obtain ⟨known', id'⟩ := (plain other).attrs attr' filled'
    rw [id, id'] at same
    exact differ (apart known known' same)

variable [DecidableEq Process]

def step (hash : String → UInt64) (processes : Processes Process) : Process × ChannelCall → Option (Processes Process)
  | (process, .register channel) =>
    ((processes process).register hash channel).map fun tables => Function.update processes process tables
  | (process, .addListener attr) =>
    ((processes process).addListener attr).map fun tables => Function.update processes process tables

theorem plain_step (apart : Set.InjOn hash names) {processes after : Processes Process} {call : Process × ChannelCall}
    (member : call.2.channelName ∈ names) (taken : step hash processes call = some after)
    (plain : ∀ process, Plain hash names (processes process)) (process : Process) : Plain hash names (after process) := by
  have updated : ∀ caller tables, Plain hash names tables →
      Plain hash names (Function.update processes caller tables process) := by
    intro caller tables kept
    by_cases same : process = caller
    · subst same
      rw [Function.update_self]
      exact kept
    · rw [Function.update_of_ne same]
      exact plain process
  obtain ⟨caller, call⟩ := call
  cases call with
  | register channel =>
    obtain ⟨tables, called, rfl⟩ := Option.map_eq_some_iff.mp taken
    exact updated caller tables ((plain caller).register apart member called)
  | addListener attr =>
    obtain ⟨tables, called, rfl⟩ := Option.map_eq_some_iff.mp taken
    exact updated caller tables ((plain caller).addListener called)

theorem plain_run (apart : Set.InjOn hash names) {processes : Processes Process} {calls : List (Process × ChannelCall)}
    (members : ∀ call ∈ calls, call.2.channelName ∈ names) (ran : run (step hash) (fun _ => {}) calls = some processes)
    (process : Process) : Plain hash names (processes process) := by
  have meets : Meets (step hash) (fun _ call => call.2.channelName ∈ names) (fun _ => {}) calls :=
    meets_of_forall (fun call member _ => members call member) _
  exact Meets.preserves (fun reached : Processes Process => ∀ process, Plain hash names (reached process))
    (fun _ _ _ member taken => plain_step apart member taken) (fun _ => plain_start) meets ran process

omit [DecidableEq Process] in
theorem injOn_hash (apart : Set.InjOn (fun name => segmentKey shmType (hash name)) names) : Set.InjOn hash names := by
  intro name member other member' same
  exact apart member member' (congrArg (segmentKey shmType) same)

/-- The ids are shared on every run over these names just when no two of their hashes have one segment key. -/
theorem sharedIds_iff [Inhabited Process] (hash : String → UInt64) (shmType : Option String) (names : Set String) :
    (∀ calls : List (Process × ChannelCall), (∀ call ∈ calls, call.2.channelName ∈ names) →
      ∀ processes, run (step hash) (fun _ => {}) calls = some processes → SharedIds hash shmType processes) ↔
    Set.InjOn (fun name => segmentKey shmType (hash name)) names := by
  apply Iff.intro
  · intro shared first member second member' same
    by_contra differ
    have free : Function.update (fun _ => none) (hash first) (some first) (hash first + 1) = none := by
      rw [Function.update_of_ne (by simp)]
    have succeeds : (registerTaskName hash (Function.update (fun _ => none) (hash first) (some first)) second).isSome :=
      registerTaskName_isSome hash free
    obtain ⟨⟨id, channelIdMap⟩, registered⟩ := Option.isSome_iff_exists.mp succeeds
    let process : Process := default
    have ran : run (step hash) (fun _ => {}) [(process, .register first), (process, .register second),
        (process, .addListener ⟨second, id⟩)] = some (Function.update (fun _ => {}) process
          { channelIdMap, attrs := [⟨first, hash first⟩, ⟨second, id⟩],
            msgListeners := Function.update (fun _ => []) id [⟨second, id⟩] }) := by
      have registered' : registerChannel hash (fun _ => none) first = some (hash first, _) :=
        registerTaskName_plain hash (Or.inl rfl)
      have registered : registerChannel hash _ second = some (id, channelIdMap) := registered
      simp [run, step, ChannelTables.register, ChannelTables.addListener, registered, registered']
    have holds := shared _ (by simp [ChannelCall.channelName, member, member']) _ ran
    have plain : id = hash second := by
      apply (holds.dispatched process id ⟨second, id⟩ _).symm
      simp
    apply holds.apart process process ⟨first, hash first⟩ _ ⟨second, id⟩ _ differ
    · exact same.trans (congrArg (segmentKey shmType) plain.symm)
    · simp
    · simp
  · intro apart calls members processes ran
    exact sharedIds_of_plain apart (plain_run (injOn_hash apart) members ran)

/-- Where the ids are shared, a sample is heard by the listeners of its own channel only. -/
theorem heard_own (apart : Set.InjOn (fun name => segmentKey shmType (hash name)) names) {processes : Processes Process}
    {calls : List (Process × ChannelCall)} (members : ∀ call ∈ calls, call.2.channelName ∈ names)
    (ran : run (step hash) (fun _ => {}) calls = some processes) {process : Process} {topicName : String}
    (member : topicName ∈ names) {listener : ChannelAttr}
    (hears : listener ∈ (processes process).onNewDataMessage hash topicName) : listener.channelName = topicName := by
  have plain := plain_run (injOn_hash apart) members ran process
  exact plain.onNewDataMessage (injOn_hash apart) member hears

/-- Two processes that register two names of one hash in different orders. -/
def crossed : List (Bool × ChannelCall) :=
  [(false, .register "/planning"), (false, .register "/control"), (true, .register "/control"),
    (true, .addListener ⟨"/control", 7⟩)]

theorem crossed_not_sharedIds : ¬∀ (hash : String → UInt64) (calls : List (Bool × ChannelCall)) processes,
    run (step hash) (fun _ => {}) calls = some processes → SharedIds hash none processes := by
  intro always
  have reached : (run (step fun _ => 7) (fun _ => {}) crossed).any (fun processes : Processes Bool =>
      decide (⟨"/control", 8⟩ ∈ (processes false).attrs ∧ ⟨"/control", 7⟩ ∈ (processes true).attrs)) = true := by
    decide +kernel
  obtain ⟨processes, ran, facts⟩ := (Option.any_eq_true _ _).mp reached
  obtain ⟨here, there⟩ := of_decide_eq_true facts
  have same : (8 : UInt64) = 7 := (always _ crossed processes ran).agree false true _ here _ there rfl
  exact absurd same (by decide)

end Processes

end CyberRT.Transport

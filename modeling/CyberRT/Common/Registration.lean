import Mathlib.Data.Finset.Card
import CyberRT.Base.HashTable
import CyberRT.Common.GlobalData

namespace CyberRT

/-- The order of the keys of an `AtomicHashMap<uint64_t, ...>`. -/
local instance idOrder : LinearOrder UInt64 where
  le_refl := UInt64.le_refl
  le_trans _ _ _ := UInt64.le_trans
  le_antisymm _ _ := UInt64.le_antisymm
  le_total := UInt64.le_total
  lt_iff_le_not_ge _ _ := by
    rw [UInt64.not_le, and_iff_right_of_imp UInt64.le_of_lt]
  toDecidableLE := UInt64.decLe
  toDecidableLT := UInt64.decLt
  toDecidableEq := instDecidableEqUInt64

abbrev NameMap := Base.HashTable UInt64 String

def nameMap (bits : Nat) : NameMap := { traits := { bits, toUInt64 := id } }

/-- The maps of `GlobalData`, with 512 buckets for the nodes and 256 for the others. -/
structure GlobalData where
  nodeIdMap : NameMap := nameMap 9
  channelIdMap : NameMap := nameMap 8
  serviceIdMap : NameMap := nameMap 8
  taskIdMap : NameMap := nameMap 8

namespace NameMap

/-- The loop of the `Register` functions, which are the same but for their maps. -/
def probeLoop (map : NameMap) (name : String) : Nat → UInt64 → Option UInt64
  | 0, _ => none
  | fuel + 1, id =>
    if map.has id then
      match map.get id with
      | some other => if name = other then some id else probeLoop map name fuel (id + 1)
      | none => none
    else some id

def register (hash : String → UInt64) (map : NameMap) (name : String) : Option (UInt64 × NameMap) :=
  (probeLoop map name UInt64.size (hash name)).map fun id => (id, map.set id name)

/-- The functions `Get*ById`, with `kEmptyString` for an id that nobody has. -/
def getById (map : NameMap) (id : UInt64) : String := (map.get id).getD ""

end NameMap

namespace GlobalData

variable (hash : String → UInt64) (data : GlobalData)

def registerNode (nodeName : String) : Option (UInt64 × GlobalData) :=
  (data.nodeIdMap.register hash nodeName).map fun (id, nodeIdMap) => (id, { data with nodeIdMap })

def getNodeById (id : UInt64) : String := data.nodeIdMap.getById id

def registerChannel (channel : String) : Option (UInt64 × GlobalData) :=
  (data.channelIdMap.register hash channel).map fun (id, channelIdMap) => (id, { data with channelIdMap })

def getChannelById (id : UInt64) : String := data.channelIdMap.getById id

def registerService (service : String) : Option (UInt64 × GlobalData) :=
  (data.serviceIdMap.register hash service).map fun (id, serviceIdMap) => (id, { data with serviceIdMap })

def getServiceById (id : UInt64) : String := data.serviceIdMap.getById id

def registerTaskName (taskName : String) : Option (UInt64 × GlobalData) :=
  (data.taskIdMap.register hash taskName).map fun (id, taskIdMap) => (id, { data with taskIdMap })

def getTaskNameById (id : UInt64) : String := data.taskIdMap.getById id

end GlobalData

inductive NameKind where
  | node
  | channel
  | service
  | taskName
  deriving DecidableEq, Repr

/-- A call of one of the `Register` functions. -/
structure Registration where
  kind : NameKind
  name : String
  deriving DecidableEq, Repr

namespace GlobalData

def register (hash : String → UInt64) (data : GlobalData) (call : Registration) : Option (UInt64 × GlobalData) :=
  match call.kind with
  | .node => data.registerNode hash call.name
  | .channel => data.registerChannel hash call.name
  | .service => data.registerService hash call.name
  | .taskName => data.registerTaskName hash call.name

def getById (data : GlobalData) : NameKind → UInt64 → String
  | .node => data.getNodeById
  | .channel => data.getChannelById
  | .service => data.getServiceById
  | .taskName => data.getTaskNameById

/-- The ids that the calls return one after the other, and what they leave. -/
def registerAll (hash : String → UInt64) (data : GlobalData) : List Registration → Option (List UInt64 × GlobalData)
  | [] => some ([], data)
  | call :: calls =>
    (data.register hash call).bind fun (id, data) =>
      (data.registerAll hash calls).map fun (ids, data) => (id :: ids, data)

def idMap (data : GlobalData) : NameKind → NameMap
  | .node => data.nodeIdMap
  | .channel => data.channelIdMap
  | .service => data.serviceIdMap
  | .taskName => data.taskIdMap

def setIdMap (data : GlobalData) (kind : NameKind) (map : NameMap) : GlobalData :=
  match kind with
  | .node => { data with nodeIdMap := map }
  | .channel => { data with channelIdMap := map }
  | .service => { data with serviceIdMap := map }
  | .taskName => { data with taskIdMap := map }

end GlobalData

namespace NameMap

variable {hash : String → UInt64} {map : NameMap} {entries : List (String × UInt64)}

/-- The loop over the buckets is the probing of the function that they stand for. -/
theorem probeLoop_eq (map : NameMap) (name : String) (fuel : Nat) (id : UInt64) :
    map.probeLoop name fuel id = probe map.get name fuel id := by
  induction fuel generalizing id with
  | zero => rfl
  | succ fuel ih =>
    rw [probeLoop, probe, Base.HashTable.has_eq]
    cases map.get id with
    | none => rfl
    | some other => simp only [Option.isSome_some, if_true, ih, eq_comm]

/-- What calls with these names and ids have left in their map. -/
structure Assigns (hash : String → UInt64) (map : NameMap) (entries : List (String × UInt64)) : Prop where
  probed : ∀ id name, map.get id = some name → Passes map.get name id (hash name)
  held : ∀ entry ∈ entries, map.get entry.2 = some entry.1
  known : ∀ id name, map.get id = some name → (name, id) ∈ entries

theorem assigns_start (bits : Nat) : Assigns hash (nameMap bits) [] where
  probed _ _ occupied := nomatch occupied
  held := by simp
  known _ _ occupied := nomatch occupied

theorem Assigns.same_id (assigns : Assigns hash map entries) {name : String} {first second : UInt64}
    (member : (name, first) ∈ entries) (member' : (name, second) ∈ entries) : first = second := by
  have owned := assigns.held _ member
  have owned' := assigns.held _ member'
  exact (assigns.probed first name owned).unique (assigns.probed second name owned') owned owned'

/-- Fewer names than ids leave an id free. -/
theorem Assigns.free (assigns : Assigns hash map entries) {names : Finset String}
    (among : ∀ entry ∈ entries, entry.1 ∈ names) (few : names.card < UInt64.size) : ∃ id, map.get id = none := by
  by_contra full
  have occupied : ∀ id, ∃ name, map.get id = some name := by
    intro id
    cases found : map.get id with
    | none => exact absurd ⟨id, found⟩ full
    | some name => exact ⟨name, rfl⟩
  choose owner owned using occupied
  have inside : Set.MapsTo (fun n => owner (UInt64.ofNat n)) (Finset.range UInt64.size) names := by
    intro n _
    exact among _ (assigns.known _ _ (owned _))
  obtain ⟨first, below, second, below', differ, same⟩ := Finset.exists_ne_map_eq_of_card_lt_of_maps_to
    (by rw [Finset.card_range]; exact few) inside
  have collide : UInt64.ofNat first = UInt64.ofNat second := by
    have owned' := owned (UInt64.ofNat second)
    rw [← show owner (UInt64.ofNat first) = _ from same] at owned'
    exact assigns.same_id (assigns.known _ _ (owned _)) (assigns.known _ _ owned')
  apply differ
  have numbers := congrArg UInt64.toNat collide
  rwa [UInt64.toNat_ofNat_of_lt' (Finset.mem_range.mp below), UInt64.toNat_ofNat_of_lt' (Finset.mem_range.mp below')]
    at numbers

/-- A call returns while an id is free, and adds its name to the map. -/
theorem Assigns.register (assigns : Assigns hash map entries) (name : String) (free : ∃ id, map.get id = none) :
    ∃ id next, map.register hash name = some (id, next) ∧ Assigns hash next (entries ++ [(name, id)]) := by
  obtain ⟨spare, free⟩ := free
  have returns : (registerTaskName hash map.get name).isSome := registerTaskName_isSome hash free
  rw [registerTaskName, Option.isSome_map] at returns
  obtain ⟨id, probed⟩ := Option.isSome_iff_exists.mp returns
  obtain ⟨passes, _⟩ := passes_of_probe probed
  have grows := extends_of_probe probed
  refine ⟨id, map.set id name, ?_, ?_⟩
  · rw [NameMap.register, probeLoop_eq, probed]
    rfl
  constructor
  · intro other owner owned
    rw [Base.HashTable.get_set] at owned ⊢
    rw [Function.update_apply] at owned
    split at owned
    · rename_i same
      obtain rfl := Option.some.inj owned
      exact same ▸ passes.mono grows
    · exact (assigns.probed other owner owned).mono grows
  · intro entry member
    rw [Base.HashTable.get_set]
    rcases List.mem_append.mp member with old | new
    · exact grows _ _ (assigns.held entry old)
    · obtain rfl := List.mem_singleton.mp new
      exact Function.update_self ..
  · intro other owner owned
    rw [Base.HashTable.get_set, Function.update_apply] at owned
    split at owned
    · rename_i same
      obtain rfl := Option.some.inj owned
      exact List.mem_append_right _ (List.mem_singleton.mpr (by rw [same]))
    · exact List.mem_append_left _ (assigns.known other owner owned)

end NameMap

namespace GlobalData

variable {hash : String → UInt64}

theorem idMap_setIdMap (data : GlobalData) (kind other : NameKind) (map : NameMap) :
    (data.setIdMap kind map).idMap other = if other = kind then map else data.idMap other := by
  cases kind <;> cases other <;> rfl

/-- The four functions are one on the maps of their own. -/
theorem register_eq (data : GlobalData) (call : Registration) : data.register hash call =
    ((data.idMap call.kind).register hash call.name).map fun (id, map) => (id, data.setIdMap call.kind map) := by
  obtain ⟨kind, name⟩ := call
  cases kind <;> rfl

theorem getById_eq (data : GlobalData) (kind : NameKind) (id : UInt64) :
    data.getById kind id = (data.idMap kind).getById id := by
  cases kind <;> rfl

/-- The names of one kind with their ids, out of calls with what they returned. -/
def entriesOf (kind : NameKind) (returned : List (Registration × UInt64)) : List (String × UInt64) :=
  (returned.filter fun entry => entry.1.kind = kind).map fun entry => (entry.1.name, entry.2)

theorem mem_entriesOf {kind : NameKind} {returned : List (Registration × UInt64)} {entry : String × UInt64} :
    entry ∈ entriesOf kind returned ↔ (⟨kind, entry.1⟩, entry.2) ∈ returned := by
  simp only [entriesOf, List.mem_map, List.mem_filter, decide_eq_true_eq]
  constructor
  · rintro ⟨⟨⟨_, name⟩, id⟩, ⟨member, rfl⟩, rfl⟩
    exact member
  · intro member
    exact ⟨_, ⟨member, rfl⟩, rfl⟩

theorem entriesOf_snoc (kind : NameKind) (returned : List (Registration × UInt64)) (call : Registration) (id : UInt64) :
    entriesOf kind (returned ++ [(call, id)]) =
      if kind = call.kind then entriesOf kind returned ++ [(call.name, id)] else entriesOf kind returned := by
  unfold entriesOf
  rw [List.filter_append, List.map_append]
  by_cases same : kind = call.kind
  · simp [same]
  · simp [same, Ne.symm same]

theorem registerAll_assigns {names : NameKind → Finset String} (few : ∀ kind, (names kind).card < UInt64.size)
    {calls : List Registration} (named : ∀ call ∈ calls, call.name ∈ names call.kind) {data : GlobalData}
    {past : List (Registration × UInt64)} (before : ∀ entry ∈ past, entry.1.name ∈ names entry.1.kind)
    (assigns : ∀ kind, NameMap.Assigns hash (data.idMap kind) (entriesOf kind past)) :
    ∃ ids final, data.registerAll hash calls = some (ids, final) ∧ ids.length = calls.length ∧
      ∀ kind, NameMap.Assigns hash (final.idMap kind) (entriesOf kind (past ++ calls.zip ids)) := by
  induction calls generalizing data past with
  | nil =>
    refine ⟨[], data, rfl, rfl, ?_⟩
    simpa using assigns
  | cons call calls ih =>
    have among : ∀ entry ∈ entriesOf call.kind past, entry.1 ∈ names call.kind := by
      intro entry member
      exact before _ (mem_entriesOf.mp member)
    obtain ⟨id, map, registered, assigned⟩ := (assigns call.kind).register call.name
      ((assigns call.kind).free among (few call.kind))
    have here := named call List.mem_cons_self
    have before' : ∀ entry ∈ past ++ [(call, id)], entry.1.name ∈ names entry.1.kind := by
      intro entry member
      rcases List.mem_append.mp member with old | new
      · exact before entry old
      · obtain rfl := List.mem_singleton.mp new
        exact here
    have assigns' : ∀ kind, NameMap.Assigns hash ((data.setIdMap call.kind map).idMap kind)
        (entriesOf kind (past ++ [(call, id)])) := by
      intro kind
      rw [idMap_setIdMap, entriesOf_snoc]
      by_cases same : kind = call.kind
      · rw [if_pos same, if_pos same, same]
        exact assigned
      · rw [if_neg same, if_neg same]
        exact assigns kind
    obtain ⟨ids, final, ran, length, finally_⟩ := ih (fun other member => named other (List.mem_cons_of_mem _ member))
      before' assigns'
    refine ⟨id :: ids, final, ?_, congrArg (· + 1) length, ?_⟩
    · rw [registerAll, register_eq, registered]
      simp only [Option.map_some, Option.bind_some, ran]
    · simpa using finally_

/-- The names of one kind that the calls register. -/
def namesOf (kind : NameKind) (calls : List Registration) : Finset String :=
  ((calls.filter fun call => call.kind = kind).map Registration.name).toFinset

/-- Every sequence of calls returns, with one id for each name of a kind and one name for each id, and in the end every
    id leads to its name. -/
theorem registerAll_ids (hash : String → UInt64) {calls : List Registration}
    (few : ∀ kind, (namesOf kind calls).card < 2 ^ 64) :
    ∃ ids final, registerAll hash {} calls = some (ids, final) ∧ ids.length = calls.length ∧
      (∀ first ∈ calls.zip ids, ∀ second ∈ calls.zip ids, first.1.kind = second.1.kind →
        (first.2 = second.2 ↔ first.1.name = second.1.name)) ∧
      ∀ entry ∈ calls.zip ids, final.getById entry.1.kind entry.2 = entry.1.name := by
  have named : ∀ call ∈ calls, call.name ∈ namesOf call.kind calls := by
    intro call member
    rw [namesOf, List.mem_toFinset]
    exact List.mem_map_of_mem (List.mem_filter.mpr ⟨member, decide_eq_true rfl⟩)
  have before : ∀ entry ∈ ([] : List (Registration × UInt64)), entry.1.name ∈ namesOf entry.1.kind calls := by simp
  have start : ∀ kind, NameMap.Assigns hash (({} : GlobalData).idMap kind) (entriesOf kind []) := by
    intro kind
    cases kind <;> exact NameMap.assigns_start _
  obtain ⟨ids, final, ran, length, assigns⟩ := registerAll_assigns few named before start
  have entry : ∀ entry ∈ calls.zip ids, (entry.1.name, entry.2) ∈ entriesOf entry.1.kind ([] ++ calls.zip ids) :=
    fun entry member => mem_entriesOf.mpr member
  refine ⟨ids, final, ran, length, ?_, ?_⟩
  · intro first member second member' same
    have entered := entry first member
    have entered' := entry second member'
    rw [← same] at entered'
    constructor
    · intro sameId
      have owned := (assigns _).held _ entered
      have owned' := (assigns _).held _ entered'
      rw [show second.2 = first.2 from sameId.symm, show (first.1.name, first.2).2 = first.2 from rfl] at *
      exact Option.some.inj (owned.symm.trans owned')
    · intro sameName
      rw [← sameName] at entered'
      exact (assigns _).same_id entered entered'
  · intro registered member
    rw [getById_eq, NameMap.getById, (assigns _).held _ (entry registered member)]
    rfl

/-- Names of one hash, the second of which moves on to the natural id of nobody. -/
def colliding : List Registration := [⟨.channel, "a"⟩, ⟨.channel, "b"⟩, ⟨.channel, "a"⟩, ⟨.node, "b"⟩]

theorem colliding_ids : ∃ final, registerAll (fun _ => 7) {} colliding = some ([7, 8, 7, 7], final) ∧
    final.getById .channel 8 = "b" := by
  have few : ∀ kind, (namesOf kind colliding).card < 2 ^ 64 := by
    intro kind
    cases kind <;> decide
  obtain ⟨ids, final, ran, _, _, named⟩ := registerAll_ids (fun _ => 7) few
  have computed : (registerAll (fun _ => 7) {} colliding).map Prod.fst = some [7, 8, 7, 7] := by decide +kernel
  rw [ran] at computed
  obtain rfl := Option.some.inj computed
  exact ⟨final, ran, named (⟨.channel, "b"⟩, 8) (by decide)⟩

end GlobalData

end CyberRT

import Mathlib.Logic.Function.Basic

namespace CyberRT

/-- The loop of `GlobalData::RegisterTaskName`. With 2^64 rounds of fuel it has looked at every id. -/
def probe (taskIdMap : UInt64 → Option String) (name : String) : Nat → UInt64 → Option UInt64
  | 0, _ => none
  | fuel + 1, id =>
    match taskIdMap id with
    | none => some id
    | some other => if other = name then some id else probe taskIdMap name fuel (id + 1)

/-- The id of the name and the map that has it. The hash is that of the standard library. -/
def registerTaskName (hash : String → UInt64) (taskIdMap : UInt64 → Option String) (name : String) :
    Option (UInt64 × (UInt64 → Option String)) :=
  (probe taskIdMap name UInt64.size (hash name)).map fun id => (id, Function.update taskIdMap id (some name))

/-- `GlobalData::RegisterChannel` does the same on a map of its own. -/
def registerChannel (hash : String → UInt64) (channelIdMap : UInt64 → Option String) (channel : String) :
    Option (UInt64 × (UInt64 → Option String)) :=
  registerTaskName hash channelIdMap channel

/-- The probing from `id` for this name gets to `target` past other names. -/
inductive Passes (taskIdMap : UInt64 → Option String) (name : String) (target : UInt64) : UInt64 → Prop where
  | here : Passes taskIdMap name target target
  | next {id : UInt64} {other : String} (occupied : taskIdMap id = some other) (foreign : other ≠ name)
      (rest : Passes taskIdMap name target (id + 1)) : Passes taskIdMap name target id

variable {taskIdMap : UInt64 → Option String} {name : String}

theorem passes_of_probe {fuel : Nat} {id target : UInt64} (found : probe taskIdMap name fuel id = some target) :
    Passes taskIdMap name target id ∧ (taskIdMap target = none ∨ taskIdMap target = some name) := by
  induction fuel generalizing id with
  | zero => cases found
  | succ fuel ih =>
    rw [probe] at found
    split at found
    next free =>
      obtain rfl := Option.some.inj found
      exact ⟨.here, .inl free⟩
    next other occupied =>
      split at found
      next same =>
        obtain rfl := Option.some.inj found
        exact ⟨.here, .inr (same ▸ occupied)⟩
      next foreign =>
        obtain ⟨passes, lands⟩ := ih found
        exact ⟨.next occupied foreign passes, lands⟩

/-- The probing returns while an id is free. -/
theorem probe_isSome {fuel distance : Nat} {id : UInt64} (free : taskIdMap (id + UInt64.ofNat distance) = none)
    (near : distance < fuel) : (probe taskIdMap name fuel id).isSome := by
  induction fuel generalizing id distance with
  | zero => omega
  | succ fuel ih =>
    rw [probe]
    split
    · rfl
    · rename_i other occupied
      split
      · rfl
      · cases distance with
        | zero => simp [occupied] at free
        | succ distance =>
          have sameId : id + 1 + UInt64.ofNat distance = id + UInt64.ofNat (distance + 1) := by
            rw [UInt64.add_assoc, UInt64.ofNat_add, UInt64.add_comm 1]
            rfl
          exact ih (sameId ▸ free) (by omega)

theorem registerTaskName_isSome (hash : String → UInt64) {id : UInt64} (free : taskIdMap id = none) :
    (registerTaskName hash taskIdMap name).isSome := by
  have there : taskIdMap (hash name + UInt64.ofNat (id - hash name).toNat) = none := by
    rw [UInt64.ofNat_toNat, UInt64.add_comm, UInt64.sub_add_cancel]
    exact free
  rw [registerTaskName, Option.isSome_map]
  exact probe_isSome there (UInt64.toNat_lt_size _)

theorem registerTaskName_plain (hash : String → UInt64)
    (open_ : taskIdMap (hash name) = none ∨ taskIdMap (hash name) = some name) :
    registerTaskName hash taskIdMap name = some (hash name, Function.update taskIdMap (hash name) (some name)) := by
  have found : probe taskIdMap name (18446744073709551615 + 1) (hash name) = some (hash name) := by
    rw [probe]
    rcases open_ with free | own
    · rw [free]
    · rw [own]
      exact if_pos rfl
  exact congrArg (Option.map _) found

theorem Passes.mono {other : UInt64 → Option String} {id target : UInt64} (passes : Passes taskIdMap name target id)
    (extends_ : ∀ id name, taskIdMap id = some name → other id = some name) : Passes other name target id := by
  induction passes with
  | here => exact .here
  | next occupied foreign _ ih => exact .next (extends_ _ _ occupied) foreign ih

/-- A name is registered under one id. -/
theorem Passes.unique {id first second : UInt64} (passes : Passes taskIdMap name first id)
    (passes' : Passes taskIdMap name second id) (owned : taskIdMap first = some name)
    (owned' : taskIdMap second = some name) : first = second := by
  induction passes with
  | here =>
    cases passes' with
    | here => rfl
    | next occupied foreign _ => exact absurd (Option.some.inj (occupied.symm.trans owned)) foreign
  | next occupied foreign _ ih =>
    cases passes' with
    | here => exact absurd (Option.some.inj (occupied.symm.trans owned')) foreign
    | next _ _ rest => exact ih rest

theorem extends_of_probe {target : UInt64} {fuel : Nat} {id : UInt64}
    (probed : probe taskIdMap name fuel id = some target) (other : UInt64) (owner : String)
    (owned : taskIdMap other = some owner) : Function.update taskIdMap target (some name) other = some owner := by
  rw [Function.update_apply]
  split
  · rename_i same
    subst same
    rcases (passes_of_probe probed).2 with free | own
    · rw [free] at owned
      cases owned
    · rw [← own, owned]
  · exact owned

end CyberRT

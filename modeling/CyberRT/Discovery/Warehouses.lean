import CyberRT.Discovery.Roles

namespace CyberRT.Discovery

theorem Role.fieldMatches_some {Value : Type} [DecidableEq Value] (value own : Value) :
    Role.fieldMatches (some value) own = true ↔ value = own := by
  simp [Role.fieldMatches]

theorem Role.fieldMatches_self {Value : Type} [DecidableEq Value] (own : Option Value) (absent : Value) :
    Role.fieldMatches own (own.getD absent) = true := by
  cases own with
  | none => rfl
  | some value => simp [Role.fieldMatches]

namespace Role

theorem matchBase_self (role : Role) : role.matchBase role.attributes = true := by
  simp [matchBase, RoleAttributes.getNodeId, RoleAttributes.getProcessId, RoleAttributes.getHostName,
    fieldMatches_self]

theorem matchWriter_self (role : Role) : role.matchWriter role.attributes = true := by
  simp [matchWriter, RoleAttributes.getChannelId, RoleAttributes.getId, fieldMatches_self, matchBase_self]

theorem matchServer_self (role : Role) : role.matchServer role.attributes = true := by
  simp [matchServer, RoleAttributes.getServiceId, fieldMatches_self, matchBase_self]

def ofModule (hostName : String) (processId : Int) (role : Role) : Bool :=
  role.attributes.getHostName = hostName && role.attributes.getProcessId = processId

def Carries (role : Role) : Prop := role.attributes.hostName.isSome ∧ role.attributes.processId.isSome

instance decidableCarries (role : Role) : Decidable role.Carries :=
  inferInstanceAs (Decidable (role.attributes.hostName.isSome ∧ role.attributes.processId.isSome))

theorem Carries.hostName {role : Role} (carries : role.Carries) :
    role.attributes.hostName = some role.attributes.getHostName := by
  obtain ⟨value, same⟩ := Option.isSome_iff_exists.mp carries.1
  rw [RoleAttributes.getHostName, same]
  rfl

theorem Carries.processId {role : Role} (carries : role.Carries) :
    role.attributes.processId = some role.attributes.getProcessId := by
  obtain ⟨value, same⟩ := Option.isSome_iff_exists.mp carries.2
  rw [RoleAttributes.getProcessId, same]
  rfl

theorem matchWriter_base {role other : Role} (matched : other.matchWriter role.attributes = true) :
    other.matchBase role.attributes = true := by
  rw [matchWriter, Bool.and_eq_true] at matched
  exact matched.2

theorem matchServer_base {role other : Role} (matched : other.matchServer role.attributes = true) :
    other.matchBase role.attributes = true := by
  rw [matchServer, Bool.and_eq_true] at matched
  exact matched.2

theorem Carries.ofModule {role other : Role} (carries : role.Carries) {hostName : String} {processId : Int}
    (matched : other.matchBase role.attributes = true) :
    other.ofModule hostName processId = role.ofModule hostName processId := by
  rw [matchBase, Bool.and_eq_true, Bool.and_eq_true, carries.hostName, carries.processId, fieldMatches_some,
    fieldMatches_some] at matched
  rw [Role.ofModule, Role.ofModule, matched.2, matched.1.2]

end Role

namespace MultiValueWarehouse

/-- The warehouse holds these roles, each under its own key. -/
def Keyed (key : RoleAttributes → UInt64) (warehouse : MultiValueWarehouse) (held : List Role) : Prop :=
  warehouse.roles = held.map fun role => (key role.attributes, role)

variable {key : RoleAttributes → UInt64} {matchRole : Role → RoleAttributes → Bool} {warehouse : MultiValueWarehouse}
  {held : List Role}

theorem keyed_empty (key : RoleAttributes → UInt64) : Keyed key {} [] := rfl

theorem Keyed.add (keyed : Keyed key warehouse held) (role : Role) :
    Keyed key (warehouse.add (key role.attributes) role) (held ++ [role]) := by
  rw [Keyed, MultiValueWarehouse.add, keyed, List.map_append]
  rfl

theorem Keyed.getAllRoles (keyed : Keyed key warehouse held) : warehouse.getAllRoles = held := by
  rw [MultiValueWarehouse.getAllRoles, keyed, List.map_map]
  exact List.map_id held

theorem Keyed.search (keyed : Keyed key warehouse held) (target : RoleAttributes) :
    warehouse.search matchRole target = held.filter fun role => matchRole role target := by
  rw [MultiValueWarehouse.search, keyed, List.filter_map, List.map_map]
  exact List.map_id _

theorem Keyed.searchKey (keyed : Keyed key warehouse held) (value : UInt64) :
    warehouse.searchKey value = held.filter fun role => key role.attributes = value := by
  rw [MultiValueWarehouse.searchKey, keyed, List.filter_map, List.map_map]
  exact List.map_id _

theorem Keyed.remove (keyed : Keyed key warehouse held) (matchRole : Role → RoleAttributes → Bool) (role : Role) :
    Keyed key (warehouse.remove matchRole (key role.attributes) role)
      (held.filter fun other =>
        !(key other.attributes = key role.attributes && matchRole other role.attributes)) := by
  rw [Keyed, MultiValueWarehouse.remove, keyed, List.filter_map]
  rfl

def removeAll (key : RoleAttributes → UInt64) (matchRole : Role → RoleAttributes → Bool)
    (warehouse : MultiValueWarehouse) (attrs : List RoleAttributes) : MultiValueWarehouse :=
  attrs.foldl (fun warehouse attr => warehouse.remove matchRole (key attr) { attributes := attr }) warehouse

theorem Keyed.removeAll (keyed : Keyed key warehouse held) (matchRole : Role → RoleAttributes → Bool)
    (attrs : List RoleAttributes) :
    Keyed key (warehouse.removeAll key matchRole attrs)
      (held.filter fun role =>
        !attrs.any fun attr => key role.attributes = key attr && matchRole role attr) := by
  induction attrs generalizing warehouse held with
  | nil =>
    have all : held.filter (fun _ => true) = held := List.filter_true held
    simpa [MultiValueWarehouse.removeAll, all] using keyed
  | cons attr attrs ih =>
    have rest := ih (keyed.remove matchRole { attributes := attr })
    rw [List.filter_filter] at rest
    have same : (held.filter fun role =>
        !(attr :: attrs).any fun attr => key role.attributes = key attr && matchRole role attr) =
        held.filter fun role =>
          (!attrs.any fun attr => key role.attributes = key attr && matchRole role attr) &&
            !(key role.attributes = key attr && matchRole role attr) := by
      apply List.filter_congr
      intro role _
      rw [List.any_cons, Bool.not_or, Bool.and_comm]
    rw [same]
    exact rest

theorem Keyed.removeModule (keyed : Keyed key warehouse held) {hostName : String} {processId : Int}
    (self : ∀ role : Role, matchRole role role.attributes = true)
    (base : ∀ {role other : Role}, matchRole other role.attributes = true → other.matchBase role.attributes = true)
    (carries : ∀ role ∈ held, role.ofModule hostName processId = true → role.Carries) :
    Keyed key (warehouse.removeAll key matchRole
        ((held.filter fun role => role.ofModule hostName processId).map fun role => role.attributes))
      (held.filter fun role => !role.ofModule hostName processId) := by
  have removed := keyed.removeAll matchRole
    ((held.filter fun role => role.ofModule hostName processId).map fun role => role.attributes)
  convert removed using 1
  apply List.filter_congr
  intro role member
  apply congrArg
  rw [Bool.eq_iff_iff, List.any_eq_true]
  constructor
  · intro own
    refine ⟨role.attributes, List.mem_map.mpr ⟨role, List.mem_filter.mpr ⟨member, own⟩, rfl⟩, ?_⟩
    simp [self role]
  · rintro ⟨attr, found, matched⟩
    obtain ⟨target, inside, rfl⟩ := List.mem_map.mp found
    obtain ⟨targetHeld, targetOwn⟩ := List.mem_filter.mp inside
    rw [Bool.and_eq_true] at matched
    rw [(carries target targetHeld targetOwn).ofModule (base matched.2)]
    exact targetOwn

end MultiValueWarehouse

end CyberRT.Discovery

import CyberRT.Discovery.ModuleLeave
import CyberRT.Discovery.Network

namespace CyberRT.Discovery

open Execution

namespace SingleValueWarehouse

theorem searchKey_insert (warehouse : SingleValueWarehouse) (key other : UInt64) (role : Role) :
    (warehouse.add key role true).2.searchKey other = if other = key then some role else warehouse.searchKey other := by
  have inserted : (warehouse.add key role true).2 = ⟨warehouse.roles.insert key role⟩ := by simp [add]
  rw [inserted, searchKey]
  split
  · rename_i same
    subst same
    exact AList.lookup_insert warehouse.roles
  · rename_i differs
    exact AList.lookup_insert_ne differs

/-- Whether `Add` without `ignore_if_exist` succeeds, and what it has done then. -/
theorem add_new (warehouse : SingleValueWarehouse) (key : UInt64) (role : Role) :
    warehouse.add key role false =
      match warehouse.searchKey key with
      | none => (true, (warehouse.add key role true).2)
      | some _ => (false, warehouse) := by
  cases found : warehouse.searchKey key with
  | none =>
    have absent : key ∉ warehouse.roles := AList.lookup_eq_none.mp found
    simp [add, absent]
  | some existing =>
    have present : key ∈ warehouse.roles := by
      rw [← AList.lookup_isSome]
      exact Option.isSome_of_eq_some found
    simp [add, present]

end SingleValueWarehouse

namespace NodeManager

/-- Which of the node that holds a name and a node that joins under it keeps the name. -/
def survivor (existing : Option Role) (node : Role) : Role :=
  match existing with
  | none => node
  | some existing => if node.isEarlierThan existing then node else existing

theorem searchKey_disposeJoin (manager : NodeManager) (msg : ChangeMsg) (key : UInt64) :
    (disposeJoin manager msg).nodes.searchKey key =
      if key = msg.roleAttr.getNodeId then
        some (survivor (manager.roles.nodes.searchKey key) ⟨msg.roleAttr, msg.timestamp⟩)
      else manager.roles.nodes.searchKey key := by
  simp only [disposeJoin, SingleValueWarehouse.add_new]
  cases found : manager.roles.nodes.searchKey msg.roleAttr.getNodeId with
  | none =>
    simp only [if_true, SingleValueWarehouse.searchKey_insert]
    split
    · rename_i same
      rw [same, found]
      rfl
    · rfl
  | some existing =>
    simp only [Bool.false_eq_true, if_false]
    by_cases earlier : Role.isEarlierThan ⟨msg.roleAttr, msg.timestamp⟩ existing = true
    · simp only [earlier, if_true, SingleValueWarehouse.searchKey_insert]
      split
      · rename_i same
        rw [same, found]
        simp only [survivor, earlier, if_true]
      · rfl
    · simp only [earlier, Bool.false_eq_true, if_false]
      split
      · rename_i same
        rw [same, found]
        simp only [survivor, earlier, Bool.false_eq_true, if_false]
      · rfl

theorem survivor_cases (existing : Option Role) (node : Role) :
    survivor existing node = node ∨ existing = some (survivor existing node) := by
  cases existing with
  | none => exact Or.inl rfl
  | some existing =>
    simp only [survivor]
    split
    · exact Or.inl rfl
    · exact Or.inr rfl

theorem survivor_le_node (existing : Option Role) (node : Role) :
    (survivor existing node).timestampNs ≤ node.timestampNs := by
  cases existing with
  | none => exact Nat.le_refl _
  | some existing =>
    simp only [survivor, Role.isEarlierThan, decide_eq_true_eq]
    split <;> omega

theorem survivor_le_existing (existing node : Role) :
    (survivor (some existing) node).timestampNs ≤ existing.timestampNs := by
  simp only [survivor, Role.isEarlierThan, decide_eq_true_eq]
  split <;> omega

theorem searchKey_disposeLeave (roles : NodeRoles) (msg : ChangeMsg) (key : UInt64) :
    (disposeLeave roles msg).nodes.searchKey key =
      if key = msg.roleAttr.getNodeId then none else roles.nodes.searchKey key :=
  SingleValueWarehouse.searchKey_removeKey roles.nodes msg.roleAttr.getNodeId key

end NodeManager

namespace NetworkEvent

variable {Process : Type}

/-- The node that a call joins under this node id. -/
def claim (address : Process → String × Int) (nodeId : UInt64) : NetworkEvent Process → Option Role
  | .join process now attr role =>
    if (role = .node ∧ NodeManager.check attr = true) ∧ attr.getNodeId = nodeId then
      some ⟨attr.published (address process), now⟩
    else none
  | _ => none

/-- A process joins nodes of its own, and none of this node id leaves. -/
def Stays (address : Process → String × Int) (nodeId : UInt64) : NetworkEvent Process → Prop
  | .join process _ attr _ => attr.hostName.getD (address process).1 = (address process).1 ∧
      attr.processId.getD (address process).2 = (address process).2
  | .leave _ _ attr _ => attr.getNodeId ≠ nodeId
  | .deliver _ _ _ => True

end NetworkEvent

def ChangeMsg.claim (nodeId : UInt64) (msg : ChangeMsg) : Option Role :=
  if msg.operateType = .join ∧ msg.roleAttr.getNodeId = nodeId then some ⟨msg.roleAttr, msg.timestamp⟩ else none

/-- What the process at this address may publish while no node of this id leaves. -/
structure ChangeMsg.Stays (msg : ChangeMsg) (address : String × Int) (nodeId : UInt64) : Prop where
  check : NodeManager.check msg.roleAttr = true
  joins : msg.roleAttr.getNodeId = nodeId → msg.operateType = .join
  own : msg.operateType = .join → msg.roleAttr.getHostName = address.1 ∧ msg.roleAttr.getProcessId = address.2

namespace NodeManager

variable {Process : Type} {address : Process → String × Int} {nodeId : UInt64} {event : NetworkEvent Process}

theorem message_stays (stays : event.Stays address nodeId) {process : Process} {msg : ChangeMsg}
    (sent : event.message specific address = some (process, msg)) :
    msg.Stays (address process) nodeId ∧ event.claim address nodeId = msg.claim nodeId := by
  cases event with
  | join sender now attr role =>
    obtain ⟨msg', accepted, same⟩ := Option.map_eq_some_iff.mp sent
    obtain ⟨rfl, rfl⟩ := Prod.mk.inj same
    obtain ⟨⟨allowed, checked⟩, rfl⟩ := Manager.Specific.accepted_eq_some.mp accepted
    have kind : role = .node := of_decide_eq_true allowed
    refine ⟨⟨checked, fun _ => rfl, fun _ => stays⟩, ?_⟩
    simp only [NetworkEvent.claim, ChangeMsg.claim, kind, show check attr = true from checked, and_self, true_and]
    rfl
  | leave sender now attr role =>
    obtain ⟨msg', accepted, same⟩ := Option.map_eq_some_iff.mp sent
    obtain ⟨rfl, rfl⟩ := Prod.mk.inj same
    obtain ⟨⟨_, checked⟩, rfl⟩ := Manager.Specific.accepted_eq_some.mp accepted
    exact ⟨⟨checked, fun same => absurd same stays, fun joins => nomatch joins⟩, rfl⟩
  | deliver => cases sent

theorem claim_refused (refused : event.message specific address = none) : event.claim address nodeId = none := by
  cases event with
  | join sender now attr role =>
    have rejected := Option.map_eq_none_iff.mp refused
    rw [Manager.Specific.accepted, ite_eq_right_iff] at rejected
    rw [NetworkEvent.claim, if_neg]
    rintro ⟨⟨kind, checked⟩, _⟩
    exact Option.some_ne_none _ (rejected ⟨decide_eq_true kind, checked⟩)
  | leave | deliver => rfl

/-- The name of the node goes to the survivor of each claim, and no other message touches it. -/
def claimed (held : Option Role) (claim : Option Role) : Option Role :=
  claim.elim held fun node => some (survivor held node)

theorem searchKey_dispose (manager : NodeManager) {msg : ChangeMsg} {address : String × Int}
    (stays : msg.Stays address nodeId) :
    (manager.dispose specific msg).roles.nodes.searchKey nodeId =
      claimed (manager.roles.nodes.searchKey nodeId) (msg.claim nodeId) := by
  simp only [Manager.dispose, Manager.notify]
  cases operate : msg.operateType with
  | join =>
    refine (searchKey_disposeJoin manager msg nodeId).trans ?_
    by_cases same : msg.roleAttr.getNodeId = nodeId
    · simp [claimed, ChangeMsg.claim, operate, same]
    · simp [claimed, ChangeMsg.claim, same, Ne.symm same]
  | leave =>
    refine (searchKey_disposeLeave manager.roles msg nodeId).trans ?_
    have other : msg.roleAttr.getNodeId ≠ nodeId := by
      intro same
      rw [stays.joins same] at operate
      cases operate
    simp [claimed, ChangeMsg.claim, operate, Ne.symm other]

variable {network next : Network Process NodeRoles} {past : List (NetworkEvent Process)}

theorem searchKey_onRemoteChange [DecidableEq Process] (distinct : Function.Injective address) (running : network.Running address)
    {sender receiver : Process} {msg : ChangeMsg} (stays : msg.Stays (address sender) nodeId) :
    ((network.manager receiver).onRemoteChange specific msg).roles.nodes.searchKey nodeId =
      claimed ((network.manager receiver).roles.nodes.searchKey nodeId)
        (if receiver = sender then none else msg.claim nodeId) := by
  have here := running receiver
  rw [Manager.onRemoteChange, here.isShutdown]
  simp only [Bool.false_eq_true, if_false, show specific.check msg.roleAttr = true from stays.check]
  cases claims : msg.claim nodeId with
  | none =>
    simp only [ite_self]
    split
    · rfl
    · simpa [claims] using searchKey_dispose (network.manager receiver) stays
  | some node =>
    rw [ChangeMsg.claim, Option.ite_none_right_eq_some] at claims
    obtain ⟨host, pid⟩ := stays.own claims.1.1
    have origin : (network.manager receiver).isFromSameProcess msg = true ↔ receiver = sender :=
      Network.isFromSameProcess_iff distinct running host pid
    have claims : msg.claim nodeId = some node := by
      rw [ChangeMsg.claim, Option.ite_none_right_eq_some]
      exact claims
    by_cases same : receiver = sender
    · rw [if_pos (origin.mpr same), if_pos same]
      rfl
    · rw [if_neg (fun own => same (origin.mp own)), if_neg same, ← claims]
      exact searchKey_dispose (network.manager receiver) stays

def claims (address : Process → String × Int) (nodeId : UInt64) (past : List (NetworkEvent Process)) : List Role :=
  past.filterMap (NetworkEvent.claim address nodeId)

/-- A claim has reached the process: the name is held by this or by an earlier claimant. -/
def Heeded (nodeId : UInt64) (network : Network Process NodeRoles) (receiver : Process) (claimant : Role) : Prop :=
  ∃ held, (network.manager receiver).roles.nodes.searchKey nodeId = some held ∧
    held.timestampNs ≤ claimant.timestampNs

structure Contested (address : Process → String × Int) (nodeId : UInt64) (network : Network Process NodeRoles)
    (past : List (NetworkEvent Process)) : Prop where
  running : network.Running address
  inFlight : ∀ receiver sender, ∀ msg ∈ network.inFlight receiver sender,
    msg.Stays (address sender) nodeId ∧ ∀ node, msg.claim nodeId = some node → node ∈ claims address nodeId past
  held : ∀ receiver node, (network.manager receiver).roles.nodes.searchKey nodeId = some node →
    node ∈ claims address nodeId past
  heeded : ∀ receiver, ∀ node ∈ claims address nodeId past, Heeded nodeId network receiver node ∨
    ∃ sender, receiver ≠ sender ∧ ∃ msg ∈ network.inFlight receiver sender, msg.claim nodeId = some node

theorem claimed_mem {past : List Role} {held claim : Option Role} (before : ∀ node, held = some node → node ∈ past)
    (fresh : ∀ node, claim = some node → node ∈ past) : ∀ node, claimed held claim = some node → node ∈ past := by
  intro node found
  cases claim with
  | none => exact before node found
  | some claimant =>
    obtain rfl := Option.some.inj found
    rcases survivor_cases held claimant with same | same
    · rw [same]
      exact fresh claimant rfl
    · exact before _ same

theorem claimed_le_held (held : Role) (claim : Option Role) :
    ∃ after, claimed (some held) claim = some after ∧ after.timestampNs ≤ held.timestampNs := by
  cases claim with
  | none => exact ⟨held, rfl, Nat.le_refl _⟩
  | some claimant => exact ⟨_, rfl, survivor_le_existing held claimant⟩

theorem claimed_le_claimant (held : Option Role) (claimant : Role) :
    ∃ after, claimed held (some claimant) = some after ∧ after.timestampNs ≤ claimant.timestampNs :=
  ⟨_, rfl, survivor_le_node held claimant⟩

theorem Heeded.claimed {receiver : Process} {claimant : Role} (heeded : Heeded nodeId network receiver claimant)
    {claim : Option Role} (entry : (next.manager receiver).roles.nodes.searchKey nodeId =
      claimed ((network.manager receiver).roles.nodes.searchKey nodeId) claim) :
    Heeded nodeId next receiver claimant := by
  obtain ⟨held, found, earlier⟩ := heeded
  obtain ⟨after, same, no_later⟩ := claimed_le_held held claim
  exact ⟨after, by rw [entry, found, same], Nat.le_trans no_later earlier⟩

theorem claims_none (quiet : event.claim address nodeId = none) :
    claims address nodeId (past ++ [event]) = claims address nodeId past := by
  simp [claims, List.filterMap_append, quiet]

theorem mem_claims_snoc {node : Role} :
    node ∈ claims address nodeId (past ++ [event]) ↔
      node ∈ claims address nodeId past ∨ event.claim address nodeId = some node := by
  simp [claims, List.filterMap_append]

theorem contested_start (address : Process → String × Int) (nodeId : UInt64) :
    Contested address nodeId (Network.start address ({} : NodeRoles)) [] := by
  refine ⟨Network.running_start address _, by simp [Network.start], ?_, by simp [claims]⟩
  intro receiver node found
  simp [Network.start, SingleValueWarehouse.searchKey] at found

theorem nonempty_of_claim {node : Role} (claims : event.claim address nodeId = some node) : Nonempty Process := by
  cases event with
  | join process => exact ⟨process⟩
  | leave process => exact ⟨process⟩
  | deliver sender => exact ⟨sender⟩

variable [DecidableEq Process]

theorem Contested.called (contested : Contested address nodeId network past) {process : Process} {msg : ChangeMsg}
    (stays : msg.Stays (address process) nodeId) (same : event.claim address nodeId = msg.claim nodeId)
    (running : (network.call process ((network.manager process).applied specific msg)).Running address) :
    Contested address nodeId (network.call process ((network.manager process).applied specific msg))
      (past ++ [event]) := by
  have fresh : ∀ node, msg.claim nodeId = some node → node ∈ claims address nodeId (past ++ [event]) := by
    intro node claims
    exact mem_claims_snoc.mpr (Or.inr (same.trans claims))
  have entry : ∀ receiver, ((network.call process ((network.manager process).applied specific msg)).manager
      receiver).roles.nodes.searchKey nodeId =
      claimed ((network.manager receiver).roles.nodes.searchKey nodeId)
        (if receiver = process then msg.claim nodeId else none) := by
    intro receiver
    rw [Network.manager_call]
    split
    · rename_i here
      rw [here]
      exact searchKey_dispose (network.manager process) stays
    · rfl
  constructor
  · exact running
  · intro receiver sender earlier member
    rw [Network.inFlight_call_applied] at member
    have before : ∀ sender, ∀ earlier ∈ network.inFlight receiver sender, earlier.Stays (address sender) nodeId ∧
        ∀ node, earlier.claim nodeId = some node → node ∈ claims address nodeId (past ++ [event]) := by
      intro sender earlier member
      obtain ⟨stays, known⟩ := contested.inFlight receiver sender earlier member
      exact ⟨stays, fun node claims => mem_claims_snoc.mpr (Or.inl (known node claims))⟩
    split at member
    · rename_i own
      rw [own]
      rcases List.mem_append.mp member with member | member
      · exact before process earlier member
      · rw [List.mem_singleton.mp member]
        exact ⟨stays, fresh⟩
    · exact before sender earlier member
  · intro receiver
    rw [entry receiver]
    apply claimed_mem
    · exact fun node found => mem_claims_snoc.mpr (Or.inl (contested.held receiver node found))
    · intro node claims
      split at claims
      · exact fresh node claims
      · cases claims
  · intro receiver node member
    rcases mem_claims_snoc.mp member with member | claims
    · rcases contested.heeded receiver node member with heeded | ⟨sender, other, waiting, member, claims⟩
      · exact Or.inl (heeded.claimed (entry receiver))
      · refine Or.inr ⟨sender, other, waiting, ?_, claims⟩
        rw [Network.inFlight_call_applied]
        split
        · rename_i own
          exact List.mem_append_left _ (own ▸ member)
        · exact member
    · rw [same] at claims
      by_cases here : receiver = process
      · have settled := entry receiver
        rw [if_pos here, claims] at settled
        obtain ⟨after, found, earlier⟩ := claimed_le_claimant
          ((network.manager receiver).roles.nodes.searchKey nodeId) node
        exact Or.inl ⟨after, settled.trans found, earlier⟩
      · refine Or.inr ⟨process, here, msg, ?_, claims⟩
        rw [Network.inFlight_call_applied, if_pos rfl]
        exact List.mem_append_right _ (List.mem_singleton_self msg)

theorem mem_eraseIdx_or {msg found : ChangeMsg} {msgs : List ChangeMsg} {index : Nat} (taken : msgs[index]? = some found)
    (member : msg ∈ msgs) : msg = found ∨ msg ∈ msgs.eraseIdx index := by
  obtain ⟨inside, same⟩ := List.getElem?_eq_some_iff.mp taken
  rw [List.mem_eraseIdx_iff_getElem]
  obtain ⟨position, bound, here⟩ := List.mem_iff_getElem.mp member
  by_cases at_index : position = index
  · subst at_index
    exact Or.inl (here.symm.trans same)
  · exact Or.inr ⟨position, bound, at_index, here⟩

theorem Contested.received (distinct : Function.Injective address) (contested : Contested address nodeId network past)
    {sender receiver : Process} {index : Nat} {msg : ChangeMsg}
    (found : (network.inFlight receiver sender)[index]? = some msg)
    (running : (network.receive specific sender receiver index msg).Running address) :
    Contested address nodeId (network.receive specific sender receiver index msg)
      (past ++ [.deliver sender receiver index]) := by
  have quiet : NetworkEvent.claim address nodeId (.deliver sender receiver index) = none := rfl
  obtain ⟨stays, known⟩ := contested.inFlight receiver sender msg (List.mem_of_getElem? found)
  have entry : ∀ other, ((network.receive specific sender receiver index msg).manager other).roles.nodes.searchKey
      nodeId = claimed ((network.manager other).roles.nodes.searchKey nodeId)
        (if other = receiver ∧ receiver ≠ sender then msg.claim nodeId else none) := by
    intro other
    rw [Network.manager_receive]
    by_cases here : other = receiver
    · subst here
      rw [if_pos rfl, searchKey_onRemoteChange distinct contested.running stays]
      by_cases own : other = sender <;> simp [own]
    · simp [here, claimed]
  constructor
  · exact running
  · intro receiver' sender' earlier member
    rw [claims_none quiet]
    rw [Network.inFlight_receive] at member
    split at member
    · rename_i same
      rw [same.2]
      exact contested.inFlight receiver sender earlier (List.mem_of_mem_eraseIdx member)
    · exact contested.inFlight receiver' sender' earlier member
  · intro other
    rw [claims_none quiet, entry other]
    apply claimed_mem (contested.held other)
    intro node claims
    split at claims
    · exact known node claims
    · cases claims
  · intro other node member
    rw [claims_none quiet] at member
    rcases contested.heeded other node member with heeded | ⟨origin, foreign, waiting, member, claims⟩
    · exact Or.inl (heeded.claimed (entry other))
    · by_cases here : other = receiver ∧ origin = sender
      · obtain ⟨rfl, rfl⟩ := here
        rcases mem_eraseIdx_or found member with rfl | member
        · have settled := entry other
          rw [if_pos ⟨rfl, foreign⟩, claims] at settled
          obtain ⟨after, found, earlier⟩ := claimed_le_claimant
            ((network.manager other).roles.nodes.searchKey nodeId) node
          exact Or.inl ⟨after, settled.trans found, earlier⟩
        · refine Or.inr ⟨origin, foreign, waiting, ?_, claims⟩
          rw [Network.inFlight_receive, if_pos ⟨rfl, rfl⟩]
          exact member
      · refine Or.inr ⟨origin, foreign, waiting, ?_, claims⟩
        rw [Network.inFlight_receive, if_neg here]
        exact member

theorem Contested.step (distinct : Function.Injective address) (contested : Contested address nodeId network past)
    (stays : event.Stays address nodeId) (taken : network.step specific event = some next) :
    Contested address nodeId next (past ++ [event]) := by
  have running := contested.running.step taken
  rcases Network.step_cases contested.running taken with ⟨refused, rfl⟩ | ⟨process, msg, sent, rfl⟩ |
    ⟨sender, receiver, index, msg, rfl, found, rfl⟩
  · have quiet : claims address nodeId (past ++ [event]) = claims address nodeId past :=
      claims_none (claim_refused refused)
    exact ⟨running, quiet ▸ contested.inFlight, quiet ▸ contested.held, quiet ▸ contested.heeded⟩
  · obtain ⟨own, same⟩ := message_stays stays sent
    exact contested.called own same running
  · exact contested.received distinct found running

/-- Once every claim to a node id is processed, it is the earliest claimant that every process knows under it. -/
theorem nodeManagers_agree (distinct : Function.Injective address) {events : List (NetworkEvent Process)}
    (stays : ∀ event ∈ events, event.Stays address nodeId)
    (timestamps : ((claims address nodeId events).map Role.timestampNs).Nodup)
    (contended : claims address nodeId events ≠ [])
    (ran : run (Network.step specific) (Network.start address {}) events = some network)
    (processed : ∀ receiver sender, network.inFlight receiver sender = []) :
    ∃ earliest ∈ claims address nodeId events,
      (∀ claimant ∈ claims address nodeId events, earliest.timestampNs ≤ claimant.timestampNs) ∧
      ∀ process, (network.manager process).roles.nodes.searchKey nodeId = some earliest := by
  have meets : Meets (Network.step specific) (fun _ event => event.Stays address nodeId)
      (Network.start address {}) events := meets_of_forall (fun event member _ => stays event member) _
  have contested := Meets.invariant (Contested address nodeId) []
    (fun state past event next meets taken holds => holds.step distinct meets taken)
    (contested_start address nodeId) meets ran
  rw [List.nil_append] at contested
  have heeded : ∀ process, ∀ claimant ∈ claims address nodeId events, Heeded nodeId network process claimant := by
    intro process claimant member
    rcases contested.heeded process claimant member with heeded | ⟨sender, _, msg, waiting, _⟩
    · exact heeded
    · rw [processed] at waiting
      cases waiting
  obtain ⟨first, member⟩ := List.exists_mem_of_ne_nil _ contended
  obtain ⟨event, _, claims⟩ := List.mem_filterMap.mp member
  obtain ⟨observer⟩ := nonempty_of_claim claims
  obtain ⟨earliest, found, _⟩ := heeded observer first member
  have least : ∀ claimant ∈ NodeManager.claims address nodeId events, earliest.timestampNs ≤ claimant.timestampNs := by
    intro claimant member
    obtain ⟨held, same, earlier⟩ := heeded observer claimant member
    rw [found] at same
    exact Option.some.inj same ▸ earlier
  have known := contested.held observer earliest found
  refine ⟨earliest, known, least, ?_⟩
  intro process
  obtain ⟨held, here, earlier⟩ := heeded process earliest known
  have standing := contested.held process held here
  have same := List.inj_on_of_nodup_map timestamps standing known (Nat.le_antisymm earlier (least held standing))
  rw [here, same]

/-- Three processes start a node of the same name, and their messages cross. -/
def sameName : List (NetworkEvent (Fin 3)) :=
  let node : RoleAttributes := { nodeName := some "n", nodeId := some 5 }
  [.join 0 30 node .node, .join 1 10 node .node, .deliver 0 1 0, .join 2 20 node .node, .deliver 2 0 0,
    .deliver 1 0 0, .deliver 2 1 0, .deliver 1 2 0, .deliver 0 2 0, .deliver 0 0 0, .deliver 1 1 0, .deliver 2 2 0]

theorem sameName_agree :
    let address : Fin 3 → String × Int := fun process => ("host", process)
    ∃ network, run (Network.step specific) (Network.start address {}) sameName = some network ∧
      ∃ earliest ∈ claims address 5 sameName,
        (∀ claimant ∈ claims address 5 sameName, earliest.timestampNs ≤ claimant.timestampNs) ∧
        ∀ process, (network.manager process).roles.nodes.searchKey 5 = some earliest := by
  intro address
  have distinct : Function.Injective address := by
    intro process other same
    exact Fin.ext (Int.ofNat.inj (Prod.mk.inj same).2)
  have reached : (run (Network.step specific) (Network.start address {}) sameName).any (fun network =>
      decide (∀ receiver sender, network.inFlight receiver sender = [])) = true := by
    decide +kernel
  obtain ⟨network, ran, holds⟩ := (Option.any_eq_true _ _).mp reached
  have stays : ∀ event ∈ sameName, event.Stays address 5 := by
    intro event member
    simp only [sameName, List.mem_cons, List.not_mem_nil, or_false] at member
    rcases member with rfl | rfl | rfl | rfl | rfl | rfl | rfl | rfl | rfl | rfl | rfl | rfl <;>
      first | exact True.intro | exact ⟨rfl, rfl⟩
  exact ⟨network, ran, nodeManagers_agree distinct stays (by decide +kernel) (by decide +kernel) ran
    (of_decide_eq_true holds)⟩

end NodeManager

end CyberRT.Discovery

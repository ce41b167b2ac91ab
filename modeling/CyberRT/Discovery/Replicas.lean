import CyberRT.Lists.Since
import CyberRT.Discovery.Network

namespace CyberRT.Discovery

open Execution Lists

namespace RoleAttributes

/-- The ids by which `Match` tells one writer or reader from another. -/
structure SameRole (attr other : RoleAttributes) : Prop where
  hostName : attr.getHostName = other.getHostName
  processId : attr.getProcessId = other.getProcessId
  nodeId : attr.getNodeId = other.getNodeId
  channelId : attr.getChannelId = other.getChannelId
  id : attr.getId = other.getId

/-- All attributes that identify a role are there, and it is one of the process at this address. -/
structure CompleteAt (attr : RoleAttributes) (address : String × Int) : Prop where
  check : ChannelRoles.check attr = true
  nodeId : attr.nodeId.isSome
  hostName : attr.hostName.getD address.1 = address.1
  processId : attr.processId.getD address.2 = address.2

theorem CompleteAt.published {attr : RoleAttributes} {address : String × Int} (complete : attr.CompleteAt address) :
    (attr.published address).CompleteAt address :=
  ⟨complete.check, complete.nodeId, complete.hostName, complete.processId⟩

end RoleAttributes

namespace NetworkEvent

variable {Process : Type}

def Complete (address : Process → String × Int) : NetworkEvent Process → Prop
  | .join process _ attr _ => attr.CompleteAt (address process)
  | .leave process _ attr _ => attr.CompleteAt (address process)
  | .deliver _ _ _ => True

/-- A receiver gets the messages of a sender in the order in which they were written. -/
def InOrder : NetworkEvent Process → Prop
  | .deliver _ _ index => index = 0
  | _ => True

def Joins (address : Process → String × Int) (type : RoleType) (role : Role) (process : Process)
    (event : NetworkEvent Process) : Prop :=
  ∃ now attr, event = .join process now attr type ∧ role = ⟨attr.published (address process), now⟩

def Leaves (address : Process → String × Int) (type : RoleType) (role : Role) (process : Process)
    (event : NetworkEvent Process) : Prop :=
  ∃ now attr, event = .leave process now attr type ∧ (attr.published (address process)).SameRole role.attributes

end NetworkEvent

/-- A process has joined the role and has not had it leave since. -/
def Present {Process : Type} (address : Process → String × Int) (events : List (NetworkEvent Process))
    (type : RoleType) (role : Role) : Prop :=
  ∃ process, Since (NetworkEvent.Joins address type role process) (NetworkEvent.Leaves address type role process) events

/-- The writers and the readers that are held, by node and by channel. -/
structure ChannelRoles.Holds (roles : ChannelRoles) (writers readers : Role → Prop) : Prop where
  nodeWriters : ∀ role, role ∈ roles.nodeWriters.getAllRoles ↔ writers role
  channelWriters : ∀ role, role ∈ roles.channelWriters.getAllRoles ↔ writers role
  nodeReaders : ∀ role, role ∈ roles.nodeReaders.getAllRoles ↔ readers role
  channelReaders : ∀ role, role ∈ roles.channelReaders.getAllRoles ↔ readers role

namespace ChangeMsg

def Joins (type : RoleType) (role : Role) (msg : ChangeMsg) : Prop :=
  msg.operateType = .join ∧ msg.roleType = type ∧ role = ⟨msg.roleAttr, msg.timestamp⟩

def Leaves (type : RoleType) (role : Role) (msg : ChangeMsg) : Prop :=
  msg.operateType = .leave ∧ msg.roleType = type ∧ role.matchWriter msg.roleAttr = true

/-- What the process at this address publishes about its writers and readers. -/
structure Own (msg : ChangeMsg) (address : String × Int) : Prop where
  roleType : msg.roleType = .writer ∨ msg.roleType = .reader
  check : ChannelRoles.check msg.roleAttr = true
  nodeId : msg.roleAttr.nodeId.isSome
  hostName : msg.roleAttr.hostName = some address.1
  processId : msg.roleAttr.processId = some address.2

variable {msg : ChangeMsg} {address : String × Int}

theorem Own.pinpoints (own : msg.Own address) (held : List Role) : ChannelRoles.Pinpoints msg.roleAttr held := by
  intro role _ matched
  obtain ⟨value, same⟩ := Option.isSome_iff_exists.mp own.nodeId
  simp only [Role.matchWriter, Role.matchBase, Bool.and_eq_true, same, Role.fieldMatches_some] at matched
  rw [← matched.2.1.1, RoleAttributes.getNodeId, same]
  rfl

theorem Own.matchWriter_iff (own : msg.Own address) (role : Role) :
    role.matchWriter msg.roleAttr = true ↔ msg.roleAttr.SameRole role.attributes := by
  have checked := own.check
  rw [ChannelRoles.check, Bool.and_eq_true, Bool.and_eq_true] at checked
  obtain ⟨node, nodeSome⟩ := Option.isSome_iff_exists.mp own.nodeId
  obtain ⟨channel, channelSome⟩ := Option.isSome_iff_exists.mp checked.1.2
  obtain ⟨id, idSome⟩ := Option.isSome_iff_exists.mp checked.2
  have values : msg.roleAttr.getHostName = address.1 ∧ msg.roleAttr.getProcessId = address.2 ∧
      msg.roleAttr.getNodeId = node ∧ msg.roleAttr.getChannelId = channel ∧ msg.roleAttr.getId = id := by
    simp [RoleAttributes.getHostName, RoleAttributes.getProcessId, RoleAttributes.getNodeId,
      RoleAttributes.getChannelId, RoleAttributes.getId, own.hostName, own.processId, nodeSome, channelSome, idSome]
  obtain ⟨hostValue, processValue, nodeValue, channelValue, idValue⟩ := values
  simp only [Role.matchWriter, Role.matchBase, Bool.and_eq_true, own.hostName, own.processId, nodeSome, channelSome,
    idSome, Role.fieldMatches_some]
  constructor
  · rintro ⟨⟨channelSame, idSame⟩, ⟨nodeSame, processSame⟩, hostSame⟩
    exact ⟨hostValue.trans hostSame, processValue.trans processSame, nodeValue.trans nodeSame,
      channelValue.trans channelSame, idValue.trans idSame⟩
  · intro same
    exact ⟨⟨channelValue.symm.trans same.channelId, idValue.symm.trans same.id⟩,
      ⟨nodeValue.symm.trans same.nodeId, processValue.symm.trans same.processId⟩, hostValue.symm.trans same.hostName⟩

end ChangeMsg

namespace ChannelManager

/-- The roles of a type after a message. -/
def After (msg : ChangeMsg) (type : RoleType) (before after : List Role) : Prop :=
  ∀ role, role ∈ after ↔ msg.Joins type role ∨ role ∈ before ∧ ¬ msg.Leaves type role

theorem after_join {msg : ChangeMsg} (operate : msg.operateType = .join) (type : RoleType) (held : List Role) :
    After msg type held (if msg.roleType = type then held ++ [⟨msg.roleAttr, msg.timestamp⟩] else held) := by
  intro role
  split
  · rename_i same
    simp [ChangeMsg.Joins, ChangeMsg.Leaves, operate, same, or_comm]
  · rename_i differs
    simp [ChangeMsg.Joins, ChangeMsg.Leaves, operate, differs]

theorem after_leave {msg : ChangeMsg} (operate : msg.operateType = .leave) (type : RoleType) (held : List Role) :
    After msg type held
      (if msg.roleType = type then held.filter fun role => !role.matchWriter msg.roleAttr else held) := by
  intro role
  split
  · rename_i same
    simp [ChangeMsg.Joins, ChangeMsg.Leaves, operate, same]
  · rename_i differs
    simp [ChangeMsg.Joins, ChangeMsg.Leaves, operate, differs]

theorem dispose_after {manager : ChannelManager} {writers readers : List Role} {msg : ChangeMsg}
    {address : String × Int} (mirrored : manager.roles.Mirrored writers readers) (own : msg.Own address) :
    ∃ writers' readers', (manager.dispose specific msg).roles.Mirrored writers' readers' ∧
      After msg .writer writers writers' ∧ After msg .reader readers readers' := by
  cases operate : msg.operateType with
  | join =>
    have roles : (manager.dispose specific msg).roles = manager.roles.disposeJoin msg := by
      simp only [Manager.dispose, operate]
      rfl
    have kept := mirrored.disposeJoin msg
    rw [← roles] at kept
    refine ⟨_, _, kept, after_join operate .writer writers, ?_⟩
    have reading := after_join operate .reader readers
    rcases own.roleType with type | type <;> simpa [type] using reading
  | leave =>
    have roles : (manager.dispose specific msg).roles = manager.roles.disposeLeave msg := by
      simp only [Manager.dispose, operate]
      rfl
    have kept := mirrored.disposeLeave own.check (own.pinpoints _)
    rw [← roles] at kept
    refine ⟨_, _, kept, after_leave operate .writer writers, ?_⟩
    have reading := after_leave operate .reader readers
    rcases own.roleType with type | type <;> simpa [type] using reading

variable {Process : Type} {address : Process → String × Int}

/-- The roles of a type are what the messages applied so far, of each process in its order, leave present. -/
def Reflects (type : RoleType) (held : List Role) (processed : Process → List ChangeMsg) : Prop :=
  ∀ role, role ∈ held ↔ ∃ process, Since (ChangeMsg.Joins type role) (ChangeMsg.Leaves type role) (processed process)

/-- A leave says nothing about the roles of other processes, so it does not matter what they have sent meanwhile. -/
theorem not_leaves_of_other (distinct : Function.Injective address) {type : RoleType} {role : Role} {msg : ChangeMsg}
    {sender process : Process} (own : msg.Own (address sender)) {processed : List ChangeMsg}
    (sent : ∀ earlier ∈ processed, earlier.Own (address process))
    (since : Since (ChangeMsg.Joins type role) (ChangeMsg.Leaves type role) processed) (other : process ≠ sender) :
    ¬ msg.Leaves type role := by
  intro leaves
  obtain ⟨before, first, after, rfl, ⟨_, _, rfl⟩, _⟩ := since
  have origin := sent first (by simp)
  have same := (own.matchWriter_iff _).mp leaves.2.2
  have host := same.hostName
  have pid := same.processId
  simp only [RoleAttributes.getHostName, RoleAttributes.getProcessId, own.hostName, own.processId, origin.hostName,
    origin.processId, Option.getD_some] at host pid
  exact other (distinct (Prod.ext host.symm pid.symm))

theorem Reflects.after [DecidableEq Process] (distinct : Function.Injective address) {type : RoleType} {held held' : List Role}
    {processed : Process → List ChangeMsg} (reflects : Reflects type held processed)
    (sent : ∀ process, ∀ msg ∈ processed process, msg.Own (address process)) {sender : Process} {msg : ChangeMsg}
    (own : msg.Own (address sender)) (after : After msg type held held') :
    Reflects type held' (Function.update processed sender (processed sender ++ [msg])) := by
  intro role
  rw [after role, reflects role]
  constructor
  · intro here
    rcases here with joins | ⟨⟨process, since⟩, stays⟩
    · refine ⟨sender, ?_⟩
      rw [Function.update_self, since_snoc]
      exact Or.inl joins
    · refine ⟨process, ?_⟩
      rw [Function.update_apply]
      split
      · rename_i same
        rw [since_snoc, ← same]
        exact Or.inr ⟨since, stays⟩
      · exact since
  · rintro ⟨process, since⟩
    rw [Function.update_apply] at since
    split at since
    · rw [since_snoc] at since
      exact since.imp_right fun kept => ⟨⟨sender, kept.1⟩, kept.2⟩
    · rename_i other
      exact Or.inr ⟨⟨process, since⟩, not_leaves_of_other distinct own (sent process) since other⟩

variable [DecidableEq Process] {network next : Network Process ChannelRoles} {past : List (NetworkEvent Process)}
  {event : NetworkEvent Process}

def sentBy (address : Process → String × Int) (past : List (NetworkEvent Process)) (process : Process) :
    List ChangeMsg :=
  past.filterMap (NetworkEvent.messageOf specific address process)

/-- The messages of a sender that will still change the receiver; it has no use for its own. -/
def awaited (network : Network Process ChannelRoles) (receiver sender : Process) : List ChangeMsg :=
  if receiver = sender then [] else network.inFlight receiver sender

structure Replica (address : Process → String × Int) (network : Network Process ChannelRoles)
    (past : List (NetworkEvent Process)) (receiver : Process) (processed : Process → List ChangeMsg)
    (writers readers : List Role) : Prop where
  sent : ∀ sender, sentBy address past sender = processed sender ++ awaited network receiver sender
  mirrored : (network.manager receiver).roles.Mirrored writers readers
  writers : Reflects .writer writers processed
  readers : Reflects .reader readers processed

structure Replicated (address : Process → String × Int) (network : Network Process ChannelRoles)
    (past : List (NetworkEvent Process)) : Prop where
  running : network.Running address
  own : ∀ sender, ∀ msg ∈ sentBy address past sender, msg.Own (address sender)
  inFlight : ∀ receiver sender, ∀ msg ∈ network.inFlight receiver sender, msg.Own (address sender)
  replica : ∀ receiver, ∃ processed writers readers, Replica address network past receiver processed writers readers

theorem accepted_own {address : String × Int} {now : Nat} {attr : RoleAttributes} {role : RoleType}
    {opt : OperateType} {msg : ChangeMsg} (complete : attr.CompleteAt address)
    (accepted : specific.accepted address now attr role opt = some msg) : msg.Own address := by
  obtain ⟨⟨allowed, _⟩, rfl⟩ := Manager.Specific.accepted_eq_some.mp accepted
  refine ⟨?_, complete.check, complete.nodeId, congrArg some complete.hostName, congrArg some complete.processId⟩
  simpa [specific] using allowed

omit [DecidableEq Process] in
theorem message_own (complete : event.Complete address) {process : Process} {msg : ChangeMsg}
    (sent : event.message specific address = some (process, msg)) : msg.Own (address process) := by
  cases event with
  | join sender now attr role =>
    obtain ⟨msg', accepted, same⟩ := Option.map_eq_some_iff.mp sent
    obtain ⟨rfl, rfl⟩ := Prod.mk.inj same
    exact accepted_own complete accepted
  | leave sender now attr role =>
    obtain ⟨msg', accepted, same⟩ := Option.map_eq_some_iff.mp sent
    obtain ⟨rfl, rfl⟩ := Prod.mk.inj same
    exact accepted_own complete accepted
  | deliver => cases sent

theorem sentBy_none (quiet : event.message specific address = none) (process : Process) :
    sentBy address (past ++ [event]) process = sentBy address past process := by
  simp [sentBy, List.filterMap_append, NetworkEvent.messageOf, quiet]

theorem sentBy_some {sender : Process} {msg : ChangeMsg} (sent : event.message specific address = some (sender, msg))
    (process : Process) :
    sentBy address (past ++ [event]) process =
      if process = sender then sentBy address past sender ++ [msg] else sentBy address past process := by
  by_cases same : process = sender
  · subst same
    simp [sentBy, List.filterMap_append, NetworkEvent.messageOf, sent]
  · simp [sentBy, List.filterMap_append, NetworkEvent.messageOf, sent, same, Ne.symm same]

theorem Replicated.refused (replicated : Replicated address network past)
    (quiet : event.message specific address = none) : Replicated address network (past ++ [event]) := by
  constructor
  · exact replicated.running
  · intro sender
    rw [sentBy_none quiet]
    exact replicated.own sender
  · exact replicated.inFlight
  · intro receiver
    obtain ⟨processed, writers, readers, replica⟩ := replicated.replica receiver
    refine ⟨processed, writers, readers, ?_, replica.mirrored, replica.writers, replica.readers⟩
    intro sender
    rw [sentBy_none quiet]
    exact replica.sent sender

theorem Replica.processed_own {processed : Process → List ChangeMsg} {writers readers : List Role}
    {receiver : Process} (replica : Replica address network past receiver processed writers readers)
    (replicated : Replicated address network past) (sender : Process) :
    ∀ msg ∈ processed sender, msg.Own (address sender) := by
  intro msg member
  apply replicated.own sender
  rw [replica.sent]
  exact List.mem_append_left _ member

/-- A replica after one more message of a sender has been applied to it. -/
theorem Replica.apply (distinct : Function.Injective address) {processed : Process → List ChangeMsg}
    {writers readers : List Role} {receiver sender : Process}
    (replica : Replica address network past receiver processed writers readers)
    (replicated : Replicated address network past) {msg : ChangeMsg} (own : msg.Own (address sender))
    {network' : Network Process ChannelRoles} {past' : List (NetworkEvent Process)}
    (roles : (network'.manager receiver).roles = ((network.manager receiver).dispose specific msg).roles)
    (sent : ∀ process, sentBy address past' process =
      (if process = sender then processed sender ++ [msg] else processed process) ++
        awaited network' receiver process) :
    ∃ processed writers readers, Replica address network' past' receiver processed writers readers := by
  obtain ⟨writers', readers', mirrored, writing, reading⟩ := dispose_after replica.mirrored own
  have sound := replica.processed_own replicated
  refine ⟨_, writers', readers', ?_, roles ▸ mirrored, replica.writers.after distinct sound own writing,
    replica.readers.after distinct sound own reading⟩
  intro process
  rw [sent process, Function.update_apply]

theorem Replicated.called (distinct : Function.Injective address) (replicated : Replicated address network past)
    {process : Process} {msg : ChangeMsg} (own : msg.Own (address process))
    (sent : event.message specific address = some (process, msg))
    (running : (network.call process ((network.manager process).applied specific msg)).Running address) :
    Replicated address (network.call process ((network.manager process).applied specific msg)) (past ++ [event]) := by
  constructor
  · exact running
  · intro sender earlier member
    rw [sentBy_some sent] at member
    split at member
    · rename_i same
      rcases List.mem_append.mp member with member | member
      · exact same ▸ replicated.own process earlier member
      · rw [List.mem_singleton.mp member, same]
        exact own
    · exact replicated.own sender earlier member
  · intro receiver sender earlier member
    rw [Network.inFlight_call_applied] at member
    split at member
    · rename_i same
      rcases List.mem_append.mp member with member | member
      · exact same ▸ replicated.inFlight receiver process earlier member
      · rw [List.mem_singleton.mp member, same]
        exact own
    · exact replicated.inFlight receiver sender earlier member
  · intro receiver
    obtain ⟨processed, writers, readers, replica⟩ := replicated.replica receiver
    by_cases here : receiver = process
    · subst here
      apply replica.apply distinct replicated own
      · rw [Network.manager_call, if_pos rfl]
        rfl
      · intro sender
        rw [sentBy_some sent, awaited, Network.inFlight_call_applied]
        have before := replica.sent sender
        have before' := replica.sent receiver
        rw [awaited] at before before'
        by_cases same : sender = receiver
        · subst same
          simpa using before'
        · simp only [same, Ne.symm same, if_false] at before ⊢
          exact before
    · refine ⟨processed, writers, readers, ?_, ?_, replica.writers, replica.readers⟩
      · intro sender
        rw [sentBy_some sent, awaited, Network.inFlight_call_applied]
        have before := replica.sent sender
        rw [awaited] at before
        by_cases same : sender = process
        · subst same
          simp only [here, if_true, if_false] at before ⊢
          rw [before, List.append_assoc]
        · simp only [same, if_false]
          exact before
      · rw [Network.manager_call, if_neg here]
        exact replica.mirrored

theorem onRemoteChange_own (distinct : Function.Injective address) (running : network.Running address)
    {sender receiver : Process} {msg : ChangeMsg} (own : msg.Own (address sender)) :
    (network.manager receiver).onRemoteChange specific msg =
      if receiver = sender then network.manager receiver else (network.manager receiver).dispose specific msg := by
  have here := running receiver
  have host : msg.roleAttr.getHostName = (address sender).1 := by simp [RoleAttributes.getHostName, own.hostName]
  have pid : msg.roleAttr.getProcessId = (address sender).2 := by simp [RoleAttributes.getProcessId, own.processId]
  have checked : specific.check msg.roleAttr = true := own.check
  simp only [Manager.onRemoteChange, here.isShutdown, Network.isFromSameProcess_iff distinct running host pid, checked,
    Bool.false_eq_true, if_false, Bool.true_eq_false]

theorem Replicated.received (distinct : Function.Injective address) (replicated : Replicated address network past)
    {sender receiver : Process} {msg : ChangeMsg} {rest : List ChangeMsg}
    (waiting : network.inFlight receiver sender = msg :: rest)
    (running : (network.receive specific sender receiver 0 msg).Running address) :
    Replicated address (network.receive specific sender receiver 0 msg) (past ++ [.deliver sender receiver 0]) := by
  have quiet : NetworkEvent.message specific address (.deliver sender receiver 0) = none := rfl
  have own := replicated.inFlight receiver sender msg (by simp [waiting])
  constructor
  · exact running
  · intro process
    rw [sentBy_none quiet]
    exact replicated.own process
  · intro receiver' sender' earlier member
    rw [Network.inFlight_receive] at member
    split at member
    · rename_i same
      rw [same.2]
      exact replicated.inFlight receiver sender earlier (List.mem_of_mem_eraseIdx member)
    · exact replicated.inFlight receiver' sender' earlier member
  · intro receiver'
    obtain ⟨processed, writers, readers, replica⟩ := replicated.replica receiver'
    by_cases changes : receiver' = receiver ∧ receiver ≠ sender
    · obtain ⟨rfl, other⟩ := changes
      apply replica.apply distinct replicated own
      · rw [Network.manager_receive, if_pos rfl, onRemoteChange_own distinct replicated.running own, if_neg other]
      · intro process
        rw [sentBy_none quiet, replica.sent process, awaited, awaited, Network.inFlight_receive]
        by_cases same : process = sender
        · subst same
          simp [other, waiting]
        · simp [same]
    · refine ⟨processed, writers, readers, ?_, ?_, replica.writers, replica.readers⟩
      · intro process
        rw [sentBy_none quiet, replica.sent process, awaited, awaited, Network.inFlight_receive]
        by_cases itself : receiver' = process
        · simp [itself]
        · have elsewhere : ¬ (receiver' = receiver ∧ process = sender) := by
            rintro ⟨rfl, rfl⟩
            exact changes ⟨rfl, itself⟩
          simp [itself, elsewhere]
      · rw [Network.manager_receive]
        split
        · rename_i same
          subst same
          have loopback : receiver' = sender := by
            by_contra other
            exact changes ⟨rfl, other⟩
          rw [onRemoteChange_own distinct replicated.running own, if_pos loopback]
          exact replica.mirrored
        · exact replica.mirrored

theorem Replicated.step (distinct : Function.Injective address) (replicated : Replicated address network past)
    (complete : event.Complete address) (inOrder : event.InOrder) (taken : network.step specific event = some next) :
    Replicated address next (past ++ [event]) := by
  have running := replicated.running.step taken
  rcases Network.step_cases replicated.running taken with ⟨quiet, rfl⟩ | ⟨process, msg, sent, rfl⟩ |
    ⟨sender, receiver, index, msg, rfl, found, rfl⟩
  · exact replicated.refused quiet
  · exact replicated.called distinct (message_own complete sent) sent running
  · obtain rfl : index = 0 := inOrder
    obtain ⟨rest, waiting⟩ : ∃ rest, network.inFlight receiver sender = msg :: rest := by
      cases waiting : network.inFlight receiver sender with
      | nil => simp [waiting] at found
      | cons head rest => exact ⟨rest, by simpa [waiting] using found⟩
    exact replicated.received distinct waiting running

theorem replicated_start (address : Process → String × Int) :
    Replicated address (Network.start address ({} : ChannelRoles)) [] := by
  refine ⟨Network.running_start address _, by simp [sentBy], by simp [Network.start], ?_⟩
  intro receiver
  refine ⟨fun _ => [], [], [], ?_, mirrored_start "" 0, ?_, ?_⟩
  · intro sender
    simp [sentBy, awaited, Network.start]
  all_goals
    intro role
    simp [not_since_nil]

theorem accepted_complete {address : String × Int} {attr : RoleAttributes} (complete : attr.CompleteAt address)
    {role : RoleType} (allowed : role = .writer ∨ role = .reader) (now : Nat) (opt : OperateType) :
    specific.accepted address now attr role opt = some ⟨now, .channel, opt, role, attr.published address⟩ := by
  have permitted : specific.allowedRole role = true := by simpa [specific] using allowed
  have checked : specific.check attr = true := complete.check
  rw [Manager.Specific.accepted, if_pos ⟨permitted, checked⟩]
  rfl

theorem joins_iff {type : RoleType} (allowed : type = .writer ∨ type = .reader) (complete : event.Complete address)
    (role : Role) (process : Process) :
    event.Joins address type role process ↔
      ∃ msg, event.messageOf specific address process = some msg ∧ msg.Joins type role := by
  constructor
  · rintro ⟨now, attr, rfl, rfl⟩
    rw [NetworkEvent.messageOf_join, if_pos rfl, accepted_complete complete allowed]
    exact ⟨_, rfl, rfl, rfl, rfl⟩
  · rintro ⟨msg, sent, operate, kind, rfl⟩
    cases event with
    | join sender now attr kind' =>
      rw [NetworkEvent.messageOf_join, Option.ite_none_right_eq_some] at sent
      obtain ⟨rfl, accepted⟩ := sent
      obtain rfl := (Manager.Specific.accepted_eq_some.mp accepted).2
      obtain rfl := kind
      exact ⟨now, attr, rfl, rfl⟩
    | leave sender now attr kind' =>
      rw [NetworkEvent.messageOf_leave, Option.ite_none_right_eq_some] at sent
      obtain rfl := (Manager.Specific.accepted_eq_some.mp sent.2).2
      cases operate
    | deliver => cases sent

theorem leaves_iff {type : RoleType} (allowed : type = .writer ∨ type = .reader) (complete : event.Complete address)
    (role : Role) (process : Process) :
    event.Leaves address type role process ↔
      ∃ msg, event.messageOf specific address process = some msg ∧ msg.Leaves type role := by
  constructor
  · rintro ⟨now, attr, rfl, same⟩
    have accepted := accepted_complete complete allowed now .leave
    rw [NetworkEvent.messageOf_leave, if_pos rfl, accepted]
    exact ⟨_, rfl, rfl, rfl, ((accepted_own complete accepted).matchWriter_iff role).mpr same⟩
  · rintro ⟨msg, sent, operate, kind, matched⟩
    cases event with
    | join sender now attr kind' =>
      rw [NetworkEvent.messageOf_join, Option.ite_none_right_eq_some] at sent
      obtain rfl := (Manager.Specific.accepted_eq_some.mp sent.2).2
      cases operate
    | leave sender now attr kind' =>
      rw [NetworkEvent.messageOf_leave, Option.ite_none_right_eq_some] at sent
      obtain ⟨rfl, accepted⟩ := sent
      have same := ((accepted_own complete accepted).matchWriter_iff role).mp matched
      obtain rfl := (Manager.Specific.accepted_eq_some.mp accepted).2
      obtain rfl := kind
      exact ⟨now, attr, rfl, same⟩
    | deliver => cases sent

/-- What the messages of every process leave present is what its calls leave present. -/
theorem Reflects.present {events : List (NetworkEvent Process)} (complete : ∀ event ∈ events, event.Complete address)
    {type : RoleType} (allowed : type = .writer ∨ type = .reader) {held : List Role}
    (reflects : Reflects type held (sentBy address events)) (role : Role) :
    role ∈ held ↔ Present address events type role := by
  rw [reflects role, Present]
  apply exists_congr
  intro process
  rw [sentBy, since_filterMap events]
  · exact fun event member => joins_iff allowed (complete event member) role process
  · exact fun event member => leaves_iff allowed (complete event member) role process

/-- Once everything is delivered, every process holds the writers and the readers that have joined and not left. -/
theorem channelManagers_agree (distinct : Function.Injective address) {events : List (NetworkEvent Process)}
    (complete : ∀ event ∈ events, event.Complete address) (inOrder : ∀ event ∈ events, event.InOrder)
    (ran : run (Network.step specific) (Network.start address {}) events = some network)
    (delivered : ∀ receiver sender, network.inFlight receiver sender = []) (process : Process) :
    (network.manager process).roles.Holds (Present address events .writer) (Present address events .reader) := by
  have meets : Meets (Network.step specific) (fun _ event => event.Complete address ∧ event.InOrder)
      (Network.start address {}) events :=
    meets_of_forall (fun event member _ => ⟨complete event member, inOrder event member⟩) _
  have replicated := Meets.invariant (Replicated address) []
    (fun state past event next meets taken holds => holds.step distinct meets.1 meets.2 taken)
    (replicated_start address) meets ran
  obtain ⟨processed, writers, readers, replica⟩ := replicated.replica process
  have everything : processed = sentBy address events := by
    funext sender
    have sent := replica.sent sender
    rw [awaited, delivered, ite_self, List.append_nil] at sent
    exact sent.symm
  have writing := (everything ▸ replica.writers).present complete (Or.inl rfl)
  have reading := (everything ▸ replica.readers).present complete (Or.inr rfl)
  constructor
  · rw [replica.mirrored.nodeWriters.getAllRoles]
    exact writing
  · rw [replica.mirrored.channelWriters.getAllRoles]
    exact writing
  · rw [replica.mirrored.nodeReaders.getAllRoles]
    exact reading
  · rw [replica.mirrored.channelReaders.getAllRoles]
    exact reading

/-- Two processes: a writer of the one leaves and joins again while the other joins a reader. -/
def writerRejoins : List (NetworkEvent Bool) :=
  let writer : RoleAttributes := { nodeId := some 1, channelName := some "c", channelId := some 7, id := some 10 }
  let reader : RoleAttributes := { nodeId := some 2, channelName := some "c", channelId := some 7, id := some 20 }
  [.join false 1 writer .writer, .join true 2 reader .reader, .deliver false true 0, .leave false 3 writer .writer,
    .join false 4 writer .writer, .deliver true false 0, .deliver false true 0, .deliver false true 0,
    .deliver false false 0, .deliver false false 0, .deliver false false 0, .deliver true true 0]

theorem writerRejoins_agree :
    let address : Bool → String × Int := fun second => ("host", if second then 2 else 1)
    ∃ network, run (Network.step specific) (Network.start address {}) writerRejoins = some network ∧
      (network.manager true).roles.channelWriters.getAllRoles.length = 1 ∧
      ∀ process, (network.manager process).roles.Holds
        (Present address writerRejoins .writer) (Present address writerRejoins .reader) := by
  intro address
  have distinct : Function.Injective address := by
    intro process other same
    cases process <;> cases other <;> first | rfl | (revert same; decide)
  have reached : (run (Network.step specific) (Network.start address {}) writerRejoins).any (fun network =>
      decide ((network.manager true).roles.channelWriters.getAllRoles.length = 1 ∧
        ∀ receiver sender, network.inFlight receiver sender = [])) = true := by
    decide +kernel
  obtain ⟨network, ran, holds⟩ := (Option.any_eq_true _ _).mp reached
  obtain ⟨single, delivered⟩ := of_decide_eq_true holds
  have complete : ∀ event ∈ writerRejoins, event.Complete address := by
    intro event member
    simp only [writerRejoins, List.mem_cons, List.not_mem_nil, or_false] at member
    rcases member with rfl | rfl | rfl | rfl | rfl | rfl | rfl | rfl | rfl | rfl | rfl | rfl <;>
      first | exact True.intro | exact ⟨rfl, rfl, rfl, rfl⟩
  have inOrder : ∀ event ∈ writerRejoins, event.InOrder := by
    intro event member
    simp only [writerRejoins, List.mem_cons, List.not_mem_nil, or_false] at member
    rcases member with rfl | rfl | rfl | rfl | rfl | rfl | rfl | rfl | rfl | rfl | rfl | rfl <;>
      first | exact True.intro | exact rfl
  exact ⟨network, ran, single, channelManagers_agree distinct complete inOrder ran delivered⟩

end ChannelManager

end CyberRT.Discovery

import Mathlib.Logic.Function.Basic
import CyberRT.Discovery.Indexes

namespace CyberRT.Discovery

open Execution

/-- The managers of one kind in all the processes, and what each receiver has yet to get from each sender of the
    messages on the discovery topic, in the order in which they were written. -/
structure Network (Process Roles : Type) where
  manager : Process → Manager Roles
  inFlight : Process → Process → List ChangeMsg := fun _ _ => []

inductive NetworkEvent (Process : Type) where
  | join (process : Process) (now : Nat) (attr : RoleAttributes) (role : RoleType)
  | leave (process : Process) (now : Nat) (attr : RoleAttributes) (role : RoleType)
  | deliver (sender receiver : Process) (index : Nat)
  deriving DecidableEq

namespace Network

variable {Process Roles : Type} [DecidableEq Process]

def start (address : Process → String × Int) (roles : Roles) : Network Process Roles where
  manager process := {
    hostName := (address process).1
    processId := (address process).2
    isDiscoveryStarted := true
    roles := roles }

/-- A call of a process on its manager: what the manager writes to the topic is on its way to every process, its own
    included. -/
def call (network : Network Process Roles) (process : Process) (called : Manager Roles) : Network Process Roles where
  manager := Function.update network.manager process called
  inFlight receiver := Function.update (network.inFlight receiver) process
    (network.inFlight receiver process ++ called.published.drop (network.manager process).published.length)

def receive (specific : Manager.Specific Roles) (network : Network Process Roles) (sender receiver : Process)
    (index : Nat) (msg : ChangeMsg) : Network Process Roles where
  manager := Function.update network.manager receiver ((network.manager receiver).onRemoteChange specific msg)
  inFlight := Function.update network.inFlight receiver
    (Function.update (network.inFlight receiver) sender ((network.inFlight receiver sender).eraseIdx index))

def step (specific : Manager.Specific Roles) (network : Network Process Roles) :
    NetworkEvent Process → Option (Network Process Roles)
  | .join process now attr role =>
    some (network.call process ((network.manager process).join specific now attr role true).2)
  | .leave process now attr role =>
    some (network.call process ((network.manager process).leave specific now attr role).2)
  | .deliver sender receiver index =>
    match (network.inFlight receiver sender)[index]? with
    | none => none
    | some msg => some (network.receive specific sender receiver index msg)

end Network

/-- The attributes as they are published by the process at this address. -/
def RoleAttributes.published (attr : RoleAttributes) (address : String × Int) : RoleAttributes :=
  { attr with
    hostName := some (attr.hostName.getD address.1)
    processId := some (attr.processId.getD address.2) }

/-- The message of a call that is not refused. -/
def Manager.Specific.accepted {Roles : Type} (specific : Manager.Specific Roles) (address : String × Int) (now : Nat)
    (attr : RoleAttributes) (role : RoleType) (opt : OperateType) : Option ChangeMsg :=
  if specific.allowedRole role = true ∧ specific.check attr = true then
    some ⟨now, specific.changeType, opt, role, attr.published address⟩
  else none

theorem Manager.Specific.accepted_eq_some {Roles : Type} {specific : Manager.Specific Roles} {address : String × Int}
    {now : Nat} {attr : RoleAttributes} {role : RoleType} {opt : OperateType} {msg : ChangeMsg} :
    specific.accepted address now attr role opt = some msg ↔
      (specific.allowedRole role = true ∧ specific.check attr = true) ∧
        msg = ⟨now, specific.changeType, opt, role, attr.published address⟩ := by
  rw [accepted, Option.ite_none_right_eq_some, Option.some.injEq, eq_comm (a := msg)]

namespace NetworkEvent

variable {Process Roles : Type}

/-- The process that calls its manager and what it publishes. -/
def message (specific : Manager.Specific Roles) (address : Process → String × Int) :
    NetworkEvent Process → Option (Process × ChangeMsg)
  | .join process now attr role =>
    (specific.accepted (address process) now attr role .join).map fun msg => (process, msg)
  | .leave process now attr role =>
    (specific.accepted (address process) now attr role .leave).map fun msg => (process, msg)
  | .deliver _ _ _ => none

def messageOf [DecidableEq Process] (specific : Manager.Specific Roles) (address : Process → String × Int)
    (process : Process) (event : NetworkEvent Process) : Option ChangeMsg :=
  match event.message specific address with
  | some (sender, msg) => if sender = process then some msg else none
  | none => none

variable [DecidableEq Process] (specific : Manager.Specific Roles) (address : Process → String × Int)
  (process sender : Process) (now : Nat) (attr : RoleAttributes) (role : RoleType)

theorem messageOf_join :
    messageOf specific address process (.join sender now attr role) =
      if sender = process then specific.accepted (address process) now attr role .join else none := by
  rw [messageOf, message]
  by_cases same : sender = process
  · subst same
    cases specific.accepted (address sender) now attr role .join <;> simp
  · cases specific.accepted (address sender) now attr role .join <;> simp [same]

theorem messageOf_leave :
    messageOf specific address process (.leave sender now attr role) =
      if sender = process then specific.accepted (address process) now attr role .leave else none := by
  rw [messageOf, message]
  by_cases same : sender = process
  · subst same
    cases specific.accepted (address sender) now attr role .leave <;> simp
  · cases specific.accepted (address sender) now attr role .leave <;> simp [same]

end NetworkEvent

/-- The manager of the process at this address, ready to apply and to publish. -/
structure Manager.Running {Roles : Type} (manager : Manager Roles) (address : String × Int) : Prop where
  hostName : manager.hostName = address.1
  processId : manager.processId = address.2
  isShutdown : manager.isShutdown = false
  isDiscoveryStarted : manager.isDiscoveryStarted = true

namespace Manager

variable {Roles : Type} {specific : Specific Roles} {manager : Manager Roles} {address : String × Int}

theorem Running.dispose (running : manager.Running address) (msg : ChangeMsg) :
    (manager.dispose specific msg).Running address :=
  ⟨running.hostName, running.processId, running.isShutdown, running.isDiscoveryStarted⟩

theorem Running.convert (running : manager.Running address) (changeType : ChangeType) (now : Nat)
    (attr : RoleAttributes) (role : RoleType) (opt : OperateType) :
    manager.convert changeType now attr role opt = ⟨now, changeType, opt, role, attr.published address⟩ := by
  rw [Manager.convert, running.hostName, running.processId]
  rfl

/-- A local call that is not refused applies its message and publishes it. -/
def applied (specific : Specific Roles) (manager : Manager Roles) (msg : ChangeMsg) : Manager Roles :=
  { manager.dispose specific msg with published := manager.published ++ [msg] }

theorem Running.applied (running : manager.Running address) (msg : ChangeMsg) :
    (manager.applied specific msg).Running address :=
  ⟨running.hostName, running.processId, running.isShutdown, running.isDiscoveryStarted⟩

theorem Running.publish (running : manager.Running address) (msg : ChangeMsg) :
    ((manager.dispose specific msg).publish msg).2 = manager.applied specific msg := by
  rw [Manager.publish, if_pos (running.dispose msg).isDiscoveryStarted]
  rfl

theorem Running.onRemoteChange (running : manager.Running address) (msg : ChangeMsg) :
    (manager.onRemoteChange specific msg).Running address := by
  rw [Manager.onRemoteChange, running.isShutdown]
  simp only [Bool.false_eq_true, if_false]
  split
  · exact running
  · split
    · exact running
    · exact running.dispose msg

end Manager

namespace Network

variable {Process Roles : Type} [DecidableEq Process] {specific : Manager.Specific Roles}
  {address : Process → String × Int} {network next : Network Process Roles} {event : NetworkEvent Process}

def Running (network : Network Process Roles) (address : Process → String × Int) : Prop :=
  ∀ process, (network.manager process).Running (address process)

omit [DecidableEq Process] in
theorem running_start (address : Process → String × Int) (roles : Roles) : (start address roles).Running address :=
  fun _ => ⟨rfl, rfl, rfl, rfl⟩

theorem call_unchanged (network : Network Process Roles) (process : Process) :
    network.call process (network.manager process) = network := by
  simp [call]

theorem manager_call (network : Network Process Roles) (process other : Process) (called : Manager Roles) :
    (network.call process called).manager other = if other = process then called else network.manager other := by
  simp only [call, Function.update_apply]

theorem inFlight_call_applied (network : Network Process Roles) (process : Process) (msg : ChangeMsg)
    (receiver sender : Process) :
    (network.call process ((network.manager process).applied specific msg)).inFlight receiver sender =
      if sender = process then network.inFlight receiver process ++ [msg] else network.inFlight receiver sender := by
  simp only [call, Function.update_apply, Manager.applied, List.drop_left]

theorem manager_receive (network : Network Process Roles) (sender receiver other : Process) (index : Nat)
    (msg : ChangeMsg) :
    (network.receive specific sender receiver index msg).manager other =
      if other = receiver then (network.manager receiver).onRemoteChange specific msg else network.manager other := by
  simp only [receive, Function.update_apply]

theorem inFlight_receive (network : Network Process Roles) (sender receiver : Process) (index : Nat)
    (msg : ChangeMsg) (receiver' sender' : Process) :
    (network.receive specific sender receiver index msg).inFlight receiver' sender' =
      if receiver' = receiver ∧ sender' = sender then (network.inFlight receiver sender).eraseIdx index
      else network.inFlight receiver' sender' := by
  simp only [receive, Function.update_apply]
  by_cases first : receiver' = receiver
  · subst first
    by_cases second : sender' = sender <;> simp [second]
  · simp [first]

theorem join_cases (running : network.Running address) (process : Process) (now : Nat) (attr : RoleAttributes)
    (role : RoleType) :
    network.call process ((network.manager process).join specific now attr role true).2 =
      (specific.accepted (address process) now attr role .join).elim network fun msg =>
        network.call process ((network.manager process).applied specific msg) := by
  have own := running process
  rw [Manager.join, own.isShutdown, Manager.Specific.accepted]
  cases specific.allowedRole role <;> cases specific.check attr <;>
    simp [own.convert, own.publish, call_unchanged]

theorem leave_cases (running : network.Running address) (process : Process) (now : Nat) (attr : RoleAttributes)
    (role : RoleType) :
    network.call process ((network.manager process).leave specific now attr role).2 =
      (specific.accepted (address process) now attr role .leave).elim network fun msg =>
        network.call process ((network.manager process).applied specific msg) := by
  have own := running process
  rw [Manager.leave, own.isShutdown, Manager.Specific.accepted]
  cases specific.allowedRole role <;> cases specific.check attr <;>
    simp [own.convert, own.publish, call_unchanged]

theorem call_cases {process : Process} {accepted : Option ChangeMsg}
    (sent : event.message specific address = accepted.map fun msg => (process, msg))
    (called : next = accepted.elim network fun msg =>
      network.call process ((network.manager process).applied specific msg)) :
    (event.message specific address = none ∧ next = network) ∨
    ∃ process msg, event.message specific address = some (process, msg) ∧
      next = network.call process ((network.manager process).applied specific msg) := by
  cases accepted with
  | none => exact Or.inl ⟨sent, called⟩
  | some msg => exact Or.inr ⟨process, msg, sent, called⟩

/-- A step is a refused call, or a call that is applied and published, or a delivery. -/
theorem step_cases (running : network.Running address) (taken : network.step specific event = some next) :
    (event.message specific address = none ∧ next = network) ∨
    (∃ process msg, event.message specific address = some (process, msg) ∧
      next = network.call process ((network.manager process).applied specific msg)) ∨
    ∃ sender receiver index msg, event = .deliver sender receiver index ∧
      (network.inFlight receiver sender)[index]? = some msg ∧
      next = network.receive specific sender receiver index msg := by
  cases event with
  | join process now attr role =>
    have called := (Option.some.inj taken).symm
    rw [join_cases running] at called
    exact (call_cases rfl called).imp_right Or.inl
  | leave process now attr role =>
    have called := (Option.some.inj taken).symm
    rw [leave_cases running] at called
    exact (call_cases rfl called).imp_right Or.inl
  | deliver sender receiver index =>
    rw [step] at taken
    cases found : (network.inFlight receiver sender)[index]? with
    | none => simp [found] at taken
    | some msg =>
      simp only [found, Option.some.injEq] at taken
      exact Or.inr (Or.inr ⟨sender, receiver, index, msg, rfl, found, taken.symm⟩)

theorem Running.step (running : network.Running address) (taken : network.step specific event = some next) :
    next.Running address := by
  intro other
  rcases step_cases running taken with ⟨_, rfl⟩ | ⟨process, msg, _, rfl⟩ | ⟨sender, receiver, index, msg, _, _, rfl⟩
  · exact running other
  · rw [manager_call]
    split
    · rename_i same
      rw [same]
      exact (running process).applied msg
    · exact running other
  · rw [manager_receive]
    split
    · rename_i same
      rw [same]
      exact (running receiver).onRemoteChange msg
    · exact running other

omit [DecidableEq Process] in
theorem isFromSameProcess_iff (distinct : Function.Injective address) (running : network.Running address)
    {sender receiver : Process} {msg : ChangeMsg} (hostName : msg.roleAttr.getHostName = (address sender).1)
    (processId : msg.roleAttr.getProcessId = (address sender).2) :
    (network.manager receiver).isFromSameProcess msg = true ↔ receiver = sender := by
  rw [Manager.isFromSameProcess, (running receiver).hostName, (running receiver).processId, hostName, processId]
  simp only [Bool.and_eq_true, decide_eq_true_eq]
  constructor
  · rintro ⟨pid, host⟩
    exact distinct (Prod.ext host.symm pid.symm)
  · intro same
    simp [same]

end Network

end CyberRT.Discovery

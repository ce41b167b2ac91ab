import CyberRT.Services.Rpc

namespace CyberRT.Services

open Execution

namespace Rpc

variable {ClientName ServiceName Identity Request Response : Type}
  {rpc next : Rpc ClientName ServiceName Identity Request Response}

/-- A future has at most one value, and a service callback computed it from the request the future was created for. -/
structure Answered (rpc : Rpc ClientName ServiceName Identity Request Response) (future : Future Response) : Prop where
  once : future.values.length ≤ 1
  origin : ∀ response ∈ future.values, ∃ msg, rpc.requests[future.number]? = some msg ∧
    ⟨future.number, msg.request, response⟩ ∈ rpc.answers

structure Correlated (rpc : Rpc ClientName ServiceName Identity Request Response) : Prop where
  owned : ∀ name id, (rpc.client name).writerId = some id → rpc.owner id = some (.inl name)
  sent : ∀ msg ∈ rpc.requests, rpc.owner msg.info.spareId = some (.inl msg.client) ∧
    msg.info.seqNum ≤ (rpc.client msg.client).sequenceNumber
  unique : ∀ (i j : Nat) msg msg', rpc.requests[i]? = some msg → rpc.requests[j]? = some msg' →
    msg.client = msg'.client → msg.info.seqNum = msg'.info.seqNum → i = j
  tasks : ∀ name, ∀ task ∈ (rpc.service name).tasks, ∃ msg, rpc.requests[task.number]? = some msg ∧
    task.request = msg.request ∧ task.info = msg.info
  responses : ∀ response ∈ rpc.responses, ∃ msg, rpc.requests[response.number]? = some msg ∧
    response.info.spareId = msg.info.spareId ∧ response.info.seqNum = msg.info.seqNum ∧
    ⟨response.number, msg.request, response.response⟩ ∈ rpc.answers
  pending : ∀ name (seqNum number : Nat), (rpc.client name).pendingRequests seqNum = some number →
    ∃ future msg, rpc.futures[number]? = some future ∧ future.values = [] ∧
      rpc.requests[future.number]? = some msg ∧ msg.client = name ∧ msg.info.seqNum = seqNum
  answered : ∀ future ∈ rpc.futures, rpc.Answered future

theorem correlated_start : Correlated ({} : Rpc ClientName ServiceName Identity Request Response) := by
  constructor <;> simp

/-- Setting up the parties and moving tasks between them keeps the messages correlated. -/
theorem Correlated.frame (correlated : rpc.Correlated) {client' : ClientName → Client Identity}
    {service' : ServiceName → Service Identity Request} {owner' : Identity → Option (ClientName ⊕ ServiceName)}
    (keep : ∀ id party, rpc.owner id = some party → owner' id = some party)
    (owned : ∀ name id, (client' name).writerId = some id → owner' id = some (.inl name))
    (sequenceNumber : ∀ name, (client' name).sequenceNumber = (rpc.client name).sequenceNumber)
    (pendingRequests : ∀ name, (client' name).pendingRequests = (rpc.client name).pendingRequests)
    (tasks : ∀ name, ∀ task ∈ (service' name).tasks, ∃ msg, rpc.requests[task.number]? = some msg ∧
      task.request = msg.request ∧ task.info = msg.info) :
    Correlated { rpc with client := client', service := service', owner := owner' } := by
  constructor
  · exact owned
  · intro msg member
    obtain ⟨own, bound⟩ := correlated.sent msg member
    exact ⟨keep _ _ own, by rw [sequenceNumber]; exact bound⟩
  · exact correlated.unique
  · exact tasks
  · exact correlated.responses
  · intro name seqNum number waiting
    rw [pendingRequests] at waiting
    exact correlated.pending name seqNum number waiting
  · intro future member
    obtain ⟨once, origin⟩ := correlated.answered future member
    exact ⟨once, origin⟩

theorem keep_owner [DecidableEq Identity] {id : Identity} (fresh : rpc.owner id = none) (owner : ClientName ⊕ ServiceName) (other : Identity)
    (party : ClientName ⊕ ServiceName) (owned : rpc.owner other = some party) :
    Function.update rpc.owner id (some owner) other = some party := by
  have differs : other ≠ id := by
    rintro rfl
    rw [fresh] at owned
    cases owned
  rw [Function.update_of_ne differs, owned]

theorem update_client [DecidableEq ClientName] {Value : Type} (value : Client Identity → Value) {name : ClientName}
    {client : Client Identity} (kept : value client = value (rpc.client name)) (other : ClientName) :
    value (Function.update rpc.client name client other) = value (rpc.client other) := by
  rw [Function.update_apply]
  split
  · rename_i here
    rw [here, kept]
  · rfl

theorem Correlated.owned_update [DecidableEq ClientName] (correlated : rpc.Correlated) {name : ClientName}
    {client : Client Identity} (kept : client.writerId = (rpc.client name).writerId) (other : ClientName)
    (id : Identity) (here : (Function.update rpc.client name client other).writerId = some id) :
    rpc.owner id = some (.inl other) := by
  rw [update_client Client.writerId kept] at here
  exact correlated.owned other id here

theorem Correlated.sent_update [DecidableEq ClientName] (correlated : rpc.Correlated) {name : ClientName}
    {client : Client Identity} (grows : (rpc.client name).sequenceNumber ≤ client.sequenceNumber)
    (msg : RequestMessage ClientName Identity Request) (member : msg ∈ rpc.requests) :
    rpc.owner msg.info.spareId = some (.inl msg.client) ∧
      msg.info.seqNum ≤ (Function.update rpc.client name client msg.client).sequenceNumber := by
  obtain ⟨own, bound⟩ := correlated.sent msg member
  refine ⟨own, ?_⟩
  rw [Function.update_apply]
  split
  · rename_i same
    rw [same] at bound
    exact Nat.le_trans bound grows
  · exact bound

theorem Correlated.initClient [DecidableEq ClientName] [DecidableEq Identity] (correlated : rpc.Correlated)
    (name : ClientName) (transmitter : Option Identity) (receiver : Bool)
    (fresh : ∀ id ∈ transmitter, rpc.owner id = none) :
    (rpc.initClient name transmitter receiver).Correlated := by
  cases transmitter with
  | none =>
    refine correlated.frame (fun _ _ owned => owned) ?_ ?_ ?_ correlated.tasks
    · exact correlated.owned_update rfl
    · exact update_client Client.sequenceNumber rfl
    · exact update_client Client.pendingRequests rfl
  | some id =>
    have keep := keep_owner (fresh id rfl) (.inl name)
    refine correlated.frame keep ?_ ?_ ?_ correlated.tasks
    · intro other id' here
      simp only [Function.update_apply] at here
      split at here
      · rename_i own
        rw [← Option.some.inj here, Function.update_self, own]
      · exact keep id' _ (correlated.owned other id' here)
    · exact update_client Client.sequenceNumber rfl
    · exact update_client Client.pendingRequests rfl

theorem Correlated.initService [DecidableEq ServiceName] [DecidableEq Identity] (correlated : rpc.Correlated)
    (name : ServiceName) (transmitter : Option Identity) (receiver : Bool)
    (fresh : ∀ id ∈ transmitter, rpc.owner id = none) :
    (rpc.initService name transmitter receiver).Correlated := by
  have tasks : ∀ service : Service Identity Request, service.tasks = (rpc.service name).tasks →
      ∀ other, ∀ task ∈ (Function.update rpc.service name service other).tasks,
        ∃ msg, rpc.requests[task.number]? = some msg ∧ task.request = msg.request ∧ task.info = msg.info := by
    intro service same other task member
    rw [Function.update_apply] at member
    split at member
    · rw [same] at member
      exact correlated.tasks name task member
    · exact correlated.tasks other task member
  unfold Rpc.initService
  dsimp only
  split
  · exact correlated
  · cases transmitter with
    | none =>
      exact correlated.frame (fun _ _ owned => owned) correlated.owned (fun _ => rfl) (fun _ => rfl) (tasks _ rfl)
    | some id =>
      have keep := keep_owner (fresh id rfl) (.inr name)
      exact correlated.frame keep (fun other id' here => keep id' _ (correlated.owned other id' here)) (fun _ => rfl)
        (fun _ => rfl) (tasks _ rfl)

theorem Correlated.setTasks [DecidableEq ServiceName] (correlated : rpc.Correlated) (name : ServiceName) {service : Service Identity Request}
    (tasks : ∀ task ∈ service.tasks, ∃ msg, rpc.requests[task.number]? = some msg ∧
      task.request = msg.request ∧ task.info = msg.info) : (rpc.setService name service).Correlated := by
  apply correlated.frame (fun _ _ owned => owned) correlated.owned (fun _ => rfl) (fun _ => rfl)
  intro other task member
  rw [Function.update_apply] at member
  split at member
  · exact tasks task member
  · exact correlated.tasks other task member

theorem Correlated.handleRequest (correlated : rpc.Correlated) (name : ServiceName) {task : Task Identity Request}
    (response : Response) (origin : ∃ msg, rpc.requests[task.number]? = some msg ∧
      task.request = msg.request ∧ task.info = msg.info) :
    (rpc.handleRequest name task response).Correlated := by
  rw [Rpc.handleRequest]
  dsimp only
  split
  · exact correlated
  · split
    · exact correlated
    · obtain ⟨msg, sent, request, info⟩ := origin
      constructor
      · exact correlated.owned
      · exact correlated.sent
      · exact correlated.unique
      · exact correlated.tasks
      · intro message member
        rcases List.mem_append.mp member with member | member
        · obtain ⟨msg', sent', spareId, seqNum, answered⟩ := correlated.responses message member
          exact ⟨msg', sent', spareId, seqNum, List.mem_append_left _ answered⟩
        · rw [List.mem_singleton.mp member]
          exact ⟨msg, sent, by rw [info], by rw [info], by rw [request]; simp⟩
      · exact correlated.pending
      · intro future member
        obtain ⟨once, origin⟩ := correlated.answered future member
        refine ⟨once, fun value here => ?_⟩
        obtain ⟨msg', sent', answered⟩ := origin value here
        exact ⟨msg', sent', List.mem_append_left _ answered⟩

/-- Requests of one client have different sequence numbers, and a new one has a number of its own. -/
theorem Correlated.seqNum_fresh (correlated : rpc.Correlated) {name : ClientName} {number : Nat}
    {msg : RequestMessage ClientName Identity Request} (found : rpc.requests[number]? = some msg)
    (same : msg.client = name) : msg.info.seqNum < (rpc.client name).sequenceNumber + 1 := by
  have bound := (correlated.sent msg (List.mem_of_getElem? found)).2
  rw [same] at bound
  omega

theorem getElem?_snoc {Value : Type} {values : List Value} {value new : Value} {number : Nat}
    (found : (values ++ [new])[number]? = some value) :
    values[number]? = some value ∨ number = values.length ∧ value = new := by
  rcases Nat.lt_trichotomy number values.length with inside | rfl | outside
  · rw [List.getElem?_append_left inside] at found
    exact Or.inl found
  · rw [List.getElem?_concat_length] at found
    exact Or.inr ⟨rfl, (Option.some.inj found).symm⟩
  · rw [List.getElem?_eq_none (by simp; omega)] at found
    cases found

theorem getElem?_snoc_of_some {Value : Type} {values : List Value} {value : Value} {number : Nat}
    (found : values[number]? = some value) (new : Value) : (values ++ [new])[number]? = some value := by
  rw [List.getElem?_append_left (List.getElem?_eq_some_iff.mp found).1, found]

theorem Correlated.asyncSendRequest [DecidableEq ClientName] (correlated : rpc.Correlated) (name : ClientName)
    (request : Request) (taken : rpc.asyncSendRequest name request = some next) : next.Correlated := by
  rw [Rpc.asyncSendRequest] at taken
  dsimp only at taken
  split at taken
  · obtain rfl := Option.some.inj taken
    exact correlated
  · split at taken
    · rename_i writerId writes _
      obtain rfl := Option.some.inj taken
      have own := correlated.owned name writerId writes
      have kept : ∀ {number : Nat} {msg}, rpc.requests[number]? = some msg → _ :=
        fun found => getElem?_snoc_of_some found
          ⟨name, request, ⟨writerId, (rpc.client name).sequenceNumber + 1, writerId⟩⟩
      constructor
      · exact correlated.owned_update rfl
      · intro msg member
        rcases List.mem_append.mp member with member | member
        · exact correlated.sent_update (Nat.le_succ _) msg member
        · rw [List.mem_singleton.mp member]
          exact ⟨own, by simp⟩
      · intro i j msg msg' found found' client seqNum
        rcases getElem?_snoc found with found | ⟨rfl, rfl⟩ <;> rcases getElem?_snoc found' with found' | ⟨rfl, rfl⟩
        · exact correlated.unique i j msg msg' found found' client seqNum
        · have bound := correlated.seqNum_fresh found client
          dsimp only at seqNum bound
          omega
        · have bound := correlated.seqNum_fresh found' client.symm
          dsimp only at seqNum bound
          omega
        · rfl
      · intro service task member
        obtain ⟨msg, found, same⟩ := correlated.tasks service task member
        exact ⟨msg, kept found, same⟩
      · intro response member
        obtain ⟨msg, found, same⟩ := correlated.responses response member
        exact ⟨msg, kept found, same⟩
      · intro other seqNum number waiting
        simp only [Function.update_apply] at waiting
        have before : (rpc.client other).pendingRequests seqNum = some number →
            ∃ future msg, (rpc.futures ++ [{ number := rpc.requests.length }])[number]? = some future ∧
              future.values = [] ∧ (rpc.requests ++ [⟨name, request,
                ⟨writerId, (rpc.client name).sequenceNumber + 1, writerId⟩⟩])[future.number]? = some msg ∧
              msg.client = other ∧ msg.info.seqNum = seqNum := by
          intro waiting
          obtain ⟨future, msg, promised, unset, found, same⟩ := correlated.pending other seqNum number waiting
          exact ⟨future, msg, getElem?_snoc_of_some promised _, unset, kept found, same⟩
        split at waiting
        · rename_i here
          subst here
          simp only [Function.update_apply] at waiting
          split at waiting
          · rename_i same
            obtain rfl := Option.some.inj waiting
            exact ⟨_, _, List.getElem?_concat_length .., rfl, List.getElem?_concat_length .., rfl, same.symm⟩
          · exact before waiting
        · exact before waiting
      · intro future member
        rcases List.mem_append.mp member with member | member
        · obtain ⟨once, origin⟩ := correlated.answered future member
          refine ⟨once, fun value here => ?_⟩
          obtain ⟨msg, found, answered⟩ := origin value here
          exact ⟨msg, kept found, answered⟩
        · rw [List.mem_singleton.mp member]
          exact ⟨Nat.zero_le _, fun value here => nomatch here⟩
    · cases taken

/-- A response that a client takes is the answer to its own pending request. -/
theorem Correlated.consumed (correlated : rpc.Correlated) {name : ClientName}
    {message : ResponseMessage Identity Response} (received : message ∈ rpc.responses)
    (addressed : some message.info.spareId = (rpc.client name).writerId) {number : Nat}
    (waiting : (rpc.client name).pendingRequests message.info.seqNum = some number) :
    ∃ future msg, rpc.futures[number]? = some future ∧ future.values = [] ∧ message.number = future.number ∧
      rpc.requests[future.number]? = some msg ∧ msg.client = name ∧
      ⟨future.number, msg.request, message.response⟩ ∈ rpc.answers := by
  obtain ⟨msg, sent, spareId, seqNum, answered⟩ := correlated.responses message received
  obtain ⟨future, msg', promised, unset, sent', client, seqNum'⟩ := correlated.pending name _ number waiting
  have own := correlated.owned name _ addressed.symm
  rw [spareId, (correlated.sent msg (List.mem_of_getElem? sent)).1] at own
  have sender : msg.client = name := Sum.inl.inj (Option.some.inj own)
  have same : message.number = future.number := by
    apply correlated.unique _ _ msg msg' sent sent' (sender.trans client.symm)
    rw [← seqNum, seqNum']
  rw [same] at sent answered
  exact ⟨future, msg, promised, unset, same, sent, sender, answered⟩

theorem pending_erased [DecidableEq ClientName] {name other : ClientName} {seqNum seqNum' number : Nat}
    (waiting : (Function.update rpc.client name { rpc.client name with
      pendingRequests := Function.update (rpc.client name).pendingRequests seqNum none } other).pendingRequests
        seqNum' = some number) :
    (rpc.client other).pendingRequests seqNum' = some number ∧ ¬(other = name ∧ seqNum' = seqNum) := by
  simp only [Function.update_apply] at waiting
  split at waiting
  · rename_i here
    simp only [Function.update_apply] at waiting
    split at waiting
    · cases waiting
    · rename_i differs
      exact ⟨here ▸ waiting, fun both => differs both.2⟩
  · rename_i differs
    exact ⟨waiting, fun both => differs both.1⟩

theorem Correlated.handleResponse [DecidableEq ClientName] [DecidableEq Identity] (correlated : rpc.Correlated)
    (name : ClientName) {message : ResponseMessage Identity Response} (received : message ∈ rpc.responses) :
    (rpc.handleResponse name message).Correlated := by
  unfold Rpc.handleResponse
  dsimp only
  split
  · exact correlated
  · rename_i addressed
    rw [not_not] at addressed
    split
    · exact correlated
    · rename_i number waiting
      obtain ⟨future, msg, promised, unset, _, sent, client, answered⟩ :=
        correlated.consumed received addressed waiting
      constructor
      · exact correlated.owned_update rfl
      · intro earlier member
        refine correlated.sent_update ?_ earlier member
        exact Nat.le_refl _
      · exact correlated.unique
      · exact correlated.tasks
      · exact correlated.responses
      · intro other seqNum number' waiting'
        obtain ⟨before, differs⟩ := pending_erased waiting'
        obtain ⟨future', msg', promised', unset', sent', client', seqNum'⟩ :=
          correlated.pending other seqNum number' before
        have distinct : number ≠ number' := by
          rintro rfl
          obtain ⟨future'', msg'', promised'', _, sent'', client'', seqNum''⟩ :=
            correlated.pending name _ number waiting
          rw [promised'] at promised''
          rw [← Option.some.inj promised'', sent'] at sent''
          obtain rfl := Option.some.inj sent''
          exact differs ⟨client'.symm.trans client'', seqNum'.symm.trans seqNum''⟩
        refine ⟨future', msg', ?_, unset', sent', client', seqNum'⟩
        rw [setValue, List.getElem?_modify_ne _ _ distinct, promised']
      · intro changed member
        obtain ⟨index, here⟩ := List.mem_iff_getElem?.mp member
        rw [setValue, List.getElem?_modify] at here
        obtain ⟨before, found, rfl⟩ := Option.map_eq_some_iff.mp here
        split
        · rename_i same
          rw [← same, promised] at found
          obtain rfl := Option.some.inj found
          refine ⟨by simp [unset], ?_⟩
          intro value here
          rw [unset, List.nil_append, List.mem_singleton] at here
          rw [here]
          exact ⟨msg, sent, answered⟩
        · obtain ⟨once, origin⟩ := correlated.answered before (List.mem_of_getElem? found)
          exact ⟨once, origin⟩

variable [DecidableEq ClientName] [DecidableEq ServiceName] [DecidableEq Identity]
  {event : RpcEvent ClientName ServiceName Identity Request Response}

theorem Correlated.step (correlated : rpc.Correlated) (fresh : rpc.FreshIdentity event)
    (taken : rpc.step event = some next) : next.Correlated := by
  cases event with
  | initClient name transmitter receiver =>
    obtain rfl := Option.some.inj taken
    exact correlated.initClient name transmitter receiver fresh
  | asyncSendRequest name request => exact correlated.asyncSendRequest name request taken
  | handleResponse name message =>
    simp only [Rpc.step] at taken
    split at taken
    · rename_i found
      obtain rfl := Option.some.inj taken
      exact correlated.handleResponse name (List.mem_of_getElem? found)
    · cases taken
  | initService name transmitter receiver =>
    obtain rfl := Option.some.inj taken
    exact correlated.initService name transmitter receiver fresh
  | receiveRequest name message =>
    simp only [Rpc.step] at taken
    split at taken
    · rename_i request _ found
      obtain rfl := Option.some.inj taken
      apply correlated.setTasks
      intro task member
      rcases List.mem_append.mp member with member | member
      · exact correlated.tasks name task member
      · rw [List.mem_singleton.mp member]
        exact ⟨request, found, rfl, rfl⟩
    · cases taken
  | process name response =>
    simp only [Rpc.step, Rpc.process] at taken
    split at taken
    · rename_i task tasks _ queued
      obtain rfl := Option.some.inj taken
      have origin := fun earlier member => correlated.tasks name earlier (queued ▸ member)
      have popped : (rpc.setService name { rpc.service name with tasks := tasks }).Correlated :=
        correlated.setTasks name fun earlier member => origin earlier (List.mem_cons_of_mem _ member)
      exact popped.handleRequest name response (origin task List.mem_cons_self)
    · cases taken
  | destroy name =>
    obtain rfl := Option.some.inj taken
    exact correlated.setTasks name (fun task member => nomatch member)

/-- In every state reached, every future has at most one value, which a service callback computed from the request that
    the future was created for, and a client takes only responses to its own requests. -/
theorem futures_answered {events : List (RpcEvent ClientName ServiceName Identity Request Response)}
    (fresh : Meets step FreshIdentity {} events) (ran : run step {} events = some rpc) :
    (∀ future ∈ rpc.futures, rpc.Answered future) ∧
    ∀ name message next, rpc.step (.handleResponse name message) = some next → next ≠ rpc →
      ∃ response msg, rpc.responses[message]? = some response ∧ rpc.requests[response.number]? = some msg ∧
        msg.client = name := by
  have correlated : rpc.Correlated := Meets.preserves Correlated
    (fun state event next fresh taken correlated => correlated.step fresh taken) correlated_start fresh ran
  refine ⟨correlated.answered, ?_⟩
  intro name message next taken changed
  simp only [step] at taken
  split at taken
  · rename_i response _ found
    obtain rfl := Option.some.inj taken
    unfold handleResponse at changed
    dsimp only at changed
    split at changed
    · exact absurd rfl changed
    · rename_i addressed
      rw [not_not] at addressed
      split at changed
      · exact absurd rfl changed
      · rename_i number waiting
        obtain ⟨future, msg, _, _, same, sent, client, _⟩ :=
          correlated.consumed (List.mem_of_getElem? found) addressed waiting
        exact ⟨response, msg, found, same ▸ sent, client⟩
  · cases taken

/-- Two clients and one service; the requests are handled in another order than they were sent, one of them twice, and
    the responses reach both clients, one of them again. -/
def crossed : List (RpcEvent Bool Unit Nat Nat Nat) :=
  [.initService () (some 100) true, .initClient false (some 1) true, .initClient true (some 2) true,
    .asyncSendRequest false 5, .asyncSendRequest true 6, .asyncSendRequest false 7,
    .receiveRequest () 2, .receiveRequest () 0, .receiveRequest () 1, .receiveRequest () 0,
    .process () 70, .process () 50, .process () 60, .process () 51,
    .handleResponse false 2, .handleResponse false 0, .handleResponse false 1, .handleResponse false 3,
    .handleResponse false 0, .handleResponse true 0, .handleResponse true 2]

theorem crossed_answered :
    ∃ rpc, run step {} crossed = some rpc ∧ rpc.futures.map Future.values = [[50], [60], [70]] ∧
      (∀ future ∈ rpc.futures, rpc.Answered future) ∧
      ∀ name message next, rpc.step (.handleResponse name message) = some next → next ≠ rpc →
        ∃ response msg, rpc.responses[message]? = some response ∧ rpc.requests[response.number]? = some msg ∧
          msg.client = name := by
  have reached : (run step {} crossed).any (fun rpc =>
      decide (rpc.futures.map Future.values = [[50], [60], [70]])) = true := by
    decide +kernel
  obtain ⟨rpc, ran, holds⟩ := (Option.any_eq_true _ _).mp reached
  exact ⟨rpc, ran, of_decide_eq_true holds, futures_answered (by decide +kernel) ran⟩

end Rpc

end CyberRT.Services

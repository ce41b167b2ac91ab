import Mathlib.Data.List.Perm.Subperm
import CyberRT.Services.Correlation

namespace CyberRT.Services

open Execution

namespace Rpc

variable {ClientName ServiceName Identity Request Response : Type}
  {rpc next : Rpc ClientName ServiceName Identity Request Response}

/-- The call of the service callback that `Process` makes, with the response that it leaves. -/
def callback (rpc : Rpc ClientName ServiceName Identity Request Response) :
    RpcEvent ClientName ServiceName Identity Request Response → Option (Answer Request Response)
  | .process name response =>
    if (rpc.service name).isInit then
      (rpc.service name).tasks.head?.map fun task => ⟨task.number, task.request, response⟩
    else none
  | _ => none

/-- The future of the call with the number of its request has the response. -/
def Returned (rpc : Rpc ClientName ServiceName Identity Request Response) (call : Nat) (request : Request)
    (response : Response) : Prop :=
  ∃ future ∈ rpc.futures, future.number = call ∧ response ∈ future.values ∧
    rpc.requests[call]?.map RequestMessage.request = some request

instance [DecidableEq Request] [DecidableEq Response] (rpc : Rpc ClientName ServiceName Identity Request Response)
    (call : Nat) (request : Request) (response : Response) : Decidable (rpc.Returned call request response) :=
  inferInstanceAs (Decidable (∃ future ∈ rpc.futures, _))

/-- The number of the request that a service takes into its queue. -/
def received : RpcEvent ClientName ServiceName Identity Request Response → Option Nat
  | .receiveRequest _ message => some message
  | _ => none

theorem Correlated.returned (correlated : rpc.Correlated) {call : Nat} {request : Request} {response : Response}
    (returned : rpc.Returned call request response) : ⟨call, request, response⟩ ∈ rpc.answers := by
  obtain ⟨future, member, rfl, value, sent⟩ := returned
  obtain ⟨msg, found, rfl⟩ := Option.map_eq_some_iff.mp sent
  obtain ⟨msg', found', answered⟩ := (correlated.answered future member).origin response value
  obtain rfl := Option.some.inj (found.symm.trans found')
  exact answered

theorem Correlated.callback_sent (correlated : rpc.Correlated)
    {event : RpcEvent ClientName ServiceName Identity Request Response} {answer : Answer Request Response}
    (called : rpc.callback event = some answer) : answer.number < rpc.requests.length := by
  cases event with
  | process name response =>
    obtain ⟨-, called⟩ := Option.ite_none_right_eq_some.mp called
    obtain ⟨task, head, rfl⟩ := Option.map_eq_some_iff.mp called
    obtain ⟨msg, found, -⟩ := correlated.tasks name task (List.mem_of_mem_head? head)
    exact (List.getElem?_eq_some_iff.mp found).1
  | _ => cases called

/-- What `HandleRequest` does to the messages. -/
theorem handleRequest_kept (rpc : Rpc ClientName ServiceName Identity Request Response) (name : ServiceName)
    (task : Task Identity Request) (response : Response) :
    (rpc.handleRequest name task response).requests = rpc.requests ∧
      (rpc.handleRequest name task response).service = rpc.service ∧
      ∀ answer ∈ (rpc.handleRequest name task response).answers, answer ∈ rpc.answers ∨
        (rpc.service name).isInit = true ∧ answer = ⟨task.number, task.request, response⟩ := by
  unfold handleRequest
  dsimp only
  split
  · exact ⟨rfl, rfl, fun _ => Or.inl⟩
  · rename_i called
    split
    · exact ⟨rfl, rfl, fun _ => Or.inl⟩
    · refine ⟨rfl, rfl, fun answer member => ?_⟩
      rcases List.mem_append.mp member with earlier | last
      · exact Or.inl earlier
      · exact Or.inr ⟨Bool.of_not_eq_false called, List.mem_singleton.mp last⟩

variable [DecidableEq ClientName] [DecidableEq ServiceName] [DecidableEq Identity]
  {event : RpcEvent ClientName ServiceName Identity Request Response}

/-- Only `Process` adds an answer, which is that of the callback, and only a client adds requests. -/
theorem step_kept (taken : rpc.step event = some next) : (∃ new, next.requests = rpc.requests ++ new) ∧
    ∀ answer ∈ next.answers, answer ∈ rpc.answers ∨ rpc.callback event = some answer := by
  have same : ∀ {after : Rpc ClientName ServiceName Identity Request Response}, after.requests = rpc.requests →
      after.answers = rpc.answers → (∃ new, after.requests = rpc.requests ++ new) ∧
        ∀ answer ∈ after.answers, answer ∈ rpc.answers ∨ rpc.callback event = some answer := by
    intro after requests answers
    exact ⟨⟨[], by rw [requests, List.append_nil]⟩, fun answer member => Or.inl (answers ▸ member)⟩
  cases event with
  | initClient name transmitter receiver =>
    obtain rfl := Option.some.inj taken
    cases transmitter <;> exact same rfl rfl
  | asyncSendRequest name request =>
    simp only [step, asyncSendRequest] at taken
    split at taken
    · obtain rfl := Option.some.inj taken
      exact same rfl rfl
    · split at taken
      · obtain rfl := Option.some.inj taken
        exact ⟨⟨_, rfl⟩, fun answer => Or.inl⟩
      · cases taken
  | handleResponse name message =>
    simp only [step] at taken
    split at taken
    · obtain rfl := Option.some.inj taken
      unfold handleResponse
      dsimp only
      split
      · exact same rfl rfl
      · split <;> exact same rfl rfl
    · cases taken
  | initService name transmitter receiver =>
    obtain rfl := Option.some.inj taken
    unfold initService
    dsimp only
    split
    · exact same rfl rfl
    · cases transmitter <;> exact same rfl rfl
  | receiveRequest name message =>
    simp only [step] at taken
    split at taken
    · obtain rfl := Option.some.inj taken
      exact same rfl rfl
    · cases taken
  | process name response =>
    simp only [step, process] at taken
    split at taken
    · rename_i task tasks _ queued
      obtain rfl := Option.some.inj taken
      obtain ⟨requests, -, answers⟩ := handleRequest_kept
        (rpc.setService name { rpc.service name with tasks := tasks }) name task response
      refine ⟨⟨[], by rw [requests, List.append_nil]⟩, fun answer member => (answers answer member).imp id ?_⟩
      rintro ⟨called, same⟩
      have called : (rpc.service name).isInit = true := by simpa [Service.isInit] using called
      simp [callback, called, queued, same]
    · cases taken
  | destroy name =>
    obtain rfl := Option.some.inj taken
    exact same rfl rfl

/-- What the callback is called for leaves the queue, and only what is received gets into it. -/
theorem step_tasks {rpc next : Rpc ClientName Unit Identity Request Response}
    {event : RpcEvent ClientName Unit Identity Request Response} (taken : rpc.step event = some next) :
    List.Sublist (((rpc.callback event).map Answer.number).toList ++ (next.service ()).tasks.map Task.number)
      ((rpc.service ()).tasks.map Task.number ++ (received event).toList) := by
  have same : ∀ {after : Rpc ClientName Unit Identity Request Response}, rpc.callback event = none →
      received event = none → (after.service ()).tasks = (rpc.service ()).tasks →
      List.Sublist (((rpc.callback event).map Answer.number).toList ++ (after.service ()).tasks.map Task.number)
        ((rpc.service ()).tasks.map Task.number ++ (received event).toList) := by
    intro after quiet none tasks
    simp [quiet, none, tasks]
  cases event with
  | initClient name transmitter receiver =>
    obtain rfl := Option.some.inj taken
    cases transmitter <;> exact same rfl rfl rfl
  | asyncSendRequest name request =>
    simp only [step, asyncSendRequest] at taken
    split at taken
    · obtain rfl := Option.some.inj taken
      exact same rfl rfl rfl
    · split at taken
      · obtain rfl := Option.some.inj taken
        exact same rfl rfl rfl
      · cases taken
  | handleResponse name message =>
    simp only [step] at taken
    split at taken
    · obtain rfl := Option.some.inj taken
      refine same rfl rfl ?_
      unfold handleResponse
      dsimp only
      split
      · rfl
      · split <;> rfl
    · cases taken
  | initService name transmitter receiver =>
    obtain rfl := Option.some.inj taken
    refine same rfl rfl ?_
    unfold initService
    dsimp only
    split
    · rfl
    · cases transmitter <;> simp
  | receiveRequest name message =>
    simp only [step] at taken
    split at taken
    · obtain rfl := Option.some.inj taken
      simp [callback, receiveRequest, received]
    · cases taken
  | process name response =>
    simp only [step, process] at taken
    split at taken
    · rename_i task tasks _ queued
      obtain rfl := Option.some.inj taken
      obtain ⟨-, service, -⟩ := handleRequest_kept
        (rpc.setService name { rpc.service name with tasks := tasks }) name task response
      rw [service]
      simp only [callback, queued, received, Function.update_self, List.map_cons]
      split
      · simp
      · simp
    · cases taken
  | destroy name =>
    obtain rfl := Option.some.inj taken
    simp [callback, destroy]

end Rpc

end CyberRT.Services

import Mathlib.Logic.Function.Basic
import CyberRT.Execution.Run

namespace CyberRT.Services

structure MessageInfo (Identity : Type) where
  senderId : Identity
  seqNum : Nat
  spareId : Identity

/-- The members of a `Client`; a pending request is known by the number of its future. -/
structure Client (Identity : Type) where
  requestTransmitter : Bool := false
  responseReceiver : Bool := false
  writerId : Option Identity := none
  sequenceNumber : Nat := 0
  pendingRequests : Nat → Option Nat := fun _ => none

def Client.isInit {Identity : Type} (client : Client Identity) : Bool := client.responseReceiver

/-- A request on the request channel, with the client whose call has sent it. -/
structure RequestMessage (ClientName Identity Request : Type) where
  client : ClientName
  request : Request
  info : MessageInfo Identity

/-- A task of a service; `number` says which message on the request channel it holds. -/
structure Task (Identity Request : Type) where
  number : Nat
  request : Request
  info : MessageInfo Identity

structure Service (Identity Request : Type) where
  responseTransmitter : Option Identity := none
  requestReceiver : Bool := false
  inited : Bool := false
  tasks : List (Task Identity Request) := []

def Service.isInit {Identity Request : Type} (service : Service Identity Request) : Bool := service.requestReceiver

/-- What a service callback has made of the request in message `number`. -/
structure Answer (Request Response : Type) where
  number : Nat
  request : Request
  response : Response

/-- A response on the response channel; `number` says which request it answers. -/
structure ResponseMessage (Identity Response : Type) where
  number : Nat
  response : Response
  info : MessageInfo Identity

/-- A future together with the number of the request that it was created for; `set_value` adds a value. -/
structure Future (Response : Type) where
  number : Nat
  values : List Response := []

/-- All clients and services of one service name. The messages on the two channels are kept for ever, since each may
    be delivered at any later time, any number of times or never. -/
structure Rpc (ClientName ServiceName Identity Request Response : Type) where
  client : ClientName → Client Identity := fun _ => {}
  service : ServiceName → Service Identity Request := fun _ => {}
  owner : Identity → Option (ClientName ⊕ ServiceName) := fun _ => none
  requests : List (RequestMessage ClientName Identity Request) := []
  responses : List (ResponseMessage Identity Response) := []
  answers : List (Answer Request Response) := []
  futures : List (Future Response) := []

/-- `transmitter` is the identity of the transmitter that `Init` creates, `receiver` whether it gets a receiver. -/
inductive RpcEvent (ClientName ServiceName Identity Request Response : Type) where
  | initClient (client : ClientName) (transmitter : Option Identity) (receiver : Bool)
  | asyncSendRequest (client : ClientName) (request : Request)
  | handleResponse (client : ClientName) (message : Nat)
  | initService (service : ServiceName) (transmitter : Option Identity) (receiver : Bool)
  | receiveRequest (service : ServiceName) (message : Nat)
  | process (service : ServiceName) (response : Response)
  | destroy (service : ServiceName)

namespace Rpc

variable {ClientName ServiceName Identity Request Response : Type} [DecidableEq ClientName] [DecidableEq ServiceName]
  [DecidableEq Identity] (rpc : Rpc ClientName ServiceName Identity Request Response)

abbrev setClient (name : ClientName) (client : Client Identity) : Rpc ClientName ServiceName Identity Request Response :=
  { rpc with client := Function.update rpc.client name client }

abbrev setService (name : ServiceName) (service : Service Identity Request) :
    Rpc ClientName ServiceName Identity Request Response :=
  { rpc with service := Function.update rpc.service name service }

def initClient (name : ClientName) (transmitter : Option Identity) (receiver : Bool) :
    Rpc ClientName ServiceName Identity Request Response :=
  let client := rpc.client name
  match transmitter with
  | none => rpc.setClient name { client with requestTransmitter := false }
  | some id =>
    { rpc.setClient name { client with
        requestTransmitter := receiver, responseReceiver := receiver, writerId := some id } with
      owner := Function.update rpc.owner id (some (.inl name)) }

/-- `AsyncSendRequest`, which holds the mutex from the increment to the entry of the promise. -/
def asyncSendRequest (name : ClientName) (request : Request) :
    Option (Rpc ClientName ServiceName Identity Request Response) :=
  let client := rpc.client name
  if client.isInit = false then some rpc
  else match client.writerId, client.requestTransmitter with
    | some writerId, true =>
      let sequenceNumber := client.sequenceNumber + 1
      let info : MessageInfo Identity := ⟨writerId, sequenceNumber, writerId⟩
      some { rpc.setClient name { client with
          sequenceNumber := sequenceNumber
          pendingRequests := Function.update client.pendingRequests info.seqNum (some rpc.futures.length) } with
        requests := rpc.requests ++ [⟨name, request, info⟩]
        futures := rpc.futures ++ [{ number := rpc.requests.length }] }
    | _, _ => none

def setValue (future : Nat) (response : Response) : List (Future Response) :=
  rpc.futures.modify future fun entry => { entry with values := entry.values ++ [response] }

def handleResponse (name : ClientName) (message : ResponseMessage Identity Response) :
    Rpc ClientName ServiceName Identity Request Response :=
  let client := rpc.client name
  if some message.info.spareId ≠ client.writerId then rpc
  else
    let sequenceNumber := message.info.seqNum
    match client.pendingRequests sequenceNumber with
    | none => rpc
    | some future =>
      { rpc.setClient name { client with
          pendingRequests := Function.update client.pendingRequests sequenceNumber none } with
        futures := rpc.setValue future message.response }

def initService (name : ServiceName) (transmitter : Option Identity) (receiver : Bool) :
    Rpc ClientName ServiceName Identity Request Response :=
  let service := rpc.service name
  if service.isInit then rpc
  else match transmitter with
    | none => rpc.setService name { service with responseTransmitter := none }
    | some id =>
      { rpc.setService name { service with
          responseTransmitter := if receiver then some id else none
          requestReceiver := receiver
          inited := true } with
        owner := Function.update rpc.owner id (some (.inr name)) }

def receiveRequest (name : ServiceName) (number : Nat) (message : RequestMessage ClientName Identity Request) :
    Rpc ClientName ServiceName Identity Request Response :=
  let service := rpc.service name
  rpc.setService name { service with tasks := service.tasks ++ [⟨number, message.request, message.info⟩] }

/-- `HandleRequest` and `SendResponse` for a task that `Process` has taken from the queue. -/
def handleRequest (name : ServiceName) (task : Task Identity Request) (response : Response) :
    Rpc ClientName ServiceName Identity Request Response :=
  let service := rpc.service name
  if service.isInit = false then rpc
  else match service.responseTransmitter with
    | none => rpc
    | some id =>
      { rpc with
        answers := rpc.answers ++ [⟨task.number, task.request, response⟩]
        responses := rpc.responses ++ [⟨task.number, response, { task.info with senderId := id }⟩] }

def process (name : ServiceName) (response : Response) : Option (Rpc ClientName ServiceName Identity Request Response) :=
  let service := rpc.service name
  match service.inited, service.tasks with
  | true, task :: tasks => some ((rpc.setService name { service with tasks := tasks }).handleRequest name task response)
  | _, _ => none

def destroy (name : ServiceName) : Rpc ClientName ServiceName Identity Request Response :=
  rpc.setService name { rpc.service name with inited := false, tasks := [] }

def step (rpc : Rpc ClientName ServiceName Identity Request Response) :
    RpcEvent ClientName ServiceName Identity Request Response →
      Option (Rpc ClientName ServiceName Identity Request Response)
  | .initClient name transmitter receiver => some (rpc.initClient name transmitter receiver)
  | .asyncSendRequest name request => rpc.asyncSendRequest name request
  | .handleResponse name message =>
    match (rpc.client name).responseReceiver, rpc.responses[message]? with
    | true, some response => some (rpc.handleResponse name response)
    | _, _ => none
  | .initService name transmitter receiver => some (rpc.initService name transmitter receiver)
  | .receiveRequest name message =>
    match (rpc.service name).requestReceiver, rpc.requests[message]? with
    | true, some request => some (rpc.receiveRequest name message request)
    | _, _ => none
  | .process name response => rpc.process name response
  | .destroy name => some (rpc.destroy name)

/-- Every transmitter that is created has an identity of its own. -/
def FreshIdentity (rpc : Rpc ClientName ServiceName Identity Request Response) :
    RpcEvent ClientName ServiceName Identity Request Response → Prop
  | .initClient _ transmitter _ => ∀ id ∈ transmitter, rpc.owner id = none
  | .initService _ transmitter _ => ∀ id ∈ transmitter, rpc.owner id = none
  | _ => True

instance decidableFreshIdentity (rpc : Rpc ClientName ServiceName Identity Request Response)
    (event : RpcEvent ClientName ServiceName Identity Request Response) : Decidable (rpc.FreshIdentity event) :=
  match event with
  | .initClient _ transmitter _ => inferInstanceAs (Decidable (∀ id ∈ transmitter, rpc.owner id = none))
  | .initService _ transmitter _ => inferInstanceAs (Decidable (∀ id ∈ transmitter, rpc.owner id = none))
  | .asyncSendRequest .. | .handleResponse .. | .receiveRequest .. | .process .. | .destroy .. =>
    inferInstanceAs (Decidable True)

end Rpc

end CyberRT.Services

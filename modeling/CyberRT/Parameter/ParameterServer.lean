import Mathlib.Data.List.Perm.Basic
import CyberRT.Services.Calls

namespace CyberRT.Parameter

open Execution Services

inductive ParamType where
  | notSet | bool | int | double | string | protobuf
  deriving DecidableEq, Repr

/-- The `oneof` of a `Param`; `doubleValue` has the bits of the number. -/
inductive OneofValue where
  | none
  | boolValue (value : Bool)
  | intValue (value : Int64)
  | doubleValue (bits : UInt64)
  | stringValue (value : String)
  deriving DecidableEq

/-- A `Param` message, in which a field that is not set reads as its default. -/
structure Param where
  name : String := ""
  type : ParamType := .notSet
  typeName : String := ""
  value : OneofValue := .none
  protoDesc : String := ""
  deriving DecidableEq

/-- The parameters of `param_map_`, in the order in which the container has them, which the standard leaves open. -/
abbrev ParamMap := List Param

namespace ParamMap

variable (paramMap : ParamMap)

def find (name : String) : Option Param := paramMap.find? fun param => param.name = name

/-- `param_map_[param.name()] = param`. -/
def assign (param : Param) : ParamMap := paramMap.filter (fun other => other.name ≠ param.name) ++ [param]

end ParamMap

/-- A handler that has run under `param_map_mutex_`: a callback of a service for the request with the number `call`, or
    a function of the server. -/
inductive Entry where
  | getParameter (call : Nat) (name : String) (response : Param)
  | setParameter (call : Nat) (param : Param) (response : Bool)
  | listParameters (call : Nat) (node : String) (response : List Param)
  | serverGet (name : String) (found : Option Param)
  | serverSet (param : Param)
  | serverList (params : List Param)
  deriving DecidableEq

/-- A `ParameterServer` with the clients of its three services. `log` has what has run under the mutex. -/
structure ParameterServer (ClientName Identity : Type) where
  getParameter : Rpc ClientName Unit Identity String Param := {}
  setParameter : Rpc ClientName Unit Identity Param Bool := {}
  listParameters : Rpc ClientName Unit Identity String (List Param) := {}
  paramMap : ParamMap := []
  log : List Entry := []

/-- The last three are calls of the server's own functions; `serverList` has the parameters in the order of the map. -/
inductive ParameterEvent (ClientName Identity : Type) where
  | getParameter (event : RpcEvent ClientName Unit Identity String Param)
  | setParameter (event : RpcEvent ClientName Unit Identity Param Bool)
  | listParameters (event : RpcEvent ClientName Unit Identity String (List Param))
  | serverGet (name : String)
  | serverSet (param : Param)
  | serverList (params : List Param)

namespace ParameterServer

variable {ClientName Identity : Type} (server : ParameterServer ClientName Identity)

/-- What the callback of the first service makes of an empty response. -/
def getCallback (name : String) : Param := (server.paramMap.find name).getD {}

def respondGet (answer : Answer String Param) : Option (ParameterServer ClientName Identity) :=
  if answer.response = server.getCallback answer.request then
    some { server with log := server.log ++ [.getParameter answer.number answer.request answer.response] }
  else none

def respondSet (answer : Answer Param Bool) : Option (ParameterServer ClientName Identity) :=
  if answer.response = true then
    some { server with
      paramMap := server.paramMap.assign answer.request
      log := server.log ++ [.setParameter answer.number answer.request answer.response] }
  else none

def respondList (answer : Answer String (List Param)) : Option (ParameterServer ClientName Identity) :=
  if answer.response.Perm server.paramMap then
    some { server with log := server.log ++ [.listParameters answer.number answer.request answer.response] }
  else none

variable [DecidableEq ClientName] [DecidableEq Identity]

def step (server : ParameterServer ClientName Identity) :
    ParameterEvent ClientName Identity → Option (ParameterServer ClientName Identity)
  | .getParameter event => (server.getParameter.step event).bind fun rpc =>
    (server.getParameter.callback event).elim (some { server with getParameter := rpc })
      { server with getParameter := rpc }.respondGet
  | .setParameter event => (server.setParameter.step event).bind fun rpc =>
    (server.setParameter.callback event).elim (some { server with setParameter := rpc })
      { server with setParameter := rpc }.respondSet
  | .listParameters event => (server.listParameters.step event).bind fun rpc =>
    (server.listParameters.callback event).elim (some { server with listParameters := rpc })
      { server with listParameters := rpc }.respondList
  | .serverGet name => some { server with log := server.log ++ [.serverGet name (server.paramMap.find name)] }
  | .serverSet param => some { server with
      paramMap := server.paramMap.assign param
      log := server.log ++ [.serverSet param] }
  | .serverList params =>
    if params.Perm server.paramMap then some { server with log := server.log ++ [.serverList params] } else none

/-- Every transmitter that is created for one of the services has an identity of its own. -/
def FreshIdentity (server : ParameterServer ClientName Identity) : ParameterEvent ClientName Identity → Prop
  | .getParameter event => server.getParameter.FreshIdentity event
  | .setParameter event => server.setParameter.FreshIdentity event
  | .listParameters event => server.listParameters.FreshIdentity event
  | _ => True

instance (server : ParameterServer ClientName Identity) :
    (event : ParameterEvent ClientName Identity) → Decidable (server.FreshIdentity event)
  | .getParameter event => inferInstanceAs (Decidable (server.getParameter.FreshIdentity event))
  | .setParameter event => inferInstanceAs (Decidable (server.setParameter.FreshIdentity event))
  | .listParameters event => inferInstanceAs (Decidable (server.listParameters.FreshIdentity event))
  | .serverGet _ | .serverSet _ | .serverList _ => inferInstanceAs (Decidable True)

end ParameterServer

/-- `ParameterClient::GetParameter` with the value of its future, which is `none` after the time-out. -/
def ParameterClient.getParameter (response : Option Param) : Option Param :=
  response.bind fun param => if param.type = .notSet then none else some param

def ParameterClient.setParameter (response : Option Bool) : Bool := response.getD false

end CyberRT.Parameter

import Mathlib.Data.Int.Notation
import Mathlib.Data.List.AList
import CyberRT.Execution.Run

namespace CyberRT.Io

def epollIn : UInt32 := 0x001

def epollOut : UInt32 := 0x004

def epollOneshot : UInt32 := 0x40000000

def epollEt : UInt32 := 0x80000000

structure PollRequest (Callback : Type) where
  fd : Int := -1
  events : UInt32 := 0
  timeoutMs : Int := -1
  callback : Option Callback := none
  deriving DecidableEq, Repr

inductive EpollOperation where
  | add | mod | del
  deriving DecidableEq, Repr

structure PollCtrlParam where
  operation : EpollOperation
  fd : Int
  events : UInt32 := 0
  deriving DecidableEq, Repr

abbrev RequestMap (Callback : Type) := AList fun _ : Int => PollRequest Callback

abbrev CtrlParamMap := AList fun _ : Int => PollCtrlParam

abbrev ResponseMap := AList fun _ : Int => UInt32

/-- `interest` is the interest set that the kernel keeps for the descriptor of the epoll instance. -/
structure Poller (Callback : Type) where
  isShutdown : Bool := false
  requests : RequestMap Callback := ∅
  ctrlParams : CtrlParamMap := ∅
  interest : Int → Option UInt32 := fun _ => none

/-- What `epoll_ctl` makes of the events of the descriptor. It fails and changes nothing when it is to add a descriptor of
    the interest set or to modify or delete another one. -/
def PollCtrlParam.apply (param : PollCtrlParam) (registered : Option UInt32) : Option UInt32 :=
  match param.operation, registered with
  | .add, none | .mod, some _ => some param.events
  | .del, some _ => none
  | _, _ => registered

def epollCtl (interest : Int → Option UInt32) (param : PollCtrlParam) : Int → Option UInt32 :=
  Function.update interest param.fd (param.apply (interest param.fd))

namespace Poller

variable {Callback : Type}

/-- The poller after `Init`, which has a request for the reading end of its pipe. -/
def init (pipeFd : Int) (drain : Callback) : Poller Callback where
  requests := AList.insert pipeFd { fd := pipeFd, events := epollIn, callback := some drain } ∅
  ctrlParams := AList.insert pipeFd { operation := .add, fd := pipeFd, events := epollIn } ∅

variable (poller : Poller Callback)

/-- The test with which `Register` and `Unregister` begin. -/
def accepts (request : PollRequest Callback) : Bool :=
  !poller.isShutdown && !(request.fd < 0 || request.callback.isNone)

def register (request : PollRequest Callback) : Bool × Poller Callback :=
  if poller.accepts request then
    let operation := if poller.requests.lookup request.fd = none then .add else .mod
    (true, { poller with
      requests := poller.requests.insert request.fd request
      ctrlParams := poller.ctrlParams.insert request.fd
        { operation := operation, fd := request.fd, events := request.events } })
  else (false, poller)

def unregister (request : PollRequest Callback) : Bool × Poller Callback :=
  if poller.accepts request then
    match poller.requests.lookup request.fd with
    | none => (false, poller)
    | some _ =>
      (true, { poller with
        requests := poller.requests.erase request.fd
        ctrlParams := poller.ctrlParams.insert request.fd { operation := .del, fd := request.fd } })
  else (false, poller)

def handleChanges : Poller Callback :=
  if poller.ctrlParams.entries.isEmpty then poller
  else { poller with
    ctrlParams := ∅
    interest := poller.ctrlParams.foldl (fun interest _ param => epollCtl interest param) poller.interest }

/-- What is left of a timeout after `epoll_wait`; only a positive one counts down. -/
def countDown (timeoutMs intervalMs : Int) : Int := if 0 < timeoutMs then max (timeoutMs - intervalMs) 0 else timeoutMs

/-- The first loop of `Poll`: the requests that the kernel has been told of count down, and those that have come to zero
    get an empty response. -/
def expire (intervalMs : Int) : Poller Callback × ResponseMap :=
  poller.requests.foldl (fun (expired, responses) fd request =>
    if (poller.ctrlParams.lookup request.fd).isSome then (expired, responses)
    else if countDown request.timeoutMs intervalMs = 0 then
      ({ expired with requests := expired.requests.insert fd { request with timeoutMs := -1 } }, responses.insert fd 0)
    else
      ({ expired with requests := expired.requests.insert fd { request with
          timeoutMs := countDown request.timeoutMs intervalMs } }, responses)) (poller, ∅)

/-- The lookup of the request of a response, which has no timeout from then on. -/
def answer (fd : Int) : Option Callback × Poller Callback :=
  match poller.requests.lookup fd with
  | none => (none, poller)
  | some request =>
    (request.callback, { poller with requests := poller.requests.insert fd { request with timeoutMs := -1 } })

end Poller

/-- The calls of any threads, in the order in which they take `poll_data_lock_`. -/
inductive PollerEvent (Callback : Type) where
  | register (request : PollRequest Callback)
  | unregister (request : PollRequest Callback)
  | handleChanges

def Poller.step {Callback : Type} (poller : Poller Callback) : PollerEvent Callback → Option (Poller Callback)
  | .register request => some (poller.register request).2
  | .unregister request => some (poller.unregister request).2
  | .handleChanges => some poller.handleChanges

end CyberRT.Io

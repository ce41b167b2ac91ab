import CyberRT.Croutine.Hosting
import CyberRT.Io.Poller

namespace CyberRT.Io

open CyberRT.Croutine

/-- The `ResponseCallback` of the handler, or the callback of another request. -/
inductive PollCallback where
  | handler | other
  deriving DecidableEq, Repr

structure PollHandler where
  fd : Int
  isRead : Bool := false
  isBlocking : Bool := false
  request : PollRequest PollCallback := {}
  response : UInt32 := 0

def targetEvents (isRead : Bool) : UInt32 := if isRead then epollIn else epollOut

def PollHandler.fill (handler : PollHandler) (timeoutMs : Int) (isRead : Bool) : PollHandler :=
  { handler with
    isRead := isRead
    request :=
      { fd := handler.fd, events := epollEt ||| epollOneshot ||| targetEvents isRead, timeoutMs := timeoutMs,
        callback := some .handler } }

/-- What the routine does next in `Block`; `setState` and `swap` are the two halves of `Yield`, and it is suspended before
    `readResponse`. -/
inductive BlockPoint where
  | idle
  | exchange (timeoutMs : Int) (isRead : Bool)
  | register (isRead : Bool)
  | setState (isRead : Bool)
  | swap (isRead : Bool)
  | readResponse (isRead : Bool)
  | leave (result : Bool)
  deriving DecidableEq, Repr

/-- What `ResponseCallback` does next; the last two are the accesses of `NotifyTask`. -/
inductive CallbackPoint where
  | readBlocking (response : UInt32)
  | storeResponse (response : UInt32)
  | readState
  | notifyReadState
  | setUpdateFlag
  deriving DecidableEq, Repr

/-- What the thread of the poller does next. It holds `poll_data_lock_` during a callback. -/
inductive PollPoint where
  | handleChanges
  | wait
  | expire (ready : List (Int × UInt32))
  | respond (responses : ResponseMap)
  | callback (point : CallbackPoint) (responses : ResponseMap)

/-- A routine that calls `Block` of its handler again and again. `answered` tells whether the request of the last call has
    had its response, and `results` has what the calls returned. -/
structure PollSession (Processor : Type) where
  handler : PollHandler
  poller : Poller PollCallback
  host : Hosting Processor := {}
  block : BlockPoint := .idle
  poll : PollPoint := .handleChanges
  answered : Bool := false
  results : List Bool := []

/-- `routine` is the next access of the routine, which is inside a processor, and `poller` that of the thread of the poller:
    `wait` with what the kernel reports, `expire` with the time that it has waited, `respond` with the response that is
    next. Other threads register and unregister requests of their own. -/
inductive SessionEvent (Processor : Type) where
  | call (processor : Processor) (timeoutMs : Int) (isRead : Bool)
  | routine (processor : Processor)
  | processor (processor : Processor) (elapsed : Bool)
  | handleChanges
  | wait (ready : List (Int × UInt32))
  | expire (intervalMs : Int)
  | respond (fd : Int)
  | callback
  | responded
  | register (request : PollRequest PollCallback)
  | unregister (request : PollRequest PollCallback)

def PollPoint.isCallback : PollPoint → Bool
  | .callback _ _ => true
  | _ => false

namespace PollSession

variable {Processor : Type} [DecidableEq Processor]

def start (fd pipeFd : Int) : PollSession Processor where
  handler := { fd := fd }
  poller := .init pipeFd .other

variable (session : PollSession Processor)

/-- The call with its check. -/
def call (processor : Processor) (timeoutMs : Int) (isRead : Bool) : Option (PollSession Processor) :=
  if session.host.processor processor ≠ .inside then none
  else match session.block with
    | .idle =>
      if timeoutMs = 0 ∨ session.handler.fd < 0 then some { session with results := session.results ++ [false] }
      else some { session with block := .exchange timeoutMs isRead }
    | _ => none

def routineStep (processor : Processor) : Option (PollSession Processor) :=
  if session.host.processor processor ≠ .inside then none
  else match session.block with
    | .idle => none
    | .exchange timeoutMs isRead =>
      if session.handler.isBlocking then some { session with block := .idle, results := session.results ++ [false] }
      else some { session with
        handler := { session.handler.fill timeoutMs isRead with isBlocking := true }, block := .register isRead }
    | .register isRead =>
      if session.poll.isCallback then none
      else if (session.poller.register session.handler.request).1 then
        some { session with
          poller := (session.poller.register session.handler.request).2, block := .setState isRead, answered := false }
      else some { session with block := .leave false }
    | .setState isRead => some { session with host := session.host.setState .ioWait, block := .swap isRead }
    | .swap isRead => some { session with host := session.host.leave processor, block := .readResponse isRead }
    | .readResponse isRead =>
      some { session with block := .leave (session.handler.response &&& targetEvents isRead ≠ 0) }
    | .leave result =>
      some { session with
        handler := { session.handler with isBlocking := false }, block := .idle, results := session.results ++ [result] }

def callbackStep : Option (PollSession Processor) :=
  match session.poll with
  | .callback (.readBlocking response) responses =>
    some { session with
      poll := if session.handler.isBlocking then .callback (.storeResponse response) responses else .respond responses }
  | .callback (.storeResponse response) responses =>
    some { session with
      handler := { session.handler with response := response }, poll := .callback .readState responses, answered := true }
  | .callback .readState responses =>
    some { session with
      poll := if session.host.routine.state = .ioWait then .callback .notifyReadState responses
        else .respond responses }
  | .callback .notifyReadState responses =>
    some { session with
      poll := if session.host.routine.isWaiting then .callback .setUpdateFlag responses else .respond responses }
  | .callback .setUpdateFlag responses =>
    some { session with host := session.host.setUpdateFlag, poll := .respond responses }
  | _ => none

/-- The thread of the poller outside a callback. -/
def pollStep : SessionEvent Processor → Option (PollSession Processor)
  | .handleChanges =>
    match session.poll with
    | .handleChanges => some { session with poller := session.poller.handleChanges, poll := .wait }
    | _ => none
  | .wait ready =>
    match session.poll with
    | .wait =>
      if ready.all fun report => (session.poller.interest report.1).isSome then
        some { session with poll := .expire ready }
      else none
    | _ => none
  | .expire intervalMs =>
    match session.poll with
    | .expire ready =>
      let (poller, responses) := session.poller.expire (max intervalMs 1)
      some { session with
        poller := poller
        poll := .respond (ready.foldl (fun responses report => responses.insert report.1 report.2) responses) }
    | _ => none
  | .respond fd =>
    match session.poll with
    | .respond responses => (responses.lookup fd).map fun response =>
        let (callback, poller) := session.poller.answer fd
        { session with
          poller := poller
          poll := if callback = some .handler then .callback (.readBlocking response) (responses.erase fd)
            else .respond (responses.erase fd) }
    | _ => none
  | .responded =>
    match session.poll with
    | .respond responses => if responses.entries.isEmpty then some { session with poll := .handleChanges } else none
    | _ => none
  | _ => none

/-- Another thread waits for the lock and has a callback of its own. -/
def otherStep (request : PollRequest PollCallback) (poller : Poller PollCallback) : Option (PollSession Processor) :=
  if session.poll.isCallback ∨ request.callback = some .handler then none else some { session with poller }

def step (session : PollSession Processor) : SessionEvent Processor → Option (PollSession Processor)
  | .call processor timeoutMs isRead => session.call processor timeoutMs isRead
  | .routine processor => session.routineStep processor
  | .processor processor elapsed =>
    (session.host.step processor elapsed).map fun host => { session with host }
  | .callback => session.callbackStep
  | .register request => session.otherStep request (session.poller.register request).2
  | .unregister request => session.otherStep request (session.poller.unregister request).2
  | event => session.pollStep event

/-- The response of the last call has been delivered, and nobody is going to wake the routine that waits for it. -/
structure Stranded (session : PollSession Processor) : Prop where
  answered : session.answered = true
  waiting : ∃ isRead, session.block = .readResponse isRead
  asleep : session.host.Asleep .ioWait
  suspended : session.host.Suspended
  noCallback : session.poll.isCallback = false

end PollSession

end CyberRT.Io

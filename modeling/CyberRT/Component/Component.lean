import CyberRT.Component.Blocker
import CyberRT.Data.AllLatest

namespace CyberRT.Component

open CyberRT.Data

variable {M0 : Type} {n : Nat} {M : Fin n → Type}

/-- A component in reality mode, with the arguments of the calls of `Proc`; `none` would be a null `fusion_data`. -/
structure Reality (M0 : Type) {n : Nat} (M : Fin n → Type) where
  isShutdown : Bool
  fusion : AllLatest M0 M
  proc : List (Option (FusionDataType M0 M)) := []

/-- `routine` is one round of the loop of `CreateRoutineFactory`. -/
inductive RealityEvent (M0 : Type) {n : Nat} (M : Fin n → Type) where
  | dispatch (arrival : Arrival M0 M)
  | routine

def RealityEvent.arrival : RealityEvent M0 M → Option (Arrival M0 M)
  | .dispatch arrival => some arrival
  | .routine => none

namespace Reality

def start (isShutdown : Bool) (queueSize : Nat) (queueSizes : Fin n → Nat) : Reality M0 M where
  isShutdown := isShutdown
  fusion := .start queueSize queueSizes

variable (component : Reality M0 M)

def process (data : Option (FusionDataType M0 M)) : Reality M0 M :=
  if component.isShutdown then component else { component with proc := component.proc ++ [data] }

def routine : Reality M0 M :=
  let fetched := { component with fusion := component.fusion.tryFetch }
  match component.fusion.visitor.upcoming with
  | some (_, data) => fetched.process data
  | none => fetched

def step (component : Reality M0 M) : RealityEvent M0 M → Option (Reality M0 M)
  | .dispatch arrival => some { component with fusion := component.fusion.fill arrival }
  | .routine => some component.routine

/-- The routine has nothing left to fetch. -/
def Settled (component : Reality M0 M) : Prop := component.fusion.visitor.upcoming = none

/-- A message arrives only when those before it have been handled. -/
def InTurn (component : Reality M0 M) : RealityEvent M0 M → Prop
  | .dispatch _ => component.Settled
  | .routine => True

end Reality

/-- What `IntraReader::OnMessage` finds as the callback of its reader. -/
inductive MsgCallback where
  | none | component
  deriving DecidableEq, Repr

/-- A component in simulation mode: the blockers of its channels, whose names differ, and the arguments of the calls of
    `Proc`. -/
structure Simulation (M0 : Type) {n : Nat} (M : Fin n → Type) where
  isShutdown : Bool
  main : Blocker M0 MsgCallback
  others : ∀ channel, Blocker (M channel) MsgCallback
  proc : List (FusionDataType M0 M) := []

namespace Simulation

/-- The readers of `Initialize`, each subscribed under the name of the node with its history depth. -/
def start (isShutdown : Bool) (nodeName : String) (depth : Nat) (depths : Fin n → Nat) : Simulation M0 M where
  isShutdown := isShutdown
  main := (Blocker.subscribe { capacity := depth } nodeName .component).2
  others channel := (Blocker.subscribe { capacity := depths channel } nodeName .none).2

variable (component : Simulation M0 M)

def process (data : FusionDataType M0 M) : Simulation M0 M :=
  if component.isShutdown then component else { component with proc := component.proc ++ [data] }

/-- `func` of the main reader. -/
def func (msg : M0) : Simulation M0 M :=
  if ∀ channel, !(component.others channel).isPublishedEmpty then
    component.process (msg, fun channel => (component.others channel).getLatestPublishedPtr)
  else component

def onMessage (msg : M0) : MsgCallback → Simulation M0 M
  | .none => component
  | .component => component.func msg

/-- `Blocker::Publish`: `Enqueue`, then `Notify`. No reader of another channel has a callback that calls the component. -/
def publish : Arrival M0 M → Simulation M0 M
  | .main msg =>
    let enqueued := { component with main := component.main.enqueue msg }
    enqueued.main.publishedCallbacks.foldl (fun reached item => reached.onMessage msg item.2) enqueued
  | .other channel msg => { component with
      others := Function.update component.others channel ((component.others channel).enqueue msg) }

end Simulation

end CyberRT.Component

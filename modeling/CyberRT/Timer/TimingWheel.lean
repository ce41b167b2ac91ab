import Mathlib.Data.List.Count
import Mathlib.Logic.Function.Basic
import CyberRT.Execution.Run

namespace CyberRT.Timer

open Execution

def workWheelSize : Nat := 512

def assistantWheelSize : Nat := 64

def timerResolutionMs : Nat := 2

def timerMaxIntervalMs : Nat := workWheelSize * assistantWheelSize * timerResolutionMs

/-- `std::ceil(static_cast<double>(ms) / TIMER_RESOLUTION_MS)`, which is exact below 2^53 ms. -/
def ceilTicks (ms : Nat) : Nat := (ms + timerResolutionMs - 1) / timerResolutionMs

def getWorkWheelIndex (index : Nat) : Fin workWheelSize :=
  ⟨index &&& (workWheelSize - 1), Nat.lt_succ_of_le Nat.and_le_right⟩

def getAssistantWheelIndex (index : Nat) : Fin assistantWheelSize :=
  ⟨index &&& (assistantWheelSize - 1), Nat.lt_succ_of_le Nat.and_le_right⟩

/-- The fields of a task that the wheel uses; `remainder_interval_ms` is an index of the work wheel. -/
structure TimerTask where
  nextFireDurationMs : Nat := 0
  remainderIntervalMs : Fin workWheelSize := ⟨0, by decide⟩
  deriving DecidableEq, Repr

/-- What the tick thread does next in `TickFunc`: `Tick`, the advance of the work index after the sleep, the advance
    of the assistant index after a wrap, or `Cascade`. -/
inductive Phase where
  | ticking | sleeping | wrapped | cascading
  deriving DecidableEq, Repr

/-- The wheel, the task objects its weak pointers refer to, and the tasks handed to `Async` with the number of the
    `Tick` that handed them. -/
structure TimingWheel (Task : Type) where
  running : Bool := false
  phase : Phase := .ticking
  tickCount : Nat := 0
  workWheel : Fin workWheelSize → List Task := fun _ => []
  assistantWheel : Fin assistantWheelSize → List Task := fun _ => []
  currentWorkWheelIndex : Fin workWheelSize := ⟨0, by decide⟩
  currentAssistantWheelIndex : Fin assistantWheelSize := ⟨0, by decide⟩
  tasks : Task → TimerTask := fun _ => {}
  expired : Task → Bool := fun _ => false
  async : List (Nat × Task) := []

inductive WheelEvent (Task : Type) where
  | addTask (task : Task) (nextFireDurationMs : Nat)
  | release (task : Task)
  | shutdown
  | tick
  | advanceWork
  | advanceAssistant
  | cascade
  deriving DecidableEq, Repr

namespace TimingWheel

variable {Task : Type} [DecidableEq Task]

def pushWork (wheel : TimingWheel Task) (index : Fin workWheelSize) (task : Task) : TimingWheel Task :=
  { wheel with workWheel := Function.update wheel.workWheel index (wheel.workWheel index ++ [task]) }

def pushAssistant (wheel : TimingWheel Task) (index : Fin assistantWheelSize) (task : Task) : TimingWheel Task :=
  { wheel with assistantWheel := Function.update wheel.assistantWheel index (wheel.assistantWheel index ++ [task]) }

def setRemainder (wheel : TimingWheel Task) (task : Task) (index : Fin workWheelSize) : TimingWheel Task :=
  { wheel with
    tasks := Function.update wheel.tasks task { wheel.tasks task with remainderIntervalMs := index } }

def addTaskAt (wheel : TimingWheel Task) (task : Task) (currentWorkWheelIndex : Nat) : TimingWheel Task :=
  let workWheelIndex := currentWorkWheelIndex + ceilTicks (wheel.tasks task).nextFireDurationMs
  if fits : workWheelIndex < workWheelSize then wheel.pushWork ⟨workWheelIndex, fits⟩ task
  else
    let realWorkWheelIndex := getWorkWheelIndex workWheelIndex
    let marked := wheel.setRemainder task realWorkWheelIndex
    let assistantTicks := workWheelIndex / workWheelSize
    if assistantTicks = 1 ∧ realWorkWheelIndex < wheel.currentWorkWheelIndex then
      marked.pushWork realWorkWheelIndex task
    else
      marked.pushAssistant (getAssistantWheelIndex (wheel.currentAssistantWheelIndex + assistantTicks)) task

/-- `AddTask` of a task whose owner has set `next_fire_duration_ms`; `Start` when the wheel is not running. -/
def addTask (wheel : TimingWheel Task) (task : Task) (nextFireDurationMs : Nat) : TimingWheel Task :=
  let armed := { wheel with
    running := true
    tasks := Function.update wheel.tasks task { wheel.tasks task with nextFireDurationMs := nextFireDurationMs } }
  armed.addTaskAt task wheel.currentWorkWheelIndex

def tick (wheel : TimingWheel Task) : TimingWheel Task :=
  let bucket := wheel.workWheel wheel.currentWorkWheelIndex
  { wheel with
    workWheel := Function.update wheel.workWheel wheel.currentWorkWheelIndex []
    async := wheel.async ++
      (bucket.filter fun task => !wheel.expired task).map fun task => (wheel.tickCount + 1, task)
    tickCount := wheel.tickCount + 1
    phase := .sleeping }

def advanceWork (wheel : TimingWheel Task) : TimingWheel Task :=
  let index := getWorkWheelIndex (wheel.currentWorkWheelIndex + 1)
  { wheel with currentWorkWheelIndex := index, phase := if index.val = 0 then .wrapped else .ticking }

def advanceAssistant (wheel : TimingWheel Task) : TimingWheel Task :=
  { wheel with
    currentAssistantWheelIndex := getAssistantWheelIndex (wheel.currentAssistantWheelIndex + 1)
    phase := .cascading }

/-- The loop of `Cascade` over the tasks of a bucket. -/
def cascadeTasks (wheel : TimingWheel Task) (bucket : List Task) : TimingWheel Task :=
  bucket.foldl (fun wheel task =>
    if wheel.expired task then wheel
    else wheel.pushWork (wheel.tasks task).remainderIntervalMs task) wheel

def cascade (wheel : TimingWheel Task) (index : Fin assistantWheelSize) : TimingWheel Task :=
  { wheel.cascadeTasks (wheel.assistantWheel index) with
    assistantWheel := Function.update wheel.assistantWheel index []
    phase := .ticking }

/-- A caller of `AddTask` holds the task alive, and `Start` waits for a thread that is shut down but has not left its
    last iteration. -/
def Enabled (wheel : TimingWheel Task) : WheelEvent Task → Prop
  | .addTask task _ => wheel.expired task = false ∧ (wheel.running = true ∨ wheel.phase = .ticking)
  | .release _ => True
  | .shutdown => True
  | .tick => wheel.running = true ∧ wheel.phase = .ticking
  | .advanceWork => wheel.phase = .sleeping
  | .advanceAssistant => wheel.phase = .wrapped
  | .cascade => wheel.phase = .cascading

instance (wheel : TimingWheel Task) (event : WheelEvent Task) : Decidable (wheel.Enabled event) := by
  cases event <;> unfold Enabled <;> infer_instance

def apply (wheel : TimingWheel Task) : WheelEvent Task → TimingWheel Task
  | .addTask task nextFireDurationMs => wheel.addTask task nextFireDurationMs
  | .release task => { wheel with expired := Function.update wheel.expired task true }
  | .shutdown => { wheel with running := false }
  | .tick => wheel.tick
  | .advanceWork => wheel.advanceWork
  | .advanceAssistant => wheel.advanceAssistant
  | .cascade => wheel.cascade wheel.currentAssistantWheelIndex

def step (wheel : TimingWheel Task) (event : WheelEvent Task) : Option (TimingWheel Task) :=
  if wheel.Enabled event then some (wheel.apply event) else none

theorem step_of_enabled {wheel : TimingWheel Task} {event : WheelEvent Task} (enabled : wheel.Enabled event) :
    step wheel event = some (wheel.apply event) := if_pos enabled

theorem step_some {wheel next : TimingWheel Task} {event : WheelEvent Task} (taken : step wheel event = some next) :
    wheel.Enabled event ∧ next = wheel.apply event := by
  unfold step at taken
  split at taken
  · rename_i enabled
    cases taken
    exact ⟨enabled, rfl⟩
  · cases taken

end TimingWheel

end CyberRT.Timer

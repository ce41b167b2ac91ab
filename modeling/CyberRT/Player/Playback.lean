import CyberRT.Execution.Run
import CyberRT.Player.PlayTaskProducer
import CyberRT.Record.ViewOrder

namespace CyberRT.Player

open Execution Record

/-- A task, with the number of its `Push`. -/
structure PlayTask where
  number : Nat
  message : SingleMessage
  msgPlayTimeNs : UInt64
  deriving DecidableEq

/-- `tasks_.insert` of a `std::multimap` keyed by the play time: behind the tasks of the same time. -/
def insertTask (task : PlayTask) : List PlayTask → List PlayTask
  | [] => [task]
  | head :: rest => if task.msgPlayTimeNs < head.msgPlayTimeNs then task :: head :: rest else head :: insertTask task rest

/-- Where `PlayTaskProducer::ThreadFunc` stands. -/
inductive ProducerPoint where
  /-- At the loop over the record, before `begin()`. -/
  | looping
  /-- At the tests of `is_stopped_` and of the size, with the message of the iterator. -/
  | iterating (message : SingleMessage)
  /-- At the search in `writers_` and the `Push`. -/
  | pushing (message : SingleMessage)
  /-- At `++itr`. -/
  | stepping
  /-- Behind the loops over the iterator. -/
  | ended
  | returned
  deriving DecidableEq

/-- Where `PlayTaskConsumer::ThreadFunc` stands. -/
inductive ConsumerPoint where
  /-- At the test of `is_stopped_` and `Front`. -/
  | idle
  /-- Before `Play` of the task. -/
  | holding (task : PlayTask)
  /-- Between `Play` and `PopFront`. -/
  | played (task : PlayTask)
  | returned
  deriving DecidableEq

/-- Where the loop of `Player::Start` stands. -/
inductive StartPoint where
  | running
  /-- It has seen the producer stopped, and looks at the buffer next. -/
  | sawStopped
  /-- It has seen the buffer empty, and stopped the consumer. -/
  | finished
  /-- It has seen `OK()` fail; the destructor stops the producer and the consumer. -/
  | interrupted
  deriving DecidableEq

structure Playback where
  viewer : RecordViewer
  loopNum : UInt32
  producer : ProducerPoint
  producerStopped : Bool
  buffer : List PlayTask
  consumer : ConsumerPoint
  consumerStopped : Bool
  start : StartPoint
  /-- The tasks of all `Push`, `Play` and `PopFront` calls so far. -/
  pushed : List PlayTask
  played : List PlayTask
  removed : List PlayTask

inductive PlayEvent where
  /-- The producer's thread goes on. -/
  | produce
  /-- The consumer's thread goes on. -/
  | consume
  /-- The consumer finds `is_stopped_` set while it waits for the time of its first task. -/
  | leave
  /-- The loop of `Player::Start` goes on. -/
  | check
  | interrupt
  /-- The destructor has joined the producer and stops the consumer. -/
  | halt
  deriving DecidableEq

namespace Playback

def initial (producer : PlayTaskProducer) : Playback where
  viewer := producer.viewer
  loopNum := 0
  producer := .looping
  producerStopped := false
  buffer := []
  consumer := .idle
  consumerStopped := false
  start := .running
  pushed := []
  played := []
  removed := []

variable (pb : Protobuf) (fuel preloadSize : Nat) (producer : PlayTaskProducer) (playback : Playback)

def loopTimeNs : UInt64 := producer.playParam.endTimeNs - producer.playParam.beginTimeNs

/-- The iterator's `Update`; it is blocked while the fuel does not reach. -/
def advance : Option Playback :=
  (playback.viewer.update pb fuel).map fun updated =>
    match updated.1 with
    | none => { playback with viewer := updated.2, producer := .ended }
    | some message => { playback with viewer := updated.2, producer := .iterating message }

/-- `Push` of a new task. -/
def push (message : SingleMessage) : Playback :=
  let task : PlayTask := ⟨playback.pushed.length, message, message.time + playback.loopNum.toUInt64 * loopTimeNs producer⟩
  { playback with buffer := insertTask task playback.buffer, pushed := playback.pushed ++ [task], producer := .stepping }

def produce : Option Playback :=
  match playback.producer with
  | .looping =>
    if playback.producerStopped then some { playback with producer := .returned }
    else if playback.viewer.isValid then advance pb fuel { playback with viewer := playback.viewer.reset }
    else some { playback with viewer := playback.viewer.reset, producer := .ended }
  | .iterating message =>
    if playback.producerStopped then some { playback with producer := .ended }
    else if playback.buffer.length > preloadSize then some playback
    else some { playback with producer := .pushing message }
  | .pushing message =>
    if producer.hasWriter message then some (push producer playback message)
    else some { playback with producer := .stepping }
  | .stepping => advance pb fuel playback
  | .ended =>
    if producer.playParam.isLoopPlayback then
      some { playback with loopNum := playback.loopNum + 1, producer := .looping }
    else some { playback with producerStopped := true, producer := .returned }
  | .returned => none

def consume : Option Playback :=
  match playback.consumer with
  | .idle =>
    if playback.consumerStopped then some { playback with consumer := .returned }
    else
      match playback.buffer with
      | [] => some playback
      | task :: _ => some { playback with consumer := .holding task }
  | .holding task => some { playback with consumer := .played task, played := playback.played ++ [task] }
  | .played _ =>
    match playback.buffer with
    | [] => some { playback with consumer := .idle }
    | task :: rest =>
      some { playback with buffer := rest, removed := playback.removed ++ [task], consumer := .idle }
  | .returned => none

def leave : Option Playback :=
  match playback.consumer with
  | .holding _ => if playback.consumerStopped then some { playback with consumer := .returned } else none
  | _ => none

def check : Option Playback :=
  match playback.start with
  | .running => if playback.producerStopped then some { playback with start := .sawStopped } else some playback
  | .sawStopped =>
    if playback.buffer.isEmpty then some { playback with start := .finished, consumerStopped := true }
    else some { playback with start := .running }
  | .finished | .interrupted => none

def step : PlayEvent → Option Playback
  | .produce => produce pb fuel preloadSize producer playback
  | .consume => consume playback
  | .leave => leave playback
  | .check => check playback
  | .interrupt =>
    if playback.start = .running then some { playback with start := .interrupted, producerStopped := true } else none
  | .halt =>
    if playback.start = .interrupted ∧ playback.producer = .returned then some { playback with consumerStopped := true }
    else none

/-- The play time of the next task does not run over the end of `uint64_t`. -/
def TimesFit : PlayEvent → Prop
  | .produce => ∀ message, playback.producer = .pushing message →
    message.time.toNat + playback.loopNum.toNat * (loopTimeNs producer).toNat < 2 ^ 64
  | _ => True

/-- The number of the loops has not filled `loop_num`. -/
def LoopsFit : PlayEvent → Prop
  | .produce => playback.producer = .ended → producer.playParam.isLoopPlayback = true → playback.loopNum.toNat + 1 < 2 ^ 32
  | _ => True

/-- What a playback should keep to. -/
structure Orderly : Prop where
  inOrder : playback.played <+: playback.pushed
  removed : ∀ task ∈ playback.removed, task ∈ playback.played
  once : playback.played.Nodup
  complete : playback.start = .finished → ∀ task ∈ playback.pushed, task ∈ playback.played

end Playback

end CyberRT.Player

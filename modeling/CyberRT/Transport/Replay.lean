import Mathlib.Algebra.Ring.Nat
import CyberRT.Transport.ModeAgreement

namespace CyberRT.Transport

open Execution

/-- The channel of the two `ThreadFunc`s: `std::to_string(writer) + std::to_string(reader)`. -/
def historyChannel (writer reader : UInt64) : String := toString writer.toNat ++ toString reader.toNat

/-- What the `RtpsReceiver` of `HybridReceiver::ThreadFunc` adds to its dispatcher. -/
def RoleAttributes.historyListener (attr opposite : RoleAttributes) : DispatcherListener :=
  ⟨.rtps, attr.hostIp, attr.processId, historyChannel opposite.id attr.id, attr.id, none⟩

/-- What the `RtpsTransmitter` of `HybridTransmitter::ThreadFunc` publishes. -/
def RoleAttributes.historySample {M : Type} (attr opposite : RoleAttributes) (msg : M) : Sample M :=
  ⟨.rtps, historyChannel attr.id opposite.id, attr.hostIp, attr.processId, attr.id, msg⟩

/-- The sample is on a topic that the reader listens to once it has enabled the writer. -/
def audible {M : Type} (mode : CommunicationMode) (reader writer : RoleAttributes) (sample : Sample M) : Bool :=
  ((mode.select reader writer).any fun m => (reader.listener m writer).Hears sample) ||
    (reader.historyListener writer).Hears sample

/-- A sample on its way, the reader it replays the history for and the processes that have had it. -/
structure Publication (W R : Type) where
  sample : Sample (W × Nat)
  replayFor : Option R
  seenBy : List (String × Int)

/-- A `HybridTransmitter::ThreadFunc` that has still to transmit the messages of its task. -/
structure Replay (W R : Type) where
  writer : W
  reader : R
  task : HistoryTask (W × Nat)

/-- A network with its history tasks and its samples in flight. A message is named by its writer and by
    its place among the writer's `Transmit` calls. -/
structure ReplayNetwork (W R : Type) where
  net : Network W R (W × Nat)
  transmitted : W → Nat
  replays : List (Replay W R)
  /-- `HybridReceiver::ThreadFunc`s before and after `receiver->Enable()`. -/
  scheduled : List (R × W)
  running : List (R × W)
  published : List (Publication W R)
  handed : List (DispatcherListener × Publication W R)

inductive ReplayEvent (W R : Type) where
  | transmit (writer : W)
  | enableReader (writer : W) (reader : R)
  | enableWriter (reader : R) (writer : W)
  | replayNext (index : Nat)
  | startListening (reader : R) (writer : W)
  | stopListening (reader : R) (writer : W)
  | deliver (index : Nat) (hostIp : String) (processId : Int)

/-- The roles of a network and the table that they share. -/
structure Deployment (W R : Type) where
  writers : W → RoleAttributes
  readers : R → RoleAttributes
  mode : CommunicationMode

namespace ReplayNetwork

variable {W R : Type} [DecidableEq W] [DecidableEq R]

def init (roles : Deployment W R) (maxDepth : Nat) : ReplayNetwork W R where
  net := .init roles.writers roles.readers roles.mode maxDepth
  transmitted := fun _ => 0
  replays := []
  scheduled := []
  running := []
  published := []
  handed := []

/-- The listeners of all dispatchers: the ordinary ones and those of the running history tasks. -/
def audience (state : ReplayNetwork W R) : List DispatcherListener :=
  state.net.listeners ++ state.running.map fun (r, w) =>
    (state.net.receivers r).attr.historyListener (state.net.transmitters w).attr

def transmit (state : ReplayNetwork W R) (w : W) : ReplayNetwork W R :=
  let msg := (w, state.transmitted w)
  let sent := (state.net.transmitters w).transmit msg
  { state with
    net := { state.net with transmitters := Function.update state.net.transmitters w sent.1 }
    transmitted := Function.update state.transmitted w (state.transmitted w + 1)
    published := state.published ++ sent.2.map (⟨·, none, []⟩) }

def enableReader (state : ReplayNetwork W R) (w : W) (r : R) : Option (ReplayNetwork W R) :=
  let task := ((state.net.transmitters w).enable (state.net.receivers r).attr).2
  (state.net.step (.enableReader w r)).map fun net =>
    { state with net := net, replays := state.replays ++ (task.map (⟨w, r, ·⟩)).toList }

/-- `ReceiveHistoryMsg` runs only when the receiver did not know the writer. -/
def enableWriter (state : ReplayNetwork W R) (r : R) (w : W) : Option (ReplayNetwork W R) :=
  let opposite := (state.net.transmitters w).attr
  let added := ((state.net.receivers r).enable opposite).2
  let receives := added ≠ none ∧ opposite.qosProfile.durability = .transientLocal
  (state.net.step (.enableWriter r w)).map fun net =>
    { state with net := net, scheduled := if receives then (r, w) :: state.scheduled else state.scheduled }

def replayNext (state : ReplayNetwork W R) (index : Nat) : Option (ReplayNetwork W R) :=
  match state.replays[index]? with
  | none => none
  | some replay =>
    match replay.task.msgs with
    | [] => none
    | msg :: msgs =>
      let sample := (state.net.transmitters replay.writer).attr.historySample replay.task.opposite msg
      some { state with
        replays := state.replays.set index { replay with task := { replay.task with msgs := msgs } }
        published := state.published ++ [⟨sample, some replay.reader, []⟩] }

/-- The dispatcher of the process calls every listener of its own that hears the sample. -/
def deliver (state : ReplayNetwork W R) (index : Nat) (hostIp : String) (processId : Int) :
    Option (ReplayNetwork W R) :=
  match state.published[index]? with
  | none => none
  | some publication =>
    if (hostIp, processId) ∈ publication.seenBy then none
    else
      let called := state.audience.filter fun listener =>
        listener.hostIp = hostIp ∧ listener.processId = processId ∧ listener.Hears publication.sample
      some { state with
        published := state.published.set index
          { publication with seenBy := (hostIp, processId) :: publication.seenBy }
        handed := state.handed ++ called.map (·, publication) }

def step (state : ReplayNetwork W R) : ReplayEvent W R → Option (ReplayNetwork W R)
  | .transmit w => some (state.transmit w)
  | .enableReader w r => state.enableReader w r
  | .enableWriter r w => state.enableWriter r w
  | .replayNext index => state.replayNext index
  | .startListening r w =>
    if (r, w) ∈ state.scheduled then
      some { state with scheduled := state.scheduled.erase (r, w), running := (r, w) :: state.running }
    else none
  | .stopListening r w =>
    if (r, w) ∈ state.running then some { state with running := state.running.erase (r, w) } else none
  | .deliver index hostIp processId => state.deliver index hostIp processId

end ReplayNetwork

namespace Deployment

variable {W R : Type} [DecidableEq W] [DecidableEq R]

/-- How often the reader has been given the message. -/
def handedTo (roles : Deployment W R) (state : ReplayNetwork W R) (r : R) (msg : W × Nat) : Nat :=
  state.handed.countP fun entry => entry.1.selfId = (roles.readers r).id ∧ entry.2.sample.msg = msg

/-- The publication carries the message on a topic of the reader and has not been in its process yet. -/
def awaits (roles : Deployment W R) (r : R) (msg : W × Nat) (publication : Publication W R) : Bool :=
  publication.sample.msg = msg ∧ ((roles.readers r).hostIp, (roles.readers r).processId) ∉ publication.seenBy ∧
    audible roles.mode (roles.readers r) (roles.writers msg.1) publication.sample = true

def owes (r : R) (msg : W × Nat) (replay : Replay W R) : Nat :=
  if replay.reader = r then replay.task.msgs.count msg else 0

/-- How often the message has been, or can still be, handed to the reader. -/
def due (roles : Deployment W R) (state : ReplayNetwork W R) (r : R) (msg : W × Nat) : Nat :=
  roles.handedTo state r msg + state.published.countP (roles.awaits r msg) + (state.replays.map (owes r msg)).sum

/-- A replay carries only messages that are not and will not be given to the reader in another way, and a
    message is published by one RTPS sub-transmitter at most. -/
def Unsent (roles : Deployment W R) (state : ReplayNetwork W R) : ReplayEvent W R → Prop
  | .enableReader w r => roles.mode.select (roles.writers w) (roles.readers r) ≠ none →
      ∀ msg ∈ (state.net.transmitters w).history.msgs, roles.due state r msg = 0
  | .transmit w =>
    ¬ ((state.net.transmitters w).enabled .hybrid = true ∧ (state.net.transmitters w).enabled .rtps = true)
  | _ => True

instance decidableUnsent (roles : Deployment W R) (state : ReplayNetwork W R) :
    (event : ReplayEvent W R) → Decidable (roles.Unsent state event)
  | .enableReader w r => inferInstanceAs (Decidable (roles.mode.select (roles.writers w) (roles.readers r) ≠ none →
      ∀ msg ∈ (state.net.transmitters w).history.msgs, roles.due state r msg = 0))
  | .transmit _ => inferInstanceAs (Decidable (¬ (_ ∧ _)))
  | .enableWriter _ _ | .replayNext _ | .startListening _ _ | .stopListening _ _ | .deliver _ _ _ =>
    inferInstanceAs (Decidable True)

/-- The ids name their roles, and the history channels of different writers differ from one another and
    from the ordinary channels. -/
structure Separated (roles : Deployment W R) : Prop where
  readerIds : Function.Injective fun r => (roles.readers r).id
  writerIds : Function.Injective fun w => (roles.writers w).id
  channels : ∀ w w' r r', w ≠ w' → historyChannel (roles.writers w).id (roles.readers r).id ≠
    historyChannel (roles.writers w').id (roles.readers r').id
  ordinary : ∀ w r, (∀ w', historyChannel (roles.writers w).id (roles.readers r).id ≠ (roles.writers w').channelName) ∧
    ∀ r', historyChannel (roles.writers w).id (roles.readers r).id ≠ (roles.readers r').channelName

end Deployment

theorem historyChannel_reader_inj {writer reader reader' : UInt64}
    (same : historyChannel writer reader = historyChannel writer reader') : reader = reader' := by
  have digits := (String.append_right_inj _).mp same
  rw [Nat.toString_eq_repr, Nat.toString_eq_repr] at digits
  have chars := congrArg String.toList digits
  rw [Nat.toList_repr, Nat.toList_repr] at chars
  have values := congrArg (fun cs => Nat.ofDigitChars 10 cs 0) chars
  simp only [Nat.ofDigitChars_ten_toDigits] at values
  exact UInt64.toNat_inj.mp values

theorem Deployment.Separated.historyChannel_inj {W R : Type} {roles : Deployment W R} (separated : roles.Separated)
    {w w' : W} {r r' : R} (same : historyChannel (roles.writers w).id (roles.readers r).id =
      historyChannel (roles.writers w').id (roles.readers r').id) : w = w' ∧ r = r' := by
  by_cases writer : w = w'
  · subst w'
    exact ⟨rfl, separated.readerIds (historyChannel_reader_inj same)⟩
  · exact absurd same (separated.channels w w' r r' writer)

end CyberRT.Transport

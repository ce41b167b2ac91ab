import Mathlib.Data.List.Count
import CyberRT.Execution.Run
import CyberRT.Transport.HybridReceiver

namespace CyberRT.Transport

open Execution

/-- The transmitters of the writers and the receivers of the readers of one channel. -/
structure Network (W R M : Type) where
  transmitters : W → HybridTransmitter M
  receivers : R → HybridReceiver
  listeners : List DispatcherListener

inductive PairEvent (W R : Type) where
  | enableReader (writer : W) (reader : R)
  | disableReader (writer : W) (reader : R)
  | enableWriter (reader : R) (writer : W)
  | disableWriter (reader : R) (writer : W)
  deriving DecidableEq

/-- Whether the last event of the writer's side about the reader enabled it. -/
def enabledBy {W R : Type} [DecidableEq W] [DecidableEq R] (events : List (PairEvent W R)) (writer : W) (reader : R) :
    Bool :=
  events.foldl (fun enabled event => match event with
    | .enableReader w r => if w = writer ∧ r = reader then true else enabled
    | .disableReader w r => if w = writer ∧ r = reader then false else enabled
    | _ => enabled) false

/-- Whether the last event of the reader's side about the writer enabled it. -/
def listensTo {W R : Type} [DecidableEq W] [DecidableEq R] (events : List (PairEvent W R)) (reader : R) (writer : W) :
    Bool :=
  events.foldl (fun enabled event => match event with
    | .enableWriter r w => if w = writer ∧ r = reader then true else enabled
    | .disableWriter r w => if w = writer ∧ r = reader then false else enabled
    | _ => enabled) false

namespace Network

variable {W R M : Type} [DecidableEq W] [DecidableEq R]

def init (writers : W → RoleAttributes) (readers : R → RoleAttributes) (mode : CommunicationMode) (maxDepth : Nat) :
    Network W R M where
  transmitters := fun w => .init (writers w) mode true maxDepth
  receivers := fun r => .init (readers r) mode
  listeners := []

def step (net : Network W R M) : PairEvent W R → Option (Network W R M)
  | .enableReader w r => some { net with
      transmitters := Function.update net.transmitters w ((net.transmitters w).enable (net.receivers r).attr).1 }
  | .disableReader w r => some { net with
      transmitters := Function.update net.transmitters w ((net.transmitters w).disable (net.receivers r).attr) }
  | .enableWriter r w => some { net with
      receivers := Function.update net.receivers r ((net.receivers r).enable (net.transmitters w).attr).1
      listeners := ((net.receivers r).enable (net.transmitters w).attr).2.toList ++ net.listeners }
  | .disableWriter r w => some { net with
      receivers := Function.update net.receivers r ((net.receivers r).disable (net.transmitters w).attr).1
      listeners := net.listeners.filter fun listener =>
        some listener ≠ ((net.receivers r).disable (net.transmitters w).attr).2 }

/-- The listeners that a `Transmit` of the writer calls, once for each sample they hear. -/
def calls (net : Network W R M) (writer : W) (msg : M) : List DispatcherListener :=
  ((net.transmitters writer).samples msg).flatMap fun sample =>
    net.listeners.filter fun listener => listener.Hears sample

end Network

/-- The values that the comments of `CommunicationMode` allow, with `HYBRID` as another name of RTPS: a
    mode carries as far as its relation needs, and no two modes share a sub-transport. -/
structure CommunicationMode.Sound (mode : CommunicationMode) : Prop where
  diffProc : mode.diffProc ≠ .intra
  diffHost : mode.diffHost ≠ .intra ∧ mode.diffHost ≠ .shm
  separate : ¬ (.hybrid ∈ mode.modes ∧ .rtps ∈ mode.modes)

theorem CommunicationMode.Sound.reaches {mode : CommunicationMode} (sound : mode.Sound)
    {attr opposite : RoleAttributes} {m : OptionalMode} (selected : mode.select attr opposite = some m) :
    m.subTransport.Reaches attr.hostIp attr.processId opposite.hostIp opposite.processId := by
  unfold select at selected
  split at selected
  · cases selected
  · rename_i related
    have chosen := Option.some.inj selected
    unfold getRelation at chosen related
    split at chosen
    · simp_all
    · split at chosen
      · have far := sound.diffHost
        cases m <;> simp_all [mappingTable, OptionalMode.subTransport, SubTransport.Reaches]
      · split at chosen
        · have near := sound.diffProc
          cases m <;> simp_all [mappingTable, OptionalMode.subTransport, SubTransport.Reaches]
        · cases m <;> simp_all [OptionalMode.subTransport, SubTransport.Reaches]

theorem listener_injective {W R : Type} {writers : W → RoleAttributes} {readers : R → RoleAttributes}
    (distinctReaders : Function.Injective fun r => (readers r).id)
    (distinctWriters : Function.Injective fun w => (writers w).id) {r r' : R} {w w' : W} {m m' : OptionalMode}
    (same : (readers r).listener m (writers w) = (readers r').listener m' (writers w')) : r = r' ∧ w = w' := by
  simp only [RoleAttributes.listener, DispatcherListener.mk.injEq, Option.some.injEq] at same
  exact ⟨distinctReaders same.2.2.2.2.1, distinctWriters same.2.2.2.2.2⟩

namespace Network

variable {W R M : Type} [DecidableEq W] [DecidableEq R]

section Agreement

variable {writers : W → RoleAttributes} {readers : R → RoleAttributes} {mode : CommunicationMode}

/-- Both sides keep what the events so far say, under the mode that the pair selects. -/
structure Agrees (writers : W → RoleAttributes) (readers : R → RoleAttributes) (mode : CommunicationMode)
    (net : Network W R M) (past : List (PairEvent W R)) : Prop where
  transmitter : ∀ w, (net.transmitters w).attr = writers w ∧ (net.transmitters w).mode = mode ∧
    (net.transmitters w).rtpsReady = true
  receiver : ∀ r, (net.receivers r).attr = readers r ∧ (net.receivers r).mode = mode
  tracks : ∀ w, (net.transmitters w).Tracks
  served : ∀ w r m, (readers r).id ∈ (net.transmitters w).receivers m ↔
    enabledBy past w r = true ∧ mode.select (writers w) (readers r) = some m
  registered : ∀ r w m, (net.receivers r).transmitters m (writers w).id ≠ none ↔
    listensTo past r w = true ∧ mode.select (readers r) (writers w) = some m
  listening : ∀ listener, listener ∈ net.listeners ↔
    ∃ r w m, listensTo past r w = true ∧ mode.select (readers r) (writers w) = some m ∧
      listener = (readers r).listener m (writers w)
  nodup : net.listeners.Nodup

theorem init_agrees (maxDepth : Nat) :
    Agrees writers readers mode (init writers readers mode maxDepth : Network W R M) [] where
  transmitter := fun _ => ⟨rfl, rfl, rfl⟩
  receiver := fun _ => ⟨rfl, rfl⟩
  tracks := fun w => HybridTransmitter.init_tracks (writers w) mode true maxDepth
  served := by simp [init, HybridTransmitter.init, enabledBy]
  registered := by simp [init, HybridReceiver.init, listensTo]
  listening := by simp [init, listensTo]
  nodup := List.nodup_nil

theorem enabledBy_snoc (past : List (PairEvent W R)) (event : PairEvent W R) (w : W) (r : R) :
    enabledBy (past ++ [event]) w r = match event with
      | .enableReader w' r' => if w' = w ∧ r' = r then true else enabledBy past w r
      | .disableReader w' r' => if w' = w ∧ r' = r then false else enabledBy past w r
      | _ => enabledBy past w r := by
  simp only [enabledBy, List.foldl_append, List.foldl_cons, List.foldl_nil]

theorem listensTo_snoc (past : List (PairEvent W R)) (event : PairEvent W R) (r : R) (w : W) :
    listensTo (past ++ [event]) r w = match event with
      | .enableWriter r' w' => if w' = w ∧ r' = r then true else listensTo past r w
      | .disableWriter r' w' => if w' = w ∧ r' = r then false else listensTo past r w
      | _ => listensTo past r w := by
  simp only [listensTo, List.foldl_append, List.foldl_cons, List.foldl_nil]

theorem Agrees.select_transmitter {net : Network W R M} {past : List (PairEvent W R)}
    (agrees : Agrees writers readers mode net past) (w : W) (opposite : RoleAttributes) :
    (net.transmitters w).select opposite = mode.select (writers w) opposite := by
  unfold HybridTransmitter.select
  rw [(agrees.transmitter w).1, (agrees.transmitter w).2.1]

theorem Agrees.select_receiver {net : Network W R M} {past : List (PairEvent W R)}
    (agrees : Agrees writers readers mode net past) (r : R) (opposite : RoleAttributes) :
    (net.receivers r).select opposite = mode.select (readers r) opposite := by
  unfold HybridReceiver.select
  rw [(agrees.receiver r).1, (agrees.receiver r).2]

theorem Agrees.update_transmitter {net : Network W R M} {past : List (PairEvent W R)}
    (agrees : Agrees writers readers mode net past) (event : PairEvent W R) (w : W) (t : HybridTransmitter M)
    (same : HybridTransmitter.SameRole (net.transmitters w) t) (tracks : t.Tracks)
    (quiet : ∀ r' w', listensTo (past ++ [event]) r' w' = listensTo past r' w')
    (own : ∀ r m, (readers r).id ∈ t.receivers m ↔
      enabledBy (past ++ [event]) w r = true ∧ mode.select (writers w) (readers r) = some m)
    (others : ∀ w' r, w' ≠ w → enabledBy (past ++ [event]) w' r = enabledBy past w' r) :
    Agrees writers readers mode { net with transmitters := Function.update net.transmitters w t } (past ++ [event]) := by
  refine ⟨?_, agrees.receiver, ?_, ?_, ?_, ?_, agrees.nodup⟩
  · intro w'
    by_cases here : w' = w
    · subst w'
      obtain ⟨attr, mode, ready⟩ := agrees.transmitter w
      simp [same.attr, same.mode, same.rtpsReady, attr, mode, ready]
    · simpa [here] using agrees.transmitter w'
  · intro w'
    by_cases here : w' = w
    · subst w'
      simpa using tracks
    · simpa [here] using agrees.tracks w'
  · intro w' r m
    by_cases here : w' = w
    · subst w'
      simpa using own r m
    · simpa [here, others w' r here] using agrees.served w' r m
  · intro r w' m
    rw [quiet]
    exact agrees.registered r w' m
  · intro listener
    simp only [quiet]
    exact agrees.listening listener

theorem Agrees.enableReader {net : Network W R M} {past : List (PairEvent W R)}
    (agrees : Agrees writers readers mode net past) (distinct : Function.Injective fun r => (readers r).id)
    (w : W) (r : R) (next : Network W R M) (taken : net.step (.enableReader w r) = some next) :
    Agrees writers readers mode next (past ++ [.enableReader w r]) := by
  obtain rfl := Option.some.inj taken
  have attr := (agrees.receiver r).1
  apply agrees.update_transmitter
  · exact HybridTransmitter.enable_sameRole _ _
  · exact (agrees.tracks w).enable (agrees.transmitter w).2.2 _
  · intro r' w'
    rw [listensTo_snoc]
  · intro r' m
    rw [HybridTransmitter.mem_receivers_enable, agrees.served w r' m, agrees.select_transmitter, attr, enabledBy_snoc]
    by_cases reader : r = r'
    · subst r'
      simp only [true_and, ↓reduceIte, and_true]
      constructor
      · rintro (⟨_, selected⟩ | selected) <;> exact selected
      · exact .inr
    · have differ : (readers r').id ≠ (readers r).id := fun equal => reader (distinct equal).symm
      simp [reader, differ]
  · intro w' r' different
    rw [enabledBy_snoc]
    have elsewhere : ¬ (w = w' ∧ r = r') := fun equal => different equal.1.symm
    simp [elsewhere]

theorem Agrees.disableReader {net : Network W R M} {past : List (PairEvent W R)}
    (agrees : Agrees writers readers mode net past) (distinct : Function.Injective fun r => (readers r).id)
    (w : W) (r : R) (next : Network W R M) (taken : net.step (.disableReader w r) = some next) :
    Agrees writers readers mode next (past ++ [.disableReader w r]) := by
  obtain rfl := Option.some.inj taken
  have attr := (agrees.receiver r).1
  apply agrees.update_transmitter
  · exact HybridTransmitter.disable_sameRole _ _
  · exact (agrees.tracks w).disable _
  · intro r' w'
    rw [listensTo_snoc]
  · intro r' m
    rw [HybridTransmitter.mem_receivers_disable, agrees.served w r' m, agrees.select_transmitter, attr, enabledBy_snoc]
    by_cases reader : r = r'
    · subst r'
      simp
    · have differ : (readers r').id ≠ (readers r).id := fun equal => reader (distinct equal).symm
      simp [reader, differ]
  · intro w' r' different
    rw [enabledBy_snoc]
    have elsewhere : ¬ (w = w' ∧ r = r') := fun equal => different equal.1.symm
    simp [elsewhere]

theorem Agrees.update_receiver {net : Network W R M} {past : List (PairEvent W R)}
    (agrees : Agrees writers readers mode net past) (event : PairEvent W R) (r : R) (receiver : HybridReceiver)
    (listeners : List DispatcherListener)
    (role : receiver.attr = (net.receivers r).attr ∧ receiver.mode = (net.receivers r).mode)
    (quiet : ∀ w' r', enabledBy (past ++ [event]) w' r' = enabledBy past w' r')
    (own : ∀ w m, receiver.transmitters m (writers w).id ≠ none ↔
      listensTo (past ++ [event]) r w = true ∧ mode.select (readers r) (writers w) = some m)
    (others : ∀ r' w, r' ≠ r → listensTo (past ++ [event]) r' w = listensTo past r' w)
    (listening : ∀ listener, listener ∈ listeners ↔
      ∃ r w m, listensTo (past ++ [event]) r w = true ∧ mode.select (readers r) (writers w) = some m ∧
        listener = (readers r).listener m (writers w))
    (nodup : listeners.Nodup) :
    Agrees writers readers mode
      { net with receivers := Function.update net.receivers r receiver, listeners := listeners } (past ++ [event]) := by
  refine ⟨agrees.transmitter, ?_, agrees.tracks, ?_, ?_, listening, nodup⟩
  · intro r'
    by_cases here : r' = r
    · subst r'
      obtain ⟨attr, mode⟩ := agrees.receiver r
      simp [role.1, role.2, attr, mode]
    · simpa [here] using agrees.receiver r'
  · intro w' r' m
    rw [quiet]
    exact agrees.served w' r' m
  · intro r' w m
    by_cases here : r' = r
    · subst r'
      simpa using own w m
    · simpa [here, others r' w here] using agrees.registered r' w m

theorem Agrees.enableWriter {net : Network W R M} {past : List (PairEvent W R)}
    (agrees : Agrees writers readers mode net past) (distinctReaders : Function.Injective fun r => (readers r).id)
    (distinctWriters : Function.Injective fun w => (writers w).id) (r : R) (w : W) (next : Network W R M)
    (taken : net.step (.enableWriter r w) = some next) :
    Agrees writers readers mode next (past ++ [.enableWriter r w]) := by
  obtain rfl := Option.some.inj taken
  have attr := (agrees.transmitter w).1
  have added : ∀ listener, listener ∈ ((net.receivers r).enable (net.transmitters w).attr).2.toList ↔
      ∃ m, mode.select (readers r) (writers w) = some m ∧ listensTo past r w ≠ true ∧
        listener = (readers r).listener m (writers w) := by
    intro listener
    rw [Option.mem_toList, HybridReceiver.enable_listener, agrees.select_receiver, attr,
      (agrees.receiver r).1]
    apply exists_congr
    intro m
    constructor
    · rintro ⟨selected, absent, rfl⟩
      exact ⟨selected, fun listens => (agrees.registered r w m).mpr ⟨listens, selected⟩ absent, rfl⟩
    · rintro ⟨selected, silent, rfl⟩
      refine ⟨selected, ?_, rfl⟩
      by_contra present
      exact silent ((agrees.registered r w m).mp present).1
  apply agrees.update_receiver
  · exact HybridReceiver.enable_role _ _
  · intro w' r'
    rw [enabledBy_snoc]
  · intro w' m
    rw [HybridReceiver.enable_registered, agrees.registered r w' m, agrees.select_receiver, attr, listensTo_snoc]
    by_cases writer : w = w'
    · subst w'
      simp only [and_self, ↓reduceIte, and_true, true_and]
      constructor
      · rintro (⟨_, selected⟩ | selected) <;> exact selected
      · exact .inr
    · have differ : (writers w').id ≠ (writers w).id := fun equal => writer (distinctWriters equal).symm
      simp [writer, differ]
  · intro r' w' different
    rw [listensTo_snoc]
    have elsewhere : ¬ (w = w' ∧ r = r') := fun equal => different equal.2.symm
    simp [elsewhere]
  · intro listener
    rw [List.mem_append, added, agrees.listening]
    simp only [listensTo_snoc]
    constructor
    · rintro (⟨m, selected, _, rfl⟩ | ⟨r', w', m, listens, selected, rfl⟩)
      · exact ⟨r, w, m, by simp, selected, rfl⟩
      · exact ⟨r', w', m, by simp [listens], selected, rfl⟩
    · rintro ⟨r', w', m, listens, selected, rfl⟩
      by_cases already : listensTo past r' w' = true
      · exact .inr ⟨r', w', m, already, selected, rfl⟩
      · simp only [already, Bool.if_false_right, Bool.and_true, decide_eq_true_eq] at listens
        obtain ⟨rfl, rfl⟩ := listens
        exact .inl ⟨m, selected, already, rfl⟩
  · refine List.Nodup.append (by cases (HybridReceiver.enable _ _).2 <;> simp) agrees.nodup ?_
    intro listener new old
    obtain ⟨m, _, silent, rfl⟩ := (added listener).mp new
    obtain ⟨r', w', m', listens, _, same⟩ := (agrees.listening _).mp old
    obtain ⟨rfl, rfl⟩ := listener_injective distinctReaders distinctWriters same
    exact silent listens

theorem Agrees.disableWriter {net : Network W R M} {past : List (PairEvent W R)}
    (agrees : Agrees writers readers mode net past) (distinctReaders : Function.Injective fun r => (readers r).id)
    (distinctWriters : Function.Injective fun w => (writers w).id) (r : R) (w : W) (next : Network W R M)
    (taken : net.step (.disableWriter r w) = some next) :
    Agrees writers readers mode next (past ++ [.disableWriter r w]) := by
  obtain rfl := Option.some.inj taken
  have attr := (agrees.transmitter w).1
  apply agrees.update_receiver
  · exact HybridReceiver.disable_role _ _
  · intro w' r'
    rw [enabledBy_snoc]
  · intro w' m
    rw [HybridReceiver.disable_registered, agrees.registered r w' m, agrees.select_receiver, attr, listensTo_snoc]
    by_cases writer : w = w'
    · subst w'
      simp
    · have differ : (writers w').id ≠ (writers w).id := fun equal => writer (distinctWriters equal).symm
      simp [writer, differ]
  · intro r' w' different
    rw [listensTo_snoc]
    have elsewhere : ¬ (w = w' ∧ r = r') := fun equal => different equal.2.symm
    simp [elsewhere]
  · intro listener
    have removed : some listener = ((net.receivers r).disable (net.transmitters w).attr).2 ↔
        ∃ m, mode.select (readers r) (writers w) = some m ∧ listensTo past r w = true ∧
          listener = (readers r).listener m (writers w) := by
      rw [eq_comm, HybridReceiver.disable_listener, agrees.select_receiver, attr, (agrees.receiver r).1]
      apply exists_congr
      intro m
      rw [agrees.registered r w m]
      tauto
    rw [List.mem_filter, agrees.listening, decide_eq_true_eq, ne_eq, removed]
    simp only [listensTo_snoc]
    constructor
    · rintro ⟨⟨r', w', m, listens, selected, rfl⟩, kept⟩
      refine ⟨r', w', m, ?_, selected, rfl⟩
      by_cases here : w = w' ∧ r = r'
      · obtain ⟨rfl, rfl⟩ := here
        exact absurd ⟨m, selected, listens, rfl⟩ kept
      · simpa [here] using listens
    · rintro ⟨r', w', m, listens, selected, rfl⟩
      by_cases here : w = w' ∧ r = r'
      · simp [here] at listens
      · simp only [here, ↓reduceIte] at listens
        refine ⟨⟨r', w', m, listens, selected, rfl⟩, ?_⟩
        rintro ⟨m', _, _, same⟩
        obtain ⟨rfl, rfl⟩ := listener_injective distinctReaders distinctWriters same
        exact here ⟨rfl, rfl⟩
  · exact agrees.nodup.filter _

theorem Agrees.step {net : Network W R M} {past : List (PairEvent W R)}
    (agrees : Agrees writers readers mode net past) (distinctReaders : Function.Injective fun r => (readers r).id)
    (distinctWriters : Function.Injective fun w => (writers w).id) (event : PairEvent W R) (next : Network W R M)
    (taken : net.step event = some next) : Agrees writers readers mode next (past ++ [event]) := by
  cases event with
  | enableReader w r => exact agrees.enableReader distinctReaders w r next taken
  | disableReader w r => exact agrees.disableReader distinctReaders w r next taken
  | enableWriter r w => exact agrees.enableWriter distinctReaders distinctWriters r w next taken
  | disableWriter r w => exact agrees.disableWriter distinctReaders distinctWriters r w next taken

theorem Agrees.transmit {net : Network W R M} {past : List (PairEvent W R)}
    (agrees : Agrees writers readers mode net past) (w : W) (msg : M) :
    Agrees writers readers mode
      { net with transmitters := Function.update net.transmitters w ((net.transmitters w).transmit msg).1 } past := by
  refine ⟨?_, agrees.receiver, ?_, ?_, agrees.registered, agrees.listening, agrees.nodup⟩
  · intro w'
    by_cases here : w' = w
    · subst w'
      simpa [HybridTransmitter.transmit] using agrees.transmitter w
    · simpa [here] using agrees.transmitter w'
  · intro w'
    by_cases here : w' = w
    · subst w'
      simpa [HybridTransmitter.transmit, HybridTransmitter.Tracks] using agrees.tracks w
    · simpa [here] using agrees.tracks w'
  · intro w' r m
    by_cases here : w' = w
    · subst w'
      simpa [HybridTransmitter.transmit] using agrees.served w r m
    · simpa [here] using agrees.served w' r m

end Agreement

def chatterWriter : Unit → RoleAttributes := fun _ => ⟨"10.0.0.1", 100, "/chatter", 5, "Chatter", 1, {}⟩

def chatterReaders : Bool → RoleAttributes
  | true => ⟨"10.0.0.1", 100, "/chatter", 5, "Chatter", 7, {}⟩
  | false => ⟨"10.0.0.2", 200, "/chatter", 5, "Chatter", 8, {}⟩

def handed (mode : CommunicationMode) (events : List (PairEvent Unit Bool)) (reader : Bool) :
    Option (List DispatcherListener) :=
  (run step (init chatterWriter chatterReaders mode 1000 : Network Unit Bool Unit) events).map fun net =>
    (net.calls () ()).filter fun listener => listener.selfId = (chatterReaders reader).id

end Network

end CyberRT.Transport

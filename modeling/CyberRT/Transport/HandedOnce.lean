import CyberRT.Lists.Count
import CyberRT.Transport.Replay

namespace CyberRT.Transport

open Execution

theorem audible_historySample {W R : Type} {roles : Deployment W R} (separated : roles.Separated) {w : W} {r r' : R}
    {msg : W × Nat} (hears : audible roles.mode (roles.readers r') (roles.writers w)
      ((roles.writers w).historySample (roles.readers r) msg) = true) : r' = r := by
  simp only [audible, Bool.or_eq_true, Option.any_eq_true, decide_eq_true_eq] at hears
  rcases hears with ⟨m, _, _, channel, _⟩ | ⟨_, channel, _⟩
  · exact absurd channel.symm ((separated.ordinary w r).2 r')
  · exact (separated.historyChannel_inj channel).2

theorem audible_transport {W R : Type} {roles : Deployment W R} (separated : roles.Separated) {r : R} {w : W}
    {sample : Sample (W × Nat)} (ordinary : sample.channelName = (roles.writers w).channelName)
    (hears : audible roles.mode (roles.readers r) (roles.writers w) sample = true) :
    ∃ m, roles.mode.select (roles.readers r) (roles.writers w) = some m ∧ sample.transport = m.subTransport := by
  simp only [audible, Bool.or_eq_true, Option.any_eq_true, decide_eq_true_eq] at hears
  rcases hears with ⟨m, selected, transport, _⟩ | ⟨_, channel, _⟩
  · exact ⟨m, selected, transport.symm⟩
  · exact absurd (channel.trans ordinary) ((separated.ordinary w r).1 w)

namespace ReplayNetwork

variable {W R : Type} [DecidableEq W] [DecidableEq R]

/-- What is known of a message on its way, whatever path it takes. -/
structure Publication.Proper (roles : Deployment W R) (transmitted : W → Nat) (publication : Publication W R) :
    Prop where
  known : publication.sample.msg.2 < transmitted publication.sample.msg.1
  sender : publication.sample.senderId = (roles.writers publication.sample.msg.1).id
  live : publication.replayFor = none →
    publication.sample.channelName = (roles.writers publication.sample.msg.1).channelName
  replayed : ∀ r, publication.replayFor = some r → publication.sample.channelName =
    historyChannel (roles.writers publication.sample.msg.1).id (roles.readers r).id

structure Tidy (roles : Deployment W R) (state : ReplayNetwork W R) : Prop where
  agrees : ∃ past, Network.Agrees roles.writers roles.readers roles.mode state.net past
  history : ∀ w, (state.net.transmitters w).history.msgs.Nodup ∧
    ∀ msg ∈ (state.net.transmitters w).history.msgs, msg.1 = w ∧ msg.2 < state.transmitted w
  replays : ∀ replay ∈ state.replays, replay.task.opposite = roles.readers replay.reader ∧
    ∀ msg ∈ replay.task.msgs, msg.1 = replay.writer ∧ msg.2 < state.transmitted replay.writer
  published : ∀ publication ∈ state.published, Publication.Proper roles state.transmitted publication
  handed : ∀ entry ∈ state.handed, entry.2.sample.msg.2 < state.transmitted entry.2.sample.msg.1 ∧
    ∀ r, entry.2.replayFor = some r → entry.1.selfId = (roles.readers r).id
  tasks : (state.scheduled ++ state.running).Nodup
  registered : ∀ pair ∈ state.scheduled ++ state.running,
    ∃ m, (state.net.receivers pair.1).transmitters m (roles.writers pair.2).id ≠ none
  once : ∀ r msg, roles.due state r msg ≤ 1

theorem Tidy.hears {roles : Deployment W R} {state : ReplayNetwork W R} (tidy : Tidy roles state)
    (separated : roles.Separated) {publication : Publication W R}
    (proper : Publication.Proper roles state.transmitted publication)
    {listener : DispatcherListener} (member : listener ∈ state.audience) (hears : listener.Hears publication.sample) :
    ∃ r, (publication.replayFor = none ∧ ∃ m,
        roles.mode.select (roles.readers r) (roles.writers publication.sample.msg.1) = some m ∧
        listener = (roles.readers r).listener m (roles.writers publication.sample.msg.1)) ∨
      (publication.replayFor = some r ∧
        listener = (roles.readers r).historyListener (roles.writers publication.sample.msg.1)) := by
  obtain ⟨past, agrees⟩ := tidy.agrees
  obtain ⟨_, channel, _, opposite⟩ := hears
  rcases List.mem_append.mp member with ordinary | history
  · obtain ⟨r, w, m, _, selected, rfl⟩ := (agrees.listening listener).mp ordinary
    cases target : publication.replayFor with
    | none =>
      simp only [RoleAttributes.listener, reduceCtorEq, Option.some.injEq, false_or, proper.sender] at opposite
      obtain rfl := separated.writerIds opposite
      exact ⟨r, .inl ⟨rfl, m, selected, rfl⟩⟩
    | some r' =>
      rw [proper.replayed r' target] at channel
      exact absurd channel.symm ((separated.ordinary _ r').2 r)
  · obtain ⟨⟨r, w⟩, _, rfl⟩ := List.mem_map.mp history
    simp only [(agrees.receiver r).1, (agrees.transmitter w).1] at channel ⊢
    cases target : publication.replayFor with
    | none =>
      rw [proper.live target] at channel
      exact absurd channel ((separated.ordinary w r).1 _)
    | some r' =>
      rw [proper.replayed r' target] at channel
      obtain ⟨rfl, rfl⟩ := separated.historyChannel_inj channel
      exact ⟨r, .inr ⟨rfl, rfl⟩⟩

theorem Tidy.audience_nodup {roles : Deployment W R} {state : ReplayNetwork W R} (tidy : Tidy roles state)
    (separated : roles.Separated) : state.audience.Nodup := by
  obtain ⟨past, agrees⟩ := tidy.agrees
  refine List.Nodup.append agrees.nodup ?_ ?_
  · refine List.Nodup.map_on ?_ tidy.tasks.of_append_right
    intro pair _ other _ same
    simp only [(agrees.receiver _).1, (agrees.transmitter _).1, RoleAttributes.historyListener,
      DispatcherListener.mk.injEq] at same
    obtain ⟨writer, reader⟩ := separated.historyChannel_inj same.2.2.2.1
    exact Prod.ext reader writer
  · intro listener ordinary history
    obtain ⟨r, w, m, _, _, rfl⟩ := (agrees.listening listener).mp ordinary
    obtain ⟨pair, _, same⟩ := List.mem_map.mp history
    exact absurd (congrArg DispatcherListener.oppositeId same) (by simp [RoleAttributes.historyListener,
      RoleAttributes.listener])

/-- One delivery calls a reader at most once, and only in its own process on a topic of its own. -/
theorem Tidy.calls_le {roles : Deployment W R} {state : ReplayNetwork W R} (tidy : Tidy roles state)
    (separated : roles.Separated) {publication : Publication W R}
    (proper : Publication.Proper roles state.transmitted publication)
    (hostIp : String) (processId : Int) (r : R) :
    (state.audience.filter fun listener => listener.hostIp = hostIp ∧ listener.processId = processId ∧
      listener.Hears publication.sample).countP (fun listener => listener.selfId = (roles.readers r).id) ≤
    if ((roles.readers r).hostIp, (roles.readers r).processId) = (hostIp, processId) ∧
      audible roles.mode (roles.readers r) (roles.writers publication.sample.msg.1) publication.sample = true
    then 1 else 0 := by
  have explain : ∀ listener ∈ state.audience, listener.Hears publication.sample →
      listener.selfId = (roles.readers r).id →
      (publication.replayFor = none ∧ ∃ m,
        roles.mode.select (roles.readers r) (roles.writers publication.sample.msg.1) = some m ∧
        listener = (roles.readers r).listener m (roles.writers publication.sample.msg.1)) ∨
      (publication.replayFor = some r ∧
        listener = (roles.readers r).historyListener (roles.writers publication.sample.msg.1)) := by
    intro listener member hears self
    obtain ⟨r', shape⟩ := tidy.hears separated proper member hears
    have reader : r' = r := by
      apply separated.readerIds
      rcases shape with ⟨_, m, _, same⟩ | ⟨_, same⟩ <;> rw [same] at self <;> exact self
    rwa [reader] at shape
  split
  · refine Lists.countP_le_one_of_unique ((tidy.audience_nodup separated).filter _) ?_
    intro first firstMember second secondMember firstSelf secondSelf
    simp only [List.mem_filter, decide_eq_true_eq] at firstMember secondMember firstSelf secondSelf
    have firstShape := explain first firstMember.1 firstMember.2.2.2 firstSelf
    have secondShape := explain second secondMember.1 secondMember.2.2.2 secondSelf
    rcases firstShape with ⟨live, m, selected, rfl⟩ | ⟨replayed, rfl⟩
    · rcases secondShape with ⟨_, k, chosen, rfl⟩ | ⟨replayed, _⟩
      · rw [Option.some.inj (selected.symm.trans chosen)]
      · simp [live] at replayed
    · rcases secondShape with ⟨live, _⟩ | ⟨_, rfl⟩
      · simp [live] at replayed
      · rfl
  · rename_i elsewhere
    rw [Nat.le_zero, List.countP_eq_zero]
    intro listener member
    simp only [List.mem_filter, decide_eq_true_eq] at member ⊢
    intro self
    apply elsewhere
    obtain ⟨present, host, process, hears⟩ := member
    rcases explain listener present hears self with ⟨_, m, selected, rfl⟩ | ⟨_, rfl⟩
    · refine ⟨Prod.ext host process, ?_⟩
      simp [audible, selected, hears]
    · refine ⟨Prod.ext host process, ?_⟩
      simp [audible, hears]

/-- What a delivery hands to a reader was awaited by the reader before, and is not awaited any more. -/
theorem Tidy.gain_le {roles : Deployment W R} {state : ReplayNetwork W R} (tidy : Tidy roles state)
    (separated : roles.Separated) {publication : Publication W R}
    (proper : Publication.Proper roles state.transmitted publication) {hostIp : String} {processId : Int}
    (unseen : (hostIp, processId) ∉ publication.seenBy) (r : R) (msg : W × Nat) :
    ((state.audience.filter fun listener => listener.hostIp = hostIp ∧ listener.processId = processId ∧
        listener.Hears publication.sample).map (·, publication)).countP
      (fun entry => entry.1.selfId = (roles.readers r).id ∧ entry.2.sample.msg = msg) +
    (if roles.awaits r msg { publication with seenBy := (hostIp, processId) :: publication.seenBy } then 1 else 0) ≤
    if roles.awaits r msg publication then 1 else 0 := by
  rw [List.countP_map]
  by_cases same : publication.sample.msg = msg
  · subst msg
    have calls := tidy.calls_le separated proper hostIp processId r
    by_cases home : ((roles.readers r).hostIp, (roles.readers r).processId) = (hostIp, processId)
    · simpa [Deployment.awaits, home, unseen, Function.comp_def] using calls
    · rw [if_neg (fun here => home here.1), Nat.le_zero] at calls
      simp only [Function.comp_def, and_true, calls, Nat.zero_add]
      simp [Deployment.awaits, home]
  · simp [Deployment.awaits, same, Function.comp_def]

theorem Tidy.deliver {roles : Deployment W R} {state next : ReplayNetwork W R} (tidy : Tidy roles state)
    (separated : roles.Separated) (index : Nat) (hostIp : String) (processId : Int)
    (taken : state.deliver index hostIp processId = some next) : Tidy roles next := by
  unfold ReplayNetwork.deliver at taken
  split at taken
  · cases taken
  rename_i publication present
  split at taken
  · cases taken
  rename_i unseen
  obtain rfl := Option.some.inj taken
  have proper := tidy.published publication (List.mem_of_getElem? present)
  refine ⟨tidy.agrees, tidy.history, tidy.replays, ?_, ?_, tidy.tasks, tidy.registered, ?_⟩
  · intro other member
    rcases List.mem_or_eq_of_mem_set member with old | new
    · exact tidy.published other old
    · rw [new]
      exact ⟨proper.known, proper.sender, proper.live, proper.replayed⟩
  · intro entry member
    rcases List.mem_append.mp member with old | new
    · exact tidy.handed entry old
    · obtain ⟨listener, called, rfl⟩ := List.mem_map.mp new
      simp only [List.mem_filter, decide_eq_true_eq] at called
      refine ⟨proper.known, ?_⟩
      intro r replayed
      obtain ⟨r', shape⟩ := tidy.hears separated proper called.1 called.2.2.2
      rcases shape with ⟨live, _⟩ | ⟨target, same⟩
      · simp [live] at replayed
      · rw [replayed] at target
        rw [same, Option.some.inj target]
        rfl
  · intro r msg
    have before := tidy.once r msg
    have gain := tidy.gain_le separated proper unseen r msg
    have moved := Lists.countP_set_add (roles.awaits r msg) present
      { publication with seenBy := (hostIp, processId) :: publication.seenBy }
    simp only [Deployment.due, Deployment.handedTo, List.countP_append] at before ⊢
    omega

theorem Tidy.replayNext {roles : Deployment W R} {state next : ReplayNetwork W R} (tidy : Tidy roles state)
    (separated : roles.Separated) (index : Nat) (taken : state.replayNext index = some next) : Tidy roles next := by
  unfold ReplayNetwork.replayNext at taken
  split at taken
  · cases taken
  rename_i replay present
  split at taken
  · cases taken
  rename_i msg msgs remaining
  obtain rfl := Option.some.inj taken
  obtain ⟨past, agrees⟩ := tidy.agrees
  obtain ⟨opposite, known⟩ := tidy.replays replay (List.mem_of_getElem? present)
  obtain ⟨writer, number⟩ := known msg (by simp [remaining])
  have attr := (agrees.transmitter replay.writer).1
  refine ⟨⟨past, agrees⟩, tidy.history, ?_, ?_, tidy.handed, tidy.tasks, tidy.registered, ?_⟩
  · intro other member
    rcases List.mem_or_eq_of_mem_set member with old | new
    · exact tidy.replays other old
    · rw [new]
      refine ⟨opposite, ?_⟩
      intro later present
      exact known later (by simp [remaining, present])
  · intro publication member
    rcases List.mem_append.mp member with old | new
    · exact tidy.published publication old
    · rw [List.mem_singleton.mp new, attr, opposite]
      refine ⟨?_, ?_, ?_, ?_⟩
      · simpa [RoleAttributes.historySample, writer] using number
      · simp [RoleAttributes.historySample, writer]
      · simp
      · intro r target
        simp [RoleAttributes.historySample, writer, Option.some.inj target]
  · intro r other
    have before := tidy.once r other
    have moved := Lists.sum_map_set (Deployment.owes r other) present
      { replay with task := { replay.task with msgs := msgs } }
    have passed : (if roles.awaits r other ⟨(roles.writers replay.writer).historySample (roles.readers replay.reader) msg,
        some replay.reader, []⟩ then 1 else 0) +
        Deployment.owes r other { replay with task := { replay.task with msgs := msgs } } ≤
        Deployment.owes r other replay := by
      simp only [Deployment.owes, remaining, List.count_cons]
      split
      · rename_i awaited
        simp only [Deployment.awaits, decide_eq_true_eq] at awaited
        obtain ⟨rfl, _, hears⟩ := awaited
        simp only [RoleAttributes.historySample, writer] at hears
        obtain rfl := audible_historySample separated hears
        simp [RoleAttributes.historySample]
        omega
      · split <;> omega
    simp only [attr, opposite] at moved passed ⊢
    simp only [Deployment.due, Deployment.handedTo, List.countP_append, List.countP_singleton] at before ⊢
    omega

theorem Tidy.transmit_le {roles : Deployment W R} {state : ReplayNetwork W R} (tidy : Tidy roles state)
    (separated : roles.Separated) {w : W} (unsent : roles.Unsent state (.transmit w)) (r : R) (number : Nat) :
    (((state.net.transmitters w).samples (w, number)).map fun sample => (⟨sample, none, []⟩ : Publication W R)).countP
      (roles.awaits r (w, number)) ≤ 1 := by
  obtain ⟨past, agrees⟩ := tidy.agrees
  rw [HybridTransmitter.samples, List.countP_map, List.countP_map]
  refine Lists.countP_le_one_of_unique ((CommunicationMode.modes_nodup _).filter _) ?_
  intro first firstMember second secondMember firstAwaits secondAwaits
  simp only [Function.comp_apply, Deployment.awaits, decide_eq_true_eq] at firstAwaits secondAwaits
  have channel : (state.net.transmitters w).attr.channelName = (roles.writers w).channelName := by
    rw [(agrees.transmitter w).1]
  obtain ⟨m, selected, firstTransport⟩ := audible_transport separated channel firstAwaits.2.2
  obtain ⟨k, chosen, secondTransport⟩ := audible_transport separated channel secondAwaits.2.2
  obtain rfl := Option.some.inj (selected.symm.trans chosen)
  have firstEnabled := (List.mem_filter.mp firstMember).2
  have secondEnabled := (List.mem_filter.mp secondMember).2
  rcases OptionalMode.subTransport_eq (firstTransport.trans secondTransport.symm) with same | ⟨rfl, rfl⟩ | ⟨rfl, rfl⟩
  · exact same
  · exact absurd ⟨firstEnabled, secondEnabled⟩ unsent
  · exact absurd ⟨secondEnabled, firstEnabled⟩ unsent

theorem Tidy.due_fresh {roles : Deployment W R} {state : ReplayNetwork W R} (tidy : Tidy roles state) (r : R) (w : W) :
    roles.due state r (w, state.transmitted w) = 0 := by
  have handed : roles.handedTo state r (w, state.transmitted w) = 0 := by
    rw [Deployment.handedTo, List.countP_eq_zero]
    intro entry member
    have known := (tidy.handed entry member).1
    simp only [decide_eq_true_eq, not_and]
    intro _ same
    simp [same] at known
  have published : state.published.countP (roles.awaits r (w, state.transmitted w)) = 0 := by
    rw [List.countP_eq_zero]
    intro publication member
    have known := (tidy.published publication member).known
    simp only [Deployment.awaits, decide_eq_true_eq, not_and]
    intro same
    simp [same] at known
  have replays : (state.replays.map (Deployment.owes r (w, state.transmitted w))).sum = 0 := by
    apply List.sum_eq_zero
    intro owed member
    obtain ⟨replay, present, rfl⟩ := List.mem_map.mp member
    unfold Deployment.owes
    split
    · rw [List.count_eq_zero]
      intro queued
      obtain ⟨writer, known⟩ := (tidy.replays replay present).2 _ queued
      simp only [← writer] at known
      omega
    · rfl
  rw [Deployment.due, handed, published, replays]

theorem Tidy.transmit {roles : Deployment W R} {state : ReplayNetwork W R} (tidy : Tidy roles state)
    (separated : roles.Separated) {w : W} (unsent : roles.Unsent state (.transmit w)) :
    Tidy roles (state.transmit w) := by
  obtain ⟨past, agrees⟩ := tidy.agrees
  have grows : ∀ w', state.transmitted w' ≤ (state.transmit w).transmitted w' := by
    intro w'
    by_cases here : w' = w
    · subst w'
      simp [ReplayNetwork.transmit]
    · simp [ReplayNetwork.transmit, here]
  have fresh : state.transmitted w < (state.transmit w).transmitted w := by simp [ReplayNetwork.transmit]
  refine ⟨⟨past, agrees.transmit w _⟩, ?_, ?_, ?_, ?_, tidy.tasks, tidy.registered, ?_⟩
  · intro w'
    obtain ⟨nodup, known⟩ := tidy.history w'
    by_cases here : w' = w
    · subst w'
      simp only [ReplayNetwork.transmit, Function.update_self, HybridTransmitter.transmit, History.add]
      split
      · refine ⟨List.Nodup.sublist (List.drop_sublist _ _) ?_, ?_⟩
        · refine List.Nodup.append nodup (List.nodup_singleton _) ?_
          intro msg old new
          have number := (known msg old).2
          rw [List.mem_singleton.mp new] at number
          simp at number
        · intro msg member
          rcases List.mem_append.mp (List.mem_of_mem_drop member) with old | new
          · exact ⟨(known msg old).1, Nat.lt_succ_of_lt (known msg old).2⟩
          · rw [List.mem_singleton.mp new]
            exact ⟨rfl, Nat.lt_succ_self _⟩
      · refine ⟨nodup, ?_⟩
        intro msg member
        exact ⟨(known msg member).1, Nat.lt_succ_of_lt (known msg member).2⟩
    · simpa [ReplayNetwork.transmit, here] using tidy.history w'
  · intro replay member
    obtain ⟨opposite, known⟩ := tidy.replays replay member
    refine ⟨opposite, ?_⟩
    intro msg queued
    exact ⟨(known msg queued).1, (known msg queued).2.trans_le (grows _)⟩
  · intro publication member
    rcases List.mem_append.mp member with old | new
    · obtain ⟨known, sender, live, replayed⟩ := tidy.published publication old
      exact ⟨known.trans_le (grows _), sender, live, replayed⟩
    · obtain ⟨sample, published, rfl⟩ := List.mem_map.mp new
      obtain ⟨m, _, rfl⟩ := List.mem_map.mp published
      rw [(agrees.transmitter w).1]
      exact ⟨fresh, rfl, fun _ => rfl, by simp⟩
  · intro entry member
    obtain ⟨known, target⟩ := tidy.handed entry member
    exact ⟨known.trans_le (grows _), target⟩
  · intro r msg
    have before := tidy.once r msg
    have same : roles.due (state.transmit w) r msg = roles.due state r msg +
        (((state.net.transmitters w).samples (w, state.transmitted w)).map fun sample =>
          (⟨sample, none, []⟩ : Publication W R)).countP (roles.awaits r msg) := by
      simp only [Deployment.due, Deployment.handedTo, ReplayNetwork.transmit, HybridTransmitter.transmit,
        List.countP_append]
      omega
    rw [same]
    by_cases new : msg = (w, state.transmitted w)
    · rw [new, tidy.due_fresh, Nat.zero_add]
      exact tidy.transmit_le separated unsent r _
    · have silent : (((state.net.transmitters w).samples (w, state.transmitted w)).map fun sample =>
          (⟨sample, none, []⟩ : Publication W R)).countP (roles.awaits r msg) = 0 := by
        rw [List.countP_eq_zero]
        intro publication member
        obtain ⟨sample, published, rfl⟩ := List.mem_map.mp member
        obtain ⟨m, _, rfl⟩ := List.mem_map.mp published
        simp only [Deployment.awaits, decide_eq_true_eq, not_and]
        intro equal
        exact absurd equal.symm new
      omega

theorem Tidy.enableReader {roles : Deployment W R} {state next : ReplayNetwork W R} (tidy : Tidy roles state)
    (separated : roles.Separated) {w : W} {r : R} (unsent : roles.Unsent state (.enableReader w r))
    (taken : state.enableReader w r = some next) : Tidy roles next := by
  obtain ⟨past, agrees⟩ := tidy.agrees
  simp only [ReplayNetwork.enableReader, Option.map_eq_some_iff] at taken
  obtain ⟨net, stepped, rfl⟩ := taken
  have agreed := agrees.enableReader separated.readerIds w r net stepped
  have history : ∀ w', (net.transmitters w').history = (state.net.transmitters w').history := by
    obtain rfl := Option.some.inj stepped
    intro w'
    by_cases here : w' = w
    · subst w'
      simpa using (HybridTransmitter.enable_sameRole _ _).history
    · simp [here]
  have receivers : net.receivers = state.net.receivers := by
    obtain rfl := Option.some.inj stepped
    rfl
  refine ⟨⟨_, agreed⟩, ?_, ?_, tidy.published, tidy.handed, tidy.tasks, ?_, ?_⟩
  · intro w'
    simpa only [history] using tidy.history w'
  · intro replay member
    rcases List.mem_append.mp member with old | new
    · exact tidy.replays replay old
    · rw [Option.mem_toList, Option.map_eq_some_iff] at new
      obtain ⟨task, started, rfl⟩ := new
      rw [(HybridTransmitter.enable_task started).2]
      exact ⟨(agrees.receiver r).1, (tidy.history w).2⟩
  · simpa only [receivers] using tidy.registered
  · intro r' msg
    have before := tidy.once r' msg
    simp only [Deployment.due, Deployment.handedTo, List.map_append, List.sum_append] at before ⊢
    cases started : ((state.net.transmitters w).enable (state.net.receivers r).attr).2 with
    | none => simpa using before
    | some task =>
      obtain ⟨selected, rfl⟩ := HybridTransmitter.enable_task started
      rw [agrees.select_transmitter, (agrees.receiver r).1] at selected
      have single : (state.net.transmitters w).history.msgs.count msg ≤ 1 :=
        List.nodup_iff_count_le_one.mp (tidy.history w).1 msg
      simp only [Option.map_some, Option.toList_some, List.map_cons, List.map_nil, List.sum_singleton, Deployment.owes]
      split
      · rename_i reader
        subst reader
        by_cases cached : msg ∈ (state.net.transmitters w).history.msgs
        · have none := unsent selected msg cached
          simp only [Deployment.due, Deployment.handedTo] at none
          omega
        · rw [List.count_eq_zero.mpr cached]
          exact before
      · exact before

theorem Tidy.enableWriter {roles : Deployment W R} {state next : ReplayNetwork W R} (tidy : Tidy roles state)
    (separated : roles.Separated) {r : R} {w : W} (taken : state.enableWriter r w = some next) : Tidy roles next := by
  obtain ⟨past, agrees⟩ := tidy.agrees
  simp only [ReplayNetwork.enableWriter, Option.map_eq_some_iff] at taken
  obtain ⟨net, stepped, rfl⟩ := taken
  have agreed := agrees.enableWriter separated.readerIds separated.writerIds r w net stepped
  have transmitters : net.transmitters = state.net.transmitters := by
    obtain rfl := Option.some.inj stepped
    rfl
  have keeps : ∀ r' w' m, (state.net.receivers r').transmitters m (roles.writers w').id ≠ none →
      (net.receivers r').transmitters m (roles.writers w').id ≠ none := by
    intro r' w' m present
    obtain ⟨listens, selected⟩ := (agrees.registered r' w' m).mp present
    refine (agreed.registered r' w' m).mpr ⟨?_, selected⟩
    simp [Network.listensTo_snoc, listens]
  have added : ∀ listener, ((state.net.receivers r).enable (state.net.transmitters w).attr).2 = some listener →
      (r, w) ∉ state.scheduled ++ state.running ∧ ∃ m, (net.receivers r).transmitters m (roles.writers w).id ≠ none := by
    intro listener new
    obtain ⟨m, selected, absent, _⟩ := (HybridReceiver.enable_listener _ _ _).mp new
    rw [agrees.select_receiver, (agrees.transmitter w).1] at selected
    rw [(agrees.transmitter w).1] at absent
    constructor
    · intro pending
      obtain ⟨k, present⟩ := tidy.registered (r, w) pending
      have chosen := ((agrees.registered r w k).mp present).2
      obtain rfl := Option.some.inj (chosen.symm.trans selected)
      exact present absent
    · exact ⟨m, (agreed.registered r w m).mpr ⟨by simp [Network.listensTo_snoc], selected⟩⟩
  have registered : ∀ pair ∈ state.scheduled ++ state.running,
      ∃ m, (net.receivers pair.1).transmitters m (roles.writers pair.2).id ≠ none := by
    intro pair pending
    obtain ⟨m, present⟩ := tidy.registered pair pending
    exact ⟨m, keeps _ _ m present⟩
  refine ⟨⟨_, agreed⟩, ?_, tidy.replays, tidy.published, tidy.handed, ?_, ?_, tidy.once⟩
  · simpa only [transmitters] using tidy.history
  · simp only
    split
    · rename_i receives
      obtain ⟨listener, new⟩ := Option.ne_none_iff_exists'.mp receives.1
      exact List.nodup_cons.mpr ⟨(added listener new).1, tidy.tasks⟩
    · exact tidy.tasks
  · simp only
    split
    · rename_i receives
      obtain ⟨listener, new⟩ := Option.ne_none_iff_exists'.mp receives.1
      intro pair pending
      rcases List.mem_cons.mp pending with rfl | old
      · exact (added listener new).2
      · exact registered pair old
    · exact registered

theorem Tidy.startListening {roles : Deployment W R} {state : ReplayNetwork W R} (tidy : Tidy roles state)
    {r : R} {w : W} (scheduled : (r, w) ∈ state.scheduled) :
    Tidy roles { state with scheduled := state.scheduled.erase (r, w), running := (r, w) :: state.running } := by
  have moved : (state.scheduled.erase (r, w) ++ (r, w) :: state.running).Perm (state.scheduled ++ state.running) := by
    refine List.perm_middle.trans ?_
    exact (List.perm_cons_erase scheduled).symm.append_right _
  refine ⟨tidy.agrees, tidy.history, tidy.replays, tidy.published, tidy.handed, moved.nodup_iff.mpr tidy.tasks, ?_, tidy.once⟩
  intro pair pending
  exact tidy.registered pair (moved.mem_iff.mp pending)

theorem Tidy.stopListening {roles : Deployment W R} {state : ReplayNetwork W R} (tidy : Tidy roles state)
    (r : R) (w : W) : Tidy roles { state with running := state.running.erase (r, w) } := by
  have fewer : (state.scheduled ++ state.running.erase (r, w)).Sublist (state.scheduled ++ state.running) :=
    (List.Sublist.refl _).append (List.erase_sublist)
  refine ⟨tidy.agrees, tidy.history, tidy.replays, tidy.published, tidy.handed, tidy.tasks.sublist fewer, ?_, tidy.once⟩
  intro pair pending
  exact tidy.registered pair (fewer.subset pending)

theorem Tidy.step {roles : Deployment W R} {state next : ReplayNetwork W R} (tidy : Tidy roles state)
    (separated : roles.Separated) (event : ReplayEvent W R) (unsent : roles.Unsent state event)
    (taken : state.step event = some next) : Tidy roles next := by
  cases event with
  | transmit w =>
    obtain rfl := Option.some.inj taken
    exact tidy.transmit separated unsent
  | enableReader w r => exact tidy.enableReader separated unsent taken
  | enableWriter r w => exact tidy.enableWriter separated taken
  | replayNext index => exact tidy.replayNext separated index taken
  | startListening r w =>
    simp only [ReplayNetwork.step, Option.ite_none_right_eq_some] at taken
    obtain ⟨scheduled, same⟩ := taken
    obtain rfl := Option.some.inj same
    exact tidy.startListening scheduled
  | stopListening r w =>
    simp only [ReplayNetwork.step, Option.ite_none_right_eq_some] at taken
    obtain rfl := Option.some.inj taken.2
    exact tidy.stopListening r w
  | deliver index hostIp processId => exact tidy.deliver separated index hostIp processId taken

theorem init_tidy (roles : Deployment W R) (maxDepth : Nat) : Tidy roles (init roles maxDepth) where
  agrees := ⟨[], Network.init_agrees maxDepth⟩
  history := by simp [init, Network.init, HybridTransmitter.init, History.init]
  replays := by simp [init]
  published := by simp [init]
  handed := by simp [init]
  tasks := by simp [init]
  registered := by simp [init]
  once := by simp [init, Deployment.due, Deployment.handedTo]

/-- Where no replay repeats a message that the reader has or will have, every message is handed to a reader
    at most once and a replayed message to no reader but its own. -/
theorem handed_at_most_once (roles : Deployment W R) (separated : roles.Separated) (maxDepth : Nat)
    (events : List (ReplayEvent W R)) (state : ReplayNetwork W R)
    (meets : Meets step roles.Unsent (init roles maxDepth) events)
    (ran : run step (init roles maxDepth) events = some state) :
    (∀ r msg, roles.handedTo state r msg ≤ 1) ∧
    ∀ entry ∈ state.handed, ∀ r, entry.2.replayFor = some r → entry.1.selfId = (roles.readers r).id := by
  have tidy : Tidy roles state := Meets.preserves (Tidy roles)
    (fun _ event _ unsent taken held => held.step separated event unsent taken) (init_tidy roles maxDepth) meets ran
  refine ⟨?_, fun entry member => (tidy.handed entry member).2⟩
  intro r msg
  have once := tidy.once r msg
  unfold Deployment.due at once
  omega

def oneHost : Deployment Unit Bool where
  writers := fun _ => ⟨"10.0.0.1", 100, "/chatter", 5, "Chatter", 1, { durability := .transientLocal }⟩
  readers := fun r => ⟨"10.0.0.1", if r then 200 else 300, "/chatter", 5, "Chatter", if r then 7 else 8, {}⟩
  mode := {}

def lateReader : List (ReplayEvent Unit Bool) :=
  [.enableReader () true, .transmit (), .deliver 0 "10.0.0.1" 300, .enableReader () false, .enableWriter false (),
    .startListening false (), .replayNext 0, .deliver 1 "10.0.0.1" 300, .transmit (), .deliver 2 "10.0.0.1" 300]

theorem oneHost_separated : oneHost.Separated where
  readerIds := by
    intro r r'
    cases r <;> cases r' <;> decide
  writerIds := fun _ _ _ => rfl
  channels := fun _ _ _ _ different => absurd rfl different
  ordinary := by
    intro ⟨⟩ r
    refine ⟨fun ⟨⟩ => ?_, fun r' => ?_⟩
    · cases r <;> decide
    · cases r <;> cases r' <;> decide

theorem lateReader_handed_once : ∃ state, run step (init oneHost 1000) lateReader = some state ∧
    ∀ r msg, oneHost.handedTo state r msg ≤ 1 :=
  ⟨_, rfl, (handed_at_most_once oneHost oneHost_separated 1000 lateReader _ (by decide) rfl).1⟩

/-- Ids whose digits join to the same name. -/
def sharedDigits : Deployment Bool Bool where
  writers := fun w =>
    ⟨"10.0.0.1", 100, "/chatter", 5, "Chatter", if w then 1 else 12, { durability := .transientLocal }⟩
  readers := fun r => ⟨"10.0.0.1", if r then 200 else 300, "/chatter", 5, "Chatter", if r then 23 else 3, {}⟩
  mode := {}

/-- A message that the reader got live, because another reader had enabled the sub-transmitter, is replayed
    to it; and the replay of writer 12 for reader 3 is heard by reader 23, which waits for writer 1. -/
theorem replay_repeats_or_strays :
    (∃ state, run step (init oneHost 1000) [.enableReader () true, .enableWriter false (), .startListening false (),
        .transmit (), .deliver 0 "10.0.0.1" 300, .enableReader () false, .replayNext 0,
        .deliver 1 "10.0.0.1" 300] = some state ∧ oneHost.handedTo state false ((), 0) = 2) ∧
    ∃ state, run step (init sharedDigits 1000) [.transmit false, .enableReader false false, .enableWriter true true,
        .startListening true true, .replayNext 0, .deliver 0 "10.0.0.1" 200] = some state ∧
      ∃ entry ∈ state.handed, entry.2.replayFor = some false ∧ entry.1.selfId = (sharedDigits.readers true).id :=
  ⟨⟨_, rfl, by decide⟩, _, rfl, _, List.mem_singleton.mpr rfl, rfl, rfl⟩

end ReplayNetwork

end CyberRT.Transport

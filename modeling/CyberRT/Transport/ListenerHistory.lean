import Mathlib.Data.List.Induction
import Mathlib.Data.List.TakeWhile
import CyberRT.Transport.Connections

namespace CyberRT.Transport

variable {L : Type}

/-- The connections of a history that no later event disconnects, in the order in which they were made. -/
def connections : List (HandlerEvent L) → List (ListenerKey × Option L)
  | [] => []
  | .connect key listener :: rest =>
    if rest.any (HandlerEvent.disconnects key) then connections rest else (key, listener) :: connections rest
  | .disconnect _ :: rest => connections rest
  | .run _ :: rest => connections rest

/-- No key is connected a second time before it is disconnected. -/
def OnceBetween : List (HandlerEvent L) → Prop
  | [] => True
  | .connect key _ :: rest =>
    (∀ event ∈ rest.takeWhile fun event => !event.disconnects key, event.connects key = false) ∧ OnceBetween rest
  | .disconnect _ :: rest => OnceBetween rest
  | .run _ :: rest => OnceBetween rest

instance decidableOnceBetween : (events : List (HandlerEvent L)) → Decidable (OnceBetween events)
  | [] => .isTrue trivial
  | .connect key _ :: rest =>
    have := decidableOnceBetween rest
    inferInstanceAs (Decidable ((∀ event ∈ rest.takeWhile fun event => !event.disconnects key,
      event.connects key = false) ∧ OnceBetween rest))
  | .disconnect _ :: rest => decidableOnceBetween rest
  | .run _ :: rest => decidableOnceBetween rest

/-- The listeners that a message of this sender is for: those without an opposite, then those with this one. -/
def calls (entries : List (ListenerKey × Option L)) (senderId : UInt64) : List L :=
  (entries.filter fun entry => entry.1.2 = none).filterMap Prod.snd ++
    (entries.filter fun entry => entry.1.2 = some senderId).filterMap Prod.snd

theorem connections_connect (events : List (HandlerEvent L)) (key : ListenerKey) (listener : Option L) :
    connections (events ++ [.connect key listener]) = connections events ++ [(key, listener)] := by
  induction events with
  | nil => rfl
  | cons event rest ih =>
    cases event with
    | connect other listener' =>
      have same : (rest ++ [HandlerEvent.connect key listener]).any (HandlerEvent.disconnects other) =
          rest.any (HandlerEvent.disconnects other) := by
        simp [HandlerEvent.disconnects]
      rw [List.cons_append, connections, connections, same, ih]
      split <;> rfl
    | disconnect other => exact ih
    | run senderId => exact ih

theorem connections_disconnect (events : List (HandlerEvent L)) (key : ListenerKey) :
    connections (events ++ [.disconnect key]) = (connections events).filter fun entry => entry.1 ≠ key := by
  induction events with
  | nil => rfl
  | cons event rest ih =>
    cases event with
    | connect other listener =>
      have last : (rest ++ [HandlerEvent.disconnect (L := L) key]).any (HandlerEvent.disconnects other) =
          (rest.any (HandlerEvent.disconnects other) || decide (key = other)) := by
        simp [HandlerEvent.disconnects]
      rw [List.cons_append, connections, connections, last, ih]
      by_cases gone : rest.any (HandlerEvent.disconnects other) = true
      · simp [gone]
      · by_cases same : key = other
        · simp [gone, same]
        · have different : other ≠ key := fun equal => same equal.symm
          simp [gone, same, different]
    | disconnect other => exact ih
    | run senderId => exact ih

theorem connections_run (events : List (HandlerEvent L)) (senderId : UInt64) :
    connections (events ++ [.run senderId]) = connections events := by
  induction events with
  | nil => rfl
  | cons event rest ih =>
    cases event with
    | connect other listener =>
      have same : (rest ++ [HandlerEvent.run (L := L) senderId]).any (HandlerEvent.disconnects other) =
          rest.any (HandlerEvent.disconnects other) := by
        simp [HandlerEvent.disconnects]
      rw [List.cons_append, connections, connections, same, ih]
    | disconnect other => exact ih
    | run senderId => exact ih

theorem OnceBetween.init {events : List (HandlerEvent L)} {event : HandlerEvent L}
    (once : OnceBetween (events ++ [event])) : OnceBetween events := by
  induction events with
  | nil => trivial
  | cons head rest ih =>
    cases head with
    | connect key listener =>
      rw [List.cons_append, OnceBetween] at once
      obtain ⟨here, later⟩ := once
      refine ⟨fun other member => here other ?_, ih later⟩
      rw [List.takeWhile_append]
      split
      · rename_i whole
        rw [(List.takeWhile_prefix _).eq_of_length whole] at member
        exact List.mem_append_left _ member
      · exact member
    | disconnect key => exact ih once
    | run senderId => exact ih once

theorem OnceBetween.disconnect {events : List (HandlerEvent L)} (once : OnceBetween events) (key : ListenerKey) :
    OnceBetween (events ++ [.disconnect key]) := by
  induction events with
  | nil => trivial
  | cons head rest ih =>
    cases head with
    | connect other listener =>
      obtain ⟨here, later⟩ := once
      rw [List.cons_append, OnceBetween]
      refine ⟨fun event member => ?_, ih later⟩
      rw [List.takeWhile_append] at member
      split at member
      · rename_i whole
        rcases List.mem_append.mp member with old | new
        · apply here event
          rw [(List.takeWhile_prefix _).eq_of_length whole]
          exact old
        · rw [List.mem_singleton.mp ((List.takeWhile_sublist _).subset new)]
          rfl
      · exact here event member
    | disconnect other => exact ih once
    | run senderId => exact ih once

theorem OnceBetween.absent {events : List (HandlerEvent L)} {key : ListenerKey} {listener : Option L}
    (once : OnceBetween (events ++ [.connect key listener])) : ∀ entry ∈ connections events, entry.1 ≠ key := by
  induction events with
  | nil => simp [connections]
  | cons head rest ih =>
    cases head with
    | connect other listener' =>
      rw [List.cons_append, OnceBetween] at once
      obtain ⟨here, later⟩ := once
      rw [connections]
      split
      · exact ih later
      · rename_i kept
        intro entry member
        rcases List.mem_cons.mp member with rfl | member
        · -- Nothing disconnects the key behind this event, so the new connection is in its stretch.
          have stretch : (rest ++ [HandlerEvent.connect key listener]).takeWhile (fun event => !event.disconnects other) =
              rest ++ [HandlerEvent.connect key listener] := by
            apply List.takeWhile_eq_self_iff.mpr
            intro event present
            rcases List.mem_append.mp present with old | new
            · simpa using fun gone => kept (List.any_eq_true.mpr ⟨event, old, gone⟩)
            · rw [List.mem_singleton.mp new]
              rfl
          have apart := here (.connect key listener) (by rw [stretch]; simp)
          intro same
          rw [← same] at apart
          simp [HandlerEvent.connects] at apart
        · exact ih later entry member
    | disconnect other => exact ih once
    | run senderId => exact ih once

namespace ListenerHandler

/-- The handler has a slot for each of these connections, in their order, and knows where it is. -/
structure Holds (handler : ListenerHandler L) (entries : List (ListenerKey × L)) : Prop where
  listed : ∀ oppoId, (handler.signals oppoId).slots = (entries.filter fun entry => entry.1.2 = oppoId).map fun entry =>
    ((handler.conns oppoId entry.1.1).getD 0, entry.2)
  present : ∀ entry ∈ entries, (handler.conns entry.1.2 entry.1.1).isSome
  below : ∀ oppoId selfId slot, handler.conns oppoId selfId = some slot → slot < (handler.signals oppoId).nextSlot
  apart : ∀ oppoId selfId other slot, handler.conns oppoId selfId = some slot → handler.conns oppoId other = some slot →
    selfId = other

theorem Holds.connectUnder {handler : ListenerHandler L} {entries : List (ListenerKey × L)}
    (holds : handler.Holds entries) {oppoId : Option UInt64} {selfId : UInt64} {listener : L}
    (absent : ∀ entry ∈ entries, entry.1 ≠ (selfId, oppoId)) :
    (handler.connectUnder oppoId selfId listener).Holds (entries ++ [((selfId, oppoId), listener)]) where
  listed := by
    intro group
    have old : ∀ entry ∈ entries.filter (fun entry => entry.1.2 = group),
        (((handler.connectUnder oppoId selfId listener).conns group entry.1.1).getD 0, entry.2) =
          ((handler.conns group entry.1.1).getD 0, entry.2) := by
      intro entry member
      obtain ⟨listed, here⟩ := List.mem_filter.mp member
      have different := absent entry listed
      rw [conns_connectUnder, if_neg]
      intro both
      exact different (Prod.ext both.2 ((of_decide_eq_true here).trans both.1))
    rw [List.filter_append, List.map_append, List.map_congr_left old, ← holds.listed group]
    by_cases same : group = oppoId
    · subst same
      simp [Signal.connect, conns_connectUnder]
    · have other : oppoId ≠ group := fun equal => same equal.symm
      simp [signals_connectUnder_ne handler selfId listener same, other]
  present := by
    intro entry member
    rw [conns_connectUnder]
    split
    · rfl
    · rename_i other
      rcases List.mem_append.mp member with old | new
      · exact holds.present entry old
      · rw [List.mem_singleton.mp new] at other
        exact absurd ⟨rfl, rfl⟩ other
  below := by
    intro group id slot stored
    rw [conns_connectUnder] at stored
    by_cases same : group = oppoId
    · subst same
      rw [signals_connectUnder_self, Signal.connect]
      split at stored
      · cases stored
        exact Nat.lt_succ_self _
      · exact Nat.lt_succ_of_lt (holds.below group id slot stored)
    · rw [if_neg fun both => same both.1] at stored
      rw [signals_connectUnder_ne handler selfId listener same]
      exact holds.below group id slot stored
  apart := by
    intro group id other slot one two
    rw [conns_connectUnder] at one two
    split at one
    · rename_i here
      split at two
      · rename_i there
        exact here.2.trans there.2.symm
      · cases one
        have bound := holds.below group other _ two
        rw [here.1] at bound
        exact absurd bound (Nat.lt_irrefl _)
    · split at two
      · rename_i there
        cases two
        have bound := holds.below group id _ one
        rw [there.1] at bound
        exact absurd bound (Nat.lt_irrefl _)
      · exact holds.apart group id other slot one two

theorem Holds.disconnectUnder {handler : ListenerHandler L} {entries : List (ListenerKey × L)}
    (holds : handler.Holds entries) (oppoId : Option UInt64) (selfId : UInt64) :
    (handler.disconnectUnder oppoId selfId).Holds (entries.filter fun entry => entry.1 ≠ (selfId, oppoId)) where
  listed := by
    intro group
    have kept : ∀ entry ∈ (entries.filter fun entry => entry.1 ≠ (selfId, oppoId)).filter (fun entry => entry.1.2 = group),
        (((handler.disconnectUnder oppoId selfId).conns group entry.1.1).getD 0, entry.2) =
          ((handler.conns group entry.1.1).getD 0, entry.2) := by
      intro entry member
      obtain ⟨left, here⟩ := List.mem_filter.mp member
      have different : entry.1 ≠ (selfId, oppoId) := by simpa using (List.mem_filter.mp left).2
      rw [conns_disconnectUnder, if_neg]
      intro both
      exact different (Prod.ext both.2 ((of_decide_eq_true here).trans both.1))
    rw [List.map_congr_left kept, List.filter_comm]
    by_cases same : group = oppoId
    · subst same
      cases stored : handler.conns group selfId with
      | none =>
        have all : ∀ entry ∈ entries.filter (fun entry => entry.1.2 = group), decide (entry.1 ≠ (selfId, group)) = true := by
          intro entry member
          have known := holds.present entry (List.mem_of_mem_filter member)
          apply decide_eq_true
          intro equal
          rw [equal, stored] at known
          cases known
        rw [disconnectUnder_absent stored, List.filter_eq_self.mpr all, holds.listed]
      | some slot =>
        have cleared : ((handler.disconnectUnder group selfId).signals group).slots =
            (handler.signals group).slots.filter fun entry => entry.1 ≠ slot := by
          simp [ListenerHandler.disconnectUnder, stored, Signal.disconnect]
        rw [cleared, holds.listed, List.filter_map]
        congr 1
        apply List.filter_congr
        intro entry member
        obtain ⟨listed, here⟩ := List.mem_filter.mp member
        have group' : entry.1.2 = group := of_decide_eq_true here
        have known := holds.present entry listed
        rw [group'] at known
        obtain ⟨other, found⟩ := Option.isSome_iff_exists.mp known
        simp only [Function.comp_apply, found, Option.getD_some, ne_eq, decide_not, Bool.not_inj_iff, decide_eq_decide]
        constructor
        · intro equal
          rw [equal] at found
          exact Prod.ext (holds.apart group _ _ slot found stored) group'
        · intro equal
          rw [equal, stored] at found
          exact (Option.some.inj found).symm
    · rw [signals_disconnectUnder_ne handler selfId same, holds.listed]
      congr 1
      apply (List.filter_eq_self.mpr _).symm
      intro entry member
      have here : entry.1.2 = group := of_decide_eq_true (List.mem_filter.mp member).2
      apply decide_eq_true
      intro equal
      rw [equal] at here
      exact same here.symm
  present := by
    intro entry member
    obtain ⟨listed, different⟩ := List.mem_filter.mp member
    rw [conns_disconnectUnder, if_neg]
    · exact holds.present entry listed
    · intro both
      exact of_decide_eq_true different (Prod.ext both.2 both.1)
  below := by
    intro group id slot stored
    rw [conns_disconnectUnder] at stored
    have next : ((handler.disconnectUnder oppoId selfId).signals group).nextSlot = (handler.signals group).nextSlot := by
      by_cases same : group = oppoId
      · subst same
        unfold ListenerHandler.disconnectUnder
        split <;> simp [Signal.disconnect]
      · rw [signals_disconnectUnder_ne handler selfId same]
    rw [next]
    split at stored
    · cases stored
    · exact holds.below group id slot stored
  apart := by
    intro group id other slot one two
    rw [conns_disconnectUnder] at one two
    split at one
    · cases one
    · split at two
      · cases two
      · exact holds.apart group id other slot one two

theorem Holds.run {handler : ListenerHandler (Option L)} {entries : List (ListenerKey × Option L)}
    (holds : handler.Holds entries) (senderId : UInt64) :
    (handler.run senderId).filterMap id = calls entries senderId := by
  unfold ListenerHandler.run calls Signal.callbacks
  rw [holds.listed, holds.listed, List.filterMap_append, List.map_map, List.map_map, List.filterMap_map,
    List.filterMap_map]
  rfl

end ListenerHandler

namespace SlotHandler

theorem after_snoc (events : List (HandlerEvent L)) (event : HandlerEvent L) :
    after (events ++ [event]) = (after events).step event := by
  simp [after]

/-- After every history the handler shows one that holds the connections of the history. -/
theorem after_holds (events : List (HandlerEvent L)) (once : OnceBetween events) :
    ∃ shown : ListenerHandler (Option L), (after events).Shows shown ∧ shown.Holds (connections events) := by
  induction events using List.reverseRecOn with
  | nil => exact ⟨{}, shows_initial, ⟨fun _ => rfl, by simp [connections], by simp, by simp⟩⟩
  | append_singleton events event ih =>
    obtain ⟨shown, shows', holds⟩ := ih once.init
    rw [after_snoc]
    cases event with
    | connect key listener =>
      rw [connections_connect]
      obtain ⟨selfId, oppoId⟩ := key
      cases oppoId with
      | none => exact ⟨_, shows'.connect selfId listener, holds.connectUnder once.absent⟩
      | some oppoId => exact ⟨_, shows'.connectOpposite selfId oppoId listener, holds.connectUnder once.absent⟩
    | disconnect key =>
      rw [connections_disconnect]
      obtain ⟨selfId, oppoId⟩ := key
      cases oppoId with
      | none => exact ⟨_, shows'.disconnect selfId, holds.disconnectUnder none selfId⟩
      | some oppoId => exact ⟨_, shows'.disconnectOpposite selfId oppoId, holds.disconnectUnder (some oppoId) selfId⟩
    | run senderId =>
      rw [connections_run]
      exact ⟨shown, (shows'.run senderId).2, holds⟩

theorem run_after (events : List (HandlerEvent L)) (once : OnceBetween events) (senderId : UInt64) :
    ((after events).run senderId).1 = calls (connections events) senderId := by
  obtain ⟨shown, shows', holds⟩ := after_holds events once
  rw [(shows'.run senderId).1, holds.run]

/-- `Run` calls the connected listeners without an opposite and those of the sender, each once and in the order of
    their connection; a disconnection takes its own key's listener away and no other. -/
theorem run_calls (events : List (HandlerEvent L)) (once : OnceBetween events) (senderId : UInt64) :
    ((after events).run senderId).1 = calls (connections events) senderId ∧
    ∀ key, ((after (events ++ [.disconnect key])).run senderId).1 =
      calls ((connections events).filter fun entry => entry.1 ≠ key) senderId := by
  apply And.intro (run_after events once senderId)
  intro key
  rw [run_after _ (once.disconnect key), connections_disconnect]

/-- One key with and one without an opposite, both of one reader, and a second reader that stays. -/
theorem run_calls_sender :
    ((after [.connect (1, none) (some 10), .connect (1, some 7) (some 20), .connect (2, none) (some 30), .run 7,
      .disconnect (1, none)]).run 7).1 = [30, 20] :=
  (run_calls [.connect (1, none) (some 10), .connect (1, some 7) (some 20), .connect (2, none) (some 30), .run 7,
    .disconnect (1, none)] (by decide) 7).1

end SlotHandler

end CyberRT.Transport

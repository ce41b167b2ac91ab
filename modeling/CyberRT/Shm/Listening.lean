import CyberRT.Shm.ConditionNotifier

namespace CyberRT.Shm

open Execution

/-- Every slot that a notification has used holds the latest one that falls into it. -/
structure Ring (indicator : Indicator) (stored : List ReadableInfo) : Prop where
  counts : stored.length = indicator.nextSeq
  reaches : ∀ seq, seq < indicator.nextSeq → seq ≤ indicator.seqs (slot seq)
  bounded : ∀ seq, seq < indicator.nextSeq → indicator.seqs (slot seq) < indicator.nextSeq
  latest : ∀ seq, seq < indicator.nextSeq → indicator.nextSeq ≤ indicator.seqs (slot seq) + 4096
  inSlot : ∀ seq, seq < indicator.nextSeq → slot (indicator.seqs (slot seq)) = slot seq
  info : ∀ seq, seq < indicator.nextSeq →
    stored[indicator.seqs (slot seq)]? = some (indicator.infos (slot seq))

/-- The slot of the next sequence number is the only one that `Notify` changes. -/
theorem notify_slot (notifier : ConditionNotifier) (running : notifier.isShutdown = false) (indicator : Indicator)
    (info : ReadableInfo) (index : Fin kBufLength) :
    (notifier.notify indicator info).2.nextSeq = indicator.nextSeq + 1 ∧
    (notifier.notify indicator info).2.seqs index =
      (if index = slot indicator.nextSeq then indicator.nextSeq else indicator.seqs index) ∧
    (notifier.notify indicator info).2.infos index =
      (if index = slot indicator.nextSeq then info else indicator.infos index) := by
  simp only [ConditionNotifier.notify, running, Bool.false_eq_true, if_false, Indicator.fetchAdd,
    Indicator.writeInfo, Indicator.writeSeq, Function.update_apply, and_self]

theorem Ring.notify {indicator : Indicator} {stored : List ReadableInfo} (ring : Ring indicator stored)
    (notifier : ConditionNotifier) (running : notifier.isShutdown = false) (info : ReadableInfo) :
    Ring (notifier.notify indicator info).2 (stored ++ [info]) := by
  have next := (notify_slot notifier running indicator info (slot 0)).1
  have seqs := fun index => (notify_slot notifier running indicator info index).2.1
  have infos := fun index => (notify_slot notifier running indicator info index).2.2
  have counts := ring.counts
  have old : ∀ seq, seq < indicator.nextSeq + 1 → slot seq ≠ slot indicator.nextSeq → seq < indicator.nextSeq := by
    intro seq below other
    rcases Nat.lt_succ_iff_lt_or_eq.mp below with below | rfl
    · exact below
    · exact absurd rfl other
  constructor
  · rw [next, List.length_append, counts, List.length_singleton]
  · intro seq below
    rw [next] at below
    rw [seqs]
    split
    · exact Nat.le_of_lt_succ below
    · rename_i other
      exact ring.reaches seq (old seq below other)
  · intro seq below
    rw [next] at below ⊢
    rw [seqs]
    split
    · exact Nat.lt_succ_self _
    · rename_i other
      exact Nat.lt_succ_of_lt (ring.bounded seq (old seq below other))
  · intro seq below
    rw [next] at below ⊢
    rw [seqs]
    split
    · omega
    · rename_i other
      have latest := ring.latest seq (old seq below other)
      have inSlot := ring.inSlot seq (old seq below other)
      rw [slot_eq_iff] at inSlot
      rw [slot_eq_iff] at other
      omega
  · intro seq below
    rw [next] at below
    rw [seqs]
    split
    · rename_i same
      exact same.symm
    · rename_i other
      exact ring.inSlot seq (old seq below other)
  · intro seq below
    rw [next] at below
    rw [seqs, infos]
    split
    · rw [← counts, List.getElem?_concat_length]
    · rename_i other
      have bounded := ring.bounded seq (old seq below other)
      rw [List.getElem?_append_left (by omega)]
      exact ring.info seq (old seq below other)

namespace Notifications

variable {Process : Type} (listener : Process)

/-- What the listening process has heard agrees with what was stored, and it goes on behind the last of it. -/
structure Follows (state : Notifications Process) : Prop where
  ring : Ring state.indicator state.stored
  within : ∀ notifier, state.notifiers listener = some notifier → notifier.nextSeq ≤ state.indicator.nextSeq
  behind : ∀ notifier, state.notifiers listener = some notifier → ∀ entry ∈ state.returned, entry.1 < notifier.nextSeq
  goesOn : ∀ notifier last, state.notifiers listener = some notifier → state.returned.getLast? = some last →
    notifier.nextSeq = last.1 + 1
  silent : state.notifiers listener = none → state.returned = []
  increasing : (state.returned.map Prod.fst).Pairwise (· < ·)
  right : ∀ entry ∈ state.returned, state.stored[entry.1]? = some entry.2

theorem follows_start : ({} : Notifications Process).Follows listener where
  ring := by constructor <;> simp
  within := by simp
  behind := by simp
  goesOn := by simp
  silent := by simp
  increasing := by simp
  right := by simp

variable {listener}

theorem Follows.of_notifiers {state : Notifications Process} (follows : state.Follows listener)
    (notifiers : Process → Option ConditionNotifier)
    (same : (notifiers listener).map ConditionNotifier.nextSeq =
        (state.notifiers listener).map ConditionNotifier.nextSeq ∨
      state.notifiers listener = none ∧ notifiers listener = some (.init state.indicator)) :
    ({ state with notifiers := notifiers } : Notifications Process).Follows listener := by
  rcases same with same | ⟨absent, fresh⟩
  · have before : ∀ notifier, notifiers listener = some notifier →
        ∃ old, state.notifiers listener = some old ∧ old.nextSeq = notifier.nextSeq := by
      intro notifier listening
      rw [listening, Option.map_some] at same
      exact Option.map_eq_some_iff.mp same.symm
    constructor
    · exact follows.ring
    · intro notifier listening
      obtain ⟨old, was, seq⟩ := before notifier listening
      exact seq ▸ follows.within old was
    · intro notifier listening
      obtain ⟨old, was, seq⟩ := before notifier listening
      exact seq ▸ follows.behind old was
    · intro notifier last listening
      obtain ⟨old, was, seq⟩ := before notifier listening
      exact seq ▸ follows.goesOn old last was
    · intro (absent : notifiers listener = none)
      rw [absent, Option.map_none] at same
      exact follows.silent (Option.map_eq_none_iff.mp same.symm)
    · exact follows.increasing
    · exact follows.right
  · have nothing := follows.silent absent
    constructor
    · exact follows.ring
    · intro notifier (listening : notifiers listener = some notifier)
      rw [fresh, Option.some.injEq] at listening
      subst listening
      exact Nat.le_refl _
    · intro _ _ entry member
      rw [nothing] at member
      cases member
    · intro _ last _ ended
      rw [nothing] at ended
      cases ended
    · intro (gone : notifiers listener = none)
      rw [fresh] at gone
      cases gone
    · exact follows.increasing
    · exact follows.right

theorem Follows.notify {state : Notifications Process} (follows : state.Follows listener)
    (notifier : ConditionNotifier) (running : notifier.isShutdown = false) (info : ReadableInfo) :
    ({ state with
      indicator := (notifier.notify state.indicator info).2
      stored := state.stored ++ [info] } : Notifications Process).Follows listener where
  ring := follows.ring.notify notifier running info
  within := by
    intro other listening
    have before := follows.within other listening
    have next := (notify_slot notifier running state.indicator info (slot 0)).1
    simp only [next]
    omega
  behind := follows.behind
  goesOn := follows.goesOn
  silent := follows.silent
  increasing := follows.increasing
  right := by
    intro entry member
    have before := follows.right entry member
    have short := (List.getElem?_eq_some_iff.mp before).1
    rw [List.getElem?_append_left short]
    exact before

/-- A `Listen` that returns true consumes a number at or behind the one the listener waits for, and hands out the info
    stored for it. -/
theorem Follows.heard {state : Notifications Process} (follows : state.Follows listener)
    {notifier after : ConditionNotifier} (listening : state.notifiers listener = some notifier) {timeoutMs : Int}
    {info : ReadableInfo} (heard : notifier.listen state.indicator timeoutMs = some (info, after)) :
    notifier.nextSeq < after.nextSeq ∧ after.nextSeq ≤ state.indicator.nextSeq ∧
      state.indicator.nextSeq ≤ after.nextSeq - 1 + 4096 ∧ slot (after.nextSeq - 1) = slot notifier.nextSeq ∧
      state.stored[after.nextSeq - 1]? = some info := by
  obtain ⟨unread, ready, rfl, rfl⟩ := ConditionNotifier.listen_some heard
  have within := follows.within notifier listening
  have below : notifier.nextSeq < state.indicator.nextSeq := by omega
  have bounded := follows.ring.bounded _ below
  have latest := follows.ring.latest _ below
  simp only [Nat.add_sub_cancel]
  exact ⟨Nat.lt_succ_of_le ready, bounded, latest, follows.ring.inSlot _ below, follows.ring.info _ below⟩

variable [DecidableEq Process]

theorem Follows.listen {state : Notifications Process} (follows : state.Follows listener)
    {notifier after : ConditionNotifier} (listening : state.notifiers listener = some notifier) {timeoutMs : Int}
    {info : ReadableInfo} (heard : notifier.listen state.indicator timeoutMs = some (info, after)) :
    ({ state.setNotifier listener after with
      returned := state.returned ++ [(after.nextSeq - 1, info)] } : Notifications Process).Follows listener := by
  obtain ⟨further, bounded, _, _, stored⟩ := follows.heard listening heard
  constructor
  · exact follows.ring
  · intro other same
    simp only [setNotifier, Function.update_self, Option.some.injEq] at same
    subst same
    exact bounded
  · intro other same entry member
    simp only [setNotifier, Function.update_self, Option.some.injEq] at same
    subst same
    rcases List.mem_append.mp member with member | member
    · exact Nat.lt_trans (follows.behind notifier listening entry member) further
    · rw [List.mem_singleton.mp member]
      simp only
      omega
  · intro other last same ended
    simp only [setNotifier, Function.update_self, Option.some.injEq] at same
    rw [List.getLast?_concat, Option.some.injEq] at ended
    subst same ended
    simp only
    omega
  · intro none
    simp [setNotifier] at none
  · simp only [List.map_append, List.map_cons, List.map_nil, List.pairwise_append, List.pairwise_singleton,
      List.mem_singleton]
    refine ⟨follows.increasing, trivial, ?_⟩
    rintro seq member _ rfl
    obtain ⟨entry, present, rfl⟩ := List.mem_map.mp member
    have last := follows.behind notifier listening entry present
    omega
  · intro entry member
    rcases List.mem_append.mp member with member | member
    · exact follows.right entry member
    · rw [List.mem_singleton.mp member]
      exact stored

theorem follows_step {state next : Notifications Process} {event : NotifierEvent Process}
    (follows : state.Follows listener) (taken : step listener state event = some next) : next.Follows listener := by
  cases event with
  | init process =>
    simp only [step] at taken
    split at taken
    · rename_i none
      cases taken
      apply follows.of_notifiers
      by_cases mine : listener = process
      · subst mine
        exact .inr ⟨none, Function.update_self ..⟩
      · exact .inl (by rw [Function.update_of_ne mine])
    · cases taken
  | notify process info =>
    simp only [step, Option.map_eq_some_iff] at taken
    obtain ⟨notifier, _, rfl⟩ := taken
    cases shut : notifier.isShutdown with
    | true => simpa [ConditionNotifier.notify, shut] using follows
    | false =>
      have notified := follows.notify notifier shut info
      simpa [ConditionNotifier.notify, shut] using notified
  | listen timeoutMs =>
    simp only [step, Option.map_eq_some_iff] at taken
    obtain ⟨notifier, listening, rfl⟩ := taken
    split
    · rename_i info after heard
      exact follows.listen listening heard
    · exact follows
  | shutdown process =>
    simp only [step, Option.map_eq_some_iff] at taken
    obtain ⟨notifier, present, rfl⟩ := taken
    apply follows.of_notifiers
    left
    by_cases mine : listener = process
    · subst mine
      rw [Function.update_self, present]
      rfl
    · rw [Function.update_of_ne mine]

theorem follows_run {state : Notifications Process} {events : List (NotifierEvent Process)}
    (ran : run (step listener) {} events = some state) : state.Follows listener :=
  run_invariant (fun state _ => state.Follows listener) (fun _ _ _ _ taken follows => follows_step follows taken)
    (follows_start listener) ran

def lag (listener : Process) (state : Notifications Process) : Nat :=
  match state.notifiers listener with
  | some notifier => state.indicator.nextSeq - notifier.nextSeq
  | none => 0

/-- Of all histories: the numbers that `Listen` consumes strictly increase, each info is the one stored for its number,
    and a listener that is at most a buffer behind gets the number after the last one it got. -/
theorem listen_returns_stored {state : Notifications Process} {events : List (NotifierEvent Process)}
    (ran : run (step listener) {} events = some state) :
    (state.returned.map Prod.fst).Pairwise (· < ·) ∧
    (∀ entry ∈ state.returned, state.stored[entry.1]? = some entry.2) ∧
    ∀ timeoutMs next last entry, state.lag listener ≤ kBufLength →
      step listener state (.listen timeoutMs) = some next → state.returned.getLast? = some last →
      next.returned = state.returned ++ [entry] → entry.1 = last.1 + 1 := by
  have follows := follows_run ran
  refine ⟨follows.increasing, follows.right, ?_⟩
  intro timeoutMs next last entry near taken ended grown
  simp only [step, Option.map_eq_some_iff] at taken
  obtain ⟨notifier, listening, rfl⟩ := taken
  simp only [lag, listening, kBufLength] at near
  split at grown
  · rename_i info after heard
    obtain ⟨further, bounded, latest, same, _⟩ := follows.heard listening heard
    have goesOn := follows.goesOn notifier last listening ended
    simp only [List.append_cancel_left_eq, List.cons.injEq, and_true] at grown
    subst grown
    rw [slot_eq_iff] at same
    simp only
    omega
  · have longer := congrArg List.length grown
    simp at longer

theorem listen_returns_both : ∃ state : Notifications Nat,
    run (step 0) {} [.init 0, .init 1, .notify 1 ⟨1, 2, 3⟩, .listen 0, .notify 0 ⟨4, 5, 6⟩, .listen 100] = some state ∧
    state.returned = [(0, ⟨1, 2, 3⟩), (1, ⟨4, 5, 6⟩)] ∧ (state.returned.map Prod.fst).Pairwise (· < ·) :=
  ⟨_, rfl, by decide, (@listen_returns_stored Nat 0 _ _
    [.init 0, .init 1, .notify 1 ⟨1, 2, 3⟩, .listen 0, .notify 0 ⟨4, 5, 6⟩, .listen 100] rfl).1⟩

end Notifications

end CyberRT.Shm

import Mathlib.Data.List.Pairwise
import CyberRT.Data.DataVisitor

namespace CyberRT.Data

open Execution

namespace CacheBuffer

variable {Message : Type} {cache : CacheBuffer Message} {queueSize : Nat} {filled : List Message}

/-- The ring has the last messages of the history, each in the slot of its number. -/
structure Holds (cache : CacheBuffer Message) (queueSize : Nat) (filled : List Message) : Prop where
  capacity : cache.capacity = queueSize + 1
  length : cache.buffer.length = cache.capacity
  tail : cache.tail = filled.length
  head : cache.head = filled.length - queueSize
  stored : ∀ pos, cache.head < pos → pos ≤ cache.tail → cache.at_ pos = filled[pos - 1]?

theorem holds_ofSize (queueSize : Nat) : (ofSize queueSize : CacheBuffer Message).Holds queueSize [] := by
  constructor <;> simp [ofSize]
  omega

theorem getIndex_ne {first second : Nat} (before : first < second) (within : second < first + cache.capacity) :
    cache.getIndex first ≠ cache.getIndex second := by
  intro same
  have divides : cache.capacity ∣ second - first := Nat.dvd_of_mod_eq_zero (Nat.sub_mod_eq_zero_of_mod_eq same.symm)
  have far := Nat.le_of_dvd (by omega) divides
  omega

theorem Holds.isFull_iff (holds : cache.Holds queueSize filled) : cache.isFull ↔ queueSize ≤ filled.length := by
  rw [isFull, decide_eq_true_iff, holds.capacity, holds.tail, holds.head]
  omega

/-- Both branches of `Fill` write the slot of the next number, and a full ring gives up its oldest message for it. -/
theorem Holds.fill_eq (holds : cache.Holds queueSize filled) (msg : Message) :
    cache.fill msg = { cache with
      buffer := cache.buffer.set (cache.getIndex (cache.tail + 1)) (some msg)
      head := filled.length + 1 - queueSize
      tail := filled.length + 1 } := by
  rw [fill]
  split
  · rename_i full
    have enough := holds.isFull_iff.mp full
    have wraps : cache.tail + 1 = cache.head + cache.capacity := by
      rw [holds.tail, holds.head, holds.capacity]
      omega
    have slot : cache.getIndex (cache.tail + 1) = cache.getIndex cache.head := by
      rw [wraps, getIndex, getIndex, Nat.add_mod_right]
    rw [slot, holds.head, holds.tail, show filled.length - queueSize + 1 = filled.length + 1 - queueSize by omega]
  · rename_i room
    have fewer : ¬ queueSize ≤ filled.length := fun enough => room (holds.isFull_iff.mpr enough)
    have headZero : cache.head = filled.length + 1 - queueSize := by
      rw [holds.head]
      omega
    rw [← headZero, ← holds.tail]

theorem Holds.fill (holds : cache.Holds queueSize filled) (msg : Message) :
    (cache.fill msg).Holds queueSize (filled ++ [msg]) := by
  rw [holds.fill_eq msg]
  constructor
  · exact holds.capacity
  · simpa using holds.length
  · simp
  · simp
  · intro pos above below
    dsimp only at above below
    have index : ∀ num, getIndex { cache with
        buffer := cache.buffer.set (cache.getIndex (cache.tail + 1)) (some msg)
        head := filled.length + 1 - queueSize
        tail := filled.length + 1 } num = cache.getIndex num := fun _ => rfl
    have inRing : cache.getIndex (cache.tail + 1) < cache.buffer.length := by
      rw [holds.length, getIndex]
      exact Nat.mod_lt _ (by rw [holds.capacity]; omega)
    rw [at_, index]
    by_cases newest : pos = filled.length + 1
    · rw [newest, holds.tail] at *
      simp [inRing]
    · have older : pos < cache.tail + 1 := by
        rw [holds.tail]
        omega
      have other : cache.getIndex pos ≠ cache.getIndex (cache.tail + 1) := by
        apply getIndex_ne older
        rw [holds.tail, holds.capacity]
        omega
      rw [List.getElem?_set_ne (Ne.symm other), List.getElem?_append_left (by omega)]
      apply holds.stored pos
      · rw [holds.head]
        omega
      · omega

theorem Holds.at_latest (holds : cache.Holds queueSize filled) (positive : 0 < queueSize) (nonempty : filled ≠ []) :
    cache.at_ filled.length = filled.getLast? := by
  have counted := List.length_pos_iff.mpr nonempty
  have stored := holds.stored filled.length (by rw [holds.head]; omega) (Nat.le_of_eq holds.tail.symm)
  rw [stored, List.getLast?_eq_getElem?]

theorem Holds.latest_eq (holds : cache.Holds queueSize filled) (positive : 0 < queueSize) :
    cache.latest = filled.getLast?.map some := by
  unfold latest isEmpty
  rw [holds.tail]
  by_cases none : filled = []
  · simp [none]
  · have last := List.getLast?_eq_some_getLast none
    rw [if_neg (by simpa using none), holds.at_latest positive none, last]
    rfl

end CacheBuffer

namespace DataVisitor

variable {Message : Type} {visitor : DataVisitor Message} {queueSize : Nat}

/-- What a visitor has delivered and would deliver next: the numbers grow, `TryFetch` gives nothing exactly when the last
    message was delivered, then the messages in turn unless more than the queue size are outstanding, and the newest one
    at the beginning and on an overrun. -/
structure Lawful (visitor : DataVisitor Message) (queueSize : Nat) : Prop where
  increasing : (visitor.delivered.map Prod.fst).Pairwise (· < ·)
  delivers : ∀ number msg, (number, msg) ∈ visitor.delivered →
    0 < number ∧ number ≤ visitor.filled.length ∧ msg = visitor.filled[number - 1]?
  nothing : visitor.upcoming = none ↔ visitor.lastDelivered = visitor.filled.length
  consecutive : 0 < visitor.lastDelivered → visitor.lastDelivered < visitor.filled.length →
    visitor.filled.length - visitor.lastDelivered ≤ queueSize →
    visitor.upcoming = some (visitor.lastDelivered + 1, visitor.filled[visitor.lastDelivered]?)
  overrun : visitor.filled ≠ [] →
    visitor.lastDelivered = 0 ∨ queueSize < visitor.filled.length - visitor.lastDelivered →
    visitor.upcoming = some (visitor.filled.length, visitor.filled.getLast?)

structure Visits (visitor : DataVisitor Message) (queueSize : Nat) : Prop where
  holds : visitor.buffer.Holds queueSize visitor.filled
  next : visitor.nextMsgIndex = if visitor.lastDelivered = 0 then 0 else visitor.lastDelivered + 1
  increasing : (visitor.delivered.map Prod.fst).Pairwise (· < ·)
  delivers : ∀ number msg, (number, msg) ∈ visitor.delivered →
    0 < number ∧ number ≤ visitor.filled.length ∧ msg = visitor.filled[number - 1]?

theorem visits_ofSize (queueSize : Nat) : (ofSize queueSize : DataVisitor Message).Visits queueSize := by
  constructor
  · exact CacheBuffer.holds_ofSize queueSize
  · rfl
  · simp [ofSize]
  · simp [ofSize]

theorem Visits.lastDelivered_le (visits : visitor.Visits queueSize) : visitor.lastDelivered ≤ visitor.filled.length := by
  unfold lastDelivered
  cases last : visitor.delivered.getLast? with
  | none => simp
  | some entry => exact (visits.delivers entry.1 entry.2 (List.mem_of_getLast? last)).2.1

theorem Visits.le_lastDelivered (visits : visitor.Visits queueSize) {entry : Nat × Option Message}
    (member : entry ∈ visitor.delivered) : entry.1 ≤ visitor.lastDelivered := by
  have increasing := visits.increasing
  unfold lastDelivered
  rcases List.eq_nil_or_concat visitor.delivered with none | ⟨before, last, split⟩
  · rw [none] at member
    cases member
  · rw [split] at member increasing ⊢
    rw [List.concat_eq_append] at member ⊢
    simp only [List.concat_eq_append, List.map_append, List.pairwise_append] at increasing
    rcases List.mem_append.mp member with earlier | latest
    · have less := increasing.2.2 entry.1 (List.mem_map_of_mem earlier) last.1 (by simp)
      simpa using Nat.le_of_lt less
    · simp [List.mem_singleton.mp latest]

/-- The four regions of the index: not set, one past the ring, below the ring, inside it. -/
theorem Visits.upcoming_eq (visits : visitor.Visits queueSize) (positive : 0 < queueSize) :
    visitor.upcoming =
      if visitor.lastDelivered = visitor.filled.length then none
      else if visitor.lastDelivered = 0 ∨ queueSize < visitor.filled.length - visitor.lastDelivered then
        some (visitor.filled.length, visitor.filled.getLast?)
      else some (visitor.lastDelivered + 1, visitor.filled[visitor.lastDelivered]?) := by
  have holds := visits.holds
  have bounded := visits.lastDelivered_le
  have empty : visitor.buffer.isEmpty = decide (visitor.filled.length = 0) := by rw [CacheBuffer.isEmpty, holds.tail]
  unfold upcoming CacheBuffer.fetch CacheBuffer.headIndex
  rw [empty, visits.next, holds.tail, holds.head]
  by_cases none : visitor.filled = []
  · have zero : visitor.lastDelivered = 0 := by simpa [none] using bounded
    simp [none, zero]
  have counted := List.length_pos_iff.mpr none
  rw [if_neg (by simp [none]), holds.at_latest positive none]
  by_cases zero : visitor.lastDelivered = 0
  · rw [if_pos zero, if_pos rfl, if_neg (by omega), if_pos (Or.inl zero)]
  rw [if_neg zero, if_neg (Nat.succ_ne_zero _)]
  by_cases all : visitor.lastDelivered = visitor.filled.length
  · rw [if_pos (by omega), if_pos all]
  rw [if_neg (by omega), if_neg all]
  by_cases behind : queueSize < visitor.filled.length - visitor.lastDelivered
  · rw [if_pos (by omega), if_pos (Or.inr behind)]
  · rw [if_neg (by omega), if_neg (by simp [zero, behind])]
    have stored := holds.stored (visitor.lastDelivered + 1) (by rw [holds.head]; omega) (by rw [holds.tail]; omega)
    rw [stored, Nat.add_sub_cancel]

theorem Visits.lawful (visits : visitor.Visits queueSize) (positive : 0 < queueSize) : visitor.Lawful queueSize := by
  have bounded := visits.lastDelivered_le
  constructor
  · exact visits.increasing
  · exact visits.delivers
  · rw [visits.upcoming_eq positive]
    split
    · rename_i all
      simp [all]
    · rename_i more
      split <;> simp [more]
  · intro some_delivered fewer within
    rw [visits.upcoming_eq positive, if_neg (by omega), if_neg (by omega)]
  · intro nonempty jumps
    have counted := List.length_pos_iff.mpr nonempty
    rw [visits.upcoming_eq positive, if_neg (by omega), if_pos jumps]

theorem Visits.fill (visits : visitor.Visits queueSize) (msg : Message) : (visitor.fill msg).Visits queueSize := by
  constructor
  · exact visits.holds.fill msg
  · exact visits.next
  · exact visits.increasing
  · intro number msg' member
    obtain ⟨above, within, same⟩ := visits.delivers number msg' member
    refine ⟨above, ?_, ?_⟩
    · simp only [DataVisitor.fill, List.length_append]
      omega
    · rw [same, DataVisitor.fill, List.getElem?_append_left (by omega)]

theorem Visits.deliver (visits : visitor.Visits queueSize) {number : Nat} (above : visitor.lastDelivered < number)
    (within : number ≤ visitor.filled.length) :
    Visits { visitor with
      nextMsgIndex := number + 1
      delivered := visitor.delivered ++ [(number, visitor.filled[number - 1]?)] } queueSize := by
  constructor
  · exact visits.holds
  · simp [lastDelivered]
    omega
  · simp only [List.map_append, List.pairwise_append]
    refine ⟨visits.increasing, by simp, ?_⟩
    intro earlier member later latest
    obtain ⟨entry, present, rfl⟩ := List.mem_map.mp member
    have bounded := visits.le_lastDelivered present
    simp only [List.map_cons, List.map_nil, List.mem_singleton] at latest
    omega
  · intro other msg member
    rcases List.mem_append.mp member with earlier | latest
    · exact visits.delivers other msg earlier
    · obtain ⟨rfl, rfl⟩ := Prod.mk.inj (List.mem_singleton.mp latest)
      exact ⟨by omega, within, rfl⟩

theorem Visits.tryFetch (visits : visitor.Visits queueSize) (positive : 0 < queueSize) :
    visitor.tryFetch.Visits queueSize := by
  have bounded := visits.lastDelivered_le
  unfold DataVisitor.tryFetch
  rw [visits.upcoming_eq positive]
  by_cases all : visitor.lastDelivered = visitor.filled.length
  · rw [if_pos all]
    exact visits
  rw [if_neg all]
  by_cases jumps : visitor.lastDelivered = 0 ∨ queueSize < visitor.filled.length - visitor.lastDelivered
  · rw [if_pos jumps, List.getLast?_eq_getElem?]
    exact visits.deliver (by omega) Nat.le.refl
  · rw [if_neg jumps]
    exact visits.deliver (Nat.lt_succ_self _) (by omega)

theorem tryFetch_filled (visitor : DataVisitor Message) : visitor.tryFetch.filled = visitor.filled := by
  unfold DataVisitor.tryFetch
  split <;> rfl

theorem tryFetch_delivered (visitor : DataVisitor Message) :
    visitor.tryFetch.delivered = visitor.delivered ++ visitor.upcoming.toList := by
  unfold DataVisitor.tryFetch
  cases visitor.upcoming <;> simp

/-- A visitor that fetches every message before the next has at most the last one outstanding. -/
structure InTurn (visitor : DataVisitor Message) : Prop where
  counted : visitor.lastDelivered = visitor.delivered.length
  atMostOne : visitor.filled.length ≤ visitor.delivered.length + 1
  delivered : visitor.delivered.map Prod.snd = (visitor.filled.take visitor.delivered.length).map some

theorem inTurn_ofSize (queueSize : Nat) : (ofSize queueSize : DataVisitor Message).InTurn := by
  constructor
  · rfl
  · exact Nat.zero_le _
  · rfl

theorem InTurn.settled_iff (inTurn : visitor.InTurn) (visits : visitor.Visits queueSize) (positive : 0 < queueSize) :
    visitor.upcoming = none ↔ visitor.delivered.length = visitor.filled.length := by
  rw [(visits.lawful positive).nothing, inTurn.counted]

theorem InTurn.fill (inTurn : visitor.InTurn) (settled : visitor.delivered.length = visitor.filled.length)
    (msg : Message) : (visitor.fill msg).InTurn := by
  constructor
  · exact inTurn.counted
  · simp [DataVisitor.fill, settled]
  · simpa [DataVisitor.fill, settled] using inTurn.delivered

/-- With one message outstanding the first fetch, the next in turn and an overrun come to the same. -/
theorem InTurn.upcoming_eq (inTurn : visitor.InTurn) (visits : visitor.Visits queueSize) (positive : 0 < queueSize)
    (unsettled : visitor.delivered.length ≠ visitor.filled.length) :
    ∃ msg, visitor.filled = visitor.filled.take visitor.delivered.length ++ [msg] ∧
      visitor.upcoming = some (visitor.delivered.length + 1, some msg) := by
  have atMostOne := inTurn.atMostOne
  have bounded := visits.lastDelivered_le
  rw [inTurn.counted] at bounded
  have counted : visitor.filled.length = visitor.delivered.length + 1 := by omega
  have last : visitor.delivered.length < visitor.filled.length := by omega
  refine ⟨visitor.filled[visitor.delivered.length], ?_, ?_⟩
  · rw [List.take_append_getElem last, ← counted, List.take_length]
  · rw [visits.upcoming_eq positive, inTurn.counted, if_neg unsettled, List.getElem?_eq_getElem last,
      List.getLast?_eq_getElem?]
    simp only [counted, Nat.add_sub_cancel, List.getElem?_eq_getElem last, ite_self]

theorem InTurn.tryFetch (inTurn : visitor.InTurn) (visits : visitor.Visits queueSize) (positive : 0 < queueSize) :
    visitor.tryFetch.InTurn ∧ visitor.tryFetch.delivered.length = visitor.tryFetch.filled.length := by
  unfold DataVisitor.tryFetch
  by_cases settled : visitor.delivered.length = visitor.filled.length
  · rw [(inTurn.settled_iff visits positive).mpr settled]
    exact ⟨inTurn, settled⟩
  obtain ⟨msg, grown, upcoming⟩ := inTurn.upcoming_eq visits positive settled
  have counted : visitor.filled.length = visitor.delivered.length + 1 := by
    have atMostOne := inTurn.atMostOne
    have lengths := congrArg List.length grown
    rw [List.length_append, List.length_take, List.length_singleton] at lengths
    omega
  rw [upcoming]
  refine ⟨?_, by simp [counted]⟩
  constructor
  · simp [lastDelivered]
  · simp [counted]
  · have whole : visitor.filled.take (visitor.delivered.length + 1) = visitor.filled := by
      rw [← counted, List.take_length]
    simp only [List.map_append, List.length_append, List.length_singleton, whole]
    rw [grown, inTurn.delivered]
    simp

end DataVisitor

namespace DataDispatcher

variable {Thread Channel Visitor Message : Type} [DecidableEq Thread] [DecidableEq Visitor]
  {dispatcher next : DataDispatcher Thread Channel Visitor Message}
  {event : DispatchEvent Thread Channel Visitor Message} {visitor : Visitor} {queueSize : Nat}

omit [DecidableEq Thread] in
theorem setVisitor_visits (visits : (dispatcher.visitors visitor).Visits queueSize) {other : Visitor}
    {value : DataVisitor Message} (changed : other = visitor → value.Visits queueSize) :
    ((dispatcher.setVisitor other value).visitors visitor).Visits queueSize := by
  show (Function.update dispatcher.visitors other value visitor).Visits queueSize
  rw [Function.update_apply]
  split
  · rename_i same
    exact changed same.symm
  · exact visits

theorem step_visits (positive : 0 < queueSize) (taken : dispatcher.step event = some next)
    (visits : (dispatcher.visitors visitor).Visits queueSize) : (next.visitors visitor).Visits queueSize := by
  cases event with
  | dispatch thread channel msg =>
    simp only [step, dispatch] at taken
    split at taken
    · cases taken
    · split at taken
      · cases taken
        exact visits
      · split at taken <;> cases taken <;> exact visits
  | fill thread =>
    simp only [step, fillNext] at taken
    split at taken
    · cases taken
    · cases taken
      exact visits
    · split at taken
      · cases taken
        exact visits
      · cases taken
        apply setVisitor_visits visits
        rintro rfl
        exact visits.fill _
  | tryFetch other =>
    simp only [step] at taken
    split at taken
    · cases taken
    · cases taken
      apply setVisitor_visits visits
      rintro rfl
      exact visits.tryFetch positive
  | release other =>
    cases taken
    exact visits
  | shutdown =>
    cases taken
    exact visits

/-- Whatever the dispatching threads and the visitors do, every visitor gets the messages of its buffer in order. -/
theorem visitors_in_order (buffersMap : Channel → Option (List Visitor)) (queueSize : Visitor → Nat)
    {events : List (DispatchEvent Thread Channel Visitor Message)}
    (ran : run step (start buffersMap queueSize) events = some dispatcher) (visitor : Visitor)
    (positive : 0 < queueSize visitor) : (dispatcher.visitors visitor).Lawful (queueSize visitor) := by
  have visits : (dispatcher.visitors visitor).Visits (queueSize visitor) := by
    apply (meets_true (start buffersMap queueSize) events).preserves
      (fun reached : DataDispatcher Thread Channel Visitor Message =>
        (reached.visitors visitor).Visits (queueSize visitor)) _ _ ran
    · exact fun _ _ _ _ taken visits => step_visits positive taken visits
    · exact DataVisitor.visits_ofSize (queueSize visitor)
  exact visits.lawful positive

/-- Four messages for a queue of two: the first is fetched, the next three are an overrun. -/
def overrun : List (DispatchEvent Unit Unit Unit Nat) :=
  [.dispatch () () 1, .fill (), .tryFetch (), .fill ()] ++
    [2, 3, 4].flatMap (fun msg => [.dispatch () () msg, .fill (), .fill ()]) ++ [.tryFetch (), .tryFetch ()]

theorem overrun_in_order :
    ∃ dispatcher, run step (start (fun _ => some [()]) fun _ => 2) overrun = some dispatcher ∧
      (dispatcher.visitors ()).delivered = [(1, some 1), (4, some 4)] ∧
      (dispatcher.visitors ()).Lawful 2 := by
  have reached : (run step (start (fun _ => some [()]) fun _ => 2) overrun).any (fun dispatcher =>
      decide ((dispatcher.visitors ()).delivered = [(1, some 1), (4, some 4)])) = true := by
    decide +kernel
  obtain ⟨dispatcher, ran, delivered⟩ := (Option.any_eq_true _ _).mp reached
  exact ⟨dispatcher, ran, of_decide_eq_true delivered, visitors_in_order _ _ ran () Nat.two_pos⟩

end DataDispatcher

end CyberRT.Data

import Mathlib.Data.Fin.VecNotation
import CyberRT.Data.Deliveries

namespace CyberRT.Data

open Execution

/-- A message on the main channel or on one of the `n` other channels of a fusion. -/
inductive Arrival (M0 : Type) {n : Nat} (M : Fin n → Type) where
  | main (msg : M0)
  | other (channel : Fin n) (msg : M channel)

/-- `FusionDataType`: the pointers to the other messages may be null. -/
abbrev FusionDataType (M0 : Type) {n : Nat} (M : Fin n → Type) : Type := M0 × ∀ channel, Option (M channel)

/-- `AllLatest`, whose callback stands in the place of the main buffer, with the visitor that reads its own buffer. -/
structure AllLatest (M0 : Type) {n : Nat} (M : Fin n → Type) where
  others : ∀ channel, CacheBuffer (M channel)
  visitor : DataVisitor (FusionDataType M0 M)

abbrev AllLatest2 (M0 M1 : Type) : Type := AllLatest M0 ![M1]

abbrev AllLatest3 (M0 M1 M2 : Type) : Type := AllLatest M0 ![M1, M2]

abbrev AllLatest4 (M0 M1 M2 M3 : Type) : Type := AllLatest M0 ![M1, M2, M3]

inductive FusionEvent (M0 : Type) {n : Nat} (M : Fin n → Type) where
  | fill (arrival : Arrival M0 M)
  | tryFetch

variable {M0 : Type} {n : Nat} {M : Fin n → Type}

def Arrival.onChannel (channel : Fin n) : Arrival M0 M → Option (M channel)
  | .main _ => none
  | .other here msg => if same : here = channel then some (same ▸ msg) else none

def latestOf (past : List (Arrival M0 M)) (channel : Fin n) : Option (M channel) :=
  (past.filterMap (Arrival.onChannel channel)).getLast?

/-- The tuple due for a message that arrives after `past`. -/
def tupleAt (past : List (Arrival M0 M)) : Arrival M0 M → Option (FusionDataType M0 M)
  | .main msg => if ∀ channel, (latestOf past channel).isSome then some (msg, latestOf past) else none
  | .other _ _ => none

/-- The tuples of a fusion in the order of the messages of the main channel. -/
def tuples (arrivals : List (Arrival M0 M)) : List (FusionDataType M0 M) :=
  (List.range arrivals.length).filterMap fun k => arrivals[k]?.bind (tupleAt (arrivals.take k))

def FusionEvent.arrival : FusionEvent M0 M → Option (Arrival M0 M)
  | .fill arrival => some arrival
  | .tryFetch => none

namespace AllLatest

/-- The fusion buffer is as large as that of the main channel. -/
def start (queueSize : Nat) (queueSizes : Fin n → Nat) : AllLatest M0 M where
  others channel := .ofSize (queueSizes channel)
  visitor := .ofSize queueSize

variable (fusion : AllLatest M0 M)

/-- The calls of `Latest` of the callback, which gives up when one of them fails. -/
def latest : Option (∀ channel, Option (M channel)) :=
  if ∀ channel, (fusion.others channel).latest.isSome then some fun channel => (fusion.others channel).latest.join
  else none

def fusionCallback (msg : M0) : AllLatest M0 M :=
  match fusion.latest with
  | none => fusion
  | some rest => { fusion with visitor := fusion.visitor.fill (msg, rest) }

/-- `Fill` of the buffer of the channel. -/
def fill : Arrival M0 M → AllLatest M0 M
  | .main msg => fusion.fusionCallback msg
  | .other channel msg => { fusion with
      others := Function.update fusion.others channel ((fusion.others channel).fill msg) }

def tryFetch : AllLatest M0 M := { fusion with visitor := fusion.visitor.tryFetch }

def step (fusion : AllLatest M0 M) : FusionEvent M0 M → Option (AllLatest M0 M)
  | .fill arrival => some (fusion.fill arrival)
  | .tryFetch => some fusion.tryFetch

theorem fill_visitor (arrival : Arrival M0 M) :
    (fusion.fill arrival).visitor = fusion.visitor ∨
      ∃ data, (fusion.fill arrival).visitor = fusion.visitor.fill data := by
  cases arrival with
  | main msg =>
    simp only [fill, fusionCallback]
    split
    · exact Or.inl rfl
    · rename_i rest _
      exact Or.inr ⟨(msg, rest), rfl⟩
  | other channel msg => exact Or.inl rfl

end AllLatest

theorem tuples_snoc (past : List (Arrival M0 M)) (arrival : Arrival M0 M) :
    tuples (past ++ [arrival]) = tuples past ++ (tupleAt past arrival).toList := by
  unfold tuples
  rw [List.length_append, List.length_singleton, List.range_succ, List.filterMap_append]
  congr 1
  · apply List.filterMap_congr
    intro k member
    have earlier := List.mem_range.mp member
    rw [List.getElem?_append_left earlier, List.take_append_of_le_length (Nat.le_of_lt earlier)]
  · cases due : tupleAt past arrival <;> simp [due]

theorem latestOf_eq_none_of_main (past : List (Arrival M0 M)) (msg : M0) (channel : Fin n) :
    (past ++ [Arrival.main msg]).filterMap (Arrival.onChannel channel) =
      past.filterMap (Arrival.onChannel channel) := by
  simp [Arrival.onChannel]

theorem filterMap_other (past : List (Arrival M0 M)) (here channel : Fin n) (msg : M here) :
    (past ++ [Arrival.other here msg]).filterMap (Arrival.onChannel channel) =
      past.filterMap (Arrival.onChannel channel) ++ if same : here = channel then [same ▸ msg] else [] := by
  rw [List.filterMap_append]
  congr 1
  by_cases same : here = channel <;> simp [Arrival.onChannel, same]

namespace AllLatest

variable {fusion next : AllLatest M0 M} {queueSize : Nat} {queueSizes : Fin n → Nat} {past : List (Arrival M0 M)}

/-- The buffers of the other channels have what arrived there, and the fusion buffer has the tuples due. -/
structure Follows (fusion : AllLatest M0 M) (queueSize : Nat) (queueSizes : Fin n → Nat)
    (past : List (Arrival M0 M)) : Prop where
  others : ∀ channel, (fusion.others channel).Holds (queueSizes channel) (past.filterMap (Arrival.onChannel channel))
  filled : fusion.visitor.filled = tuples past
  visits : fusion.visitor.Visits queueSize

theorem follows_start (queueSize : Nat) (queueSizes : Fin n → Nat) :
    (start queueSize queueSizes : AllLatest M0 M).Follows queueSize queueSizes [] := by
  constructor
  · exact fun channel => CacheBuffer.holds_ofSize (queueSizes channel)
  · rfl
  · exact DataVisitor.visits_ofSize queueSize

theorem Follows.latest_eq (follows : fusion.Follows queueSize queueSizes past)
    (positive : ∀ channel, 0 < queueSizes channel) :
    fusion.latest = if ∀ channel, (latestOf past channel).isSome then some (latestOf past) else none := by
  have each : ∀ channel, (fusion.others channel).latest = (latestOf past channel).map some :=
    fun channel => (follows.others channel).latest_eq (positive channel)
  unfold latest
  simp only [each, Option.isSome_map]
  split
  · congr 1
    funext channel
    cases latestOf past channel <;> rfl
  · rfl

theorem Follows.fill_main (follows : fusion.Follows queueSize queueSizes past)
    (positive : ∀ channel, 0 < queueSizes channel) (msg : M0) :
    (fusion.fill (.main msg)).Follows queueSize queueSizes (past ++ [.main msg]) := by
  have same := latestOf_eq_none_of_main past msg
  simp only [fill, fusionCallback]
  rw [follows.latest_eq positive]
  by_cases all : ∀ channel, (latestOf past channel).isSome
  · rw [if_pos all]
    constructor
    · exact fun channel => (same channel).symm ▸ follows.others channel
    · simp [tuples_snoc, tupleAt, all, DataVisitor.fill, follows.filled]
    · exact follows.visits.fill _
  · rw [if_neg all]
    constructor
    · exact fun channel => (same channel).symm ▸ follows.others channel
    · simp [tuples_snoc, tupleAt, all, follows.filled]
    · exact follows.visits

theorem Follows.fill_other (follows : fusion.Follows queueSize queueSizes past) (here : Fin n) (msg : M here) :
    (fusion.fill (.other here msg)).Follows queueSize queueSizes (past ++ [.other here msg]) := by
  constructor
  · intro channel
    rw [filterMap_other]
    show (Function.update fusion.others here ((fusion.others here).fill msg) channel).Holds _ _
    by_cases same : here = channel
    · subst same
      rw [Function.update_self, dif_pos rfl]
      exact (follows.others here).fill msg
    · rw [Function.update_of_ne (Ne.symm same), dif_neg same, List.append_nil]
      exact follows.others channel
  · simp [tuples_snoc, tupleAt, fill, follows.filled]
  · exact follows.visits

theorem Follows.tryFetch (follows : fusion.Follows queueSize queueSizes past) (positive : 0 < queueSize) :
    fusion.tryFetch.Follows queueSize queueSizes past := by
  constructor
  · exact follows.others
  · rw [← follows.filled]
    exact DataVisitor.tryFetch_filled fusion.visitor
  · exact follows.visits.tryFetch positive

theorem follows_step (positive : 0 < queueSize) (positives : ∀ channel, 0 < queueSizes channel)
    {event : FusionEvent M0 M} (taken : fusion.step event = some next)
    (follows : fusion.Follows queueSize queueSizes past) :
    next.Follows queueSize queueSizes (past ++ event.arrival.toList) := by
  cases event with
  | fill arrival =>
    cases taken
    cases arrival with
    | main msg => exact follows.fill_main positives msg
    | other channel msg => exact follows.fill_other channel msg
  | tryFetch =>
    cases taken
    simpa [FusionEvent.arrival] using follows.tryFetch positive

/-- Whenever the messages arrive and the visitor fetches, the fusion buffer gets the tuples due, each once and in the
    order of the main channel, and the visitor delivers them as it would those of a single channel. -/
theorem fused_in_order (positive : 0 < queueSize) (positives : ∀ channel, 0 < queueSizes channel)
    {events : List (FusionEvent M0 M)} (ran : run step (start queueSize queueSizes) events = some fusion) :
    fusion.visitor.filled = tuples (events.filterMap FusionEvent.arrival) ∧ fusion.visitor.Lawful queueSize := by
  have follows : fusion.Follows queueSize queueSizes (events.filterMap FusionEvent.arrival) := by
    refine run_invariant (fun (reached : AllLatest M0 M) past =>
      reached.Follows queueSize queueSizes (past.filterMap FusionEvent.arrival)) ?_ (follows_start ..) ran
    intro reached past event next taken follows
    have kept := follows_step positive positives taken follows
    rw [List.filterMap_append]
    cases arrived : event.arrival <;> simpa [arrived] using kept
  exact ⟨follows.filled, follows.visits.lawful positive⟩

/-- Three channels; the first message of the main channel comes before the others have one. -/
def threeChannels : List (FusionEvent Nat ![Nat, Nat]) :=
  [.fill (.main 0), .fill (.other 0 (10 : Nat)), .fill (.other 1 (20 : Nat)), .tryFetch, .fill (.main 1),
    .fill (.other 0 (11 : Nat)), .tryFetch, .fill (.main 2), .tryFetch]

def pointers3 {M0 M1 M2 : Type} (data : FusionDataType M0 ![M1, M2]) : M0 × Option M1 × Option M2 :=
  (data.1, data.2 0, data.2 1)

def delivered3 {M0 M1 M2 : Type} (fusion : AllLatest3 M0 M1 M2) : List (Option (M0 × Option M1 × Option M2)) :=
  fusion.visitor.delivered.map fun entry => entry.2.map pointers3

theorem threeChannels_in_order :
    ∃ fusion : AllLatest3 Nat Nat Nat, run step (start 1 fun _ => 1) threeChannels = some fusion ∧
      delivered3 fusion = [some (1, some 10, some 20), some (2, some 11, some 20)] ∧
      fusion.visitor.filled = tuples (threeChannels.filterMap FusionEvent.arrival) ∧ fusion.visitor.Lawful 1 := by
  have reached : (run step (start 1 fun _ => 1 : AllLatest3 Nat Nat Nat) threeChannels).any (fun fusion =>
      decide (delivered3 fusion = [some (1, some 10, some 20), some (2, some 11, some 20)])) = true := by
    decide +kernel
  obtain ⟨fusion, ran, delivered⟩ := (Option.any_eq_true _ _).mp reached
  exact ⟨fusion, ran, of_decide_eq_true delivered, fused_in_order Nat.one_pos (fun _ => Nat.one_pos) ran⟩

end AllLatest

end CyberRT.Data

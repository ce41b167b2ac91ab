import Mathlib.Data.List.Basic
import Mathlib.Data.List.TakeWhile

namespace Lists

variable {α : Type} (time : α → Nat)

/-- What one window takes from the front of a sequence that stops at the first item behind the window. -/
def visible (first last : Nat) (items : List α) : List α :=
  (items.takeWhile fun item => time item ≤ last).filter fun item => first ≤ time item

def beyond (last : Nat) (items : List α) : List α :=
  items.dropWhile fun item => time item ≤ last

theorem mem_visible {first last : Nat} {items : List α} {item : α} (member : item ∈ visible time first last items) :
    item ∈ items ∧ first ≤ time item ∧ time item ≤ last := by
  obtain ⟨taken, low⟩ := List.mem_filter.mp member
  exact ⟨(List.takeWhile_sublist _).subset taken, by simpa using low, by simpa using List.mem_takeWhile_imp taken⟩

theorem beyond_sublist (last : Nat) (items : List α) : (beyond time last items).Sublist items :=
  List.dropWhile_sublist _

theorem beyond_cons_of_le {last : Nat} {item : α} (within : time item ≤ last) (rest : List α) :
    beyond time last (item :: rest) = beyond time last rest := by
  rw [beyond, List.dropWhile_cons, if_pos (decide_eq_true within), beyond]

theorem beyond_cons_of_lt {last : Nat} {item : α} (later : last < time item) (rest : List α) :
    beyond time last (item :: rest) = item :: rest := by
  rw [beyond, List.dropWhile_cons, if_neg (by simpa using later)]

theorem visible_cons_of_le {first last : Nat} {item : α} (within : time item ≤ last) (rest : List α) :
    visible time first last (item :: rest) =
      if first ≤ time item then item :: visible time first last rest else visible time first last rest := by
  rw [visible, List.takeWhile_cons, if_pos (decide_eq_true within), List.filter_cons, visible]
  simp only [decide_eq_true_eq]

theorem visible_cons_of_lt {first last : Nat} {item : α} (later : last < time item) (rest : List α) :
    visible time first last (item :: rest) = [] := by
  rw [visible, List.takeWhile_cons, if_neg (by simpa using later), List.filter_nil]

theorem length_visible_beyond (first last : Nat) (items : List α) :
    (visible time first last items).length + (beyond time last items).length ≤ items.length := by
  have fewer : (visible time first last items).length ≤
      (items.takeWhile fun item => time item ≤ last).length := List.length_filter_le ..
  have whole := congrArg List.length
    (List.takeWhile_append_dropWhile (p := fun item => decide (time item ≤ last)) (l := items))
  rw [List.length_append] at whole
  unfold beyond
  omega

theorem visible_sorted {items : List α} (sorted : items.Pairwise fun before after => time before ≤ time after)
    (first last : Nat) : visible time first last items =
      items.filter fun item => decide (first ≤ time item ∧ time item ≤ last) := by
  induction items with
  | nil => rfl
  | cons item rest ih =>
    obtain ⟨least, later⟩ := List.pairwise_cons.mp sorted
    by_cases within : time item ≤ last
    · rw [visible_cons_of_le time within, ih later, List.filter_cons]
      simp only [within, and_true, decide_eq_true_eq]
    · have none : (item :: rest).filter (fun item => decide (first ≤ time item ∧ time item ≤ last)) = [] := by
        apply List.filter_eq_nil_iff.mpr
        intro other member
        rcases List.mem_cons.mp member with rfl | member
        · simp [within]
        · have after := least other member
          simp only [decide_eq_true_eq]
          omega
      rw [visible_cons_of_lt time (Nat.lt_of_not_le within), none]

theorem beyond_sorted {items : List α} (sorted : items.Pairwise fun before after => time before ≤ time after)
    (last : Nat) : beyond time last items = items.filter fun item => decide (last < time item) := by
  induction items with
  | nil => rfl
  | cons item rest ih =>
    obtain ⟨least, later⟩ := List.pairwise_cons.mp sorted
    by_cases within : time item ≤ last
    · rw [beyond_cons_of_le time within, ih later, List.filter_cons_of_neg (by simpa using within)]
    · have all : (item :: rest).filter (fun item => decide (last < time item)) = item :: rest := by
        apply List.filter_eq_self.mpr
        intro other member
        rcases List.mem_cons.mp member with rfl | member
        · simpa using within
        · have after := least other member
          simp only [decide_eq_true_eq]
          omega
      rw [beyond_cons_of_lt time (Nat.lt_of_not_le within), all]

/-- Closed windows, each of which begins right behind the one before it. -/
inductive Consecutive : Nat → Nat → List (Nat × Nat) → Prop
  | single {first last : Nat} : first ≤ last → Consecutive first last [(first, last)]
  | cons {first edge last : Nat} {windows : List (Nat × Nat)} : first ≤ edge → Consecutive (edge + 1) last windows →
    Consecutive first last ((first, edge) :: windows)

theorem Consecutive.first_le {first last : Nat} {windows : List (Nat × Nat)}
    (consecutive : Consecutive first last windows) : first ≤ last := by
  induction consecutive with
  | single within => exact within
  | cons within _ ih => omega

theorem Consecutive.within {first last : Nat} {windows : List (Nat × Nat)}
    (consecutive : Consecutive first last windows) :
    ∀ window ∈ windows, first ≤ window.1 ∧ window.1 ≤ window.2 ∧ window.2 ≤ last := by
  induction consecutive with
  | single within =>
    intro window member
    rw [List.mem_singleton.mp member]
    exact ⟨Nat.le_refl _, within, Nat.le_refl _⟩
  | cons within rest ih =>
    intro window member
    rcases List.mem_cons.mp member with rfl | member
    · have before := rest.first_le
      exact ⟨Nat.le_refl _, within, by omega⟩
    · have inside := ih window member
      omega

/-- What windows take one after the other from the front of a sequence. -/
def takenBy : List (Nat × Nat) → List α → List α
  | [], _ => []
  | window :: windows, items => visible time window.1 window.2 items ++ takenBy windows (beyond time window.2 items)

theorem takenBy_past {windows : List (Nat × Nat)} {items : List α}
    (past : ∀ window ∈ windows, ∀ item ∈ items, time item < window.1) : takenBy time windows items = [] := by
  induction windows generalizing items with
  | nil => rfl
  | cons window windows ih =>
    have none : visible time window.1 window.2 items = [] := by
      apply List.eq_nil_iff_forall_not_mem.mpr
      intro item member
      obtain ⟨present, low, _⟩ := mem_visible time member
      have before := past window (List.mem_cons_self ..) item present
      omega
    rw [takenBy, none, List.nil_append]
    apply ih
    intro other member item left
    exact past other (List.mem_cons_of_mem _ member) item ((beyond_sublist time window.2 items).subset left)

/-- Consecutive windows take everything in their range from a sequence in the order of time. -/
theorem takenBy_sorted {first last : Nat} {windows : List (Nat × Nat)}
    (consecutive : Consecutive first last windows) {items : List α}
    (sorted : items.Pairwise fun before after => time before ≤ time after) :
    takenBy time windows items = items.filter fun item => decide (first ≤ time item ∧ time item ≤ last) := by
  induction consecutive generalizing items with
  | single within => rw [takenBy, takenBy, List.append_nil, visible_sorted time sorted]
  | @cons first edge last windows within rest ih =>
    have reach := rest.first_le
    have later := sorted.sublist (beyond_sublist time edge items)
    rw [takenBy, ih later, visible_sorted time sorted, beyond_sorted time sorted, List.filter_filter]
    clear ih later
    induction items with
    | nil => rfl
    | cons item items ih =>
      obtain ⟨least, ordered⟩ := List.pairwise_cons.mp sorted
      have tail := ih ordered
      by_cases here : first ≤ time item ∧ time item ≤ edge
      · rw [List.filter_cons_of_pos (by simpa using here), List.filter_cons_of_neg (by simp; omega),
          List.filter_cons_of_pos (by simp; omega), List.cons_append, tail]
      · rw [List.filter_cons_of_neg (by simpa using here)]
        by_cases early : time item < first
        · rw [List.filter_cons_of_neg (by simp; omega), List.filter_cons_of_neg (by simp; omega), tail]
        · -- Nothing is left for the first window behind an item that is beyond it.
          have none : items.filter (fun item => decide (first ≤ time item ∧ time item ≤ edge)) = [] := by
            apply List.filter_eq_nil_iff.mpr
            intro other member
            have after := least other member
            simp only [decide_eq_true_eq]
            omega
          rw [none, List.nil_append] at tail ⊢
          rw [List.filter_cons, List.filter_cons, tail]
          congr 1
          simp only [decide_eq_true_eq, Bool.and_eq_true, eq_iff_iff]
          omega

/-- The last time of the window that a time falls into, for windows of this width from `first` on. -/
def windowEnd (width first t : Nat) : Nat :=
  first + (t - first) / (width + 1) * (width + 1) + width

theorem le_windowEnd (width first t : Nat) : t ≤ windowEnd width first t := by
  have split := Nat.div_add_mod (t - first) (width + 1)
  have small := Nat.mod_lt (t - first) (show 0 < width + 1 by omega)
  rw [Nat.mul_comm] at split
  unfold windowEnd
  omega

theorem windowEnd_here {width first t : Nat} (here : t ≤ first + width) : windowEnd width first t = first + width := by
  have zero : (t - first) / (width + 1) = 0 := Nat.div_eq_of_lt (by omega)
  rw [windowEnd, zero]
  omega

theorem windowEnd_later {width first t : Nat} (later : first + width < t) :
    windowEnd width first t = windowEnd width (first + width + 1) t := by
  have shifted : t - first = (t - (first + width + 1)) + (width + 1) := by omega
  rw [windowEnd, windowEnd, shifted, Nat.add_div_right _ (show 0 < width + 1 by omega), Nat.succ_mul]
  omega

/-- What the windows from `first` to `last` take from a sequence, where `highest` is the latest time before it: an
    item of the range that no earlier item holds back beyond its window or beyond the range. -/
def shown (width first last : Nat) : Nat → List α → List α
  | _, [] => []
  | highest, item :: rest =>
    if first ≤ time item ∧ max highest (time item) ≤ min last (windowEnd width first (time item)) then
      item :: shown width first last (max highest (time item)) rest
    else shown width first last (max highest (time item)) rest

theorem shown_sublist (width first last highest : Nat) (items : List α) :
    (shown time width first last highest items).Sublist
      (items.filter fun item => first ≤ time item ∧ time item ≤ last) := by
  induction items generalizing highest with
  | nil => exact List.Sublist.slnil
  | cons item rest ih =>
    rw [shown]
    split
    · rename_i seen
      have inside : first ≤ time item ∧ time item ≤ last := by omega
      rw [List.filter_cons_of_pos (by simpa using inside)]
      exact (ih _).cons_cons item
    · exact (ih _).trans ((List.sublist_cons_self ..).filter _)

theorem shown_past {width first last highest : Nat} (past : last < first) (items : List α) :
    shown time width first last highest items = [] := by
  induction items generalizing highest with
  | nil => rfl
  | cons item rest ih => rw [shown, if_neg (by omega), ih]

theorem shown_behind {width first last highest : Nat} (behind : min (first + width) last < highest)
    (items : List α) :
    shown time width first last highest items =
      shown time width (min (first + width) last + 1) last highest items := by
  induction items generalizing highest with
  | nil => rfl
  | cons item rest ih =>
    have next := @ih (max highest (time item)) (by omega)
    by_cases here : time item ≤ first + width
    · have same := windowEnd_here here
      rw [shown, shown, if_neg (by omega), if_neg (by omega), next]
    · by_cases clamped : last ≤ first + width
      · rw [shown, shown, if_neg (by omega), if_neg (by omega), next]
      · have moved := windowEnd_later (Nat.lt_of_not_le here)
        have edge : min (first + width) last = first + width := by omega
        rw [edge] at next ⊢
        rw [shown, shown, ← moved, next]
        congr 1
        apply propext
        omega

theorem shown_before {width first last before highest : Nat} (left : before < first) (right : highest < first)
    (items : List α) : shown time width first last before items = shown time width first last highest items := by
  induction items generalizing before highest with
  | nil => rfl
  | cons item rest ih =>
    by_cases early : time item < first
    · rw [shown, shown, if_neg (by omega), if_neg (by omega)]
      exact ih (by omega) (by omega)
    · have same : max before (time item) = max highest (time item) := by omega
      rw [shown, shown, same]

theorem shown_window {width first last highest : Nat}
    (low : highest ≤ min (first + width) last) (items : List α) :
    shown time width first last highest items =
      visible time first (min (first + width) last) items ++
        shown time width (min (first + width) last + 1) last highest (beyond time (min (first + width) last) items) := by
  induction items generalizing highest with
  | nil => rfl
  | cons item rest ih =>
    by_cases inside : time item ≤ min (first + width) last
    · have next := @ih (max highest (time item)) (by omega)
      have same := @windowEnd_here width first (time item) (by omega)
      have forgets := @shown_before α time width (min (first + width) last + 1) last (max highest (time item)) highest
        (by omega) (by omega) (beyond time (min (first + width) last) rest)
      rw [forgets] at next
      rw [beyond_cons_of_le time inside, visible_cons_of_le time inside, shown, next]
      by_cases early : first ≤ time item
      · rw [if_pos (by omega), if_pos early, List.cons_append]
      · rw [if_neg (by omega), if_neg early]
    · have later := Nat.lt_of_not_le inside
      have next := @shown_behind α time width first last (max highest (time item)) (by omega) rest
      rw [beyond_cons_of_lt time later, visible_cons_of_lt time later, List.nil_append, shown, shown, next]
      by_cases clamped : last ≤ first + width
      · rw [if_neg (by omega), if_neg (by omega)]
      · have edge : min (first + width) last = first + width := by omega
        rw [edge] at inside ⊢
        have moved := windowEnd_later (Nat.lt_of_not_le inside)
        rw [← moved]
        congr 1
        apply propext
        omega

/-- An item of the range that passes is not hidden by an earlier time: that time is beyond neither the item's window
    nor the range. -/
def Clear (width first last : Nat) (passes : α → Bool) (earlier : Nat) (item : α) : Prop :=
  first ≤ time item → time item ≤ last → passes item = true →
    earlier ≤ last ∧ earlier ≤ windowEnd width first (time item)

instance (width first last : Nat) (passes : α → Bool) (earlier : Nat) (item : α) :
    Decidable (Clear time width first last passes earlier item) := by
  unfold Clear
  infer_instance

variable {time}

theorem clear_max {width first last : Nat} {passes : α → Bool} {left right : Nat} {item : α} :
    Clear time width first last passes (max left right) item ↔
      Clear time width first last passes left item ∧ Clear time width first last passes right item := by
  simp only [Clear, Nat.max_le]
  constructor
  · intro both
    refine ⟨fun low high pass => ?_, fun low high pass => ?_⟩
    · have here := both low high pass
      omega
    · have here := both low high pass
      omega
  · intro both low high pass
    have one := both.1 low high pass
    have two := both.2 low high pass
    omega

theorem shown_length_le {width first last highest : Nat} (passes : α → Bool) (items : List α) :
    ((shown time width first last highest items).filter passes).length ≤
      (items.filter fun item => decide (first ≤ time item ∧ time item ≤ last) && passes item).length := by
  have bounded := ((shown_sublist time width first last highest items).filter passes).length_le
  rw [List.filter_filter] at bounded
  simpa only [Bool.and_comm] using bounded

/-- The windows show everything that passes exactly when no item is hidden by one before it. -/
theorem shown_eq_iff {width first last highest : Nat} (passes : α → Bool) (items : List α) :
    (shown time width first last highest items).filter passes =
        items.filter (fun item => decide (first ≤ time item ∧ time item ≤ last) && passes item) ↔
      (∀ item ∈ items, Clear time width first last passes highest item) ∧
      items.Pairwise fun before item => Clear time width first last passes (time before) item := by
  induction items generalizing highest with
  | nil => simp [shown]
  | cons item rest ih =>
    have reaches := le_windowEnd width first (time item)
    have smaller := @shown_length_le α time width first last (max highest (time item)) passes rest
    have step := @ih (max highest (time item))
    simp only [clear_max, forall_and] at step
    rw [List.forall_mem_cons, List.pairwise_cons]
    by_cases counts : first ≤ time item ∧ time item ≤ last ∧ passes item = true
    · obtain ⟨low, high, pass⟩ := counts
      rw [List.filter_cons_of_pos (by simp [low, high, pass]), shown]
      by_cases seen : max highest (time item) ≤ min last (windowEnd width first (time item))
      · have free : Clear time width first last passes highest item := by
          intro _ _ _
          omega
        rw [if_pos ⟨low, seen⟩, List.filter_cons_of_pos pass, List.cons.injEq, step]
        tauto
      · rw [if_neg (by tauto)]
        constructor
        · intro same
          have lengths := congrArg List.length same
          rw [List.length_cons] at lengths
          omega
        · intro both
          have free := both.1.1 low high pass
          omega
    · have free : Clear time width first last passes highest item := by
        intro low high pass
        exact absurd ⟨low, high, pass⟩ counts
      rw [List.filter_cons_of_neg (by simpa [and_assoc] using counts), shown]
      split
      · rename_i seen
        have fails : ¬ passes item = true := fun pass => counts ⟨seen.1, by omega, pass⟩
        rw [List.filter_cons_of_neg fails, step]
        tauto
      · rw [step]
        tauto

theorem Clear.congr {width first last : Nat} {passes other : α → Bool} {earlier : Nat} {item : α}
    (clear : Clear time width first last passes earlier item)
    (same : first ≤ time item → time item ≤ last → other item = true → passes item = true) :
    Clear time width first last other earlier item :=
  fun low high pass => clear low high (same low high pass)

theorem shown_wanted_sublist {width first last highest : Nat} {passes wanted : α → Bool}
    (narrower : ∀ item, passes item = true → wanted item = true) (items : List α) :
    ((shown time width first last highest items).filter passes).Sublist
      (items.filter fun item => decide (first ≤ time item ∧ time item ≤ last) && wanted item) := by
  have part := (shown_sublist time width first last highest items).filter passes
  rw [List.filter_filter] at part
  apply part.trans
  apply List.monotone_filter_right
  intro item both
  obtain ⟨pass, within⟩ := Bool.and_eq_true_iff.mp both
  exact Bool.and_eq_true_iff.mpr ⟨within, narrower item pass⟩

/-- The windows and a narrower filter show everything that is wanted exactly when the filter holds nothing back that is
    wanted and no wanted item is hidden by one before it. -/
theorem shown_wanted_iff {width first last : Nat} {passes wanted : α → Bool}
    (narrower : ∀ item, passes item = true → wanted item = true) (items : List α) :
    (shown time width first last 0 items).filter passes =
        items.filter (fun item => decide (first ≤ time item ∧ time item ≤ last) && wanted item) ↔
      (∀ item ∈ items, first ≤ time item → time item ≤ last → wanted item = true → passes item = true) ∧
      items.Pairwise fun before item => Clear time width first last wanted (time before) item := by
  have free : ∀ item ∈ items, Clear time width first last passes 0 item :=
    fun _ _ _ _ _ => ⟨Nat.zero_le _, Nat.zero_le _⟩
  have agree : (∀ item ∈ items, first ≤ time item → time item ≤ last → wanted item = true → passes item = true) →
      items.filter (fun item => decide (first ≤ time item ∧ time item ≤ last) && wanted item) =
        items.filter (fun item => decide (first ≤ time item ∧ time item ≤ last) && passes item) := by
    intro kept
    apply List.filter_congr
    intro item member
    rw [Bool.eq_iff_iff, Bool.and_eq_true, Bool.and_eq_true, decide_eq_true_eq]
    exact and_congr_right fun within => ⟨kept item member within.1 within.2, narrower item⟩
  apply Iff.intro
  · intro same
    have kept : ∀ item ∈ items, first ≤ time item → time item ≤ last → wanted item = true → passes item = true := by
      intro item member low high wants
      have shows' : item ∈ (shown time width first last 0 items).filter passes := by
        rw [same]
        exact List.mem_filter.mpr ⟨member, by simp [low, high, wants]⟩
      exact (List.mem_filter.mp shows').2
    rw [agree kept, shown_eq_iff] at same
    apply And.intro kept
    exact same.2.imp_of_mem fun _ later clear => clear.congr (kept _ later)
  · intro ⟨kept, clear⟩
    rw [agree kept, shown_eq_iff]
    exact ⟨free, clear.imp fun clear => clear.congr fun _ _ => narrower _⟩

end Lists

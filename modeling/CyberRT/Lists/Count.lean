import Mathlib.Algebra.BigOperators.Group.List.Basic
import Mathlib.Algebra.Order.BigOperators.Group.List
import Mathlib.Algebra.Order.Group.Nat
import Mathlib.Algebra.Ring.Nat
import Mathlib.Data.List.Nodup

namespace Lists

variable {α : Type*}

theorem countP_le_one_of_unique {l : List α} {p : α → Bool} (nodup : l.Nodup)
    (unique : ∀ a ∈ l, ∀ b ∈ l, p a = true → p b = true → a = b) : l.countP p ≤ 1 := by
  rw [List.countP_eq_length_filter]
  have distinct := nodup.filter p
  cases kept : l.filter p with
  | nil => simp
  | cons a rest =>
    cases rest with
    | nil => simp
    | cons b rest =>
      have first : a ∈ l.filter p := by simp [kept]
      have second : b ∈ l.filter p := by simp [kept]
      rw [List.mem_filter] at first second
      have same := unique a first.1 b second.1 first.2 second.2
      rw [kept, same] at distinct
      simp at distinct

theorem sum_map_set {l : List α} {i : Nat} {a : α} (weight : α → Nat) (present : l[i]? = some a) (b : α) :
    ((l.set i b).map weight).sum + weight a = (l.map weight).sum + weight b := by
  induction l generalizing i with
  | nil => simp at present
  | cons head rest ih =>
    cases i with
    | zero =>
      obtain rfl := Option.some.inj present
      simp only [List.set_cons_zero, List.map_cons, List.sum_cons]
      omega
    | succ i =>
      have tail := ih present
      simp only [List.set_cons_succ, List.map_cons, List.sum_cons]
      omega

theorem countP_eq_sum (p : α → Bool) (l : List α) : l.countP p = (l.map fun a => if p a then 1 else 0).sum := by
  induction l with
  | nil => rfl
  | cons head rest ih =>
    rw [List.countP_cons, List.map_cons, List.sum_cons, ih]
    omega

theorem countP_add_congr {p q r s : α → Bool} (same : ∀ a, (p a).toNat + (q a).toNat = (r a).toNat + (s a).toNat)
    (l : List α) : l.countP p + l.countP q = l.countP r + l.countP s := by
  have bit : ∀ c : Bool, (if c then 1 else 0) = c.toNat := by decide
  induction l with
  | nil => rfl
  | cons a l ih =>
    have here := same a
    simp only [List.countP_cons, bit]
    omega

/-- Counting key by key over a set of keys. -/
theorem sum_countP_keys {Key : Type*} [DecidableEq Key] (key : α → Key) (p : Key → Bool) (l : List α) {keys : List Key}
    (nodup : keys.Nodup) :
    (keys.map fun k => if p k then l.countP fun a => key a = k else 0).sum =
      l.countP fun a => keys.contains (key a) && p (key a) := by
  induction keys with
  | nil => simp
  | cons k keys ih =>
    obtain ⟨absent, nodup⟩ := List.nodup_cons.mp nodup
    rw [List.map_cons, List.sum_cons, ih nodup]
    clear ih
    induction l with
    | nil => simp
    | cons a l ih =>
      by_cases here : key a = k
      · by_cases passes : p k
        · simp [here, passes, absent] at ih ⊢
          omega
        · simp [here, passes] at ih ⊢
          exact ih
      · simp [List.countP_cons, here] at ih ⊢
        omega

theorem countP_set_add {l : List α} {i : Nat} {a : α} (p : α → Bool) (present : l[i]? = some a) (b : α) :
    (l.set i b).countP p + (if p a then 1 else 0) = l.countP p + (if p b then 1 else 0) := by
  rw [countP_eq_sum, countP_eq_sum]
  exact sum_map_set _ present b

theorem countP_set_toNat {l : List α} {i : Nat} {a : α} (p : α → Bool) (present : l[i]? = some a) (b : α) :
    (l.set i b).countP p + (p a).toNat = l.countP p + (p b).toNat := by
  have bit : ∀ c : Bool, c.toNat = if c then 1 else 0 := by decide
  rw [bit, bit]
  exact countP_set_add p present b

theorem eq_of_countP_le_one {l : List α} {p : α → Bool} (once : l.countP p ≤ 1) {i j : Nat} {a b : α}
    (first : l[i]? = some a) (second : l[j]? = some b) (here : p a) (there : p b) : i = j := by
  induction l generalizing i j with
  | nil => simp at first
  | cons head rest ih =>
    have none_later : p head → ∀ c ∈ rest, ¬ p c := by
      intro counted c member also
      have positive : 0 < rest.countP p := List.countP_pos_iff.mpr ⟨c, member, also⟩
      rw [List.countP_cons_of_pos counted] at once
      omega
    cases i with
    | zero =>
      obtain rfl := Option.some.inj first
      cases j with
      | zero => rfl
      | succ j => exact absurd there (none_later here b (List.mem_of_getElem? second))
    | succ i =>
      cases j with
      | zero =>
        obtain rfl := Option.some.inj second
        exact absurd here (none_later there a (List.mem_of_getElem? first))
      | succ j =>
        have fewer : rest.countP p ≤ 1 := Nat.le_trans (List.Sublist.countP_le (List.sublist_cons_self head rest)) once
        exact congrArg (· + 1) (ih fewer first second)

theorem foldl_below {β : Type*} {below : β → β → Prop} (trans : ∀ {a b c}, below a b → below b c → below a c)
    {f : β → α → β} (down : ∀ b a, below (f b a) b) {a : α} {bound : β} (hit : ∀ b, below (f b a) bound)
    {l : List α} (member : a ∈ l) (start : β) : below (l.foldl f start) bound := by
  have rest : ∀ (l : List α) (b : β), below b bound → below (l.foldl f b) bound := by
    intro l
    induction l with
    | nil => exact fun b here => here
    | cons head tail ih => exact fun b here => ih _ (trans (down b head) here)
  induction l generalizing start with
  | nil => cases member
  | cons head tail ih =>
    rcases List.mem_cons.mp member with rfl | later
    · exact rest tail _ (hit start)
    · exact ih later _

theorem eq_of_length_flatMap {β : Type*} {l : List α} {part whole : α → List β}
    (sublist : ∀ a ∈ l, (part a).Sublist (whole a)) (same : (l.flatMap part).length = (l.flatMap whole).length) :
    ∀ a ∈ l, part a = whole a := by
  induction l with
  | nil => simp
  | cons head tail ih =>
    have here := sublist head (List.mem_cons_self ..)
    have later : ∀ a ∈ tail, (part a).Sublist (whole a) := fun a member => sublist a (List.mem_cons_of_mem _ member)
    have fewer : (tail.flatMap part).length ≤ (tail.flatMap whole).length := by
      rw [List.length_flatMap, List.length_flatMap]
      exact List.sum_le_sum fun a member => (later a member).length_le
    have first := here.length_le
    simp only [List.flatMap_cons, List.length_append] at same
    intro a member
    rcases List.mem_cons.mp member with rfl | other
    · exact here.eq_of_length (by omega)
    · exact ih later (by omega) a other

end Lists

import Mathlib.Data.List.AList

namespace Lists

variable {Key State : Type*} {Value : Key → Type*}

theorem foldl_elsewhere (change : (Key → State) → (key : Key) → Value key → Key → State)
    (entries : List (Sigma Value))
    (elsewhere : ∀ entry ∈ entries, ∀ states key, key ≠ entry.1 → change states entry.1 entry.2 key = states key)
    (states : Key → State) {key : Key} (absent : key ∉ entries.keys) :
    entries.foldl (fun states entry => change states entry.1 entry.2) states key = states key := by
  induction entries generalizing states with
  | nil => rfl
  | cons entry entries ih =>
    rw [List.keys_cons, List.mem_cons, not_or] at absent
    rw [List.foldl_cons, ih (fun other member => elsewhere other (List.mem_cons_of_mem _ member)) _ absent.2]
    exact elsewhere entry List.mem_cons_self states key absent.1

/-- Changes that concern the states of their own keys only leave at a key what its entry makes of it, in any order. -/
theorem foldl_entries [DecidableEq Key] (change : (Key → State) → (key : Key) → Value key → Key → State)
    (entries : AList Value)
    (elsewhere : ∀ entry ∈ entries.entries, ∀ states key, key ≠ entry.1 → change states entry.1 entry.2 key = states key)
    (own : ∀ entry ∈ entries.entries, ∀ states states', states entry.1 = states' entry.1 →
      change states entry.1 entry.2 entry.1 = change states' entry.1 entry.2 entry.1)
    (states : Key → State) (key : Key) :
    entries.foldl change states key = (entries.lookup key).elim (states key) fun value => change states key value key := by
  obtain ⟨entries, nodup⟩ := entries
  show entries.foldl (fun states entry => change states entry.1 entry.2) states key =
    (entries.dlookup key).elim (states key) fun value => change states key value key
  induction entries generalizing states with
  | nil => rfl
  | cons entry entries ih =>
    obtain ⟨other, value⟩ := entry
    have distinct := List.nodupKeys_cons.mp nodup
    have later : ∀ entry ∈ entries, ∀ states key, key ≠ entry.1 → change states entry.1 entry.2 key = states key :=
      fun entry member => elsewhere entry (List.mem_cons_of_mem _ member)
    rw [List.foldl_cons]
    by_cases same : other = key
    · subst same
      rw [foldl_elsewhere change entries later _ distinct.1, List.dlookup_cons_eq]
      rfl
    · have differs : key ≠ other := fun same' => same same'.symm
      have kept : change states other value key = states key :=
        elsewhere ⟨other, value⟩ List.mem_cons_self states key differs
      have laterOwn : ∀ entry ∈ entries, ∀ states states', states entry.1 = states' entry.1 →
          change states entry.1 entry.2 entry.1 = change states' entry.1 entry.2 entry.1 :=
        fun entry member => own entry (List.mem_cons_of_mem _ member)
      rw [List.dlookup_cons_ne _ _ differs, ih _ distinct.2 later laterOwn, kept]
      cases looked : List.dlookup key entries with
      | none => rfl
      | some found => exact laterOwn ⟨key, found⟩ (List.of_mem_dlookup looked) _ _ kept

end Lists

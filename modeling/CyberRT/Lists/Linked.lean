import Mathlib.Logic.Function.Basic

namespace Lists

variable {Address : Type*} {next : Address → Option Address}

/-- The addresses that the links lead through from `start` on until they end. -/
def Linked (next : Address → Option Address) : Option Address → List Address → Prop
  | start, [] => start = none
  | start, address :: rest => start = some address ∧ Linked next (next address) rest

theorem Linked.unique {start : Option Address} {first second : List Address} (linked : Linked next start first)
    (linked' : Linked next start second) : first = second := by
  induction first generalizing start second with
  | nil =>
    cases second with
    | nil => rfl
    | cons address rest =>
      have same := linked.symm.trans linked'.1
      cases same
  | cons address rest ih =>
    cases second with
    | nil =>
      have same := linked.1.symm.trans linked'
      cases same
    | cons address' rest' =>
      obtain rfl := Option.some.inj (linked.1.symm.trans linked'.1)
      rw [ih linked.2 linked'.2]

theorem Linked.after {start : Option Address} {before after : List Address} {address : Address}
    (linked : Linked next start (before ++ address :: after)) : Linked next (next address) after := by
  induction before generalizing start with
  | nil => exact linked.2
  | cons first before ih => exact ih linked.2

theorem Linked.congr {next' : Address → Option Address} {start : Option Address} {chain : List Address}
    (linked : Linked next start chain) (same : ∀ address ∈ chain, next' address = next address) :
    Linked next' start chain := by
  induction chain generalizing start with
  | nil => exact linked
  | cons address rest ih =>
    refine ⟨linked.1, ?_⟩
    rw [same address List.mem_cons_self]
    exact ih linked.2 fun other member => same other (List.mem_cons_of_mem _ member)

/-- A link is set to a new address that leads on to where the link led. -/
theorem Linked.insert [DecidableEq Address] {start : Option Address} {before after : List Address}
    {address new : Address} (linked : Linked next start (before ++ address :: after))
    (nodup : (before ++ address :: after).Nodup) (absent : new ∉ before ++ address :: after)
    (leads : next new = next address) :
    Linked (Function.update next address (some new)) start (before ++ address :: new :: after) := by
  induction before generalizing start with
  | nil =>
    have distinct := List.nodup_cons.mp nodup
    have other : new ≠ address := fun same => absent (same ▸ List.mem_cons_self)
    refine ⟨linked.1, ?_⟩
    rw [Function.update_self]
    refine ⟨rfl, ?_⟩
    rw [Function.update_of_ne other, leads]
    apply linked.2.congr
    intro later member
    have differs : later ≠ address := fun same => distinct.1 (same ▸ member)
    exact Function.update_of_ne differs _ _
  | cons first before ih =>
    have distinct := List.nodup_cons.mp nodup
    have other : first ≠ address := fun same => distinct.1 (by simp [same])
    refine ⟨linked.1, ?_⟩
    rw [Function.update_of_ne other]
    exact ih linked.2 distinct.2 fun member => absent (List.mem_cons_of_mem _ member)

theorem pairwise_insert {R : Address → Address → Prop} {before after : List Address} {new : Address}
    (pairs : (before ++ after).Pairwise R) (above : ∀ address ∈ before, R address new)
    (below : ∀ address ∈ after, R new address) : (before ++ new :: after).Pairwise R := by
  obtain ⟨first, second, across⟩ := List.pairwise_append.mp pairs
  apply List.pairwise_append.mpr ⟨first, List.pairwise_cons.mpr ⟨below, second⟩, ?_⟩
  intro address member other later
  rcases List.mem_cons.mp later with same | later
  · rw [same]
    exact above address member
  · exact across address member other later

end Lists

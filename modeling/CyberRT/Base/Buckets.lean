import Mathlib.Data.List.Pairwise
import Mathlib.Order.Basic
import CyberRT.Base.AtomicHashMap

namespace CyberRT.Base

open Lists

theorem TableTraits.index_lt {Key : Type} (traits : TableTraits Key) (key : Key) :
    traits.index key < traits.tableSize := by
  have positive : 0 < traits.tableSize := Nat.two_pow_pos traits.bits
  have masked : traits.index key ≤ traits.tableSize - 1 := Nat.and_le_right
  omega

namespace MapMemory

variable {Key Value : Type} [LinearOrder Key] {traits : TableTraits Key}
  {memory next : MapMemory Key Value} {chains : Nat → List Nat} {key : Key} {prev : Nat}

/-- The entries of each bucket behind its head, which stands at the address of its index. -/
structure Shaped (traits : TableTraits Key) (memory : MapMemory Key Value) (chains : Nat → List Nat) :
    Prop where
  linked : ∀ bucket, bucket < traits.tableSize → Linked memory.next (some bucket) (bucket :: chains bucket)
  sorted : ∀ bucket, bucket < traits.tableSize →
    (chains bucket).Pairwise fun a b => (memory.entry a).key < (memory.entry b).key
  inside : ∀ bucket, bucket < traits.tableSize → ∀ address ∈ chains bucket,
    traits.tableSize ≤ address ∧ address < memory.allocated ∧ traits.index (memory.entry address).key = bucket
  heads : traits.tableSize ≤ memory.allocated

/-- The list of the key's bucket has an entry for the key. -/
def Present (traits : TableTraits Key) (memory : MapMemory Key Value) (key : Key) : Prop :=
  ∃ chain, Linked memory.next (memory.next (traits.index key)) chain ∧
    ∃ address ∈ chain, (memory.entry address).key = key

/-- The entry is the head of the key's bucket or one of the list with a smaller key. -/
def Precedes (traits : TableTraits Key) (memory : MapMemory Key Value) (chains : Nat → List Nat) (key : Key)
    (prev : Nat) : Prop :=
  prev = traits.index key ∨ prev ∈ chains (traits.index key) ∧ (memory.entry prev).key < key

theorem shaped_heads (traits : TableTraits Key) (key : Key) :
    Shaped traits ⟨fun _ => { key := key }, traits.tableSize, ([] : List (Option Value))⟩ fun _ => [] := by
  constructor
  · exact fun bucket _ => ⟨rfl, rfl⟩
  · exact fun _ _ => List.Pairwise.nil
  · simp
  · exact Nat.le.refl

theorem Shaped.present_iff (shaped : memory.Shaped traits chains) (key : Key) :
    memory.Present traits key ↔ ∃ address ∈ chains (traits.index key), (memory.entry address).key = key := by
  have linked := (shaped.linked _ (traits.index_lt key)).2
  constructor
  · rintro ⟨chain, leads, member⟩
    rw [← leads.unique linked]
    exact member
  · exact fun member => ⟨_, linked, member⟩

/-- What comes before an entry that precedes the key, and what its link leads to. -/
theorem Shaped.split (shaped : memory.Shaped traits chains) (precedes : memory.Precedes traits chains key prev) :
    ∃ front before after, traits.index key :: before = front ++ [prev] ∧
      chains (traits.index key) = before ++ after ∧ Linked memory.next (memory.next prev) after ∧
      ∀ address ∈ before, (memory.entry address).key < key := by
  have linked := shaped.linked _ (traits.index_lt key)
  rcases precedes with rfl | ⟨member, less⟩
  · exact ⟨[], [], chains (traits.index key), rfl, rfl, linked.2, by simp⟩
  · obtain ⟨before, after, split⟩ := List.append_of_mem member
    have sorted := shaped.sorted _ (traits.index_lt key)
    rw [split] at linked sorted
    refine ⟨traits.index key :: before, before ++ [prev], after, by simp, by simp [split], ?_, ?_⟩
    · have whole : Linked memory.next _ ((traits.index key :: before) ++ prev :: after) := linked
      exact whole.after
    · intro address among
      rcases List.mem_append.mp among with earlier | last
      · exact ((List.pairwise_append.mp sorted).2.2 address earlier prev List.mem_cons_self).trans less
      · rw [List.mem_singleton.mp last]
        exact less

theorem Shaped.present_iff_after (shaped : memory.Shaped traits chains) {before after : List Nat}
    (split : chains (traits.index key) = before ++ after)
    (smaller : ∀ address ∈ before, (memory.entry address).key < key) :
    memory.Present traits key ↔ ∃ address ∈ after, (memory.entry address).key = key := by
  rw [shaped.present_iff, split]
  constructor
  · rintro ⟨address, member, same⟩
    rcases List.mem_append.mp member with earlier | later
    · exact absurd same (smaller address earlier).ne
    · exact ⟨address, later, same⟩
  · rintro ⟨address, member, same⟩
    exact ⟨address, List.mem_append_right _ member, same⟩

theorem Shaped.absent_of_none (shaped : memory.Shaped traits chains) (precedes : memory.Precedes traits chains key prev)
    (loaded : memory.next prev = none) : ¬memory.Present traits key := by
  obtain ⟨front, before, after, -, split, linked, smaller⟩ := shaped.split precedes
  rw [shaped.present_iff_after split smaller]
  cases after with
  | nil => simp
  | cons target rest => cases loaded.symm.trans linked.1

theorem Shaped.mem_of_next (shaped : memory.Shaped traits chains) (precedes : memory.Precedes traits chains key prev)
    {target : Nat} (loaded : memory.next prev = some target) : target ∈ chains (traits.index key) := by
  obtain ⟨front, before, after, -, split, linked, -⟩ := shaped.split precedes
  rw [loaded] at linked
  cases after with
  | nil => cases linked
  | cons first rest =>
    obtain rfl := Option.some.inj linked.1
    simp [split]

theorem Shaped.absent_of_larger (shaped : memory.Shaped traits chains) (precedes : memory.Precedes traits chains key prev)
    {target : Nat} (loaded : memory.next prev = some target) (larger : key < (memory.entry target).key) :
    ¬memory.Present traits key := by
  obtain ⟨front, before, after, -, split, linked, smaller⟩ := shaped.split precedes
  rw [shaped.present_iff_after split smaller]
  have sorted := shaped.sorted _ (traits.index_lt key)
  rw [split] at sorted
  rw [loaded] at linked
  cases after with
  | nil => cases linked
  | cons first rest =>
    obtain rfl := Option.some.inj linked.1
    have increasing := List.pairwise_cons.mp (List.pairwise_append.mp sorted).2.1
    rintro ⟨address, member, same⟩
    rcases List.mem_cons.mp member with rfl | later
    · exact absurd same larger.ne'
    · exact absurd same (larger.trans (increasing.1 address later)).ne'

theorem Shaped.nodup (shaped : memory.Shaped traits chains) {bucket : Nat} (within : bucket < traits.tableSize) :
    (bucket :: chains bucket).Nodup := by
  refine List.nodup_cons.mpr ⟨?_, ?_⟩
  · intro member
    have outside := (shaped.inside bucket within bucket member).1
    omega
  · apply (shaped.sorted bucket within).imp
    rintro first second less rfl
    exact absurd less (lt_irrefl _)

/-- No other bucket has the entry. -/
theorem Shaped.elsewhere (shaped : memory.Shaped traits chains) (precedes : memory.Precedes traits chains key prev)
    {bucket : Nat} (within : bucket < traits.tableSize) (other : bucket ≠ traits.index key) :
    prev ∉ bucket :: chains bucket := by
  have here := traits.index_lt key
  intro member
  rcases List.mem_cons.mp member with same | member
  · rcases precedes with head | ⟨among, -⟩
    · exact other (same.symm.trans head)
    · have outside := (shaped.inside _ here prev among).1
      omega
  · have belongs := shaped.inside bucket within prev member
    rcases precedes with head | ⟨among, -⟩
    · omega
    · exact other (belongs.2.2.symm.trans (shaped.inside _ here prev among).2.2)

/-- A change of an entry that keeps its key and its link. -/
theorem Shaped.congr (shaped : memory.Shaped traits chains)
    (same : ∀ bucket, bucket < traits.tableSize → ∀ address ∈ bucket :: chains bucket,
      next.next address = memory.next address)
    (keys : ∀ bucket, bucket < traits.tableSize → ∀ address ∈ chains bucket,
      (next.entry address).key = (memory.entry address).key)
    (more : memory.allocated ≤ next.allocated) : next.Shaped traits chains := by
  constructor
  · exact fun bucket within => (shaped.linked bucket within).congr (same bucket within)
  · intro bucket within
    apply (shaped.sorted bucket within).imp_of_mem
    intro first second member member' less
    rw [keys bucket within first member, keys bucket within second member']
    exact less
  · intro bucket within address member
    obtain ⟨outside, below, index⟩ := shaped.inside bucket within address member
    rw [keys bucket within address member]
    exact ⟨outside, Nat.lt_of_lt_of_le below more, index⟩
  · exact Nat.le_trans shaped.heads more

/-- The key is below those of all entries behind the place where it belongs. -/
theorem least_below {start : Option Nat} {before after : List Nat}
    (sorted : (before ++ after).Pairwise fun a b => (memory.entry a).key < (memory.entry b).key)
    (linked : Linked memory.next start after) (larger : ∀ target, start = some target → key < (memory.entry target).key) :
    ∀ address ∈ after, key < (memory.entry address).key := by
  cases after with
  | nil => simp
  | cons target rest =>
    have least := larger target linked.1
    have behind := List.pairwise_cons.mp (List.pairwise_append.mp sorted).2.1
    intro address member
    rcases List.mem_cons.mp member with same | later
    · rw [same]
      exact least
    · exact least.trans (behind.1 address later)

/-- The exchange of `next` puts the new entry where its key belongs. -/
theorem Shaped.insert (shaped : memory.Shaped traits chains) (precedes : memory.Precedes traits chains key prev)
    {new : Nat} (fresh : traits.tableSize ≤ new ∧ new < memory.allocated)
    (apart : ∀ bucket, bucket < traits.tableSize → new ∉ chains bucket) (named : (memory.entry new).key = key)
    (leads : memory.next new = memory.next prev)
    (larger : ∀ target, memory.next prev = some target → key < (memory.entry target).key) :
    ∃ chain, (memory.setEntry prev { memory.entry prev with next := some new }).Shaped traits
        (Function.update chains (traits.index key) chain) ∧
      ∀ address, address ∈ chain ↔ address = new ∨ address ∈ chains (traits.index key) := by
  have here := traits.index_lt key
  obtain ⟨front, before, after, ends, split, linked, smaller⟩ := shaped.split precedes
  have keys : ∀ address, ((memory.setEntry prev { memory.entry prev with next := some new }).entry address).key =
      (memory.entry address).key := fun address => memory.keys_setEntry prev address rfl
  have links : (memory.setEntry prev { memory.entry prev with next := some new }).next =
      Function.update memory.next prev (some new) := memory.next_setEntry prev _
  have whole : traits.index key :: chains (traits.index key) = front ++ prev :: after := by
    rw [split, ← List.cons_append, ends, List.append_assoc]
    rfl
  have whole' : traits.index key :: (before ++ new :: after) = front ++ prev :: new :: after := by
    rw [← List.cons_append, ends, List.append_assoc]
    rfl
  refine ⟨before ++ new :: after, ?_, ?_⟩
  · constructor
    · intro bucket within
      rw [links]
      by_cases same : bucket = traits.index key
      · subst same
        rw [Function.update_self, whole']
        have nodup := shaped.nodup here
        have absent : new ∉ traits.index key :: chains (traits.index key) := by
          intro member
          rcases List.mem_cons.mp member with head | member
          · omega
          · exact apart _ here member
        have linked := shaped.linked _ here
        rw [whole] at nodup absent linked
        exact linked.insert nodup absent leads
      · rw [Function.update_of_ne same]
        apply (shaped.linked bucket within).congr
        intro address member
        have differs : address ≠ prev := by
          rintro rfl
          exact shaped.elsewhere precedes within same member
        exact Function.update_of_ne differs _ _
    · intro bucket within
      simp only [keys]
      by_cases same : bucket = traits.index key
      · subst same
        have sorted := shaped.sorted _ here
        rw [split] at sorted
        rw [Function.update_self]
        apply pairwise_insert sorted
        · intro address member
          rw [named]
          exact smaller address member
        · rw [named]
          exact least_below sorted linked larger
      · rw [Function.update_of_ne same]
        exact shaped.sorted bucket within
    · intro bucket within address member
      rw [keys]
      by_cases same : bucket = traits.index key
      · subst same
        rw [Function.update_self] at member
        rcases List.mem_append.mp member with member | member
        · exact shaped.inside _ here address (by simp [split, member])
        · rcases List.mem_cons.mp member with rfl | member
          · exact ⟨fresh.1, fresh.2, by rw [named]⟩
          · exact shaped.inside _ here address (by simp [split, member])
      · rw [Function.update_of_ne same] at member
        exact shaped.inside bucket within address member
    · exact shaped.heads
  · intro address
    rw [split]
    simp only [List.mem_append, List.mem_cons]
    constructor
    · rintro (member | member | member) <;> simp [member]
    · rintro (member | member | member) <;> simp [member]

end MapMemory

end CyberRT.Base

import CyberRT.Base.AtomicHashMap

namespace CyberRT.Base

/-- The entries of a bucket behind its head while no call is under way, sorted by their keys. -/
structure Bucket (Key Value : Type) [LinearOrder Key] where
  entries : List (Key × Value) := []
  sorted : entries.Pairwise fun entry later => entry.1 < later.1 := by exact List.Pairwise.nil

namespace Bucket

variable {Key Value : Type} [LinearOrder Key]

/-- The loop of `Bucket::Has`. -/
def hasLoop (key : Key) : List (Key × Value) → Bool
  | [] => false
  | target :: rest => if target.1 < key then hasLoop key rest else target.1 = key

def has (bucket : Bucket Key Value) (key : Key) : Bool := hasLoop key bucket.entries

/-- The loop of `Bucket::Find`: whether the key is there, the entries up to `prev` and those from `target` on. -/
def findLoop (key : Key) : List (Key × Value) → Bool × List (Key × Value) × List (Key × Value)
  | [] => (false, [], [])
  | target :: rest =>
    if target.1 = key then (true, [], target :: rest)
    else if key < target.1 then (false, [], target :: rest)
    else
      let (found, front, back) := findLoop key rest
      (found, target :: front, back)

def get (bucket : Bucket Key Value) (key : Key) : Option Value :=
  match findLoop key bucket.entries with
  | (true, _, target :: _) => some target.2
  | _ => none

/-- `Bucket::Insert`, whose exchanges succeed while no other call is under way. -/
def insertEntry (key : Key) (value : Value) (entries : List (Key × Value)) : List (Key × Value) :=
  match findLoop key entries with
  | (true, front, target :: back) => front ++ (target.1, value) :: back
  | (_, front, back) => front ++ (key, value) :: back

theorem hasLoop_eq (key : Key) {entries : List (Key × Value)} : hasLoop key entries = (findLoop key entries).1 := by
  induction entries with
  | nil => rfl
  | cons target rest ih =>
    rw [hasLoop, findLoop]
    rcases lt_trichotomy target.1 key with less | same | more
    · rw [if_pos less, if_neg less.ne, if_neg less.asymm, ih]
    · rw [if_neg same.not_lt, if_pos same]
      exact decide_eq_true same
    · rw [if_neg more.asymm, if_neg more.ne', if_pos more]
      exact decide_eq_false more.ne'

/-- What `Find` returns about a sorted list. -/
theorem findLoop_split (key : Key) {entries : List (Key × Value)}
    (sorted : entries.Pairwise fun entry later => entry.1 < later.1) :
    entries = (findLoop key entries).2.1 ++ (findLoop key entries).2.2 ∧
    (∀ entry ∈ (findLoop key entries).2.1, entry.1 < key) ∧
    if (findLoop key entries).1 then ∃ value back, (findLoop key entries).2.2 = (key, value) :: back ∧
      ∀ entry ∈ back, key < entry.1
    else ∀ entry ∈ (findLoop key entries).2.2, key < entry.1 := by
  induction entries with
  | nil => simp [findLoop]
  | cons target rest ih =>
    obtain ⟨above, sorted⟩ := List.pairwise_cons.mp sorted
    obtain ⟨split, smaller, larger⟩ := ih sorted
    rw [findLoop]
    by_cases same : target.1 = key
    · rw [if_pos same]
      refine ⟨rfl, by simp, ?_⟩
      subst same
      exact ⟨target.2, rest, rfl, above⟩
    · rw [if_neg same]
      by_cases more : key < target.1
      · rw [if_pos more]
        refine ⟨rfl, by simp, ?_⟩
        intro entry member
        rcases List.mem_cons.mp member with rfl | member
        · exact more
        · exact more.trans (above entry member)
      · rw [if_neg more]
        have less : target.1 < key := lt_of_le_of_ne (not_lt.mp more) same
        refine ⟨congrArg _ split, ?_, larger⟩
        intro entry member
        rcases List.mem_cons.mp member with rfl | member
        · exact less
        · exact smaller entry member

/-- The value of the key in a sorted list. -/
theorem get_eq_some (bucket : Bucket Key Value) (key : Key) (value : Value) :
    bucket.get key = some value ↔ (key, value) ∈ bucket.entries := by
  obtain ⟨split, smaller, larger⟩ := findLoop_split key bucket.sorted
  have apart : ∀ {entries : List (Key × Value)}, (∀ entry ∈ entries, entry.1 < key) → (key, value) ∉ entries :=
    fun below member => absurd (below _ member) (lt_irrefl _)
  have apart' : ∀ {entries : List (Key × Value)}, (∀ entry ∈ entries, key < entry.1) → (key, value) ∉ entries :=
    fun above member => absurd (above _ member) (lt_irrefl _)
  unfold get
  generalize findLoop key bucket.entries = place at *
  obtain ⟨found, front, back⟩ := place
  rw [split, List.mem_append]
  cases found with
  | true =>
    obtain ⟨held, rest, rfl, above⟩ := larger
    simp [apart smaller, apart' above, eq_comm]
  | false =>
    simp only [Bool.false_eq_true, if_false] at larger
    simp [apart smaller, apart' larger]

theorem has_eq (bucket : Bucket Key Value) (key : Key) : bucket.has key = (bucket.get key).isSome := by
  obtain ⟨_, _, larger⟩ := findLoop_split key bucket.sorted
  unfold has get
  rw [hasLoop_eq]
  generalize findLoop key bucket.entries = place at *
  obtain ⟨found, front, back⟩ := place
  cases found with
  | true =>
    obtain ⟨held, rest, rfl, _⟩ := larger
    rfl
  | false => rfl

/-- Which entries there are after an insertion. -/
theorem mem_insertEntry {key : Key} {entries : List (Key × Value)}
    (sorted : entries.Pairwise fun entry later => entry.1 < later.1) (value : Value) (entry : Key × Value) :
    entry ∈ insertEntry key value entries ↔ entry = (key, value) ∨ entry.1 ≠ key ∧ entry ∈ entries := by
  obtain ⟨split, smaller, larger⟩ := findLoop_split key sorted
  unfold insertEntry
  generalize findLoop key entries = place at *
  obtain ⟨found, front, back⟩ := place
  have below : entry ∈ front → entry.1 ≠ key := fun member => (smaller entry member).ne
  cases found with
  | true =>
    obtain ⟨held, rest, rfl, larger⟩ := larger
    simp only [split, List.mem_append, List.mem_cons]
    constructor
    · rintro (member | same | member)
      · exact Or.inr ⟨below member, Or.inl member⟩
      · exact Or.inl same
      · exact Or.inr ⟨(larger entry member).ne', Or.inr (Or.inr member)⟩
    · rintro (same | ⟨differs, member | same | member⟩)
      · exact Or.inr (Or.inl same)
      · exact Or.inl member
      · exact absurd (congrArg Prod.fst same) differs
      · exact Or.inr (Or.inr member)
  | false =>
    simp only [Bool.false_eq_true, if_false] at larger
    simp only [split, List.mem_append, List.mem_cons]
    constructor
    · rintro (member | same | member)
      · exact Or.inr ⟨below member, Or.inl member⟩
      · exact Or.inl same
      · exact Or.inr ⟨(larger entry member).ne', Or.inr member⟩
    · rintro (same | ⟨_, member | member⟩)
      · exact Or.inr (Or.inl same)
      · exact Or.inl member
      · exact Or.inr (Or.inr member)

theorem sorted_insertEntry {key : Key} {entries : List (Key × Value)}
    (sorted : entries.Pairwise fun entry later => entry.1 < later.1) (value : Value) :
    (insertEntry key value entries).Pairwise fun entry later => entry.1 < later.1 := by
  obtain ⟨split, smaller, larger⟩ := findLoop_split key sorted
  unfold insertEntry
  rw [split] at sorted
  generalize findLoop key entries = place at *
  obtain ⟨found, front, back⟩ := place
  cases found with
  | true =>
    obtain ⟨held, rest, rfl, larger⟩ := larger
    obtain ⟨first, second, across⟩ := List.pairwise_append.mp sorted
    obtain ⟨_, second⟩ := List.pairwise_cons.mp second
    apply Lists.pairwise_insert
    · exact List.pairwise_append.mpr ⟨first, second, fun entry member later member' =>
        across entry member later (List.mem_cons_of_mem _ member')⟩
    · exact smaller
    · exact larger
  | false => exact Lists.pairwise_insert sorted smaller larger

def insert (bucket : Bucket Key Value) (key : Key) (value : Value) : Bucket Key Value where
  entries := insertEntry key value bucket.entries
  sorted := sorted_insertEntry bucket.sorted value

theorem get_insert (bucket : Bucket Key Value) (key other : Key) (value : Value) :
    (bucket.insert key value).get other = if other = key then some value else bucket.get other := by
  apply Option.ext
  intro found
  rw [get_eq_some]
  show (other, found) ∈ insertEntry key value bucket.entries ↔ _
  rw [mem_insertEntry bucket.sorted]
  by_cases same : other = key
  · rw [if_pos same]
    simp [same, eq_comm]
  · rw [if_neg same, ← bucket.get_eq_some]
    simp [same]

end Bucket

/-- An `AtomicHashMap` while no call is under way. -/
structure HashTable (Key Value : Type) [LinearOrder Key] where
  traits : TableTraits Key
  table : Nat → Bucket Key Value := fun _ => {}

namespace HashTable

variable {Key Value : Type} [LinearOrder Key] (map : HashTable Key Value)

def has (key : Key) : Bool := (map.table (map.traits.index key)).has key

def get (key : Key) : Option Value := (map.table (map.traits.index key)).get key

def set (key : Key) (value : Value) : HashTable Key Value :=
  { map with
    table := Function.update map.table (map.traits.index key) ((map.table (map.traits.index key)).insert key value) }

theorem has_eq (key : Key) : map.has key = (map.get key).isSome := Bucket.has_eq _ key

/-- The map is a function of its keys. -/
theorem get_set (key : Key) (value : Value) : (map.set key value).get = Function.update map.get key (some value) := by
  funext other
  rw [Function.update_apply]
  show (Function.update map.table (map.traits.index key) _ (map.traits.index other)).get other = _
  rw [Function.update_apply]
  by_cases here : map.traits.index other = map.traits.index key
  · rw [if_pos here, Bucket.get_insert, ← here]
    rfl
  · have differs : other ≠ key := fun same => here (congrArg _ same)
    rw [if_neg here, if_neg differs]
    rfl

end HashTable

end CyberRT.Base

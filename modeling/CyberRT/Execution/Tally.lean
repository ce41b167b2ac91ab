import Mathlib.Data.Finset.Card

namespace Execution

variable {Thread Point : Type*} {inside : Point → Prop} {point : Thread → Point} {count : Nat}

/-- Exactly so many threads are at a point inside. -/
def Tally (inside : Point → Prop) (point : Thread → Point) (count : Nat) : Prop :=
  ∃ threads : Finset Thread, (∀ thread, thread ∈ threads ↔ inside (point thread)) ∧ threads.card = count

theorem Tally.none (outside : ∀ thread, ¬inside (point thread)) : Tally inside point 0 := by
  refine ⟨∅, ?_, rfl⟩
  intro thread
  simp [outside thread]

theorem Tally.eq_zero (tally : Tally inside point count) (outside : ∀ thread, ¬inside (point thread)) : count = 0 := by
  obtain ⟨threads, exact, rfl⟩ := tally
  rw [Finset.card_eq_zero, Finset.eq_empty_iff_forall_notMem]
  exact fun thread member => outside thread ((exact thread).mp member)

theorem Tally.pos (tally : Tally inside point count) {thread : Thread} (here : inside (point thread)) : 0 < count := by
  obtain ⟨threads, exact, rfl⟩ := tally
  exact Finset.card_pos.mpr ⟨thread, (exact thread).mpr here⟩

variable [DecidableEq Thread] {thread : Thread} {next : Point}

/-- The step of one thread keeps what it keeps of its own point. -/
theorem apply_update_same {Value : Sort*} (value : Point → Value) (same : value next = value (point thread))
    (other : Thread) : value (Function.update point thread next other) = value (point other) := by
  rw [Function.apply_update fun _ => value, same]
  exact congrFun (Function.update_eq_self thread fun other => value (point other)) other

theorem Tally.stay (tally : Tally inside point count) (same : inside next ↔ inside (point thread)) :
    Tally inside (Function.update point thread next) count := by
  obtain ⟨threads, exact, counted⟩ := tally
  refine ⟨threads, ?_, counted⟩
  intro other
  rw [exact other, apply_update_same inside (propext same)]

theorem Tally.enter (tally : Tally inside point count) (outside : ¬inside (point thread)) (enters : inside next) :
    Tally inside (Function.update point thread next) (count + 1) := by
  obtain ⟨threads, exact, rfl⟩ := tally
  have absent : thread ∉ threads := fun member => outside ((exact thread).mp member)
  refine ⟨insert thread threads, ?_, Finset.card_insert_of_notMem absent⟩
  intro other
  by_cases here : other = thread
  · simp [here, enters]
  · simp [here, exact other]

theorem Tally.leave (tally : Tally inside point count) (here : inside (point thread)) (leaves : ¬inside next) :
    Tally inside (Function.update point thread next) (count - 1) := by
  obtain ⟨threads, exact, rfl⟩ := tally
  have member : thread ∈ threads := (exact thread).mpr here
  refine ⟨threads.erase thread, ?_, Finset.card_erase_of_mem member⟩
  intro other
  by_cases same : other = thread
  · simp [same, leaves]
  · simp [same, exact other]

/-- No two threads have the same value. -/
def Apart {Value : Type*} (value : Point → Option Value) (point : Thread → Point) : Prop :=
  ∀ thread other same, value (point thread) = some same → value (point other) = some same → thread = other

omit [DecidableEq Thread] in
theorem Apart.none {Value : Type*} {value : Point → Option Value} (without : ∀ thread, value (point thread) = .none) :
    Apart value point := by
  intro thread other same here
  rw [without thread] at here
  cases here

/-- A thread takes a value that it had before or that nobody has. -/
theorem Apart.update {Value : Type*} {value : Point → Option Value} (apart : Apart value point)
    (free : ∀ same, value next = some same →
      value (point thread) = some same ∨ ∀ other, value (point other) ≠ some same) :
    Apart value (Function.update point thread next) := by
  have only : ∀ other, other ≠ thread → ∀ same, value next = some same → value (point other) ≠ some same := by
    intro other differs same taken held
    rcases free same taken with own | nobody
    · exact differs (apart other thread same held own)
    · exact nobody other held
  intro first second same here there
  by_cases one : first = thread
  · by_cases two : second = thread
    · rw [one, two]
    · rw [one, Function.update_self] at here
      rw [Function.update_of_ne two] at there
      exact absurd there (only second two same here)
  · rw [Function.update_of_ne one] at here
    by_cases two : second = thread
    · rw [two, Function.update_self] at there
      exact absurd here (only first one same there)
    · rw [Function.update_of_ne two] at there
      exact apart first second same here there

end Execution

import Mathlib.Data.List.Induction

namespace Lists

variable {Event Message : Type*}

/-- Something that an event of the history has begun and that no later event has ended. -/
def Since (begins ends : Event → Prop) (history : List Event) : Prop :=
  ∃ before event after, history = before ++ event :: after ∧ begins event ∧ ∀ later ∈ after, ¬ ends later

variable {begins ends : Event → Prop}

theorem not_since_nil : ¬ Since begins ends [] := by
  rintro ⟨before, event, after, split, _⟩
  simp at split

theorem since_snoc (history : List Event) (event : Event) :
    Since begins ends (history ++ [event]) ↔ begins event ∨ Since begins ends history ∧ ¬ ends event := by
  constructor
  · rintro ⟨before, first, after, split, begun, lasting⟩
    rcases List.eq_nil_or_concat after with rfl | ⟨inner, last, rfl⟩
    · obtain ⟨-, same⟩ := List.append_inj' split rfl
      rw [List.singleton_inj.mp same]
      exact Or.inl begun
    · have regrouped : history ++ [event] = (before ++ first :: inner) ++ [last] := by simp [split]
      obtain ⟨same, lastSame⟩ := List.append_inj' regrouped rfl
      rw [List.singleton_inj.mp lastSame]
      refine Or.inr ⟨⟨before, first, inner, same, begun, ?_⟩, lasting last (by simp)⟩
      exact fun later member => lasting later (by simp [member])
  · intro standing
    rcases standing with begun | ⟨⟨before, first, after, rfl, begun, lasting⟩, kept⟩
    · exact ⟨history, event, [], rfl, begun, by simp⟩
    · refine ⟨before, first, after ++ [event], by simp, begun, ?_⟩
      intro later member
      rcases List.mem_append.mp member with member | member
      · exact lasting later member
      · rw [List.mem_singleton.mp member]
        exact kept

/-- A history and the messages it gives rise to tell the same. -/
theorem since_filterMap {message : Event → Option Message} {begins' ends' : Message → Prop} (history : List Event)
    (beginning : ∀ event ∈ history, begins event ↔ ∃ msg, message event = some msg ∧ begins' msg)
    (ending : ∀ event ∈ history, ends event ↔ ∃ msg, message event = some msg ∧ ends' msg) :
    Since begins ends history ↔ Since begins' ends' (history.filterMap message) := by
  induction history using List.reverseRecOn with
  | nil => exact iff_of_false not_since_nil not_since_nil
  | append_singleton history event ih =>
    have same := ih (fun earlier member => beginning earlier (List.mem_append_left _ member))
      (fun earlier member => ending earlier (List.mem_append_left _ member))
    rw [since_snoc, same, beginning event (by simp), ending event (by simp), List.filterMap_append]
    cases sent : message event with
    | none => simp [sent]
    | some msg =>
      rw [show List.filterMap message [event] = [msg] by simp [sent], since_snoc]
      simp

end Lists

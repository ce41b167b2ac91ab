import Mathlib.Data.List.Basic
import Mathlib.Logic.Function.Basic

namespace Memory

/-- Who holds a shared pointer to each object. An object is released when the last of them lets go of it. -/
structure Sharing (Object Holder : Type*) where
  holders : Object → List Holder := fun _ => []

namespace Sharing

variable {Object Holder : Type*} (sharing : Sharing Object Holder)

def released (object : Object) : Bool := (sharing.holders object).isEmpty

def Holds (holder : Holder) (object : Object) : Prop := holder ∈ sharing.holders object

def hold [DecidableEq Object] (holder : Holder) (object : Object) : Sharing Object Holder where
  holders := Function.update sharing.holders object (holder :: sharing.holders object)

def letGo [DecidableEq Object] [DecidableEq Holder] (holder : Holder) (object : Object) : Sharing Object Holder where
  holders := Function.update sharing.holders object ((sharing.holders object).erase holder)

variable {sharing} {holder other : Holder} {object another : Object}

theorem released_eq_false_iff : sharing.released object = false ↔ ∃ holder, sharing.Holds holder object :=
  List.isEmpty_eq_false_iff_exists_mem

theorem Holds.alive (holds : sharing.Holds holder object) : sharing.released object = false :=
  released_eq_false_iff.mpr ⟨holder, holds⟩

variable [DecidableEq Object]

theorem holds_hold_iff :
    (sharing.hold holder object).Holds other another ↔
      sharing.Holds other another ∨ other = holder ∧ another = object := by
  simp only [hold, Holds, Function.update_apply]
  split
  · rename_i same
    rw [same, List.mem_cons, or_comm]
    simp
  · rename_i differs
    simp [differs]

theorem Holds.hold (holds : sharing.Holds other another) : (sharing.hold holder object).Holds other another :=
  holds_hold_iff.mpr (Or.inl holds)

theorem holds_hold : (sharing.hold holder object).Holds holder object := holds_hold_iff.mpr (Or.inr ⟨rfl, rfl⟩)

variable [DecidableEq Holder]

theorem Holds.of_letGo (holds : (sharing.letGo holder object).Holds other another) : sharing.Holds other another := by
  simp only [Sharing.letGo, Holds, Function.update_apply] at holds
  split at holds
  · rename_i same
    rw [same]
    exact List.mem_of_mem_erase holds
  · exact holds

/-- Whoever else holds an object, or holds another object, holds on to it. -/
theorem Holds.letGo (holds : sharing.Holds other another) (kept : other = holder → another ≠ object) :
    (sharing.letGo holder object).Holds other another := by
  simp only [Sharing.letGo, Holds, Function.update_apply]
  split
  · rename_i same
    rw [List.mem_erase_of_ne fun here => kept here same, ← same]
    exact holds
  · exact holds

end Sharing

end Memory

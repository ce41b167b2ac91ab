import Mathlib.Data.List.Nodup
import Mathlib.Data.List.TakeWhile
import CyberRT.Croutine.Routine

namespace CyberRT.Scheduler

open CyberRT.Croutine (CRoutine)

def maxPrio : Nat := 20

def defaultGroupName : String := "default_grp"

/-- A level of `cr_group_`, or the queue of the choreography context with this index. -/
inductive QueueName where
  | level (groupName : String) (prio : Nat)
  | own (pid : Nat)
  deriving DecidableEq, Repr

/-- A multimap on the priority, the greatest first. The vector of a level has the same key everywhere. -/
abbrev CroutineQueue (Object : Type) := List (Nat × Object)

def QueueName.key (cr : CRoutine) : QueueName → Nat
  | .level _ prio => prio
  | .own _ => cr.priority

namespace CroutineQueue

variable {Object : Type} (queue : CroutineQueue Object)

/-- Behind the entries of the same key. -/
def emplace (prio : Nat) (cr : Object) : CroutineQueue Object :=
  queue.takeWhile (fun entry => prio ≤ entry.1) ++ (prio, cr) :: queue.dropWhile (fun entry => prio ≤ entry.1)

def objects : List Object := queue.map Prod.snd

def findId (idOf : Object → UInt64) (crid : UInt64) : Option Object :=
  queue.objects.find? fun cr => idOf cr = crid

def erase [DecidableEq Object] (cr : Object) : CroutineQueue Object := queue.eraseP fun entry => entry.2 = cr

theorem objects_emplace_perm (prio : Nat) (cr : Object) :
    (queue.emplace prio cr).objects.Perm (cr :: queue.objects) := by
  have moved : (queue.emplace prio cr).Perm ((prio, cr) :: queue) := by
    refine List.perm_middle.trans ?_
    rw [List.takeWhile_append_dropWhile]
  exact moved.map Prod.snd

variable {queue}

@[simp] theorem mem_objects_emplace {prio : Nat} {cr other : Object} :
    other ∈ (queue.emplace prio cr).objects ↔ other = cr ∨ other ∈ queue.objects := by
  rw [(queue.objects_emplace_perm prio cr).mem_iff, List.mem_cons]

theorem nodup_objects_emplace {prio : Nat} {cr : Object} :
    (queue.emplace prio cr).objects.Nodup ↔ cr ∉ queue.objects ∧ queue.objects.Nodup := by
  rw [(queue.objects_emplace_perm prio cr).nodup_iff, List.nodup_cons]

theorem findId_eq_some {idOf : Object → UInt64} {crid : UInt64} {cr : Object}
    (found : queue.findId idOf crid = some cr) : cr ∈ queue.objects ∧ idOf cr = crid := by
  rw [findId] at found
  have same := List.find?_some found
  exact ⟨List.mem_of_find?_eq_some found, of_decide_eq_true same⟩

variable [DecidableEq Object]

@[simp] theorem objects_erase (cr : Object) : (queue.erase cr).objects = queue.objects.erase cr := by
  rw [objects, erase, objects, List.erase_eq_eraseP', List.eraseP_map]
  congr 1

end CroutineQueue

end CyberRT.Scheduler

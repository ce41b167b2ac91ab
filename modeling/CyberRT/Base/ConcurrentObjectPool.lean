import Mathlib.Data.List.Perm.Basic
import Mathlib.Data.List.Range
import CyberRT.Execution.Run
import CyberRT.Execution.Tally
import CyberRT.Lists.Linked

namespace CyberRT.Base

open Execution Lists

/-- `count` is the tag that every exchange of `free_head_` raises. -/
structure PoolHead where
  count : Nat
  node : Option Nat
  deriving DecidableEq, Repr

/-- What a thread does next in `FindFreeHead` and `ReleaseObject`, with its `old_head`. -/
inductive PoolPoint where
  | idle
  | findLoad
  | readNext (count node : Nat)
  | findExchange (count node : Nat) (next : Option Nat)
  | releaseLoad (node : Nat)
  | writeNext (node : Nat) (old : PoolHead)
  | releaseExchange (node : Nat) (old : PoolHead)
  deriving DecidableEq, Repr

/-- The node that a thread is releasing. -/
def PoolPoint.releasing : PoolPoint → Option Nat
  | .releaseLoad node | .writeNext node _ | .releaseExchange node _ => some node
  | _ => none

/-- Nodes are indices into the arena. `owned` has those that were handed out and not released since. -/
structure CCObjectPool (Thread : Type) where
  capacity : Nat
  freeHead : PoolHead
  next : Nat → Option Nat
  point : Thread → PoolPoint := fun _ => .idle
  owned : List Nat := []

/-- `find` is the call of `FindFreeHead` by `GetObject` or `ConstructObject`. `access` is the next access of that
    thread. `spurious` is a failure of `compare_exchange_weak` for no reason. -/
inductive PoolEvent (Thread : Type) where
  | find (thread : Thread)
  | release (thread : Thread) (node : Nat)
  | access (thread : Thread) (spurious : Bool)

namespace CCObjectPool

variable {Thread : Type} (pool : CCObjectPool Thread)

def init (size : Nat) : CCObjectPool Thread where
  capacity := size
  freeHead := ⟨0, some 0⟩
  next := fun i => if i + 1 < size then some (i + 1) else none

section Steps

variable [DecidableEq Thread]

def toPoint (thread : Thread) (point : PoolPoint) : CCObjectPool Thread :=
  { pool with point := Function.update pool.point thread point }

/-- Where `FindFreeHead` goes on with this value of `old_head`. -/
def retry : PoolHead → PoolPoint
  | ⟨_, none⟩ => .idle
  | ⟨count, some node⟩ => .readNext count node

def accessStep (thread : Thread) (spurious : Bool) : Option (CCObjectPool Thread) :=
  match pool.point thread with
  | .idle => none
  | .findLoad => some (pool.toPoint thread (retry pool.freeHead))
  | .readNext count node => some (pool.toPoint thread (.findExchange count node (pool.next node)))
  | .findExchange count node next =>
    if pool.freeHead = ⟨count, some node⟩ ∧ spurious = false then
      some { pool.toPoint thread .idle with freeHead := ⟨count + 1, next⟩, owned := node :: pool.owned }
    else some (pool.toPoint thread (retry pool.freeHead))
  | .releaseLoad node => some (pool.toPoint thread (.writeNext node pool.freeHead))
  | .writeNext node old =>
    some { pool.toPoint thread (.releaseExchange node old) with next := Function.update pool.next node old.node }
  | .releaseExchange node old =>
    if pool.freeHead = old ∧ spurious = false then
      some { pool.toPoint thread .idle with freeHead := ⟨old.count + 1, some node⟩ }
    else some (pool.toPoint thread (.writeNext node pool.freeHead))

def step (pool : CCObjectPool Thread) : PoolEvent Thread → Option (CCObjectPool Thread)
  | .find thread => if pool.point thread = .idle then some (pool.toPoint thread .findLoad) else none
  | .release thread node =>
    if pool.point thread = .idle ∧ node ∈ pool.owned then
      some { pool.toPoint thread (.releaseLoad node) with owned := pool.owned.erase node }
    else none
  | .access thread spurious => pool.accessStep thread spurious

end Steps

/-- The nodes that some thread is releasing, each of them only one thread. -/
structure Releases (point : Thread → PoolPoint) (releasing : List Nat) : Prop where
  exact : ∀ node, node ∈ releasing ↔ ∃ thread, (point thread).releasing = some node
  alone : Apart PoolPoint.releasing point

/-- The free list ends, and each node of the arena is once on it, handed out or being released. -/
structure Partitioned (chain releasing : List Nat) : Prop where
  linked : Linked pool.next pool.freeHead.node chain
  releases : Releases pool.point releasing
  parts : (chain ++ pool.owned ++ releasing).Perm (List.range pool.capacity)

/-- As long as the tag is the one that a thread has loaded, the head is too and leads on to the node that it has
    read. -/
def Fits : PoolPoint → Prop
  | .readNext count node =>
    count ≤ pool.freeHead.count ∧ (count = pool.freeHead.count → pool.freeHead.node = some node)
  | .findExchange count node next =>
    count ≤ pool.freeHead.count ∧ (count = pool.freeHead.count → pool.freeHead.node = some node ∧ pool.next node = next)
  | .releaseExchange node old => pool.next node = old.node
  | _ => True

structure Consistent (chain releasing : List Nat) : Prop extends pool.Partitioned chain releasing where
  points : ∀ thread, pool.Fits (pool.point thread)

variable {pool} {chain releasing : List Nat}

theorem linked_range {size left first : Nat} (ends : first + left + 1 = size) :
    Linked (init size : CCObjectPool Thread).next (some first) (List.range' first (left + 1)) := by
  induction left generalizing first with
  | zero =>
    refine ⟨rfl, ?_⟩
    show (if first + 1 < size then some (first + 1) else none) = none
    rw [if_neg (by omega)]
  | succ left ih =>
    refine ⟨rfl, ?_⟩
    show Linked _ (if first + 1 < size then some (first + 1) else none) _
    rw [if_pos (by omega)]
    exact ih (by omega)

theorem consistent_init (left : Nat) :
    (init (left + 1) : CCObjectPool Thread).Consistent (List.range (left + 1)) [] where
  linked := by
    rw [List.range_eq_range']
    exact linked_range (Nat.zero_add _ ▸ rfl)
  releases := ⟨by simp [init, PoolPoint.releasing], Apart.none fun _ => rfl⟩
  parts := by simp [init]
  points := fun _ => trivial

theorem fits_retry (pool : CCObjectPool Thread) : pool.Fits (retry pool.freeHead) := by
  cases here : pool.freeHead with
  | mk count node =>
    cases node with
    | none => trivial
    | some node =>
      show count ≤ pool.freeHead.count ∧ (count = pool.freeHead.count → pool.freeHead.node = some node)
      rw [here]
      exact ⟨Nat.le_refl count, fun _ => rfl⟩

theorem releasing_retry (head : PoolHead) : (retry head).releasing = none := by
  obtain ⟨count, node⟩ := head
  cases node <;> rfl

/-- Once the tag has gone up, what the other threads have loaded is out of date. -/
theorem Fits.outdated {next : CCObjectPool Thread} {point : PoolPoint} (fits : pool.Fits point)
    (links : next.next = pool.next) (raised : next.freeHead.count = pool.freeHead.count + 1) : next.Fits point := by
  cases point with
  | readNext count node =>
    obtain ⟨before, -⟩ := fits
    exact ⟨by omega, fun current => by omega⟩
  | findExchange count node read =>
    obtain ⟨before, -⟩ := fits
    exact ⟨by omega, fun current => by omega⟩
  | releaseExchange node old =>
    show next.next node = old.node
    rw [links]
    exact fits
  | _ => trivial

theorem Partitioned.nodup (parts : pool.Partitioned chain releasing) : (chain ++ pool.owned ++ releasing).Nodup :=
  parts.parts.nodup_iff.mpr List.nodup_range

/-- A node that is being released is not on the free list. -/
theorem Partitioned.off_chain {thread : Thread} {node : Nat} (parts : pool.Partitioned chain releasing)
    (releases : (pool.point thread).releasing = some node) : node ∉ chain := by
  intro linked
  have apart := (List.nodup_append.mp parts.nodup).2.2
  exact apart node (List.mem_append_left _ linked) node ((parts.releases.exact node).mpr ⟨thread, releases⟩) rfl

section Moves

variable [DecidableEq Thread] {points : Thread → PoolPoint} {thread : Thread} {point : PoolPoint} {node : Nat}

theorem Releases.stay (releases : Releases points releasing) (same : point.releasing = (points thread).releasing) :
    Releases (Function.update points thread point) releasing where
  exact := by
    have still : ∀ other, (Function.update points thread point other).releasing = (points other).releasing := by
      intro other
      exact apply_update_same PoolPoint.releasing same other
    simp only [still]
    exact releases.exact
  alone := releases.alone.update fun _ held => .inl (same ▸ held)

theorem Releases.start (releases : Releases points releasing) (before : (points thread).releasing = none)
    (after : point.releasing = some node) (absent : node ∉ releasing) :
    Releases (Function.update points thread point) (node :: releasing) where
  exact := by
    intro other
    rw [List.mem_cons, releases.exact other]
    constructor
    · rintro (rfl | ⟨someone, held⟩)
      · exact ⟨thread, by rw [Function.update_self, after]⟩
      · refine ⟨someone, ?_⟩
        rw [Function.update_of_ne, held]
        rintro rfl
        rw [before] at held
        cases held
    · intro ⟨someone, held⟩
      by_cases here : someone = thread
      · rw [here, Function.update_self, after] at held
        exact .inl (Option.some.inj held).symm
      · rw [Function.update_of_ne here] at held
        exact .inr ⟨someone, held⟩
  alone := by
    apply releases.alone.update
    intro other held
    obtain rfl := Option.some.inj (after.symm.trans held)
    exact .inr fun someone same => absent ((releases.exact node).mpr ⟨someone, same⟩)

theorem Releases.finish (releases : Releases points releasing) (before : (points thread).releasing = some node)
    (after : point.releasing = none) (nodup : releasing.Nodup) :
    Releases (Function.update points thread point) (releasing.erase node) where
  exact := by
    intro other
    rw [nodup.mem_erase_iff, releases.exact other]
    constructor
    · intro ⟨differs, someone, held⟩
      refine ⟨someone, ?_⟩
      rw [Function.update_of_ne, held]
      rintro rfl
      exact differs (Option.some.inj (held.symm.trans before))
    · intro ⟨someone, held⟩
      by_cases here : someone = thread
      · rw [here, Function.update_self, after] at held
        cases held
      · rw [Function.update_of_ne here] at held
        refine ⟨?_, someone, held⟩
        rintro rfl
        exact here (releases.alone someone thread other held before)
  alone := by
    apply releases.alone.update
    intro other held
    rw [after] at held
    cases held

theorem points_update {next : CCObjectPool Thread} (moved : next.point = Function.update pool.point thread point)
    (fits : next.Fits point) (others : ∀ other, other ≠ thread → next.Fits (pool.point other)) :
    ∀ other, next.Fits (next.point other) := by
  rw [moved]
  exact (Function.forall_update_iff _ fun _ => next.Fits).mpr ⟨fits, others⟩

/-- A thread goes on without a change of the pool. -/
theorem Consistent.move (consistent : pool.Consistent chain releasing)
    (same : point.releasing = (pool.point thread).releasing) (fits : pool.Fits point) :
    (pool.toPoint thread point).Consistent chain releasing where
  linked := consistent.linked
  releases := consistent.releases.stay same
  parts := consistent.parts
  points := points_update rfl fits fun other _ => consistent.points other

/-- The first node of the free list is handed out. -/
theorem Consistent.take (consistent : pool.Consistent chain releasing) {count : Nat} {read : Option Nat}
    (here : pool.point thread = .findExchange count node read) (current : pool.freeHead = ⟨count, some node⟩) :
    ∃ rest, chain = node :: rest ∧
      ({ pool.toPoint thread .idle with freeHead := ⟨count + 1, read⟩, owned := node :: pool.owned } :
        CCObjectPool Thread).Consistent rest releasing := by
  have fits := consistent.points thread
  rw [here] at fits
  obtain ⟨-, known⟩ := fits
  obtain ⟨-, leads⟩ := known (by rw [current])
  have linked := consistent.linked
  rw [current] at linked
  cases chain with
  | nil => cases linked
  | cons first rest =>
    obtain ⟨same, linked⟩ := linked
    obtain rfl := Option.some.inj same
    refine ⟨rest, rfl, ⟨?_, ?_, ?_⟩, ?_⟩
    · show Linked pool.next read rest
      rw [← leads]
      exact linked
    · exact consistent.releases.stay (by rw [here]; rfl)
    · show (rest ++ node :: pool.owned ++ releasing).Perm (List.range pool.capacity)
      exact (List.perm_middle.append_right releasing).trans consistent.parts
    · refine points_update rfl trivial fun other _ => ?_
      refine (consistent.points other).outdated rfl ?_
      show count + 1 = pool.freeHead.count + 1
      rw [current]

theorem Consistent.giveBack (consistent : pool.Consistent chain releasing) (idle : pool.point thread = .idle)
    (held : node ∈ pool.owned) :
    ({ pool.toPoint thread (.releaseLoad node) with owned := pool.owned.erase node } :
      CCObjectPool Thread).Consistent chain (node :: releasing) where
  linked := consistent.linked
  releases := by
    apply consistent.releases.start (by rw [idle]; rfl) rfl
    intro member
    have apart := (List.nodup_append.mp consistent.nodup).2.2
    exact apart node (List.mem_append_right _ held) node member rfl
  parts := by
    show (chain ++ pool.owned.erase node ++ node :: releasing).Perm (List.range pool.capacity)
    refine List.Perm.trans ?_ consistent.parts
    have moved : (pool.owned.erase node ++ node :: releasing).Perm (pool.owned ++ releasing) :=
      List.perm_middle.trans ((List.perm_cons_erase held).symm.append_right releasing)
    rw [List.append_assoc, List.append_assoc]
    exact moved.append_left chain
  points := points_update rfl trivial fun other _ => consistent.points other

/-- The link of a node that is being released is nobody else's. -/
theorem Consistent.link (consistent : pool.Consistent chain releasing) {old : PoolHead}
    (here : pool.point thread = .writeNext node old) :
    ({ pool.toPoint thread (.releaseExchange node old) with next := Function.update pool.next node old.node } :
      CCObjectPool Thread).Consistent chain releasing where
  linked := by
    have off : node ∉ chain := consistent.off_chain (by rw [here]; rfl)
    apply consistent.linked.congr
    intro other member
    have distinct : other ≠ node := by
      rintro rfl
      exact off member
    exact Function.update_of_ne distinct _ _
  releases := consistent.releases.stay (by rw [here]; rfl)
  parts := consistent.parts
  points := by
    refine points_update rfl (Function.update_self ..) fun other differs => ?_
    have fits := consistent.points other
    have off : node ∉ chain := consistent.off_chain (by rw [here]; rfl)
    revert fits
    cases there : pool.point other with
    | findExchange count first read =>
      rintro ⟨before, known⟩
      refine ⟨before, fun current => ?_⟩
      obtain ⟨head, leads⟩ := known current
      refine ⟨head, ?_⟩
      have linked := consistent.linked
      have distinct : first ≠ node := by
        rintro rfl
        cases chain with
        | nil => cases head.symm.trans linked
        | cons start rest =>
          obtain rfl := Option.some.inj (head.symm.trans linked.1)
          exact off List.mem_cons_self
      exact (Function.update_of_ne distinct _ _).trans leads
    | releaseExchange node' old' =>
      intro fits
      have distinct : node' ≠ node := by
        rintro rfl
        exact differs (consistent.releases.alone other thread node' (by rw [there]; rfl) (by rw [here]; rfl))
      exact (Function.update_of_ne distinct _ _).trans fits
    | readNext count first => exact id
    | idle | findLoad | releaseLoad other | writeNext other old => exact fun _ => trivial

theorem Consistent.put (consistent : pool.Consistent chain releasing) {old : PoolHead}
    (here : pool.point thread = .releaseExchange node old) (current : pool.freeHead = old) :
    ({ pool.toPoint thread .idle with freeHead := ⟨old.count + 1, some node⟩ } :
      CCObjectPool Thread).Consistent (node :: chain) (releasing.erase node) where
  linked := by
    have leads := consistent.points thread
    rw [here] at leads
    refine ⟨rfl, ?_⟩
    show Linked pool.next (pool.next node) chain
    rw [leads, ← current]
    exact consistent.linked
  releases := by
    have distinct : releasing.Nodup := (List.nodup_append.mp consistent.nodup).2.1
    exact consistent.releases.finish (by rw [here]; rfl) rfl distinct
  parts := by
    have member : node ∈ releasing := (consistent.releases.exact node).mpr ⟨thread, by rw [here]; rfl⟩
    show (node :: chain ++ pool.owned ++ releasing.erase node).Perm (List.range pool.capacity)
    refine List.Perm.trans ?_ consistent.parts
    have moved : (node :: (chain ++ pool.owned) ++ releasing.erase node).Perm (chain ++ pool.owned ++ releasing) :=
      List.perm_middle.symm.trans ((List.perm_cons_erase member).symm.append_left _)
    exact moved
  points := by
    refine points_update rfl trivial fun other _ => ?_
    refine (consistent.points other).outdated rfl ?_
    show old.count + 1 = pool.freeHead.count + 1
    rw [current]

theorem Consistent.access {next : CCObjectPool Thread} {spurious : Bool} (consistent : pool.Consistent chain releasing)
    (taken : pool.accessStep thread spurious = some next) : ∃ chain releasing, next.Consistent chain releasing := by
  unfold accessStep at taken
  cases here : pool.point thread with
  | idle =>
    rw [here] at taken
    cases taken
  | findLoad =>
    rw [here] at taken
    obtain rfl := Option.some.inj taken
    exact ⟨chain, releasing, consistent.move (by rw [here, releasing_retry]; rfl) (fits_retry pool)⟩
  | readNext count node =>
    rw [here] at taken
    obtain rfl := Option.some.inj taken
    obtain ⟨before, known⟩ := here ▸ consistent.points thread
    exact ⟨chain, releasing, consistent.move (by rw [here]; rfl) ⟨before, fun current => ⟨known current, rfl⟩⟩⟩
  | findExchange count node read =>
    rw [here] at taken
    dsimp only at taken
    split at taken
    · rename_i exchanged
      obtain rfl := Option.some.inj taken
      obtain ⟨rest, -, taken⟩ := consistent.take here exchanged.1
      exact ⟨rest, releasing, taken⟩
    · obtain rfl := Option.some.inj taken
      exact ⟨chain, releasing, consistent.move (by rw [here, releasing_retry]; rfl) (fits_retry pool)⟩
  | releaseLoad node =>
    rw [here] at taken
    obtain rfl := Option.some.inj taken
    exact ⟨chain, releasing, consistent.move (by rw [here]; rfl) trivial⟩
  | writeNext node old =>
    rw [here] at taken
    obtain rfl := Option.some.inj taken
    exact ⟨chain, releasing, consistent.link here⟩
  | releaseExchange node old =>
    rw [here] at taken
    dsimp only at taken
    split at taken
    · rename_i exchanged
      obtain rfl := Option.some.inj taken
      exact ⟨node :: chain, releasing.erase node, consistent.put here exchanged.1⟩
    · obtain rfl := Option.some.inj taken
      exact ⟨chain, releasing, consistent.move (by rw [here]; rfl) trivial⟩

theorem Consistent.step {next : CCObjectPool Thread} {event : PoolEvent Thread}
    (consistent : pool.Consistent chain releasing) (taken : pool.step event = some next) :
    ∃ chain releasing, next.Consistent chain releasing := by
  cases event with
  | find thread =>
    simp only [CCObjectPool.step] at taken
    split at taken
    · rename_i idle
      obtain rfl := Option.some.inj taken
      exact ⟨chain, releasing, consistent.move (by rw [idle]; rfl) trivial⟩
    · cases taken
  | release thread node =>
    simp only [CCObjectPool.step] at taken
    split at taken
    · rename_i held
      obtain rfl := Option.some.inj taken
      exact ⟨chain, node :: releasing, consistent.giveBack held.1 held.2⟩
    · cases taken
  | access thread spurious => exact consistent.access taken

theorem partitioned_after {size : Nat} (positive : 1 ≤ size) (events : List (PoolEvent Thread))
    {final : CCObjectPool Thread} (ran : run step (init size) events = some final) :
    ∃ chain releasing, final.Partitioned chain releasing ∧ (chain ++ final.owned ++ releasing).Nodup := by
  obtain ⟨left, rfl⟩ := Nat.exists_eq_add_of_le' positive
  have reached : ∃ chain releasing, final.Consistent chain releasing := by
    apply run_invariant (fun pool _ => ∃ chain releasing, pool.Consistent chain releasing) _ _ ran
    · exact fun state _ event next taken ⟨_, _, consistent⟩ => consistent.step taken
    · exact ⟨_, _, consistent_init left⟩
  obtain ⟨chain, releasing, consistent⟩ := reached
  exact ⟨chain, releasing, consistent.toPartitioned, consistent.nodup⟩

end Moves

/-- The first thread has read the link of node 0 when the second one takes nodes 0 and 1 and gives node 0 back, so that
    the head is the same again but for its tag. -/
def givenBack : List (PoolEvent Bool) :=
  .find true :: List.replicate 2 (.access true false) ++ .find false :: List.replicate 3 (.access false false) ++
    .find false :: List.replicate 3 (.access false false) ++ .release false 0 ::
    List.replicate 3 (.access false false) ++ [.access true false]

theorem givenBack_partitioned : ∃ final chain releasing, run step (init 3) givenBack = some final ∧
    final.point true = .readNext 3 0 ∧ final.owned = [1] ∧ final.Partitioned chain releasing := by
  have reached : (run step (init 3) givenBack).any
      (fun final => decide (final.point true = .readNext 3 0 ∧ final.owned = [1])) = true := by
    decide +kernel
  obtain ⟨final, ran, holds⟩ := (Option.any_eq_true _ _).mp reached
  obtain ⟨again, owned⟩ := of_decide_eq_true holds
  obtain ⟨chain, releasing, parts, -⟩ := partitioned_after (by decide) givenBack ran
  exact ⟨final, chain, releasing, ran, again, owned, parts⟩

end CCObjectPool

end CyberRT.Base

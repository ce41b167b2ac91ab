import Mathlib.Data.Finset.Card
import CyberRT.Shm.Segment

namespace CyberRT.Shm

open Execution

namespace SharedMemory

variable {Process : Type}

/-- The process has mapped this segment and counts as one of its users. -/
def AttachedTo (memory : SharedMemory Process) (process : Process) (id : Nat) : Prop :=
  (memory.views process).init = true ∧ (memory.views process).state = some id

theorem AttachedTo.unique {memory : SharedMemory Process} {process : Process} {id other : Nat}
    (attached : memory.AttachedTo process id) (attached' : memory.AttachedTo process other) : id = other :=
  Option.some.inj (attached.2.symm.trans attached'.2)

/-- The users of a segment against its `State`: a segment without the name counts one more than its users, the process
    that took the name away, and tells them to remap. -/
structure Users (memory : SharedMemory Process) (id : Nat) (members : Finset Process) : Prop where
  exact : ∀ process, process ∈ members ↔ memory.AttachedTo process id
  named : memory.bound = some id → members.card ≤ (memory.segments id).referenceCount
  orphaned : memory.bound ≠ some id → members.Nonempty →
    members.card < (memory.segments id).referenceCount ∧ (memory.segments id).needRemap = true

structure Guarded (memory : SharedMemory Process) : Prop where
  pointed : ∀ process, (memory.views process).init = true → ∃ id, (memory.views process).state = some id
  known : ∀ process id, memory.AttachedTo process id → id < memory.created
  named : ∀ id, memory.bound = some id → id < memory.created
  counted : ∀ id, ∃ members, memory.Users id members

theorem guarded_start : ({} : SharedMemory Process).Guarded where
  pointed := by simp
  known := by simp [AttachedTo]
  named := by simp
  counted := fun id => ⟨∅, by simp [AttachedTo], by simp, by simp⟩

theorem Guarded.setSegment {memory : SharedMemory Process} (guarded : memory.Guarded) {id : Nat}
    {segment : SharedSegment} (count : segment.referenceCount = (memory.segments id).referenceCount)
    (told : (memory.segments id).needRemap = true → segment.needRemap = true) :
    (memory.setSegment id segment).Guarded where
  pointed := guarded.pointed
  known := guarded.known
  named := guarded.named
  counted := by
    intro other
    obtain ⟨members, users⟩ := guarded.counted other
    refine ⟨members, users.exact, ?_, ?_⟩
    · intro named
      have bound := users.named named
      by_cases here : other = id
      · subst here
        simpa [SharedMemory.setSegment, count] using bound
      · simpa [SharedMemory.setSegment, here] using bound
    · intro orphan used
      have spare := users.orphaned orphan used
      by_cases here : other = id
      · subst here
        simp only [SharedMemory.setSegment, Function.update_self, count]
        exact ⟨spare.1, told spare.2⟩
      · simpa [SharedMemory.setSegment, here] using spare

theorem Guarded.unname {memory : SharedMemory Process} (guarded : memory.Guarded)
    (free : ∀ id members, memory.bound = some id → memory.Users id members → members.Nonempty →
      members.card < (memory.segments id).referenceCount ∧ (memory.segments id).needRemap = true) :
    memory.remove.2.Guarded where
  pointed := guarded.pointed
  known := guarded.known
  named := by simp [remove]
  counted := by
    intro id
    obtain ⟨members, users⟩ := guarded.counted id
    refine ⟨members, users.exact, by simp [remove], ?_⟩
    intro _ used
    by_cases named : memory.bound = some id
    · exact free id members named users used
    · exact users.orphaned named used

theorem Guarded.name {memory : SharedMemory Process} (guarded : memory.Guarded) (free : memory.bound = none)
    (fresh : SharedSegment) :
    ({ memory.setSegment memory.created fresh with
      bound := some memory.created, created := memory.created + 1 } : SharedMemory Process).Guarded where
  pointed := guarded.pointed
  known := fun process id attached => Nat.lt_succ_of_lt (guarded.known process id attached)
  named := by
    intro id named
    obtain rfl := Option.some.inj named
    exact Nat.lt_succ_self _
  counted := by
    intro id
    obtain ⟨members, users⟩ := guarded.counted id
    refine ⟨members, users.exact, ?_, ?_⟩
    · intro named
      obtain rfl := Option.some.inj named
      have nobody : members = ∅ := by
        apply Finset.eq_empty_of_forall_notMem
        intro process member
        exact Nat.lt_irrefl _ (guarded.known process _ ((users.exact process).mp member))
      simp [nobody]
    · intro _ used
      obtain ⟨process, member⟩ := used
      have before := guarded.known process id ((users.exact process).mp member)
      have spare := users.orphaned (by simp [free]) ⟨process, member⟩
      simpa [SharedMemory.setSegment, Nat.ne_of_lt before] using spare

theorem Guarded.needRemap {memory : SharedMemory Process} (guarded : memory.Guarded) {process : Process} {id : Nat}
    (attached : memory.AttachedTo process id) (orphan : memory.bound ≠ some id) :
    (memory.segments id).needRemap = true := by
  obtain ⟨members, users⟩ := guarded.counted id
  exact (users.orphaned orphan ⟨process, (users.exact process).mpr attached⟩).2

theorem setNeedRemap_views (memory : SharedMemory Process) (process : Process) :
    (memory.setNeedRemap process).views = memory.views := by
  rw [setNeedRemap]
  split <;> rfl

theorem setNeedRemap_created (memory : SharedMemory Process) (process : Process) :
    (memory.setNeedRemap process).created = memory.created := by
  rw [setNeedRemap]
  split <;> rfl

/-- `Destroy` of an attached process: the name goes only when the process was the last one on the named segment. -/
theorem Guarded.destroy_last {memory : SharedMemory Process} (guarded : memory.Guarded) {process : Process} {id : Nat}
    (attached : memory.AttachedTo process id) (last : (memory.segments id).referenceCount - 1 = 0) :
    memory.bound = some id ∧ ∀ other, memory.AttachedTo other id → other = process := by
  obtain ⟨members, users⟩ := guarded.counted id
  have member := (users.exact process).mpr attached
  have positive : 0 < members.card := Finset.card_pos.mpr ⟨process, member⟩
  have named : memory.bound = some id := by
    by_contra orphan
    have spare := users.orphaned orphan ⟨process, member⟩
    omega
  refine ⟨named, ?_⟩
  intro other attached'
  have counted := users.named named
  have single : members.card ≤ 1 := by omega
  exact Finset.card_le_one.mp single other ((users.exact other).mpr attached') process member

theorem Guarded.card_le {memory : SharedMemory Process} (guarded : memory.Guarded) {id : Nat}
    {members : Finset Process} (attached : ∀ process ∈ members, memory.AttachedTo process id) :
    members.card ≤ (memory.segments id).referenceCount := by
  obtain ⟨all, users⟩ := guarded.counted id
  have fewer : members.card ≤ all.card :=
    Finset.card_le_card fun process member => (users.exact process).mpr (attached process member)
  by_cases named : memory.bound = some id
  · exact Nat.le_trans fewer (users.named named)
  · rcases all.eq_empty_or_nonempty with empty | used
    · rw [empty, Finset.card_empty] at fewer
      omega
    · exact Nat.le_trans fewer (Nat.le_of_lt (users.orphaned named used).1)

/-- The two states differ in `seq` and the locks of the blocks at most. -/
structure LocksOnly (memory next : SharedMemory Process) : Prop where
  bound : next.bound = memory.bound
  created : next.created = memory.created
  views : next.views = memory.views
  count : ∀ id, (next.segments id).referenceCount = (memory.segments id).referenceCount
  call : ∀ id, (next.segments id).needRemap = (memory.segments id).needRemap

theorem LocksOnly.refl (memory : SharedMemory Process) : memory.LocksOnly memory :=
  ⟨rfl, rfl, rfl, fun _ => rfl, fun _ => rfl⟩

theorem LocksOnly.setSegment {memory : SharedMemory Process} {id : Nat} {segment : SharedSegment}
    (count : segment.referenceCount = (memory.segments id).referenceCount)
    (call : segment.needRemap = (memory.segments id).needRemap) : memory.LocksOnly (memory.setSegment id segment) := by
  refine ⟨rfl, rfl, rfl, ?_, ?_⟩
  all_goals
    intro other
    simp only [SharedMemory.setSegment, Function.update_apply]
    split
    · simp [*]
    · rfl

theorem LocksOnly.attachedTo {memory next : SharedMemory Process} (locks : memory.LocksOnly next) (process : Process)
    (id : Nat) : next.AttachedTo process id ↔ memory.AttachedTo process id := by
  rw [AttachedTo, AttachedTo, locks.views]

theorem Guarded.locksOnly {memory next : SharedMemory Process} (guarded : memory.Guarded)
    (locks : memory.LocksOnly next) : next.Guarded where
  pointed := by
    rw [locks.views]
    exact guarded.pointed
  known := by
    intro process id attached
    rw [locks.created]
    exact guarded.known process id ((locks.attachedTo process id).mp attached)
  named := by
    rw [locks.bound, locks.created]
    exact guarded.named
  counted := by
    intro id
    obtain ⟨members, users⟩ := guarded.counted id
    refine ⟨members, ?_, ?_, ?_⟩
    · intro process
      rw [users.exact, locks.attachedTo]
    · rw [locks.bound, locks.count]
      exact users.named
    · rw [locks.bound, locks.count, locks.call]
      exact users.orphaned

theorem getNextWritableBlockIndex_locksOnly {memory : SharedMemory Process} {process : Process}
    {acquired : Nat × SharedMemory Process} (taken : memory.getNextWritableBlockIndex process = some acquired) :
    memory.LocksOnly acquired.2 := by
  simp only [getNextWritableBlockIndex, Option.bind_eq_some_iff, Option.map_eq_some_iff] at taken
  obtain ⟨id, _, tries, _, rfl⟩ := taken
  exact LocksOnly.setSegment rfl rfl

theorem releaseBlock_locksOnly {memory next : SharedMemory Process} {process : Process} {index : Nat} {change : Int}
    (taken : memory.releaseBlock process index change = some next) : memory.LocksOnly next := by
  rw [releaseBlock] at taken
  split at taken
  · obtain rfl := Option.some.inj taken
    exact LocksOnly.refl memory
  · obtain ⟨id, _, rfl⟩ := Option.map_eq_some_iff.mp taken
    exact LocksOnly.setSegment rfl rfl

theorem tryLockForRead_locksOnly (memory : SharedMemory Process) (process : Process) (index : Nat) :
    memory.LocksOnly (memory.tryLockForRead process index).2 := by
  rw [tryLockForRead]
  cases (memory.views process).state with
  | none => exact LocksOnly.refl memory
  | some id =>
    simp only
    split
    · exact LocksOnly.refl memory
    · exact LocksOnly.setSegment rfl rfl

/-- The process ends on the named segment or on none, and the name did not go back to an older segment. -/
structure Settled (memory : SharedMemory Process) (process : Process) (next : SharedMemory Process) : Prop where
  placed : ∀ id, next.AttachedTo process id → next.bound = some id
  renamed : ∀ id, next.bound = some id → memory.bound = some id ∨ memory.created ≤ id
  grown : memory.created ≤ next.created

theorem Settled.leaves {memory next : SharedMemory Process} {process : Process} (settled : memory.Settled process next)
    {id : Nat} (known : id < memory.created) (orphan : memory.bound ≠ some id) : ¬next.AttachedTo process id := by
  intro attached
  rcases settled.renamed id (settled.placed id attached) with named | later
  · exact orphan named
  · omega

theorem Settled.trans {memory middle next : SharedMemory Process} {process : Process}
    (first : memory.Settled process middle) (second : middle.Settled process next) : memory.Settled process next where
  placed := second.placed
  renamed := by
    intro id named
    rcases second.renamed id named with named | later
    · exact first.renamed id named
    · exact Or.inr (Nat.le_trans first.grown later)
  grown := Nat.le_trans first.grown second.grown

theorem Settled.locksOnly {memory middle next : SharedMemory Process} {process : Process}
    (settled : memory.Settled process middle) (locks : middle.LocksOnly next) : memory.Settled process next where
  placed := by
    intro id attached
    rw [locks.bound]
    exact settled.placed id ((locks.attachedTo process id).mp attached)
  renamed := by
    rw [locks.bound]
    exact settled.renamed
  grown := by
    rw [locks.created]
    exact settled.grown

variable [DecidableEq Process]

theorem attachedTo_setView (memory : SharedMemory Process) (process other : Process) (view : Segment) (id : Nat) :
    (memory.setView process view).AttachedTo other id ↔
      if other = process then view.init = true ∧ view.state = some id else memory.AttachedTo other id := by
  simp only [AttachedTo, setView, Function.update_apply]
  split <;> rfl

theorem Users.leave {memory : SharedMemory Process} {process : Process} {view : Segment} (left : view.init = false)
    {id : Nat} {members : Finset Process} (users : memory.Users id members) :
    (memory.setView process view).Users id (members.erase process) where
  exact := by
    intro other
    rw [Finset.mem_erase, users.exact, attachedTo_setView]
    split
    · simp [*]
    · simp [*]
  named := fun named => Nat.le_trans (Finset.card_erase_le) (users.named named)
  orphaned := by
    intro orphan used
    have spare := users.orphaned orphan (used.mono (Finset.erase_subset ..))
    exact ⟨Nat.lt_of_le_of_lt (Finset.card_erase_le) spare.1, spare.2⟩

theorem Guarded.leave {memory : SharedMemory Process} (guarded : memory.Guarded) {process : Process} {view : Segment}
    (left : view.init = false) : (memory.setView process view).Guarded where
  pointed := by
    intro other init
    simp only [setView, Function.update_apply] at init ⊢
    split at init
    · rw [left] at init
      cases init
    · rename_i differs
      rw [if_neg differs]
      exact guarded.pointed other init
  known := by
    intro other id attached
    rw [attachedTo_setView] at attached
    split at attached
    · rw [left] at attached
      cases attached.1
    · exact guarded.known other id attached
  named := guarded.named
  counted := by
    intro id
    obtain ⟨members, users⟩ := guarded.counted id
    exact ⟨members.erase process, users.leave left⟩

theorem attachedTo_attach (memory : SharedMemory Process) (process other : Process) (id spot : Nat) :
    (memory.attach process id).AttachedTo other spot ↔
      if other = process then id = spot else memory.AttachedTo other spot := by
  rw [attach, attachedTo_setView]
  split
  · simp
  · rfl

theorem Guarded.attach {memory : SharedMemory Process} (guarded : memory.Guarded) {process : Process}
    (apart : (memory.views process).init = false) {id : Nat} (named : memory.bound = some id) :
    (memory.attach process id).Guarded where
  pointed := by
    intro other init
    simp only [SharedMemory.attach, setView, SharedMemory.setSegment, Function.update_apply] at init ⊢
    split at init
    · rename_i same
      exact ⟨id, by rw [if_pos same]⟩
    · rename_i differs
      rw [if_neg differs]
      exact guarded.pointed other init
  known := by
    intro other spot attached
    rw [attachedTo_attach] at attached
    split at attached
    · subst attached
      exact guarded.named id named
    · exact guarded.known other spot attached
  named := guarded.named
  counted := by
    intro spot
    obtain ⟨members, users⟩ := guarded.counted spot
    have absent : process ∉ members := by
      rw [users.exact]
      intro attached
      rw [attached.1] at apart
      cases apart
    by_cases here : spot = id
    · subst here
      refine ⟨insert process members, ?_, ?_, fun orphan => absurd named orphan⟩
      · intro other
        rw [Finset.mem_insert, users.exact, attachedTo_attach]
        split
        · simp [*]
        · simp [*]
      · intro _
        rw [Finset.card_insert_of_notMem absent]
        simpa [SharedMemory.attach, setView, SharedMemory.setSegment] using users.named named
    · refine ⟨members, ?_, fun same => absurd (Option.some.inj (same.symm.trans named)) here, ?_⟩
      · intro other
        rw [users.exact, attachedTo_attach]
        split
        · rename_i same
          subst same
          constructor
          · intro attached
            exact absurd ((users.exact _).mpr attached) absent
          · intro same
            exact absurd same.symm here
        · rfl
      · intro orphan used
        simpa [SharedMemory.attach, setView, SharedMemory.setSegment, here] using users.orphaned orphan used

theorem Guarded.openOnly {memory : SharedMemory Process} (guarded : memory.Guarded) (process : Process) :
    (memory.openOnly process).2.Guarded := by
  rw [SharedMemory.openOnly]
  cases init : (memory.views process).init with
  | true => simpa using guarded
  | false =>
    cases named : memory.bound with
    | none => simpa using guarded
    | some id => simpa using guarded.attach init named

theorem Guarded.openOrCreate {memory : SharedMemory Process} (guarded : memory.Guarded) (process : Process) :
    (memory.openOrCreate process).2.Guarded := by
  rw [SharedMemory.openOrCreate]
  cases init : (memory.views process).init with
  | true => simpa using guarded
  | false =>
    cases named : memory.bound with
    | some id => simpa using guarded.openOnly process
    | none =>
      simp only [Bool.false_eq_true, if_false]
      apply Guarded.attach
      · exact guarded.name named _
      · exact init
      · rfl

theorem Guarded.setInit {memory : SharedMemory Process} (guarded : memory.Guarded) (process : Process) :
    (memory.setInit process false).Guarded := guarded.leave rfl

theorem Guarded.reset {memory : SharedMemory Process} (guarded : memory.Guarded) {process : Process}
    (apart : (memory.views process).init = false) : (memory.reset process).Guarded := guarded.leave apart

theorem Guarded.remap {memory : SharedMemory Process} (guarded : memory.Guarded) (process : Process) :
    (memory.remap process).2.Guarded := by
  apply Guarded.openOnly
  apply (guarded.setInit process).reset
  simp [SharedMemory.setInit, setView]

theorem Guarded.remapIfNeeded {memory : SharedMemory Process} (guarded : memory.Guarded) (process : Process) :
    (memory.remapIfNeeded process).2.Guarded := by
  rw [SharedMemory.remapIfNeeded]
  split
  · exact guarded.remap process
  · exact guarded

/-- The process that takes the name away was itself counted, which leaves its count to the segment. -/
theorem Guarded.vacate {memory : SharedMemory Process} (guarded : memory.Guarded) {process : Process} {id : Nat}
    (attached : memory.AttachedTo process id) (named : memory.bound = some id) :
    (((memory.setInit process false).setNeedRemap process).reset process).remove.2.Guarded := by
  have told : (memory.setInit process false).setNeedRemap process = (memory.setInit process false).setSegment id
      { memory.segments id with needRemap := true } := by
    simp [setNeedRemap, SharedMemory.setInit, setView, attached.2, SharedMemory.setSegment]
  rw [told]
  have called : ((memory.setInit process false).setSegment id
      { memory.segments id with needRemap := true }).Guarded :=
    (guarded.setInit process).setSegment rfl (fun _ => rfl)
  apply Guarded.unname
  · apply called.reset
    simp [SharedMemory.setInit, setView, SharedMemory.setSegment]
  intro spot members named' users _
  obtain rfl : id = spot := Option.some.inj (named.symm.trans named')
  obtain ⟨before, users'⟩ := guarded.counted id
  have fewer : members = before.erase process := by
    ext other
    rw [users.exact, Finset.mem_erase, users'.exact, SharedMemory.reset, attachedTo_setView]
    by_cases same : other = process
    · simp [same, SharedMemory.setInit, setView, SharedMemory.setSegment]
    · simp [same, AttachedTo, SharedMemory.setInit, setView, SharedMemory.setSegment]
  have counted := users'.named named
  have strict := Finset.card_erase_lt_of_mem ((users'.exact process).mpr attached)
  rw [fewer]
  simp only [SharedMemory.reset, setView, SharedMemory.setSegment, Function.update_self, and_true]
  omega

theorem Guarded.recreate {memory : SharedMemory Process} (guarded : memory.Guarded) {process : Process} {id : Nat}
    (attached : memory.AttachedTo process id) (named : memory.bound = some id) (msgSize : Nat) :
    (memory.recreate process msgSize).2.Guarded := by
  apply Guarded.openOrCreate
  apply (guarded.vacate attached named).leave
  simp [remove, SharedMemory.reset, setNeedRemap, SharedMemory.setInit, setView, attached.2, SharedMemory.setSegment]

theorem attach_settled {memory : SharedMemory Process} {id : Nat} (named : memory.bound = some id)
    (process : Process) : memory.Settled process (memory.attach process id) where
  placed := by
    intro spot attached
    rw [attachedTo_attach, if_pos rfl] at attached
    exact attached ▸ named
  renamed := fun _ named => Or.inl named
  grown := Nat.le_refl _

theorem openOnly_settled {memory : SharedMemory Process} {process : Process}
    (apart : (memory.views process).init = false) : memory.Settled process (memory.openOnly process).2 := by
  simp only [openOnly, apart, Bool.false_eq_true, if_false]
  cases named : memory.bound with
  | some id => exact attach_settled named process
  | none =>
    refine ⟨?_, fun _ named => Or.inl named, Nat.le_refl _⟩
    intro id attached
    exact absurd (apart.symm.trans attached.1) (by decide)

theorem openOrCreate_settled {memory : SharedMemory Process} {process : Process}
    (apart : (memory.views process).init = false) : memory.Settled process (memory.openOrCreate process).2 := by
  simp only [openOrCreate, apart, Bool.false_eq_true, if_false]
  cases named : memory.bound with
  | some id => exact openOnly_settled apart
  | none =>
    refine ⟨(attach_settled rfl process).placed, ?_, Nat.le_succ _⟩
    intro id named
    exact Or.inr (Nat.le_of_eq (Option.some.inj named))

theorem remap_settled (memory : SharedMemory Process) (process : Process) :
    memory.Settled process (memory.remap process).2 := by
  have settled : ((memory.setInit process false).reset process).Settled process (memory.remap process).2 :=
    openOnly_settled (by simp [reset, setInit, setView])
  exact ⟨settled.placed, settled.renamed, settled.grown⟩

theorem Guarded.remapIfNeeded_settled {memory : SharedMemory Process} (guarded : memory.Guarded) (process : Process) :
    memory.Settled process (memory.remapIfNeeded process).2 := by
  rw [SharedMemory.remapIfNeeded]
  split
  · exact remap_settled memory process
  · rename_i silent
    refine ⟨?_, fun _ named => Or.inl named, Nat.le_refl _⟩
    intro id (attached : memory.AttachedTo process id)
    by_contra orphan
    apply silent
    simp only [SharedMemory.needRemap, attached.2]
    exact guarded.needRemap attached orphan

theorem openOnly_attached {memory : SharedMemory Process} {process : Process}
    (opened : (memory.openOnly process).1 = true) : ((memory.openOnly process).2.views process).init = true := by
  simp only [openOnly] at opened ⊢
  split
  · assumption
  · cases named : memory.bound with
    | some id => simp [attach, setView]
    | none => simp_all

theorem openOrCreate_attached (memory : SharedMemory Process) (process : Process) :
    ((memory.openOrCreate process).2.views process).init = true := by
  simp only [openOrCreate]
  split
  · assumption
  · cases named : memory.bound with
    | some id =>
      apply openOnly_attached
      simp only [openOnly, named]
      split <;> rfl
    | none => simp [attach, setView]

theorem remapIfNeeded_attached {memory : SharedMemory Process} {process : Process}
    (init : (memory.views process).init = true) (remapped : (memory.remapIfNeeded process).1 = true) :
    ((memory.remapIfNeeded process).2.views process).init = true := by
  rw [remapIfNeeded] at remapped ⊢
  split
  · rename_i told
    rw [if_pos told] at remapped
    exact openOnly_attached remapped
  · exact init

theorem recreate_settled (memory : SharedMemory Process) (process : Process) (msgSize : Nat) :
    memory.Settled process (memory.recreate process msgSize).2 := by
  let vacated := (((memory.setInit process false).setNeedRemap process).reset process).remove.2.updateConf process msgSize
  have apart : (vacated.views process).init = false := by
    simp [vacated, updateConf, remove, reset, setNeedRemap_views, setInit, setView]
  have same : vacated.created = memory.created := by
    simp [vacated, updateConf, remove, reset, setNeedRemap_created, setInit, setView]
  have settled := openOrCreate_settled apart
  refine ⟨settled.placed, ?_, same ▸ settled.grown⟩
  intro id named
  rcases settled.renamed id named with named | later
  · cases named
  · exact Or.inr (same ▸ later)

theorem Guarded.recreateIfLarger {memory : SharedMemory Process} (guarded : memory.Guarded) {process : Process}
    {id : Nat} (attached : memory.AttachedTo process id) (named : memory.bound = some id) (msgSize : Nat) :
    (memory.recreateIfLarger process msgSize).2.Guarded := by
  rw [SharedMemory.recreateIfLarger]
  split
  · exact guarded.recreate attached named msgSize
  · exact guarded

theorem recreateIfLarger_settled {memory : SharedMemory Process} {process : Process} {id : Nat}
    (attached : memory.AttachedTo process id) (named : memory.bound = some id) (msgSize : Nat) :
    memory.Settled process (memory.recreateIfLarger process msgSize).2 := by
  rw [recreateIfLarger]
  split
  · exact recreate_settled memory process msgSize
  · refine ⟨?_, fun _ named => Or.inl named, Nat.le_refl _⟩
    intro spot (attached' : memory.AttachedTo process spot)
    rw [attached'.unique attached]
    exact named

theorem openToWrite_opened (memory : SharedMemory Process) (process : Process) :
    (memory.openToWrite process).1 = true := by
  simp only [openToWrite, openOrCreate, openOnly]
  cases init : (memory.views process).init with
  | true => rfl
  | false => cases memory.bound <;> simp

theorem openToWrite_attached (memory : SharedMemory Process) (process : Process) :
    ((memory.openToWrite process).2.views process).init = true := by
  rw [openToWrite]
  split
  · assumption
  · exact openOrCreate_attached memory process

theorem Guarded.openToWrite {memory : SharedMemory Process} (guarded : memory.Guarded) (process : Process) :
    (memory.openToWrite process).2.Guarded := by
  rw [SharedMemory.openToWrite]
  split
  · exact guarded
  · exact guarded.openOrCreate process

theorem Guarded.openToRead {memory : SharedMemory Process} (guarded : memory.Guarded) (process : Process) :
    (memory.openToRead process).2.Guarded := by
  rw [SharedMemory.openToRead]
  split
  · exact guarded
  · exact guarded.openOnly process

/-- What a call of `AcquireBlockToWrite` went through: it stops in `Remap`, or it goes on to the loop. -/
theorem acquireBlockToWrite_some {memory : SharedMemory Process} {process : Process} {msgSize : Nat}
    {acquired : Option Nat × SharedMemory Process}
    (taken : memory.acquireBlockToWrite process msgSize = some acquired) :
    let remapped := (memory.openToWrite process).2.remapIfNeeded process
    acquired.2 = remapped.2 ∨
      remapped.1 = true ∧ (remapped.2.recreateIfLarger process msgSize).2.LocksOnly acquired.2 := by
  simp only [acquireBlockToWrite, openToWrite_opened, Bool.true_eq_false, if_false] at taken
  split at taken
  · obtain rfl := Option.some.inj taken
    exact Or.inl rfl
  · rename_i remapped
    right
    refine ⟨by simpa using remapped, ?_⟩
    split at taken
    · obtain rfl := Option.some.inj taken
      exact LocksOnly.refl _
    · obtain ⟨block, found, rfl⟩ := Option.map_eq_some_iff.mp taken
      exact getNextWritableBlockIndex_locksOnly found

theorem Guarded.acquireBlockToWrite {memory : SharedMemory Process} (guarded : memory.Guarded) {process : Process}
    {msgSize : Nat} {acquired : Option Nat × SharedMemory Process}
    (taken : memory.acquireBlockToWrite process msgSize = some acquired) :
    acquired.2.Guarded ∧ (memory.openToWrite process).2.Settled process acquired.2 := by
  have opened := guarded.openToWrite process
  have guarded' := opened.remapIfNeeded process
  have settled := opened.remapIfNeeded_settled process
  rcases acquireBlockToWrite_some taken with same | ⟨remapped, locks⟩
  · rw [same]
    exact ⟨guarded', settled⟩
  · have init := remapIfNeeded_attached (openToWrite_attached memory process) remapped
    obtain ⟨id, state⟩ := guarded'.pointed process init
    have named := settled.placed id ⟨init, state⟩
    constructor
    · exact (guarded'.recreateIfLarger ⟨init, state⟩ named msgSize).locksOnly locks
    · exact (settled.trans (recreateIfLarger_settled ⟨init, state⟩ named msgSize)).locksOnly locks

theorem Guarded.acquireBlockToRead {memory : SharedMemory Process} (guarded : memory.Guarded) (process : Process)
    (index : Nat) : (memory.acquireBlockToRead process index).2.Guarded := by
  have opened := guarded.openToRead process
  have remapped := opened.remapIfNeeded process
  rw [SharedMemory.acquireBlockToRead]
  split
  · exact opened
  · split
    · exact opened
    · simp only
      split
      · exact remapped
      · exact remapped.locksOnly (tryLockForRead_locksOnly ..)

/-- A process that is attached to a segment without the name leaves it in `AcquireBlockToRead` when the index passes
    the check, and only then. -/
theorem Guarded.acquireBlockToRead_leaves {memory : SharedMemory Process} (guarded : memory.Guarded)
    {process : Process} {id : Nat} (attached : memory.AttachedTo process id) (orphan : memory.bound ≠ some id)
    (index : Nat) : ¬(memory.acquireBlockToRead process index).2.AttachedTo process id ↔
      index < (memory.views process).conf.blockNum := by
  have opened : memory.openToRead process = (true, memory) := if_pos attached.1
  have gone : ¬(memory.remapIfNeeded process).2.AttachedTo process id :=
    (guarded.remapIfNeeded_settled process).leaves (guarded.known process id attached) orphan
  rw [SharedMemory.acquireBlockToRead, opened]
  simp only [Bool.true_eq_false, if_false]
  split
  · rename_i beyond
    exact ⟨fun left => absurd attached left, fun within => absurd within (Nat.not_lt_of_le beyond)⟩
  · rename_i within
    refine ⟨fun _ => Nat.lt_of_not_le within, fun _ => ?_⟩
    split
    · exact gone
    · rw [(tryLockForRead_locksOnly ..).attachedTo]
      exact gone

theorem Guarded.acquireBlockToWrite_leaves {memory : SharedMemory Process} (guarded : memory.Guarded)
    {process : Process} {id msgSize : Nat} {acquired : Option Nat × SharedMemory Process}
    (attached : memory.AttachedTo process id) (orphan : memory.bound ≠ some id)
    (taken : memory.acquireBlockToWrite process msgSize = some acquired) :
    ¬acquired.2.AttachedTo process id := by
  have settled := (guarded.acquireBlockToWrite taken).2
  rw [SharedMemory.openToWrite, if_pos attached.1] at settled
  exact settled.leaves (guarded.known process id attached) orphan

theorem Guarded.decreaseReferenceCounts {memory : SharedMemory Process} (guarded : memory.Guarded) {process : Process}
    {id : Nat} (attached : memory.AttachedTo process id) :
    ((memory.setInit process false).decreaseReferenceCounts id).Guarded where
  pointed := (guarded.setInit process).pointed
  known := (guarded.setInit process).known
  named := guarded.named
  counted := by
    intro spot
    obtain ⟨members, users⟩ := guarded.counted spot
    have left : (memory.setInit process false).Users spot (members.erase process) := users.leave rfl
    refine ⟨members.erase process, left.exact, ?_, ?_⟩
    · intro named
      by_cases here : spot = id
      · subst here
        have counted := users.named named
        have fewer := Finset.card_erase_of_mem ((users.exact process).mpr attached)
        simp only [SharedMemory.decreaseReferenceCounts, SharedMemory.setSegment, Function.update_self,
          SharedMemory.setInit, setView]
        omega
      · simpa [SharedMemory.decreaseReferenceCounts, SharedMemory.setSegment, here] using left.named named
    · intro orphan used
      have spare := users.orphaned orphan (used.mono (Finset.erase_subset ..))
      by_cases here : spot = id
      · subst here
        have fewer := Finset.card_erase_of_mem ((users.exact process).mpr attached)
        have some := Finset.card_pos.mpr used
        simp only [SharedMemory.decreaseReferenceCounts, SharedMemory.setSegment, Function.update_self,
          SharedMemory.setInit, setView]
        exact ⟨by omega, spare.2⟩
      · simpa [SharedMemory.decreaseReferenceCounts, SharedMemory.setSegment, here] using left.orphaned orphan used

theorem Guarded.destroy {memory : SharedMemory Process} (guarded : memory.Guarded) (process : Process) :
    (memory.destroy process).Guarded := by
  rw [SharedMemory.destroy]
  cases init : (memory.views process).init with
  | false => simpa using guarded
  | true =>
    obtain ⟨id, state⟩ := guarded.pointed process init
    have attached : memory.AttachedTo process id := ⟨init, state⟩
    have left := guarded.decreaseReferenceCounts attached
    simp only [state, if_true]
    split
    · rename_i empty
      have last := guarded.destroy_last attached (by
        simpa [SharedMemory.decreaseReferenceCounts, SharedMemory.setSegment, SharedMemory.setInit, setView]
          using empty)
      apply left.unname
      intro spot members named users used
      obtain rfl : id = spot := Option.some.inj (last.1.symm.trans named)
      obtain ⟨other, member⟩ := used
      have attached' := (users.exact other).mp member
      change (memory.setInit process false).AttachedTo other id at attached'
      rw [SharedMemory.setInit, attachedTo_setView] at attached'
      split at attached'
      · cases attached'.1
      · rename_i differs
        exact absurd (last.2 other attached') differs
    · exact left

theorem Guarded.step {memory next : SharedMemory Process} (guarded : memory.Guarded) {event : SegmentEvent Process}
    (taken : memory.step event = some next) : next.Guarded := by
  cases event with
  | acquireBlockToWrite process msgSize =>
    obtain ⟨acquired, found, rfl⟩ := Option.map_eq_some_iff.mp taken
    exact (guarded.acquireBlockToWrite found).1
  | acquireBlockToRead process index =>
    obtain rfl := Option.some.inj taken
    exact guarded.acquireBlockToRead process index
  | releaseWrittenBlock process index => exact guarded.locksOnly (releaseBlock_locksOnly taken)
  | releaseReadBlock process index => exact guarded.locksOnly (releaseBlock_locksOnly taken)
  | destroy process =>
    obtain rfl := Option.some.inj taken
    exact guarded.destroy process

theorem guarded_run {memory : SharedMemory Process} {events : List (SegmentEvent Process)}
    (ran : run step ({} : SharedMemory Process) events = some memory) : memory.Guarded :=
  run_invariant (fun reached _ => reached.Guarded) (fun _ _ _ _ taken guarded => guarded.step taken) guarded_start ran

theorem Guarded.destroy_unnames {memory : SharedMemory Process} (guarded : memory.Guarded) {process : Process}
    {id : Nat} (named : memory.bound = some id) (unnamed : (memory.destroy process).bound ≠ some id) :
    ∀ other, memory.AttachedTo other id → other = process := by
  rw [SharedMemory.destroy] at unnamed
  cases init : (memory.views process).init with
  | false => simp [init, named] at unnamed
  | true =>
    obtain ⟨spot, state⟩ := guarded.pointed process init
    simp only [init, state, if_true] at unnamed
    split at unnamed
    · rename_i empty
      have last := guarded.destroy_last ⟨init, state⟩ (by
        simpa [SharedMemory.decreaseReferenceCounts, SharedMemory.setSegment, SharedMemory.setInit, setView]
          using empty)
      rw [Option.some.inj (named.symm.trans last.1)]
      exact last.2
    · exact absurd named unnamed

/-- In every reachable state an orphaned segment tells its users to remap and every segment counts its users, so that
    `Destroy` takes the name only from the last user. An acquire leaves the orphaned segment, except for a read whose
    index does not pass the check against the configuration of that segment. -/
theorem attached_guarded {memory : SharedMemory Process} {events : List (SegmentEvent Process)}
    (ran : run step ({} : SharedMemory Process) events = some memory) :
    (∀ process id, memory.AttachedTo process id → memory.bound ≠ some id → (memory.segments id).needRemap = true) ∧
    (∀ id (members : Finset Process), (∀ process ∈ members, memory.AttachedTo process id) →
      members.card ≤ (memory.segments id).referenceCount) ∧
    (∀ process id, memory.AttachedTo process id → memory.bound ≠ some id →
      (∀ msgSize next, memory.step (.acquireBlockToWrite process msgSize) = some next →
        ¬next.AttachedTo process id) ∧
      ∀ index next, memory.step (.acquireBlockToRead process index) = some next →
        (¬next.AttachedTo process id ↔ index < (memory.views process).conf.blockNum)) ∧
    ∀ process id next, memory.bound = some id → memory.step (.destroy process) = some next → next.bound ≠ some id →
      ∀ other, memory.AttachedTo other id → other = process := by
  have guarded := guarded_run ran
  refine ⟨fun _ _ => guarded.needRemap, fun _ _ => guarded.card_le, ?_, ?_⟩
  · intro process id attached orphan
    constructor
    · intro msgSize next taken
      obtain ⟨acquired, found, rfl⟩ := Option.map_eq_some_iff.mp taken
      exact guarded.acquireBlockToWrite_leaves attached orphan found
    · intro index next taken
      obtain rfl := Option.some.inj taken
      exact guarded.acquireBlockToRead_leaves attached orphan index
  · intro process id next named taken unnamed
    obtain rfl := Option.some.inj taken
    exact guarded.destroy_unnames named unnamed

/-- Process 1 publishes, process 0 reads, and process 1 moves on to a larger segment. -/
def enlarged : List (SegmentEvent Nat) :=
  [.acquireBlockToWrite 1 20000000, .acquireBlockToRead 0 0, .acquireBlockToWrite 1 40000000]

theorem enlarged_tells_reader :
    ∃ memory, run step ({} : SharedMemory Nat) enlarged = some memory ∧ memory.AttachedTo 0 1 ∧
      memory.bound = some 2 ∧ (memory.segments 1).needRemap = true := by
  have reached : (run step ({} : SharedMemory Nat) enlarged).any (fun memory =>
      (memory.views 0).init && (memory.views 0).state == some 1 && memory.bound == some 2) = true := by
    decide +kernel
  obtain ⟨memory, ran, holds⟩ := (Option.any_eq_true _ _).mp reached
  simp only [Bool.and_eq_true, beq_iff_eq] at holds
  have orphan : memory.bound ≠ some 1 := by simp [holds.2]
  exact ⟨memory, ran, holds.1, holds.2, (attached_guarded ran).1 0 1 holds.1 orphan⟩

/-- Process 1 leaves, and process 2 creates a segment of smaller blocks and writes its ninth block. -/
def outnumbered : List (SegmentEvent Nat) :=
  enlarged ++ .destroy 1 :: List.replicate 9 (.acquireBlockToWrite 2 100)

/-- Process 0 is asked for that block and stays on the segment without the name, which has eight. -/
theorem outnumbered_read_stays :
    ¬∀ (events : List (SegmentEvent Nat)) (memory : SharedMemory Nat),
      run step ({} : SharedMemory Nat) events = some memory →
      ∀ process id, memory.AttachedTo process id → memory.bound ≠ some id →
        ∀ index next, memory.step (.acquireBlockToRead process index) = some next → ¬next.AttachedTo process id := by
  intro leaves
  have reached : (run step ({} : SharedMemory Nat) outnumbered).any (fun memory =>
      (memory.views 0).init && (memory.views 0).state == some 1 && memory.bound == some 3 &&
        (((memory.acquireBlockToRead 0 8).2.views 0).init &&
          ((memory.acquireBlockToRead 0 8).2.views 0).state == some 1)) = true := by
    decide +kernel
  obtain ⟨memory, ran, holds⟩ := (Option.any_eq_true _ _).mp reached
  simp only [Bool.and_eq_true, beq_iff_eq] at holds
  have orphan : memory.bound ≠ some 1 := by simp [holds.1.2]
  exact leaves outnumbered memory ran 0 1 holds.1.1 orphan 8 _ rfl holds.2

end SharedMemory

end CyberRT.Shm

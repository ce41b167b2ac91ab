import CyberRT.Execution.Run
import CyberRT.Shm.Segment

namespace CyberRT.Shm

open Execution

/-- The two kinds that `SegmentFactory` creates. -/
inductive SegmentType where
  | xsi
  | posix
  deriving DecidableEq, Repr

/-- `managed_shm_`: null, what `shmat` and `mmap` return when they fail, or a region. -/
inductive ManagedShm where
  | null
  | failed
  | region (id : Nat)
  deriving DecidableEq, Repr

/-- A `Segment` object, the regions that its process has mapped and the number of those it has ever mapped. -/
structure MappedSegment where
  init : Bool := false
  conf : ShmConf := .update ShmConf.messageSize16K
  state : Option Nat := none
  blocks : Option Nat := none
  managedShm : ManagedShm := .null
  mapped : List Nat := []
  regions : Nat := 0
  deriving DecidableEq, Repr

/-- What `shmget` or `shm_open`, `fstat` (Posix only) and `shmat` or `mmap` return in an `OpenOnly`, and what the `State`
    of the segment says. -/
structure OpenOnlyCalls where
  get : Bool
  fstat : Bool
  attach : Bool
  ceilingMsgSize : Nat
  deriving DecidableEq, Repr

inductive CreateResult where
  | created
  | eexist
  | einval
  | error
  deriving DecidableEq, Repr

/-- What the calls of an `OpenOrCreate` return; `create` by the value of `retry`, `unmap` in the `Reset` of that turn. -/
structure OpenOrCreateCalls where
  create : Nat → CreateResult
  unmap : Nat → Bool
  ftruncate : Bool
  attach : Bool
  openOnly : OpenOnlyCalls

structure RemapCalls where
  unmap : Bool
  openOnly : OpenOnlyCalls
  deriving DecidableEq, Repr

structure RecreateCalls where
  unmap : Bool
  openOrCreate : OpenOrCreateCalls

/-- What an `AcquireBlockToWrite` meets: the results of its system calls, what it reads in the `State`, and the number of
    blocks that are not free. -/
structure AcquireToWriteCalls where
  openOrCreate : OpenOrCreateCalls
  needRemap : Bool
  remap : RemapCalls
  recreate : RecreateCalls
  fetchAddSeq : Nat → Nat
  locked : Nat

structure AcquireToReadCalls where
  openOnly : OpenOnlyCalls
  needRemap : Bool
  remap : RemapCalls
  tryLockForRead : Bool
  deriving DecidableEq, Repr

namespace MappedSegment

variable (type : SegmentType) (object : MappedSegment)

/-- An access through `state_` is defined where it points into a region that is mapped. -/
def useState : Option Unit :=
  object.state.bind fun region => if region ∈ object.mapped then some () else none

def useBlocks : Option Unit :=
  object.blocks.bind fun region => if region ∈ object.mapped then some () else none

/-- `shmdt` or `munmap` of what a failed `shmat` or `mmap` has returned unmaps nothing. -/
def reset (unmap : Bool) : MappedSegment :=
  let cleared := { object with state := none, blocks := none, managedShm := .null }
  match object.managedShm with
  | .null | .failed => cleared
  | .region id => if unmap then { cleared with mapped := object.mapped.erase id } else cleared

def attachSegment (attach : Bool) (ceilingMsgSize : Nat) : Option (Bool × MappedSegment) :=
  if attach = false then some (false, { object with managedShm := .failed })
  else
    let attached := { object with
      managedShm := .region object.regions, mapped := object.regions :: object.mapped, regions := object.regions + 1
      state := some object.regions }
    attached.useState.bind fun _ =>
      let placed := { attached with conf := .update ceilingMsgSize, blocks := some object.regions }
      placed.useState.map fun _ => (true, { placed with init := true })

def openOnly (calls : OpenOnlyCalls) : Option (Bool × MappedSegment) :=
  if object.init then some (true, object)
  else
    match type with
    | .xsi =>
      if calls.get = false then some (false, object) else object.attachSegment calls.attach calls.ceilingMsgSize
    | .posix =>
      if calls.get = false then some (false, object)
      else if calls.fstat = false then some (false, object)
      else object.attachSegment calls.attach calls.ceilingMsgSize

/-- The loop over `shmget`, with the turns that are left. -/
def createXsi (calls : OpenOrCreateCalls) (object : MappedSegment) : Nat → Option (Bool × MappedSegment)
  | 0 => some (false, object)
  | left + 1 =>
    match calls.create (1 - left) with
    | .created => object.attachSegment calls.attach object.conf.ceilingMsgSize
    | .einval => createXsi calls (object.reset (calls.unmap (1 - left))) left
    | .eexist => object.openOnly .xsi calls.openOnly
    | .error => some (false, object)

def createPosix (calls : OpenOrCreateCalls) : Option (Bool × MappedSegment) :=
  match calls.create 0 with
  | .created =>
    if calls.ftruncate = false then some (false, object)
    else object.attachSegment calls.attach object.conf.ceilingMsgSize
  | .eexist => object.openOnly .posix calls.openOnly
  | .einval | .error => some (false, object)

def openOrCreate (calls : OpenOrCreateCalls) : Option (Bool × MappedSegment) :=
  if object.init then some (true, object)
  else
    match type with
    | .xsi => createXsi calls object 2
    | .posix => object.createPosix calls

def remap (calls : RemapCalls) : Option (Bool × MappedSegment) :=
  ({ object with init := false }.reset calls.unmap).openOnly type calls.openOnly

def recreate (msgSize : Nat) (calls : RecreateCalls) : Option (Bool × MappedSegment) :=
  let left := { object with init := false }
  left.useState.bind fun _ =>
    { left.reset calls.unmap with conf := .update msgSize }.openOrCreate type calls.openOrCreate

/-- The loop over `FetchAddSeq` and `TryLockForWrite`, with the number of blocks that are still to be found locked. -/
def getNextWritableBlockIndex (fetchAddSeq : Nat → Nat) : Nat → Option Nat
  | 0 => object.useState.bind fun _ => object.useBlocks.map fun _ => fetchAddSeq 0 % object.conf.blockNum
  | locked + 1 => object.useState.bind fun _ => object.useBlocks.bind fun _ =>
    getNextWritableBlockIndex fetchAddSeq locked

def remapIfNeeded (needRemap : Bool) (calls : RemapCalls) : Option (Bool × MappedSegment) :=
  object.useState.bind fun _ => if needRemap then object.remap type calls else some (true, object)

/-- `AcquireBlockToWrite` behind `Remap`, whose result it has not looked at yet. -/
def acquireRemapped (result : Bool) (msgSize : Nat) (calls : AcquireToWriteCalls) :
    Option (Option Nat × MappedSegment) :=
  let recreated :=
    if object.conf.ceilingMsgSize < msgSize then object.recreate type msgSize calls.recreate else some (result, object)
  recreated.bind fun recreated =>
    if recreated.1 = false then some (none, recreated.2)
    else (recreated.2.getNextWritableBlockIndex calls.fetchAddSeq calls.locked).map fun index => (some index, recreated.2)

def acquireBlockToWrite (msgSize : Nat) (calls : AcquireToWriteCalls) : Option (Option Nat × MappedSegment) :=
  let opened := if object.init then some (true, object) else object.openOrCreate type calls.openOrCreate
  opened.bind fun opened =>
    if opened.1 = false then some (none, opened.2)
    else (opened.2.remapIfNeeded type calls.needRemap calls.remap).bind fun remapped =>
      remapped.2.acquireRemapped type remapped.1 msgSize calls

def acquireBlockToRead (index : Nat) (calls : AcquireToReadCalls) : Option (Bool × MappedSegment) :=
  let opened := if object.init then some (true, object) else object.openOnly type calls.openOnly
  opened.bind fun opened =>
    if opened.1 = false then some (false, opened.2)
    else if opened.2.conf.blockNum ≤ index then some (false, opened.2)
    else (opened.2.remapIfNeeded type calls.needRemap calls.remap).bind fun remapped =>
      if remapped.1 = false then some (false, remapped.2)
      else remapped.2.useBlocks.map fun _ => (calls.tryLockForRead, remapped.2)

def releaseBlock (index : Nat) : Option MappedSegment :=
  if object.conf.blockNum ≤ index then some object else object.useBlocks.map fun _ => object

/-- `references` is what is left of the count, `removed` what `Remove` returns. The region stays mapped. -/
def destroy (references : Nat) (removed : Bool) : Option (Bool × MappedSegment) :=
  if object.init = false then some (true, object)
  else
    let left := { object with init := false }
    left.useState.map fun _ => (if references = 0 then removed else true, left)

end MappedSegment

inductive SegmentOperation where
  | acquireBlockToWrite (msgSize : Nat) (calls : AcquireToWriteCalls)
  | releaseWrittenBlock (index : Nat)
  | acquireBlockToRead (index : Nat) (calls : AcquireToReadCalls)
  | releaseReadBlock (index : Nat)
  | destroy (references : Nat) (removed : Bool)

namespace MappedSegment

/-- `none` where the operation accesses memory through a pointer that is null or points into no mapped region. -/
def step (type : SegmentType) (object : MappedSegment) : SegmentOperation → Option MappedSegment
  | .acquireBlockToWrite msgSize calls => (object.acquireBlockToWrite type msgSize calls).map Prod.snd
  | .releaseWrittenBlock index | .releaseReadBlock index => object.releaseBlock index
  | .acquireBlockToRead index calls => (object.acquireBlockToRead type index calls).map Prod.snd
  | .destroy references removed => (object.destroy references removed).map Prod.snd

end MappedSegment

/-- The size that the `State` of the segment says, where the calls attach the object. -/
def OpenOnlyCalls.ceiling (type : SegmentType) (calls : OpenOnlyCalls) : Option Nat :=
  if calls.get ∧ calls.attach ∧ (type = .posix → calls.fstat) then some calls.ceilingMsgSize else none

namespace OpenOrCreateCalls

/-- The result of the last turn: an `EINVAL` of the first `shmget` is answered by a second one. -/
def result (type : SegmentType) (calls : OpenOrCreateCalls) : CreateResult :=
  match type with
  | .xsi => if calls.create 0 = .einval then calls.create 1 else calls.create 0
  | .posix => calls.create 0

def ceilingBehind (type : SegmentType) (calls : OpenOrCreateCalls) (ceilingMsgSize : Nat) : CreateResult → Option Nat
  | .created => if calls.attach ∧ (type = .posix → calls.ftruncate) then some ceilingMsgSize else none
  | .eexist => calls.openOnly.ceiling type
  | .einval | .error => none

def ceiling (type : SegmentType) (calls : OpenOrCreateCalls) (ceilingMsgSize : Nat) : Option Nat :=
  calls.ceilingBehind type ceilingMsgSize (calls.result type)

end OpenOrCreateCalls

namespace MappedSegment

/-- The class of the segment that the object is attached to where `AcquireBlockToWrite` reads `need_remap`. -/
def ceilingToWrite (type : SegmentType) (object : MappedSegment) (calls : OpenOrCreateCalls) : Option Nat :=
  if object.init then some object.conf.ceilingMsgSize
  else (calls.ceiling type object.conf.ceilingMsgSize).map ShmConf.getCeilingMessageSize

/-- A `Remap` of `AcquireBlockToWrite` that fails is for a message that needs no `Recreate`, and a block is released only
    where there are blocks. -/
def Safe (type : SegmentType) (object : MappedSegment) : SegmentOperation → Prop
  | .acquireBlockToWrite msgSize calls =>
    calls.needRemap = true → calls.remap.openOnly.ceiling type = none →
      ∀ ceiling, object.ceilingToWrite type calls.openOrCreate = some ceiling → msgSize ≤ ceiling
  | .releaseWrittenBlock index | .releaseReadBlock index => object.blocks = none → object.conf.blockNum ≤ index
  | .acquireBlockToRead _ _ | .destroy _ _ => True

structure Attached (object : MappedSegment) : Prop where
  init : object.init = true
  state : object.useState = some ()
  blocks : object.useBlocks = some ()

/-- The mapping of an initialized object is there, and `blocks_` is null or points into a region that is mapped. -/
structure Sound (object : MappedSegment) : Prop where
  attached : object.init = true → object.Attached
  blocks : object.blocks ≠ none → object.useBlocks = some ()

theorem Attached.sound {object : MappedSegment} (attached : object.Attached) : object.Sound :=
  ⟨fun _ => attached, fun _ => attached.blocks⟩

theorem sound_start : ({} : MappedSegment).Sound := ⟨fun init => absurd init (by simp), fun blocks => absurd rfl blocks⟩

theorem Sound.detach {object : MappedSegment} (sound : object.Sound) : { object with init := false }.Sound :=
  ⟨fun init => absurd init (by simp), sound.blocks⟩

/-- An opening that succeeds attaches the object, whatever its pointers were, and one that fails leaves it detached. -/
structure Opens (object : MappedSegment) (ceiling : Option Nat) (result : Bool × MappedSegment) : Prop where
  succeeds : result.1 = ceiling.isSome
  attached : ∀ size, ceiling = some size → result.2.Attached ∧ result.2.conf = .update size
  detached : ceiling = none → result.2.init = false ∧ result.2.conf = object.conf
  state : ceiling = none → object.state = none → result.2.state = none
  sound : object.Sound → result.2.Sound

variable {type : SegmentType} {object : MappedSegment}

theorem opens_failed (detached : object.init = false) : object.Opens none (false, object) where
  succeeds := rfl
  attached := by
    intro size some
    cases some
  detached := fun _ => ⟨detached, rfl⟩
  state := fun _ null => null
  sound := fun sound => sound

theorem attachSegment_opens (detached : object.init = false) (attach : Bool) (ceilingMsgSize : Nat) :
    ∃ result, object.attachSegment attach ceilingMsgSize = some result ∧
      object.Opens (if attach then some ceilingMsgSize else none) result := by
  cases attach with
  | false =>
    refine ⟨_, rfl, rfl, fun _ some => ?_, fun _ => ⟨detached, rfl⟩, fun _ null => null, fun sound => ?_⟩
    · cases some
    · exact ⟨fun init => absurd init (by simp [detached]), sound.blocks⟩
  | true =>
    let attached : MappedSegment := { object with
      init := true, conf := .update ceilingMsgSize, state := some object.regions, blocks := some object.regions
      managedShm := .region object.regions, mapped := object.regions :: object.mapped, regions := object.regions + 1 }
    have holds : attached.Attached := ⟨rfl, by simp [useState, attached], by simp [useBlocks, attached]⟩
    refine ⟨(true, attached), by simp [attachSegment, useState, attached], rfl, ?_, ?_, ?_, fun _ => holds.sound⟩
    · intro size same
      cases same
      exact ⟨holds, rfl⟩
    · intro none
      cases none
    · intro none
      cases none

theorem openOnly_opens (detached : object.init = false) (calls : OpenOnlyCalls) :
    ∃ result, object.openOnly type calls = some result ∧ object.Opens (calls.ceiling type) result := by
  have opens := attachSegment_opens detached calls.attach calls.ceilingMsgSize
  unfold openOnly OpenOnlyCalls.ceiling
  rw [if_neg (by simp [detached])]
  cases get : calls.get with
  | false =>
    refine ⟨(false, object), ?_, ?_⟩
    · cases type <;> rfl
    · simpa using opens_failed detached
  | true =>
    cases type with
    | xsi => simpa using opens
    | posix =>
      cases fstat : calls.fstat with
      | false => exact ⟨(false, object), rfl, by simpa using opens_failed detached⟩
      | true => simpa using opens

theorem reset_detached (detached : object.init = false) (unmap : Bool) : (object.reset unmap).init = false ∧
    (object.reset unmap).conf = object.conf ∧ (object.reset unmap).state = none ∧ (object.reset unmap).blocks = none := by
  unfold reset
  cases object.managedShm with
  | null => exact ⟨detached, rfl, rfl, rfl⟩
  | failed => exact ⟨detached, rfl, rfl, rfl⟩
  | region id => cases unmap <;> exact ⟨detached, rfl, rfl, rfl⟩

theorem sound_of_null (detached : object.init = false) (null : object.blocks = none) : object.Sound :=
  ⟨fun init => absurd init (by simp [detached]), fun blocks => absurd null blocks⟩

theorem Opens.of_reset {ceiling : Option Nat} {result : Bool × MappedSegment} {unmap : Bool}
    (detached : object.init = false) (opens : (object.reset unmap).Opens ceiling result) : object.Opens ceiling result := by
  rcases reset_detached detached unmap with ⟨init, conf, state, blocks⟩
  refine ⟨opens.succeeds, opens.attached, ?_, fun failed _ => opens.state failed state, ?_⟩
  · intro failed
    rw [← conf]
    exact opens.detached failed
  · exact fun _ => opens.sound (sound_of_null init blocks)

theorem createXsi_turn (detached : object.init = false) (calls : OpenOrCreateCalls) (left : Nat)
    (last : calls.create (1 - left) ≠ .einval) : ∃ result, createXsi calls object (left + 1) = some result ∧
      object.Opens (calls.ceilingBehind .xsi object.conf.ceilingMsgSize (calls.create (1 - left))) result := by
  unfold createXsi
  cases created : calls.create (1 - left) with
  | created => simpa [OpenOrCreateCalls.ceilingBehind] using attachSegment_opens detached calls.attach _
  | eexist => exact openOnly_opens detached calls.openOnly
  | einval => exact absurd created last
  | error => exact ⟨_, rfl, opens_failed detached⟩

theorem createXsi_again {calls : OpenOrCreateCalls} {left : Nat} (again : calls.create (1 - left) = .einval) :
    createXsi calls object (left + 1) = createXsi calls (object.reset (calls.unmap (1 - left))) left := by
  rw [createXsi, again]

theorem createXsi_opens (detached : object.init = false) (calls : OpenOrCreateCalls) :
    ∃ result, createXsi calls object 2 = some result ∧
      object.Opens (calls.ceiling .xsi object.conf.ceilingMsgSize) result := by
  unfold OpenOrCreateCalls.ceiling OpenOrCreateCalls.result
  by_cases first : calls.create 0 = .einval
  · let cleared := object.reset (calls.unmap 0)
    rcases reset_detached detached (calls.unmap 0) with ⟨init, conf, _, _⟩
    have retried : createXsi calls object 2 = createXsi calls cleared 1 := createXsi_again first
    simp only [first, if_true]
    rw [retried, ← conf]
    by_cases second : calls.create 1 = .einval
    · -- neither turn names a segment
      rcases reset_detached init (calls.unmap 1) with ⟨init', _, _, _⟩
      have ended : createXsi calls cleared 1 = some (false, cleared.reset (calls.unmap 1)) := createXsi_again second
      have failed := ((opens_failed init').of_reset init).of_reset detached
      rw [second]
      exact ⟨_, ended, failed⟩
    · rcases createXsi_turn init calls 0 second with ⟨result, same, opens⟩
      exact ⟨result, same, opens.of_reset detached⟩
  · simp only [first, if_false]
    exact createXsi_turn detached calls 1 first

theorem createPosix_opens (detached : object.init = false) (calls : OpenOrCreateCalls) :
    ∃ result, object.createPosix calls = some result ∧
      object.Opens (calls.ceiling .posix object.conf.ceilingMsgSize) result := by
  unfold createPosix OpenOrCreateCalls.ceiling OpenOrCreateCalls.result
  cases created : calls.create 0 with
  | created =>
    cases truncated : calls.ftruncate with
    | false => exact ⟨_, rfl, by simpa [OpenOrCreateCalls.ceilingBehind, truncated] using opens_failed detached⟩
    | true => simpa [OpenOrCreateCalls.ceilingBehind, truncated] using attachSegment_opens detached calls.attach _
  | eexist => exact openOnly_opens detached calls.openOnly
  | einval => exact ⟨_, rfl, opens_failed detached⟩
  | error => exact ⟨_, rfl, opens_failed detached⟩

theorem openOrCreate_opens (detached : object.init = false) (calls : OpenOrCreateCalls) :
    ∃ result, object.openOrCreate type calls = some result ∧
      object.Opens (calls.ceiling type object.conf.ceilingMsgSize) result := by
  unfold openOrCreate
  rw [if_neg (by simp [detached])]
  cases type with
  | xsi => exact createXsi_opens detached calls
  | posix => exact createPosix_opens detached calls

theorem remap_opens (calls : RemapCalls) : ∃ result, object.remap type calls = some result ∧
    { object with init := false }.Opens (calls.openOnly.ceiling type) result ∧
    (calls.openOnly.ceiling type = none → result.2.state = none) := by
  let left := { object with init := false }
  rcases @reset_detached left rfl calls.unmap with ⟨init, _, state, _⟩
  rcases openOnly_opens init calls.openOnly with ⟨result, same, opens⟩
  exact ⟨result, same, opens.of_reset rfl, fun failed => opens.state failed state⟩

theorem Opens.attaches {ceiling : Option Nat} {result : Bool × MappedSegment} (opens : object.Opens ceiling result)
    (succeeded : result.1 = true) : result.2.Attached := by
  cases opened : ceiling with
  | none =>
    rw [opens.succeeds, opened] at succeeded
    cases succeeded
  | some size => exact (opens.attached size opened).1

theorem recreate_defined (attached : object.Attached) (msgSize : Nat) (calls : RecreateCalls) :
    ∃ result, object.recreate type msgSize calls = some result ∧ result.2.Sound ∧
      (result.1 = true → result.2.Attached) := by
  let left := { object with init := false }
  rcases @reset_detached left rfl calls.unmap with ⟨init, _, _, blocks⟩
  let updated := { left.reset calls.unmap with conf := .update msgSize }
  have init' : updated.init = false := init
  rcases openOrCreate_opens init' calls.openOrCreate with ⟨result, same, opens⟩
  have used : left.useState = some () := attached.state
  refine ⟨result, ?_, opens.sound (sound_of_null init' blocks), opens.attaches⟩
  show left.useState.bind _ = some result
  rw [used]
  exact same

theorem recreate_null (null : object.state = none) (msgSize : Nat) (calls : RecreateCalls) :
    object.recreate type msgSize calls = none := by
  unfold recreate useState
  rw [null]
  rfl

theorem getNextWritableBlockIndex_defined (attached : object.Attached) (fetchAddSeq : Nat → Nat) (locked : Nat) :
    ∃ index, object.getNextWritableBlockIndex fetchAddSeq locked = some index := by
  induction locked with
  | zero => exact ⟨_, by rw [getNextWritableBlockIndex, attached.state, attached.blocks]; rfl⟩
  | succ locked ih =>
    rw [getNextWritableBlockIndex, attached.state, attached.blocks]
    exact ih

theorem acquireRemapped_attached (attached : object.Attached) (msgSize : Nat) (calls : AcquireToWriteCalls) :
    ∃ acquired, object.acquireRemapped type true msgSize calls = some acquired ∧ acquired.2.Sound := by
  unfold acquireRemapped
  by_cases larger : object.conf.ceilingMsgSize < msgSize
  · rcases @recreate_defined type object attached msgSize calls.recreate with ⟨result, same, sound, attaches⟩
    simp only [if_pos larger, same, Option.bind_some]
    by_cases failed : result.1 = false
    · rw [if_pos failed]
      exact ⟨_, rfl, sound⟩
    · rw [if_neg failed]
      have again := attaches (by simpa using failed)
      rcases getNextWritableBlockIndex_defined again calls.fetchAddSeq calls.locked with ⟨index, found⟩
      rw [found]
      exact ⟨_, rfl, sound⟩
  · simp only [if_neg larger, Option.bind_some]
    rcases getNextWritableBlockIndex_defined attached calls.fetchAddSeq calls.locked with ⟨index, found⟩
    rw [if_neg (by simp), found]
    exact ⟨_, rfl, attached.sound⟩

theorem acquireRemapped_small {msgSize : Nat} (small : msgSize ≤ object.conf.ceilingMsgSize)
    (calls : AcquireToWriteCalls) : object.acquireRemapped type false msgSize calls = some (none, object) := by
  unfold acquireRemapped
  rw [if_neg (Nat.not_lt_of_le small)]
  rfl

theorem acquireRemapped_large {msgSize : Nat} (large : object.conf.ceilingMsgSize < msgSize) (null : object.state = none)
    (result : Bool) (calls : AcquireToWriteCalls) : object.acquireRemapped type result msgSize calls = none := by
  unfold acquireRemapped
  rw [if_pos large, recreate_null null]
  rfl

theorem remapIfNeeded_attached (attached : object.Attached) (needRemap : Bool) (calls : RemapCalls) :
    object.remapIfNeeded type needRemap calls =
      if needRemap then object.remap type calls else some (true, object) := by
  unfold remapIfNeeded
  rw [attached.state]
  rfl

/-- An attached object with the condition of `Safe`: where it holds the rest of the call is defined, and where it does not
    `Recreate` meets a null `state_`. -/
theorem acquireAttached_defined (attached : object.Attached) (msgSize : Nat) (calls : AcquireToWriteCalls) :
    ((calls.needRemap = true → calls.remap.openOnly.ceiling type = none → msgSize ≤ object.conf.ceilingMsgSize) →
      ∃ acquired, ((object.remapIfNeeded type calls.needRemap calls.remap).bind fun remapped =>
        remapped.2.acquireRemapped type remapped.1 msgSize calls) = some acquired ∧ acquired.2.Sound) ∧
    (calls.needRemap = true → calls.remap.openOnly.ceiling type = none → object.conf.ceilingMsgSize < msgSize →
      ((object.remapIfNeeded type calls.needRemap calls.remap).bind fun remapped =>
        remapped.2.acquireRemapped type remapped.1 msgSize calls) = none) := by
  rw [remapIfNeeded_attached attached]
  rcases @remap_opens type object calls.remap with ⟨remapped, same, opens, null⟩
  have remaps (needed : calls.needRemap = true) :
      (if calls.needRemap then object.remap type calls.remap else some (true, object)) = some remapped := by
    rw [if_pos needed, same]
  constructor
  · intro fits
    by_cases needed : calls.needRemap = true
    · rw [remaps needed, Option.bind_some, opens.succeeds]
      cases found : calls.remap.openOnly.ceiling type with
      | some size => exact acquireRemapped_attached (opens.attached size found).1 msgSize calls
      | none =>
        have small := fits needed found
        rw [← show remapped.2.conf = object.conf from (opens.detached found).2] at small
        exact ⟨_, acquireRemapped_small small calls,
          opens.sound (attached.sound.detach)⟩
    · rw [if_neg needed]
      exact acquireRemapped_attached attached msgSize calls
  · intro needed found large
    rw [remaps needed, Option.bind_some]
    rw [← show remapped.2.conf = object.conf from (opens.detached found).2] at large
    exact acquireRemapped_large large (null found) _ calls

theorem openToWrite_opens (reachable : object.init = true → object.Attached) (calls : OpenOrCreateCalls) :
    ∃ result, (if object.init then some (true, object) else object.openOrCreate type calls) = some result ∧
      result.1 = (object.ceilingToWrite type calls).isSome ∧
      (∀ size, object.ceilingToWrite type calls = some size →
        result.2.Attached ∧ result.2.conf.ceilingMsgSize = size) ∧ (object.Sound → result.2.Sound) := by
  unfold ceilingToWrite
  by_cases init : object.init = true
  · refine ⟨(true, object), if_pos init, by rw [if_pos init]; rfl, ?_, fun sound => sound⟩
    intro size same
    rw [if_pos init] at same
    cases same
    exact ⟨reachable init, rfl⟩
  · have detached : object.init = false := by simpa using init
    rcases @openOrCreate_opens type object detached calls with ⟨result, same, opens⟩
    rw [if_neg init, if_neg init]
    refine ⟨result, same, by rw [opens.succeeds]; simp, ?_, opens.sound⟩
    intro size opened
    rcases Option.map_eq_some_iff.mp opened with ⟨ceiling, named, class_⟩
    rcases opens.attached ceiling named with ⟨attached, conf⟩
    refine ⟨attached, ?_⟩
    rw [conf, ← class_]
    rfl

theorem acquireBlockToWrite_defined (reachable : object.init = true → object.Attached) (msgSize : Nat)
    (calls : AcquireToWriteCalls) :
    (object.Safe type (.acquireBlockToWrite msgSize calls) → ∃ acquired,
      object.acquireBlockToWrite type msgSize calls = some acquired ∧ (object.Sound → acquired.2.Sound)) ∧
    (¬object.Safe type (.acquireBlockToWrite msgSize calls) →
      object.acquireBlockToWrite type msgSize calls = none) := by
  rcases @openToWrite_opens type object reachable calls.openOrCreate with ⟨opened, same, succeeds, attaches, sound⟩
  unfold acquireBlockToWrite Safe
  simp only [same, Option.bind_some]
  cases named : object.ceilingToWrite type calls.openOrCreate with
  | none =>
    -- nothing was opened, and the call returns
    rw [named] at succeeds
    have failed : opened.1 = false := succeeds
    simp only [if_pos failed]
    refine ⟨fun _ => ⟨_, rfl, sound⟩, fun broken => absurd ?_ broken⟩
    intro _ _ size none
    cases none
  | some ceiling =>
    rw [named] at succeeds
    have opens : ¬opened.1 = false := by simp [succeeds]
    rcases attaches ceiling named with ⟨attached, class_⟩
    rcases @acquireAttached_defined type opened.2 attached msgSize calls with ⟨defined, undefined⟩
    rw [class_] at defined undefined
    simp only [if_neg opens, Option.some.injEq, forall_eq']
    constructor
    · intro safe
      rcases defined safe with ⟨acquired, done, kept⟩
      exact ⟨acquired, done, fun _ => kept⟩
    · intro broken
      simp only [Classical.not_imp, Nat.not_le] at broken
      exact undefined broken.1 broken.2.1 broken.2.2

theorem acquireBlockToRead_defined (reachable : object.init = true → object.Attached) (index : Nat)
    (calls : AcquireToReadCalls) : ∃ acquired, object.acquireBlockToRead type index calls = some acquired ∧
      (object.Sound → acquired.2.Sound) := by
  have opening : ∃ result, (if object.init then some (true, object) else object.openOnly type calls.openOnly) = some result ∧
      (result.1 = true → result.2.Attached) ∧ (object.Sound → result.2.Sound) := by
    by_cases init : object.init = true
    · exact ⟨_, if_pos init, fun _ => reachable init, fun sound => sound⟩
    · rcases @openOnly_opens type object (by simpa using init) calls.openOnly with ⟨result, same, opens⟩
      exact ⟨result, by rw [if_neg init, same], opens.attaches, opens.sound⟩
  rcases opening with ⟨opened, same, attaches, sound⟩
  unfold acquireBlockToRead
  simp only [same, Option.bind_some]
  by_cases failed : opened.1 = false
  · rw [if_pos failed]
    exact ⟨_, rfl, sound⟩
  · rw [if_neg failed]
    have attached := attaches (by simpa using failed)
    by_cases beyond : opened.2.conf.blockNum ≤ index
    · rw [if_pos beyond]
      exact ⟨_, rfl, sound⟩
    · rw [if_neg beyond, remapIfNeeded_attached attached]
      by_cases needed : calls.needRemap = true
      · rcases @remap_opens type opened.2 calls.remap with ⟨remapped, same', opens, _⟩
        have kept := opens.sound attached.sound.detach
        rw [if_pos needed, same', Option.bind_some]
        by_cases failed' : remapped.1 = false
        · rw [if_pos failed']
          exact ⟨_, rfl, fun _ => kept⟩
        · rw [if_neg failed', (opens.attaches (by simpa using failed')).blocks]
          exact ⟨_, rfl, fun _ => kept⟩
      · rw [if_neg needed, Option.bind_some, if_neg (by simp), attached.blocks]
        exact ⟨_, rfl, fun _ => attached.sound⟩

theorem releaseBlock_defined (sound : object.Sound) (index : Nat) :
    ((object.blocks = none → object.conf.blockNum ≤ index) → object.releaseBlock index = some object) ∧
    (¬(object.blocks = none → object.conf.blockNum ≤ index) → object.releaseBlock index = none) := by
  unfold releaseBlock
  constructor
  · intro safe
    split
    · rfl
    · rename_i below
      rw [sound.blocks (fun null => below (safe null))]
      rfl
  · intro broken
    simp only [Classical.not_imp] at broken
    rw [if_neg broken.2]
    unfold useBlocks
    rw [broken.1]
    rfl

theorem destroy_defined (reachable : object.init = true → object.Attached) (references : Nat) (removed : Bool) :
    ∃ destroyed, object.destroy references removed = some destroyed ∧ (object.Sound → destroyed.2.Sound) := by
  unfold destroy
  by_cases init : object.init = true
  · have used : { object with init := false }.useState = some () := (reachable init).state
    rw [if_neg (by simp [init])]
    simp only [used]
    exact ⟨_, rfl, Sound.detach⟩
  · rw [if_pos (by simpa using init)]
    exact ⟨_, rfl, fun sound => sound⟩

theorem step_defined (sound : object.Sound) (operation : SegmentOperation) :
    (object.Safe type operation → ∃ next, step type object operation = some next ∧ next.Sound) ∧
    (¬object.Safe type operation → step type object operation = none) := by
  cases operation with
  | acquireBlockToWrite msgSize calls =>
    rcases @acquireBlockToWrite_defined type object sound.attached msgSize calls with ⟨defined, undefined⟩
    constructor
    · intro safe
      rcases defined safe with ⟨acquired, done, kept⟩
      exact ⟨acquired.2, by simp only [step, done, Option.map_some], kept sound⟩
    · intro broken
      simp only [step, undefined broken, Option.map_none]
  | releaseWrittenBlock index =>
    rcases releaseBlock_defined sound index with ⟨defined, undefined⟩
    exact ⟨fun safe => ⟨object, defined safe, sound⟩, undefined⟩
  | acquireBlockToRead index calls =>
    rcases @acquireBlockToRead_defined type object sound.attached index calls with ⟨acquired, done, kept⟩
    exact ⟨fun _ => ⟨acquired.2, by simp only [step, done, Option.map_some], kept sound⟩, fun broken => absurd trivial broken⟩
  | releaseReadBlock index =>
    rcases releaseBlock_defined sound index with ⟨defined, undefined⟩
    exact ⟨fun safe => ⟨object, defined safe, sound⟩, undefined⟩
  | destroy references removed =>
    rcases @destroy_defined object sound.attached references removed with ⟨destroyed, done, kept⟩
    exact ⟨fun _ => ⟨destroyed.2, by simp only [step, done, Option.map_some], kept sound⟩, fun broken => absurd trivial broken⟩

theorem releases_safe (used : object.useBlocks = some ()) (index : Nat) :
    object.Safe type (.releaseWrittenBlock index) ∧ object.Safe type (.releaseReadBlock index) := by
  have there : object.blocks ≠ none := by
    intro null
    unfold useBlocks at used
    rw [null] at used
    cases used
  exact ⟨fun null => absurd null there, fun null => absurd null there⟩

theorem getNextWritableBlockIndex_blocks {fetchAddSeq : Nat → Nat} {locked index : Nat}
    (found : object.getNextWritableBlockIndex fetchAddSeq locked = some index) : object.useBlocks = some () := by
  cases locked with
  | zero =>
    rcases Option.bind_eq_some_iff.mp found with ⟨_, _, rest⟩
    rcases Option.map_eq_some_iff.mp rest with ⟨_, used, _⟩
    exact used
  | succ locked =>
    rcases Option.bind_eq_some_iff.mp found with ⟨_, _, rest⟩
    rcases Option.bind_eq_some_iff.mp rest with ⟨_, used, _⟩
    exact used

/-- Whoever releases what the last call has acquired meets the condition. -/
theorem written_release_safe {next : MappedSegment} {msgSize index : Nat} {calls : AcquireToWriteCalls}
    (acquired : object.acquireBlockToWrite type msgSize calls = some (some index, next)) :
    next.Safe type (.releaseWrittenBlock index) := by
  rcases Option.bind_eq_some_iff.mp acquired with ⟨opened, _, rest⟩
  split at rest
  · cases rest
  · rcases Option.bind_eq_some_iff.mp rest with ⟨remapped, _, rest⟩
    rcases Option.bind_eq_some_iff.mp rest with ⟨recreated, _, rest⟩
    split at rest
    · cases rest
    · rcases Option.map_eq_some_iff.mp rest with ⟨_, found, same⟩
      cases same
      exact (releases_safe (getNextWritableBlockIndex_blocks found) index).1

theorem read_release_safe {next : MappedSegment} {index : Nat} {calls : AcquireToReadCalls}
    (acquired : object.acquireBlockToRead type index calls = some (true, next)) :
    next.Safe type (.releaseReadBlock index) := by
  rcases Option.bind_eq_some_iff.mp acquired with ⟨opened, _, rest⟩
  split at rest
  · cases rest
  · split at rest
    · cases rest
    · rcases Option.bind_eq_some_iff.mp rest with ⟨remapped, _, rest⟩
      split at rest
      · cases rest
      · rcases Option.map_eq_some_iff.mp rest with ⟨_, used, same⟩
        rcases Prod.mk.inj same with ⟨_, rfl⟩
        exact (releases_safe used index).2

/-- A detached object attaches itself again before it uses `state_` or `blocks_`, or returns, wherever they point. -/
theorem detached_defined (detached : object.init = false) {operation : SegmentOperation}
    (acquires : ∀ index, operation ≠ .releaseWrittenBlock index ∧ operation ≠ .releaseReadBlock index)
    (safe : object.Safe type operation) : ∃ next, step type object operation = some next := by
  have reachable : object.init = true → object.Attached := fun init => absurd init (by simp [detached])
  cases operation with
  | acquireBlockToWrite msgSize calls =>
    rcases (acquireBlockToWrite_defined reachable msgSize calls).1 safe with ⟨acquired, done, _⟩
    exact ⟨acquired.2, by simp only [step, done, Option.map_some]⟩
  | releaseWrittenBlock index => exact absurd rfl (acquires index).1
  | acquireBlockToRead index calls =>
    rcases @acquireBlockToRead_defined type object reachable index calls with ⟨acquired, done, _⟩
    exact ⟨acquired.2, by simp only [step, done, Option.map_some]⟩
  | releaseReadBlock index => exact absurd rfl (acquires index).2
  | destroy references removed =>
    rcases @destroy_defined object reachable references removed with ⟨destroyed, done, _⟩
    exact ⟨destroyed.2, by simp only [step, done, Option.map_some]⟩

/-- Whatever the system calls return, the operations use neither a null pointer nor one into a region that is not mapped
    exactly when each of them is safe where it begins. -/
theorem operations_defined_iff (type : SegmentType) (operations : List SegmentOperation) :
    (∃ object, run (step type) {} operations = some object) ↔ Meets (step type) (Safe type) {} operations := by
  apply exists_run_iff_meets Sound ?_ ?_ sound_start
  · intro object operation next taken sound
    rcases @step_defined type object sound operation with ⟨defined, undefined⟩
    by_cases safe : object.Safe type operation
    · rcases defined safe with ⟨next', taken', kept⟩
      cases taken.symm.trans taken'
      exact kept
    · cases taken.symm.trans (undefined safe)
  · intro object operation sound
    rcases @step_defined type object sound operation with ⟨defined, undefined⟩
    constructor
    · intro ⟨next, taken⟩
      by_contra broken
      cases taken.symm.trans (undefined broken)
    · intro safe
      rcases defined safe with ⟨next, taken, _⟩
      exact ⟨next, taken⟩

/-- A segment of the first class, which another process has left for a larger one and removed. -/
def removedSegment (msgSize : Nat) : SegmentOperation :=
  .acquireBlockToWrite msgSize {
    openOrCreate := ⟨fun _ => .eexist, fun _ => true, true, true, ⟨true, true, true, ShmConf.messageSize16K⟩⟩
    needRemap := true
    remap := ⟨true, ⟨false, true, true, 0⟩⟩
    recreate := ⟨true, ⟨fun _ => .created, fun _ => true, true, true, ⟨false, true, true, 0⟩⟩⟩
    fetchAddSeq := fun _ => 0
    locked := 0 }

theorem removedSegment_null :
    ¬∀ type operations, ∃ object, run (step type) {} operations = some object := by
  intro defined
  rcases defined .xsi [removedSegment 20000] with ⟨object, ran⟩
  have crashed : run (step .xsi) {} [removedSegment 20000] = none := by decide +kernel
  cases crashed.symm.trans ran

end MappedSegment

end CyberRT.Shm

import Mathlib.Data.Finset.Card
import CyberRT.Execution.Tally
import CyberRT.Shm.BlockSteps

namespace CyberRT.Shm

open Execution

/-- The block has the bytes of this transmission, at the sizes that it says. -/
structure Block.Holds (block : Block) (sent : Transmission) : Prop where
  msgSize : block.msgSize = sent.payload.length
  msgInfoSize : block.msgInfoSize = messageInfoKSize
  payload : block.buf.read 0 sent.payload.length = sent.payload
  info : block.buf.read sent.payload.length messageInfoKSize = sent.info.serializeTo

/-- The blocks differ in the lock at most. -/
structure Block.SameContent (block block' : Block) : Prop where
  msgSize : block'.msgSize = block.msgSize
  msgInfoSize : block'.msgInfoSize = block.msgInfoSize
  buf : block'.buf = block.buf

theorem Block.SameContent.refl (block : Block) : block.SameContent block := ⟨rfl, rfl, rfl⟩

theorem Block.Holds.same {block block' : Block} {sent : Transmission} (holds : block.Holds sent)
    (same : block.SameContent block') : block'.Holds sent where
  msgSize := same.msgSize.trans holds.msgSize
  msgInfoSize := same.msgInfoSize.trans holds.msgInfoSize
  payload := same.buf ▸ holds.payload
  info := same.buf ▸ holds.info

/-- A block that `ReadMessage` would take for written is one that was written by one call of `Transmit`. -/
def Block.Sound (block : Block) (transmitted : List Transmission) : Prop :=
  block.msgInfoSize = messageInfoKSize → ∃ sent ∈ transmitted, block.Holds sent

namespace SegmentUse

variable {Writer Reader : Type}

/-- What a writer has already put into its block. -/
def WriterFits (transmitted : List Transmission) (blocks : Nat → Block) : TransmitPoint → Prop
  | .idle => True
  | .fetchAddSeq sent | .tryLockForWrite sent _ | .serializeToArray sent _ | .notify sent _ => sent ∈ transmitted
  | .setMsgSize sent index =>
    sent ∈ transmitted ∧ (blocks index).buf.read 0 sent.payload.length = sent.payload
  | .serializeTo sent index =>
    sent ∈ transmitted ∧ (blocks index).buf.read 0 sent.payload.length = sent.payload ∧
      (blocks index).msgSize = sent.payload.length
  | .setMsgInfoSize sent index =>
    sent ∈ transmitted ∧ (blocks index).buf.read 0 sent.payload.length = sent.payload ∧
      (blocks index).msgSize = sent.payload.length ∧
      (blocks index).buf.read sent.payload.length messageInfoKSize = sent.info.serializeTo
  | .releaseWriteLock sent index => sent ∈ transmitted ∧ (blocks index).Holds sent

/-- What a reader has taken from its block. -/
def ReaderFits (transmitted : List Transmission) (blocks : Nat → Block) : ReadPoint → Prop
  | .idle | .loadLockNum _ _ | .msgSize _ | .releaseReadLock _ => True
  | .exchangeLockNum _ _ lockNum => 0 ≤ lockNum
  | .msgInfoSize index addr => addr = (blocks index).msgSize
  | .deserializeFrom index addr len => addr = (blocks index).msgSize ∧ len = (blocks index).msgInfoSize
  | .onMessage index info => ∃ sent ∈ transmitted, (blocks index).Holds sent ∧ info = sent.info
  | .parseFromArray index info size =>
    ∃ sent ∈ transmitted, (blocks index).Holds sent ∧ info = sent.info ∧ size = sent.payload.length

variable (use : SegmentUse Writer Reader)

def Writing (writer : Writer) (index : Nat) : Prop := (use.writer writer).block = some index

def Reading (reader : Reader) (index : Nat) : Prop := (use.reader reader).block = some index

/-- What `lock_num_` says about the processes at the block. -/
inductive Locked (index : Nat) : Prop
  | writing (writer : Writer) (lock : (use.blocks index).lockNum = -1)
      (alone : ∀ other, use.Writing other index ↔ other = writer) (unread : ∀ reader, ¬use.Reading reader index)
  | reading (readers : Finset Reader) (lock : (use.blocks index).lockNum = readers.card)
      (exact : ∀ reader, reader ∈ readers ↔ use.Reading reader index) (unwritten : ∀ writer, ¬use.Writing writer index)
      (sound : (use.blocks index).Sound use.transmitted)

structure Consistent : Prop where
  locked : ∀ index, use.Locked index
  writers : ∀ writer, WriterFits use.transmitted use.blocks (use.writer writer)
  readers : ∀ reader, ReaderFits use.transmitted use.blocks (use.reader reader)
  handed : ∀ sent ∈ use.handed, sent ∈ use.transmitted

variable {use} {next : SegmentUse Writer Reader}

theorem consistent_start (garbage : Nat → Bytes.Buffer) : (start garbage : SegmentUse Writer Reader).Consistent where
  locked := by
    intro index
    apply Locked.reading ∅
    · rfl
    · simp [Reading, start, ReadPoint.block]
    · simp [Writing, start, TransmitPoint.block]
    · intro written
      cases written
  writers := fun _ => trivial
  readers := fun _ => trivial
  handed := by simp [start]

theorem Locked.frame {index : Nat} (locked : use.Locked index) (block : next.blocks index = use.blocks index)
    (writers : ∀ writer, next.Writing writer index ↔ use.Writing writer index)
    (readers : ∀ reader, next.Reading reader index ↔ use.Reading reader index)
    (transmitted : use.transmitted ⊆ next.transmitted) : next.Locked index := by
  cases locked with
  | writing writer lock alone unread =>
    apply Locked.writing writer (block ▸ lock)
    · exact fun other => (writers other).trans (alone other)
    · exact fun reader reads => unread reader ((readers reader).mp reads)
  | reading sharing lock exact unwritten sound =>
    apply Locked.reading sharing (block ▸ lock)
    · exact fun reader => (exact reader).trans (readers reader).symm
    · exact fun writer writes => unwritten writer ((writers writer).mp writes)
    · rw [block]
      intro written
      obtain ⟨sent, member, holds⟩ := sound written
      exact ⟨sent, transmitted member, holds⟩

theorem WriterFits.frame {transmitted transmitted' : List Transmission} {blocks blocks' : Nat → Block}
    {point : TransmitPoint} (fits : WriterFits transmitted blocks point) (more : transmitted ⊆ transmitted')
    (same : ∀ index, point.block = some index → (blocks index).SameContent (blocks' index)) :
    WriterFits transmitted' blocks' point := by
  cases point with
  | idle => trivial
  | fetchAddSeq sent | tryLockForWrite sent index | serializeToArray sent index | notify sent index => exact more fits
  | setMsgSize sent index | serializeTo sent index | setMsgInfoSize sent index =>
    obtain ⟨msgSize, msgInfoSize, buf⟩ := same index rfl
    simp only [WriterFits, msgSize, buf] at fits ⊢
    exact ⟨more fits.1, fits.2⟩
  | releaseWriteLock sent index => exact ⟨more fits.1, fits.2.same (same index rfl)⟩

theorem ReaderFits.frame {transmitted transmitted' : List Transmission} {blocks blocks' : Nat → Block}
    {point : ReadPoint} (fits : ReaderFits transmitted blocks point) (more : transmitted ⊆ transmitted')
    (same : ∀ index, point.block = some index → (blocks index).SameContent (blocks' index)) :
    ReaderFits transmitted' blocks' point := by
  cases point with
  | idle | loadLockNum index tryTimes | msgSize index | releaseReadLock index => trivial
  | exchangeLockNum index tryTimes lockNum => exact fits
  | msgInfoSize index addr | deserializeFrom index addr len =>
    obtain ⟨msgSize, msgInfoSize, buf⟩ := same index rfl
    simp only [ReaderFits, msgSize, msgInfoSize] at fits ⊢
    exact fits
  | onMessage index info | parseFromArray index info size =>
    obtain ⟨sent, member, holds, facts⟩ := fits
    exact ⟨sent, more member, holds.same (same index rfl), facts⟩

theorem Locked.alone {index : Nat} {writer other : Writer} (locked : use.Locked index)
    (writes : use.Writing writer index) (writes' : use.Writing other index) : writer = other := by
  cases locked with
  | writing only _ alone _ => exact ((alone writer).mp writes).trans ((alone other).mp writes').symm
  | reading _ _ _ unwritten _ => exact absurd writes (unwritten writer)

/-- The lock of a block with a writer. -/
theorem Locked.write_lock {index : Nat} {writer : Writer} (locked : use.Locked index) (writes : use.Writing writer index) :
    (use.blocks index).lockNum = -1 ∧ (∀ other, use.Writing other index ↔ other = writer) ∧
      ∀ reader, ¬use.Reading reader index := by
  cases locked with
  | writing only lock alone unread =>
    obtain rfl := (alone writer).mp writes
    exact ⟨lock, alone, unread⟩
  | reading _ _ _ unwritten _ => exact absurd writes (unwritten writer)

theorem Locked.sound {index : Nat} {reader : Reader} (locked : use.Locked index) (reads : use.Reading reader index) :
    (use.blocks index).Sound use.transmitted := by
  cases locked with
  | writing _ _ _ unread => exact absurd reads (unread reader)
  | reading _ _ _ _ sound => exact sound

theorem Locked.writers_apart {writer : Writer} {index : Nat} (locked : use.Locked index)
    (writes : use.Writing writer index) (other : Writer) (differs : other ≠ writer) : ¬use.Writing other index :=
  fun writes' => differs (locked.alone writes' writes)

section Writers

variable [DecidableEq Writer]

theorem writing_toWriter (writer other : Writer) (point : TransmitPoint) (index : Nat) :
    (use.toWriter writer point).Writing other index ↔
      if other = writer then point.block = some index else use.Writing other index := by
  unfold Writing toWriter
  by_cases same : other = writer
  · simp [same]
  · simp [same]

/-- A writer goes on without an access to a block. -/
theorem Consistent.writerStill (consistent : use.Consistent) (writer : Writer) (point : TransmitPoint)
    (same : point.block = (use.writer writer).block) (more : use.transmitted ⊆ next.transmitted)
    (blocks : next.blocks = use.blocks) (moved : next.writer = Function.update use.writer writer point)
    (reader : next.reader = use.reader) (handed : next.handed = use.handed)
    (fits : WriterFits next.transmitted use.blocks point) : next.Consistent where
  locked := by
    intro index
    apply (consistent.locked index).frame (by rw [blocks])
    · intro other
      unfold Writing
      rw [moved, apply_update_same TransmitPoint.block same]
    · intro other
      unfold Reading
      rw [reader]
    · exact more
  writers := by
    rw [blocks, moved]
    apply (Function.forall_update_iff _ fun _ => WriterFits next.transmitted use.blocks).mpr
    exact ⟨fits, fun other _ => (consistent.writers other).frame more fun index _ => Block.SameContent.refl _⟩
  readers := by
    intro other
    rw [blocks, reader]
    exact (consistent.readers other).frame more fun index _ => Block.SameContent.refl _
  handed := by
    intro sent member
    rw [handed] at member
    exact more (consistent.handed sent member)

/-- A writer changes a block that is nobody else's. -/
theorem Consistent.writerChange {writer : Writer} {point : TransmitPoint} {index : Nat} {block : Block}
    (consistent : use.Consistent) (unread : ∀ reader, ¬use.Reading reader index)
    (alone : ∀ other, other ≠ writer → ¬use.Writing other index)
    (elsewhere : ∀ other, other ≠ index → (point.block = some other ↔ (use.writer writer).block = some other))
    (locked : ((use.setBlock index block).toWriter writer point).Locked index)
    (fits : WriterFits use.transmitted (Function.update use.blocks index block) point) :
    ((use.setBlock index block).toWriter writer point).Consistent where
  locked := by
    intro other
    by_cases here : other = index
    · rw [here]
      exact locked
    · apply (consistent.locked other).frame
      · exact Function.update_of_ne here _ _
      · intro someone
        rw [writing_toWriter]
        by_cases same : someone = writer
        · rw [if_pos same, elsewhere other here, same]
          exact Iff.rfl
        · rw [if_neg same]
          exact Iff.rfl
      · exact fun _ => Iff.rfl
      · exact List.Subset.refl _
  writers := by
    apply (Function.forall_update_iff _ fun _ => WriterFits use.transmitted (Function.update use.blocks index block)).mpr
    refine ⟨fits, ?_⟩
    intro other apart
    apply (consistent.writers other).frame (List.Subset.refl _)
    intro spot held
    have differs : spot ≠ index := fun same => alone other apart (same ▸ held)
    rw [Function.update_of_ne differs]
    exact Block.SameContent.refl _
  readers := by
    intro reader
    apply (consistent.readers reader).frame (List.Subset.refl _)
    intro spot held
    have differs : spot ≠ index := fun same => unread reader (same ▸ held)
    simp only [toWriter, setBlock, Function.update_of_ne differs]
    exact Block.SameContent.refl _
  handed := consistent.handed

/-- The writer that holds the block writes into it and keeps it. -/
theorem Consistent.writerEdit {writer : Writer} {point : TransmitPoint} {index : Nat} {block : Block}
    (consistent : use.Consistent) (writes : use.Writing writer index) (keeps : point.block = some index)
    (lock : block.lockNum = (use.blocks index).lockNum)
    (fits : WriterFits use.transmitted (Function.update use.blocks index block) point) :
    ((use.setBlock index block).toWriter writer point).Consistent := by
  obtain ⟨held, alone, unread⟩ := (consistent.locked index).write_lock writes
  apply consistent.writerChange unread ((consistent.locked index).writers_apart writes)
  · intro other differs
    rw [keeps, show (use.writer writer).block = some index from writes]
  · apply Locked.writing writer
    · show (Function.update use.blocks index block index).lockNum = -1
      rw [Function.update_self, lock, held]
    · intro other
      rw [writing_toWriter]
      by_cases same : other = writer
      · rw [if_pos same, keeps]
        exact iff_of_true rfl same
      · rw [if_neg same]
        exact alone other
    · exact unread
  · exact fits

theorem Consistent.tryLockForWrite {writer : Writer} {sent : Transmission} {index : Nat} (consistent : use.Consistent)
    (outside : (use.writer writer).block = none) (member : sent ∈ use.transmitted)
    (free : (use.blocks index).lockNum = 0) :
    ((use.setBlock index { use.blocks index with lockNum := -1 }).toWriter writer
      (.serializeToArray sent index)).Consistent := by
  have nobody : (∀ reader, ¬use.Reading reader index) ∧ ∀ writer, ¬use.Writing writer index := by
    cases consistent.locked index with
    | writing _ lock _ _ => omega
    | reading readers lock exact unwritten _ =>
      have empty : readers = ∅ := Finset.card_eq_zero.mp (by omega)
      apply And.intro _ unwritten
      intro reader reads
      simpa [empty] using (exact reader).mpr reads
  apply consistent.writerChange nobody.1 (fun other _ => nobody.2 other)
  · intro other differs
    rw [outside]
    simpa [TransmitPoint.block] using fun same : index = other => differs same.symm
  · apply Locked.writing writer
    · simp [toWriter, setBlock]
    · intro other
      rw [writing_toWriter]
      by_cases same : other = writer
      · rw [if_pos same]
        exact iff_of_true rfl same
      · rw [if_neg same]
        exact iff_of_false (nobody.2 other) same
    · exact nobody.1
  · exact member

theorem Consistent.releaseWriteLock {writer : Writer} {sent : Transmission} {index : Nat} (consistent : use.Consistent)
    (here : use.writer writer = .releaseWriteLock sent index) :
    ((use.setBlock index { use.blocks index with lockNum := (use.blocks index).lockNum + 1 }).toWriter writer
      (.notify sent index)).Consistent := by
  have fits := consistent.writers writer
  rw [here] at fits
  obtain ⟨member, holds⟩ := fits
  have writes : use.Writing writer index := by rw [Writing, here]; rfl
  obtain ⟨held, alone, unread⟩ := (consistent.locked index).write_lock writes
  apply consistent.writerChange unread ((consistent.locked index).writers_apart writes)
  · intro other differs
    rw [here]
    simpa [TransmitPoint.block] using fun same : index = other => differs same.symm
  · apply Locked.reading ∅
    · simp [toWriter, setBlock, held]
    · intro reader
      exact iff_of_false (Finset.notMem_empty reader) (unread reader)
    · intro other
      rw [writing_toWriter]
      split
      · simp [TransmitPoint.block]
      · rename_i differs
        exact fun writes' => differs ((alone other).mp writes')
    · intro _
      refine ⟨sent, member, ?_⟩
      simp only [toWriter, setBlock, Function.update_self]
      exact holds.same ⟨rfl, rfl, rfl⟩
  · exact member

theorem Consistent.transmit {conf : ShmConf} {writer : Writer} {sent : Transmission} (consistent : use.Consistent)
    (taken : use.transmit conf writer sent = some next) : next.Consistent := by
  unfold SegmentUse.transmit at taken
  split at taken
  · rename_i idle
    obtain rfl := Option.some.inj taken
    apply consistent.writerStill writer (.fetchAddSeq sent)
    · rw [idle.1]
      rfl
    · exact List.subset_append_left _ _
    · rfl
    · rfl
    · rfl
    · rfl
    · exact List.mem_append_right _ (List.mem_singleton_self _)
  · cases taken

theorem Consistent.writerStep {conf : ShmConf} {writer : Writer} {spurious : Bool} (consistent : use.Consistent)
    (taken : use.writerStep conf writer spurious = some next) : next.Consistent := by
  have fits := consistent.writers writer
  unfold SegmentUse.writerStep at taken
  cases here : use.writer writer with
  | idle => simp [here] at taken
  | fetchAddSeq sent =>
    rw [here] at fits
    simp only [here] at taken
    obtain rfl := Option.some.inj taken
    exact consistent.writerStill writer _ (by rw [here]; rfl) (List.Subset.refl _) rfl rfl rfl rfl fits
  | tryLockForWrite sent index =>
    rw [here] at fits
    simp only [here] at taken
    split at taken
    · rename_i free
      obtain rfl := Option.some.inj taken
      exact consistent.tryLockForWrite (by rw [here]; rfl) fits free.1
    · obtain rfl := Option.some.inj taken
      exact consistent.writerStill writer _ (by rw [here]; rfl) (List.Subset.refl _) rfl rfl rfl rfl fits
  | serializeToArray sent index =>
    rw [here] at fits
    simp only [here] at taken
    obtain rfl := Option.some.inj taken
    have writes : use.Writing writer index := by rw [Writing, here]; rfl
    apply consistent.writerEdit writes
    · rfl
    · rfl
    simp only [WriterFits, Function.update_self]
    exact ⟨fits, Bytes.Buffer.read_write _ 0 sent.payload⟩
  | setMsgSize sent index =>
    rw [here] at fits
    simp only [here] at taken
    obtain rfl := Option.some.inj taken
    have writes : use.Writing writer index := by rw [Writing, here]; rfl
    apply consistent.writerEdit writes
    · rfl
    · rfl
    simp only [WriterFits, Function.update_self]
    exact ⟨fits.1, fits.2, trivial⟩
  | serializeTo sent index =>
    rw [here] at fits
    simp only [here] at taken
    obtain rfl := Option.some.inj taken
    obtain ⟨member, payload, msgSize⟩ := fits
    have writes : use.Writing writer index := by rw [Writing, here]; rfl
    apply consistent.writerEdit writes
    · rfl
    · rfl
    simp only [WriterFits, Function.update_self]
    -- the MessageInfo goes behind the payload
    have kept := Bytes.Buffer.read_write_before (use.blocks index).buf 0 sent.payload.length sent.payload.length
      sent.info.serializeTo (by omega)
    have info := Bytes.Buffer.read_write (use.blocks index).buf sent.payload.length sent.info.serializeTo
    rw [MessageInfo.length_serializeTo] at info
    exact ⟨member, kept.trans payload, msgSize, info⟩
  | setMsgInfoSize sent index =>
    rw [here] at fits
    simp only [here] at taken
    obtain rfl := Option.some.inj taken
    obtain ⟨member, payload, msgSize, info⟩ := fits
    have writes : use.Writing writer index := by rw [Writing, here]; rfl
    apply consistent.writerEdit writes
    · rfl
    · rfl
    simp only [WriterFits, Function.update_self]
    exact ⟨member, msgSize, rfl, payload, info⟩
  | releaseWriteLock sent index =>
    simp only [here] at taken
    obtain rfl := Option.some.inj taken
    exact consistent.releaseWriteLock here
  | notify sent index =>
    simp only [here] at taken
    obtain rfl := Option.some.inj taken
    exact consistent.writerStill writer _ (by rw [here]; rfl) (List.Subset.refl _) rfl rfl rfl rfl trivial

end Writers

/-- Whoever reads a block with the size of a MessageInfo behind the payload gets what one `Transmit` has written. -/
theorem Consistent.deserializeFrom {reader : Reader} {index : Nat} {info : MessageInfo} (consistent : use.Consistent)
    (reads : use.Reading reader index)
    (parsed : MessageInfo.deserializeFrom ((use.blocks index).buf.read (use.blocks index).msgSize messageInfoKSize)
      (use.blocks index).msgInfoSize = some info) :
    ∃ sent ∈ use.transmitted, (use.blocks index).Holds sent ∧ info = sent.info := by
  have written : (use.blocks index).msgInfoSize = messageInfoKSize := by
    unfold MessageInfo.deserializeFrom at parsed
    split at parsed
    · rename_i size
      exact size.2
    · cases parsed
  obtain ⟨sent, member, holds⟩ := (consistent.locked index).sound reads written
  refine ⟨sent, member, holds, ?_⟩
  rw [holds.msgSize, holds.info, written, MessageInfo.deserializeFrom_serializeTo] at parsed
  exact (Option.some.inj parsed).symm

section Readers

variable [DecidableEq Reader]

theorem reading_toReader (reader other : Reader) (point : ReadPoint) (index : Nat) :
    (use.toReader reader point).Reading other index ↔
      if other = reader then point.block = some index else use.Reading other index := by
  unfold Reading toReader
  by_cases same : other = reader
  · simp [same]
  · simp [same]

/-- A reader goes on without a change of the lock. -/
theorem Consistent.readerStill {reader : Reader} {point : ReadPoint} (consistent : use.Consistent)
    (same : point.block = (use.reader reader).block) (fits : ReaderFits use.transmitted use.blocks point) :
    (use.toReader reader point).Consistent where
  locked := by
    intro index
    apply (consistent.locked index).frame
    · rfl
    · exact fun _ => Iff.rfl
    · intro other
      rw [reading_toReader]
      by_cases here : other = reader
      · rw [if_pos here, same, here]
        exact Iff.rfl
      · rw [if_neg here]
    · exact List.Subset.refl _
  writers := consistent.writers
  readers := by
    apply (Function.forall_update_iff _ fun _ => ReaderFits use.transmitted use.blocks).mpr
    exact ⟨fits, fun other _ => consistent.readers other⟩
  handed := consistent.handed

/-- A reader counts itself in or out at a block without a writer. -/
theorem Consistent.readerChange {reader : Reader} {point : ReadPoint} {index : Nat} {lockNum : Int}
    (consistent : use.Consistent)
    (elsewhere : ∀ other, other ≠ index → (point.block = some other ↔ (use.reader reader).block = some other))
    (locked : ((use.setBlock index { use.blocks index with lockNum }).toReader reader point).Locked index)
    (fits : ReaderFits use.transmitted use.blocks point) :
    ((use.setBlock index { use.blocks index with lockNum }).toReader reader point).Consistent := by
  have content : ∀ spot, (use.blocks spot).SameContent
      (Function.update use.blocks index { use.blocks index with lockNum } spot) := by
    intro spot
    by_cases here : spot = index
    · rw [here, Function.update_self]
      exact ⟨rfl, rfl, rfl⟩
    · rw [Function.update_of_ne here]
      exact Block.SameContent.refl _
  apply Consistent.mk
  · intro other
    by_cases here : other = index
    · rw [here]
      exact locked
    · apply (consistent.locked other).frame
      · exact Function.update_of_ne here _ _
      · exact fun _ => Iff.rfl
      · intro someone
        rw [reading_toReader]
        by_cases same : someone = reader
        · rw [if_pos same, elsewhere other here, same]
          exact Iff.rfl
        · rw [if_neg same]
          exact Iff.rfl
      · exact List.Subset.refl _
  · intro writer
    exact (consistent.writers writer).frame (List.Subset.refl _) fun spot _ => content spot
  · apply (Function.forall_update_iff _ fun _ => ReaderFits use.transmitted _).mpr
    refine ⟨fits.frame (List.Subset.refl _) fun spot _ => content spot, ?_⟩
    exact fun other _ => (consistent.readers other).frame (List.Subset.refl _) fun spot _ => content spot
  · exact consistent.handed

theorem Consistent.exchangeLockNum {reader : Reader} {index : Nat} (consistent : use.Consistent)
    (outside : (use.reader reader).block = none) (unheld : 0 ≤ (use.blocks index).lockNum) :
    ((use.setBlock index { use.blocks index with lockNum := (use.blocks index).lockNum + 1 }).toReader reader
      (.msgSize index)).Consistent := by
  apply consistent.readerChange
  · intro other differs
    rw [outside]
    simpa [ReadPoint.block] using fun same : index = other => differs same.symm
  · cases consistent.locked index with
    | writing _ lock _ _ => omega
    | reading readers lock exact unwritten sound =>
      have fresh : reader ∉ readers := by
        intro member
        have reads := (exact reader).mp member
        rw [Reading, outside] at reads
        cases reads
      apply Locked.reading (insert reader readers)
      · simp [toReader, setBlock, lock, Finset.card_insert_of_notMem fresh]
      · intro other
        rw [reading_toReader, Finset.mem_insert]
        by_cases same : other = reader
        · rw [if_pos same]
          exact iff_of_true (Or.inl same) rfl
        · rw [if_neg same]
          exact (or_iff_right same).trans (exact other)
      · exact unwritten
      · intro written
        simp only [toReader, setBlock, Function.update_self] at written ⊢
        obtain ⟨sent, member, holds⟩ := sound written
        exact ⟨sent, member, holds.same ⟨rfl, rfl, rfl⟩⟩
  · trivial

theorem Consistent.releaseReadLock {reader : Reader} {index : Nat} (consistent : use.Consistent)
    (here : use.reader reader = .releaseReadLock index) :
    ((use.setBlock index { use.blocks index with lockNum := (use.blocks index).lockNum - 1 }).toReader reader
      .idle).Consistent := by
  have reads : use.Reading reader index := by rw [Reading, here]; rfl
  apply consistent.readerChange
  · intro other differs
    rw [here]
    simpa [ReadPoint.block] using fun same : index = other => differs same.symm
  · cases consistent.locked index with
    | writing _ _ _ unread => exact absurd reads (unread reader)
    | reading readers lock exact unwritten sound =>
      have member := (exact reader).mpr reads
      have positive : 0 < readers.card := Finset.card_pos.mpr ⟨reader, member⟩
      apply Locked.reading (readers.erase reader)
      · simp only [toReader, setBlock, Function.update_self, lock, Finset.card_erase_of_mem member]
        omega
      · intro other
        rw [reading_toReader, Finset.mem_erase]
        by_cases same : other = reader
        · rw [if_pos same]
          exact iff_of_false (fun both => both.1 same) (by simp [ReadPoint.block])
        · rw [if_neg same]
          exact (and_iff_right same).trans (exact other)
      · exact unwritten
      · intro written
        simp only [toReader, setBlock, Function.update_self] at written ⊢
        obtain ⟨sent, member, holds⟩ := sound written
        exact ⟨sent, member, holds.same ⟨rfl, rfl, rfl⟩⟩
  · trivial

theorem Consistent.readMessage {conf : ShmConf} {reader : Reader} {index : Nat} (consistent : use.Consistent)
    (taken : use.readMessage conf reader index = some next) : next.Consistent := by
  unfold SegmentUse.readMessage at taken
  split at taken
  · rename_i idle
    obtain rfl := Option.some.inj taken
    apply consistent.readerStill
    · rw [idle]
      split <;> rfl
    · split <;> trivial
  · cases taken

theorem Consistent.readerStep {reader : Reader} {choice : Bool} (consistent : use.Consistent)
    (taken : use.readerStep reader choice = some next) : next.Consistent := by
  have fits := consistent.readers reader
  unfold SegmentUse.readerStep at taken
  cases here : use.reader reader with
  | idle => simp [here] at taken
  | loadLockNum index tryTimes =>
    simp only [here] at taken
    obtain rfl := Option.some.inj taken
    apply consistent.readerStill
    · rw [here]
      split <;> rfl
    · split
      · trivial
      · rename_i unheld
        exact Int.not_lt.mp unheld
  | exchangeLockNum index tryTimes lockNum =>
    rw [here] at fits
    simp only [here] at taken
    split at taken
    · rename_i same
      obtain rfl := Option.some.inj taken
      obtain rfl := same.1
      exact consistent.exchangeLockNum (by rw [here]; rfl) fits
    · obtain rfl := Option.some.inj taken
      apply consistent.readerStill
      · rw [here]
        split <;> rfl
      · split <;> trivial
  | msgSize index =>
    simp only [here] at taken
    obtain rfl := Option.some.inj taken
    exact consistent.readerStill (by rw [here]; rfl) rfl
  | msgInfoSize index addr =>
    rw [here] at fits
    simp only [here] at taken
    obtain rfl := Option.some.inj taken
    exact consistent.readerStill (by rw [here]; rfl) ⟨fits, rfl⟩
  | deserializeFrom index addr len =>
    rw [here] at fits
    simp only [here] at taken
    obtain rfl := Option.some.inj taken
    obtain ⟨rfl, rfl⟩ := fits
    have reads : use.Reading reader index := by rw [Reading, here]; rfl
    apply consistent.readerStill
    · rw [here]
      split <;> rfl
    · split
      · rename_i info parsed
        exact consistent.deserializeFrom reads parsed
      · trivial
  | onMessage index info =>
    rw [here] at fits
    simp only [here] at taken
    obtain rfl := Option.some.inj taken
    apply consistent.readerStill
    · rw [here]
      split <;> rfl
    · split
      · obtain ⟨sent, member, holds, same⟩ := fits
        exact ⟨sent, member, holds, same, holds.msgSize⟩
      · trivial
  | parseFromArray index info size =>
    rw [here] at fits
    simp only [here] at taken
    obtain rfl := Option.some.inj taken
    obtain ⟨sent, member, holds, rfl, rfl⟩ := fits
    have still : (use.toReader reader (.onMessage index sent.info)).Consistent :=
      consistent.readerStill (by rw [here]; rfl) ⟨sent, member, holds, rfl⟩
    apply Consistent.mk
    · intro other
      exact (still.locked other).frame rfl (fun _ => Iff.rfl) (fun _ => Iff.rfl) (List.Subset.refl _)
    · exact still.writers
    · exact still.readers
    · intro handed delivered
      rcases List.mem_append.mp delivered with earlier | last
      · exact consistent.handed handed earlier
      · obtain rfl := List.mem_singleton.mp last
        rw [holds.payload]
        exact member
  | releaseReadLock index =>
    simp only [here] at taken
    obtain rfl := Option.some.inj taken
    exact consistent.releaseReadLock here

end Readers

variable [DecidableEq Writer] [DecidableEq Reader]

theorem Consistent.step {conf : ShmConf} {event : UseEvent Writer Reader} (taken : step conf use event = some next)
    (consistent : use.Consistent) : next.Consistent := by
  cases event with
  | transmit writer sent => exact consistent.transmit taken
  | writer writer spurious => exact consistent.writerStep taken
  | readMessage reader index => exact consistent.readMessage taken
  | reader reader choice => exact consistent.readerStep taken

/-- A writer has its block to itself, and what a listener gets was written by one `Transmit`. -/
theorem handed_transmitted {conf : ShmConf} {garbage : Nat → Bytes.Buffer} {events : List (UseEvent Writer Reader)}
    (ran : run (step conf) (start garbage) events = some use) :
    (∀ writer index, use.Writing writer index →
      (∀ other, use.Writing other index → other = writer) ∧ ∀ reader, ¬use.Reading reader index) ∧
    ∀ sent ∈ use.handed, sent ∈ use.transmitted := by
  have consistent : use.Consistent :=
    Meets.preserves Consistent (fun _ _ _ _ => Consistent.step) (consistent_start garbage) (meets_true _ events) ran
  apply And.intro _ consistent.handed
  intro writer index writes
  obtain ⟨_, alone, unread⟩ := (consistent.locked index).write_lock writes
  exact ⟨fun other writes' => (alone other).mp writes', unread⟩

def sampleIdentity : Identity := ⟨[1, 2, 3, 4, 5, 6, 7, 8], rfl⟩

def sampleSent : Transmission := ⟨[10, 20, 30], ⟨sampleIdentity, 300, sampleIdentity⟩⟩

/-- A reader takes the block of an earlier `Transmit`, and its exchange fails once, while a second writer is told to go on
    to the next block. -/
def sharedBlock : List (UseEvent Bool Unit) :=
  .transmit true sampleSent :: List.replicate 8 (.writer true false) ++
    [.readMessage () 0, .reader () false, .reader () true, .transmit false sampleSent, .writer false false] ++
    List.replicate 5 (.reader () false) ++ [.reader () true, .reader () false, .writer false false, .reader () false,
    .reader () false]

theorem sharedBlock_handed : ∃ use, run (step (.update 0)) (start fun _ _ => 7) sharedBlock = some use ∧
    use.handed = [sampleSent] ∧
    (∀ writer index, use.Writing writer index →
      (∀ other, use.Writing other index → other = writer) ∧ ∀ reader, ¬use.Reading reader index) ∧
    ∀ sent ∈ use.handed, sent ∈ use.transmitted := by
  have reached : (run (step (.update 0)) (start fun _ _ => 7) sharedBlock).any (fun use =>
      decide (use.handed = [sampleSent])) = true := by decide +kernel
  obtain ⟨use, ran, handed⟩ := (Option.any_eq_true _ _).mp reached
  exact ⟨use, ran, of_decide_eq_true handed, handed_transmitted ran⟩

end SegmentUse

end CyberRT.Shm

import CyberRT.Record.Viewing

namespace CyberRT.Record

variable {pb : Protobuf} {first last : UInt64} {fuel : Nat}

theorem scan_found {messages rest : List SingleMessage} {message : SingleMessage}
    (found : scan first last messages = .found message rest) : first ≤ message.time ∧ message.time ≤ last := by
  induction messages with
  | nil => cases found
  | cons head tail ih =>
    rw [scan] at found
    split at found
    · cases found
    · rename_i late
      split at found
      · exact ih found
      · rename_i early
        cases found
        exact ⟨UInt64.not_lt.mp early, UInt64.not_lt.mp late⟩

namespace RecordReader

/-- Whatever the file holds, `ReadMessage` gives a message of the interval. -/
theorem readMessage_spans {reader next : RecordReader} {message : SingleMessage}
    (read : reader.readMessage pb first last fuel = some (some message, next)) :
    first ≤ message.time ∧ message.time ≤ last := by
  induction fuel generalizing reader with
  | zero => cases read
  | succ fuel ih =>
    rw [readMessage] at read
    dsimp only at read
    split at read
    · cases read
    · split at read
      · cases read
      · split at read
        · rename_i found
          cases read
          exact scan_found found
        · cases read
        · split at read
          · cases read
          · cases read
          · exact ih read

theorem drain_spans {reader next : RecordReader} {buffer after : List SingleMessage}
    (drained : reader.drain pb first last fuel buffer = some (next, after)) :
    ∃ messages, Spans first last messages ∧ after = emplaceAll buffer messages := by
  induction fuel generalizing reader buffer with
  | zero => cases drained
  | succ fuel ih =>
    rw [drain] at drained
    split at drained
    · cases drained
    · cases drained
      exact ⟨[], List.forall_mem_nil _, rfl⟩
    · rename_i message middle read
      obtain ⟨messages, spans, rfl⟩ := ih drained
      exact ⟨message :: messages, List.forall_mem_cons.mpr ⟨readMessage_spans read, spans⟩, rfl⟩

end RecordReader

theorem drainAll_spans {readers left : List ViewedReader} {buffer after : List SingleMessage}
    (drained : drainAll pb first last fuel readers buffer = some (left, after)) :
    ∃ messages, Spans first last messages ∧ after = emplaceAll buffer messages := by
  induction readers generalizing buffer left with
  | nil =>
    cases drained
    exact ⟨[], List.forall_mem_nil _, rfl⟩
  | cons viewed rest ih =>
    rw [drainAll] at drained
    split at drained
    · obtain ⟨result, ran, same⟩ := Option.map_eq_some_iff.mp drained
      cases same
      exact ih ran
    · split at drained
      · cases drained
      · rename_i reader middle own
        obtain ⟨result, ran, same⟩ := Option.map_eq_some_iff.mp drained
        cases same
        obtain ⟨messages, spans, rfl⟩ := RecordReader.drain_spans own
        obtain ⟨others, more, whole⟩ := ih ran
        apply Exists.intro (messages ++ others)
        apply And.intro
        · exact List.forall_mem_append.mpr ⟨spans, more⟩
        · rw [whole, emplaceAll_append]

namespace RecordFileReader

theorem readSectionHead_reset {r file : RecordFileReader} {head : Option (Nat × Int)}
    (read : r.readSectionHead = (head, file)) : file.reset = r.reset := by
  have same : r.readSectionHead.2.reset = r.reset := by
    simp only [readSectionHead]
    split
    · rfl
    · split <;> rfl
  rw [read] at same
  exact same

theorem readSection_reset {α : Type} {codec : Codec α} {r file : RecordFileReader} {size : Int} {parsed : Option α}
    (read : readSection codec r size = (parsed, file)) : file.reset = r.reset := by
  have same : (readSection codec r size).2.reset = r.reset := by
    simp only [readSection]
    split
    · rfl
    · split
      · rfl
      · split <;> rfl
  rw [read] at same
  exact same

theorem skipSection_reset (r : RecordFileReader) (size : Int) : (r.skipSection size).reset = r.reset := by
  unfold skipSection
  split
  · rfl
  · split <;> rfl

end RecordFileReader

namespace RecordReader

variable {reader next : RecordReader}

theorem reset_congr (file : next.fileReader.reset = reader.fileReader.reset) (header : next.header = reader.header)
    (valid : next.isValid = reader.isValid) : next.reset = reader.reset := by
  unfold reset
  rw [file, header, valid]

theorem readNextChunk_reset {skip found : Bool}
    (read : reader.readNextChunk pb first last fuel skip = some (found, next)) : next.reset = reader.reset := by
  induction fuel generalizing reader skip with
  | zero => cases read
  | succ fuel ih =>
    rw [readNextChunk] at read
    split at read
    · cases read
      rfl
    · split at read
      · rename_i head
        cases read
        exact reset_congr (RecordFileReader.readSectionHead_reset head) rfl rfl
      · rename_i code size file head
        have moved := RecordFileReader.readSectionHead_reset head
        split at read
        · rw [ih read]
          exact reset_congr ((RecordFileReader.skipSection_reset file size).trans moved) rfl rfl
        · split at read
          · rename_i parsed
            cases read
            exact reset_congr ((RecordFileReader.readSection_reset parsed).trans moved) rfl rfl
          · rename_i parsed
            rw [ih read]
            exact reset_congr ((RecordFileReader.readSection_reset parsed).trans moved) rfl rfl
        · split at read
          · rename_i parsed
            cases read
            exact reset_congr ((RecordFileReader.readSection_reset parsed).trans moved) rfl rfl
          · rename_i parsed
            dsimp only at read
            split at read
            · cases read
              exact reset_congr ((RecordFileReader.readSection_reset parsed).trans moved) rfl rfl
            · rw [ih read]
              exact reset_congr ((RecordFileReader.readSection_reset parsed).trans moved) rfl rfl
        · split at read
          · rw [ih read]
            exact reset_congr ((RecordFileReader.skipSection_reset file size).trans moved) rfl rfl
          · split at read
            · rename_i parsed
              cases read
              exact reset_congr ((RecordFileReader.readSection_reset parsed).trans moved) rfl rfl
            · rename_i parsed
              cases read
              exact reset_congr ((RecordFileReader.readSection_reset parsed).trans moved) rfl rfl
        · cases read
          exact reset_congr moved rfl rfl

theorem readMessage_reset {got : Option SingleMessage}
    (read : reader.readMessage pb first last fuel = some (got, next)) : next.reset = reader.reset := by
  induction fuel generalizing reader with
  | zero => cases read
  | succ fuel ih =>
    rw [readMessage] at read
    dsimp only at read
    split at read
    · cases read
      rfl
    · split at read
      · cases read
        rfl
      · split at read
        · cases read
          rfl
        · cases read
          rfl
        · split at read
          · cases read
          · rename_i chunk
            have rewinds := readNextChunk_reset chunk
            cases read
            exact rewinds
          · rename_i chunk
            have rewinds := readNextChunk_reset chunk
            rw [ih read]
            exact rewinds

theorem drain_reset {buffer after : List SingleMessage}
    (drained : reader.drain pb first last fuel buffer = some (next, after)) : next.reset = reader.reset := by
  induction fuel generalizing reader buffer with
  | zero => cases drained
  | succ fuel ih =>
    rw [drain] at drained
    split at drained
    · cases drained
    · rename_i read
      cases drained
      exact readMessage_reset read
    · rename_i read
      rw [ih drained]
      exact readMessage_reset read

end RecordReader

/-- The readers as `Reset` leaves them. -/
def rewound (readers : List ViewedReader) : List ViewedReader := readers.map fun viewed => ⟨viewed.reader.reset, false⟩

theorem expire_rewound (time : UInt64) (readers : List ViewedReader) :
    rewound (readers.map (ViewedReader.expire time)) = rewound readers := by
  unfold rewound
  rw [List.map_map]
  apply List.map_congr_left
  intro viewed _
  unfold Function.comp ViewedReader.expire
  split
  · rfl
  · rfl

theorem drainAll_rewound {readers left : List ViewedReader} {buffer after : List SingleMessage}
    (drained : drainAll pb first last fuel readers buffer = some (left, after)) : rewound left = rewound readers := by
  induction readers generalizing buffer left with
  | nil =>
    cases drained
    rfl
  | cons viewed rest ih =>
    rw [drainAll] at drained
    split at drained
    · obtain ⟨result, ran, same⟩ := Option.map_eq_some_iff.mp drained
      cases same
      unfold rewound at ih ⊢
      rw [List.map_cons, List.map_cons, ih ran]
    · split at drained
      · cases drained
      · rename_i own
        obtain ⟨result, ran, same⟩ := Option.map_eq_some_iff.mp drained
        cases same
        unfold rewound at ih ⊢
        rw [List.map_cons, List.map_cons, ih ran, RecordReader.drain_reset own]

namespace RecordViewer

variable {viewer next : RecordViewer} {time : UInt64}

theorem reset_reset (viewer : RecordViewer) : viewer.reset.reset = viewer.reset := by
  unfold reset
  rw [List.map_map]
  rfl

theorem isValid_of_reset {other : RecordViewer} (same : viewer.reset = other.reset) : viewer.isValid = other.isValid := by
  have valid : viewer.reset.isValid = other.reset.isValid := by rw [same]
  exact valid

theorem reset_congr {readers : List ViewedReader} (rewinds : rewound readers = rewound viewer.readers)
    (buffer : List SingleMessage) (currBeginTime : UInt64) :
    reset { viewer with readers := readers, msgBuffer := buffer, currBeginTime := currBeginTime } = viewer.reset := by
  unfold rewound at rewinds
  unfold reset
  rw [rewinds]

theorem fillBuffer_reset (filled : viewer.fillBuffer pb fuel = some next) : next.reset = viewer.reset := by
  induction fuel generalizing viewer with
  | zero => cases filled
  | succ fuel ih =>
    rw [fillBuffer] at filled
    split at filled
    · split at filled
      · cases filled
      · rename_i drained
        rw [ih filled]
        exact reset_congr ((drainAll_rewound drained).trans (expire_rewound _ _)) _ _
    · cases filled
      rfl

theorem refill_reset (filled : (if viewer.msgBuffer.isEmpty then viewer.fillBuffer pb fuel else some viewer) = some next) :
    next.reset = viewer.reset := by
  split at filled
  · exact fillBuffer_reset filled
  · cases filled
    rfl

/-- Whatever has been read, the next `begin()` starts as the first one did. -/
theorem update_reset {got : Option SingleMessage} (updated : viewer.update pb fuel = some (got, next)) :
    next.reset = viewer.reset := by
  induction fuel generalizing viewer with
  | zero => cases updated
  | succ fuel ih =>
    rw [update] at updated
    split at updated
    · cases updated
    rename_i ready
    have rewinds := refill_reset ready
    split at updated
    · cases updated
      exact rewinds
    · split at updated
      · cases updated
        exact rewinds
      · rw [ih updated]
        exact rewinds

/-- The viewer gives messages of its range from this time on, in the order of their times, whatever its readers do. -/
structure Gathers (viewer : RecordViewer) (time : UInt64) : Prop where
  sorted : Sorted viewer.msgBuffer
  buffered : ∀ message ∈ viewer.msgBuffer, time ≤ message.time ∧ message.time < viewer.currBeginTime ∧
    message.time ≤ viewer.endTime
  later : time ≤ viewer.currBeginTime
  fits : Fits viewer.currBeginTime viewer.endTime

theorem reset_gathers (fits : Fits viewer.beginTime viewer.endTime) : Gathers viewer.reset viewer.beginTime where
  sorted := List.Pairwise.nil
  buffered := List.forall_mem_nil _
  later := UInt64.le_refl _
  fits := fits

theorem Gathers.window (gathers : viewer.Gathers time) (within : viewer.currBeginTime ≤ viewer.endTime)
    {messages : List SingleMessage} (spans : Spans viewer.currBeginTime viewer.thisEndTime messages)
    (readers : List ViewedReader) :
    Gathers { viewer with
      readers := readers
      msgBuffer := emplaceAll viewer.msgBuffer messages
      currBeginTime := viewer.thisEndTime + 1 } time := by
  obtain ⟨edge, next, forward⟩ := window_times gathers.fits within
  have grows : viewer.currBeginTime ≤ viewer.thisEndTime + 1 := UInt64.le_iff_toNat_le.mpr (by omega)
  refine ⟨emplaceAll_sorted gathers.sorted messages, ?_, UInt64.le_trans gathers.later grows, gathers.fits.next within⟩
  intro message member
  show time ≤ message.time ∧ message.time < viewer.thisEndTime + 1 ∧ message.time ≤ viewer.endTime
  rcases List.mem_append.mp ((emplaceAll_perm ..).mem_iff.mp member) with old | new
  · obtain ⟨from', before, inside⟩ := gathers.buffered message old
    exact ⟨from', UInt64.lt_of_lt_of_le before grows, inside⟩
  · obtain ⟨low, high⟩ := spans message new
    have reached := UInt64.le_iff_toNat_le.mp high
    refine ⟨UInt64.le_trans gathers.later low, UInt64.lt_iff_toNat_lt.mpr ?_, UInt64.le_iff_toNat_le.mpr ?_⟩
    · omega
    · omega

theorem fillBuffer_gathers (gathers : viewer.Gathers time) (filled : viewer.fillBuffer pb fuel = some next) :
    next.Gathers time := by
  induction fuel generalizing viewer with
  | zero => cases filled
  | succ fuel ih =>
    rw [fillBuffer] at filled
    split at filled
    · rename_i more
      split at filled
      · cases filled
      · rename_i readers buffer drained
        obtain ⟨messages, spans, rfl⟩ := drainAll_spans drained
        exact ih (gathers.window more.1 spans readers) filled
    · cases filled
      exact gathers

theorem Gathers.pop (gathers : viewer.Gathers time) {message : SingleMessage} {rest : List SingleMessage}
    (buffer : viewer.msgBuffer = message :: rest) : Gathers { viewer with msgBuffer := rest } message.time := by
  have sorted := gathers.sorted
  rw [buffer] at sorted
  obtain ⟨least, tail⟩ := List.pairwise_cons.mp sorted
  have here := gathers.buffered message (by rw [buffer]; exact List.mem_cons_self)
  refine ⟨tail, ?_, UInt64.le_of_lt here.2.1, gathers.fits⟩
  intro other member
  have there := gathers.buffered other (by rw [buffer]; exact List.mem_cons_of_mem _ member)
  exact ⟨least other member, there.2⟩

theorem Gathers.mono (gathers : viewer.Gathers time) {earlier : UInt64} (before : earlier ≤ time) :
    viewer.Gathers earlier where
  sorted := gathers.sorted
  buffered := fun message member =>
    ⟨UInt64.le_trans before (gathers.buffered message member).1, (gathers.buffered message member).2⟩
  later := UInt64.le_trans before gathers.later
  fits := gathers.fits

/-- An update gives a message that is no earlier than those before it. -/
theorem update_gathers (gathers : viewer.Gathers time) {message : SingleMessage}
    (updated : viewer.update pb fuel = some (some message, next)) :
    time ≤ message.time ∧ message.time ≤ viewer.endTime ∧ next.Gathers message.time := by
  induction fuel generalizing viewer with
  | zero => cases updated
  | succ fuel ih =>
    rw [update] at updated
    split at updated
    · cases updated
    rename_i filled ready
    have kept : filled.Gathers time := by
      split at ready
      · exact fillBuffer_gathers gathers ready
      · cases ready
        exact gathers
    have same : filled.reset.endTime = viewer.reset.endTime := congrArg endTime (refill_reset ready)
    have same : filled.endTime = viewer.endTime := same
    split at updated
    · cases updated
    · rename_i first rest buffer
      have popped := kept.pop buffer
      obtain ⟨low, _, high⟩ := kept.buffered first (by rw [buffer]; exact List.mem_cons_self)
      rw [← same]
      split at updated
      · cases updated
        exact ⟨low, high, popped⟩
      · have later := ih (popped.mono low) updated
        exact later

/-- The messages that an iterator goes over where the fuel reaches for every update. -/
inductive Iterates (pb : Protobuf) (fuel : Nat) : RecordViewer → List SingleMessage → RecordViewer → Prop where
  | ended {viewer next : RecordViewer} (updated : viewer.update pb fuel = some (none, next)) :
    Iterates pb fuel viewer [] next
  | given {viewer middle next : RecordViewer} {message : SingleMessage} {rest : List SingleMessage}
    (updated : viewer.update pb fuel = some (some message, middle)) (later : Iterates pb fuel middle rest next) :
    Iterates pb fuel viewer (message :: rest) next

theorem Iterates.reset {messages : List SingleMessage} (iterates : Iterates pb fuel viewer messages next) :
    next.reset = viewer.reset := by
  induction iterates with
  | ended updated => exact update_reset updated
  | given updated _ ih => exact ih.trans (update_reset updated)

theorem Views.iterates {size : Nat} {viewer : RecordViewer} {files : List (List SingleMessage)}
    (views : Views pb size viewer files) (enough : viewer.work files + size + 4 < fuel) :
    ∃ out next, Iterates pb fuel viewer out next ∧ out.Perm ((viewer.upcoming files).filter viewer.passes) ∧
      Sorted out := by
  rcases update_gives views enough with ⟨next, ran, none⟩ | ⟨message, next, left, ran, gives⟩
  · rw [none]
    exact ⟨[], next, .ended ran, .refl _, List.Pairwise.nil⟩
  · have less := gives.work
    obtain ⟨out, last, later, perm, sorted⟩ := Views.iterates gives.views (by omega)
    have same : next.passes = viewer.passes := by
      funext message
      rw [passes, passes, gives.channels]
    rw [same] at perm
    refine ⟨message :: out, last, .given ran later, (perm.cons message).trans gives.upcoming, ?_⟩
    refine List.pairwise_cons.mpr ⟨?_, sorted⟩
    intro other member
    exact gives.least other (List.mem_filter.mp (perm.mem_iff.mp member)).1
termination_by viewer.work files

end RecordViewer

end CyberRT.Record

import CyberRT.Lists.Count
import CyberRT.Record.Viewing

namespace CyberRT.Record

open Lists

/-- A reader over a complete record file whose header and chunk headers bound the messages. -/
structure CompleteRecord (pb : Protobuf) where
  reader : RecordReader
  sections : List Payload
  laid : reader.Over pb sections
  chunked : Chunked sections
  bounded : Spans reader.header.beginTime reader.header.endTime (sections.flatMap Payload.messages)

namespace CompleteRecord

variable {pb : Protobuf}

def messages (record : CompleteRecord pb) : List SingleMessage := record.sections.flatMap Payload.messages

theorem ahead (record : CompleteRecord pb) {size : Nat} (small : record.sections.length ≤ size) :
    record.reader.reset.Ahead pb size record.messages :=
  ⟨⟨⟨[], record.sections⟩, record.laid.reset_reads, .chunked record.chunked, rfl, small⟩, record.bounded⟩

end CompleteRecord

namespace RecordViewer

theorem minBeginTime_le {readers : List RecordReader} {reader : RecordReader} (member : reader ∈ readers)
    (valid : reader.isValid = true) : minBeginTime readers ≤ reader.header.beginTime := by
  refine @foldl_below RecordReader UInt64 (fun left right => left ≤ right) UInt64.le_trans _ ?_ reader _ ?_ readers
    member maxTime
  · intro least reader
    split
    · rename_i smaller
      simp only [Bool.and_eq_true, decide_eq_true_eq] at smaller
      exact UInt64.le_of_lt smaller.2
    · exact UInt64.le_refl _
  · intro least
    split
    · exact UInt64.le_refl _
    · rename_i larger
      simpa [valid] using larger

theorem le_maxEndTime {readers : List RecordReader} {reader : RecordReader} (member : reader ∈ readers)
    (valid : reader.isValid = true) : reader.header.endTime ≤ maxEndTime readers := by
  refine @foldl_below RecordReader UInt64 (fun left right => right ≤ left)
    (fun first second => UInt64.le_trans second first) _ ?_ reader _ ?_ readers member 0
  · intro greatest reader
    split
    · rename_i larger
      simp only [Bool.and_eq_true, decide_eq_true_eq] at larger
      exact UInt64.le_of_lt larger.2
    · exact UInt64.le_refl _
  · intro greatest
    split
    · exact UInt64.le_refl _
    · rename_i smaller
      simpa [valid] using smaller

theorem minBeginTime_single {reader : RecordReader} (valid : reader.isValid = true) :
    minBeginTime [reader] = reader.header.beginTime := by
  simp only [minBeginTime, List.foldl_cons, List.foldl_nil, valid, Bool.true_and, decide_eq_true_eq]
  exact lower_maxTime _

theorem maxEndTime_single {reader : RecordReader} (valid : reader.isValid = true) :
    maxEndTime [reader] = reader.header.endTime := by
  simp only [maxEndTime, List.foldl_cons, List.foldl_nil, valid, Bool.true_and, decide_eq_true_eq]
  exact raise_zero _

theorem create_range {readers : List RecordReader} {beginTime endTime : UInt64} {channels : List String}
    {reader : RecordReader} (member : reader ∈ readers) (valid : reader.isValid = true) {time : UInt64}
    (inside : reader.header.beginTime ≤ time ∧ time ≤ reader.header.endTime) :
    ((create readers beginTime endTime channels).beginTime ≤ time ↔ beginTime ≤ time) ∧
    (time ≤ (create readers beginTime endTime channels).endTime ↔ time ≤ endTime) := by
  have listed : reader ∈ readers.insertionSort fun lhs rhs => rhs.precedes lhs = false :=
    (List.mem_insertionSort _).mpr member
  have least := UInt64.le_trans (minBeginTime_le listed valid) inside.1
  have greatest := UInt64.le_trans inside.2 (le_maxEndTime listed valid)
  simp only [create]
  constructor
  · split
    · rename_i clamped
      exact ⟨fun _ => UInt64.le_trans (UInt64.le_of_lt clamped) least, fun _ => least⟩
    · rfl
  · split
    · rename_i clamped
      exact ⟨fun _ => UInt64.le_trans greatest (UInt64.le_of_lt clamped), fun _ => greatest⟩
    · rfl

/-- The iteration ends, in the order of time, with what the code should give. -/
def Yields (pb : Protobuf) (viewer : RecordViewer) (messages : List SingleMessage) : Prop :=
  ∃ enough, ∀ fuel, enough < fuel → ∃ out, viewer.iterate pb fuel = some out ∧ Sorted out ∧ out.Perm messages

theorem Yields.perm {pb : Protobuf} {viewer : RecordViewer} {left right : List SingleMessage}
    (one : viewer.Yields pb left) (two : viewer.Yields pb right) : left.Perm right := by
  obtain ⟨first, here⟩ := one
  obtain ⟨second, there⟩ := two
  obtain ⟨out, ran, _, same⟩ := here (first + second + 1) (by omega)
  obtain ⟨again, rerun, _, other⟩ := there (first + second + 1) (by omega)
  rw [ran] at rerun
  cases rerun
  exact same.symm.trans other

variable {pb : Protobuf}

theorem reset_views (records : List (CompleteRecord pb)) (beginTime endTime : UInt64) (channels : List String)
    (fits : Fits (create (records.map (·.reader)) beginTime endTime channels).beginTime
      (create (records.map (·.reader)) beginTime endTime channels).endTime) :
    ∃ (size : Nat) (ordered : List (CompleteRecord pb)), ordered.Perm records ∧
      Views pb size (create (records.map (·.reader)) beginTime endTime channels).reset
        (ordered.map CompleteRecord.messages) := by
  refine ⟨(records.map fun record => record.sections.length).sum,
    records.insertionSort fun lhs rhs => rhs.reader.precedes lhs.reader = false, List.perm_insertionSort .., ?_⟩
  have sorted := List.map_insertionSort (r := fun lhs rhs => rhs.reader.precedes lhs.reader = false)
    (s := fun lhs rhs => rhs.precedes lhs = false) (fun record : CompleteRecord pb => record.reader) records
    (fun _ _ _ _ => Iff.rfl)
  have readers : (create (records.map (·.reader)) beginTime endTime channels).reset.readers =
      (records.insertionSort fun lhs rhs => rhs.reader.precedes lhs.reader = false).map fun record =>
        ⟨record.reader.reset, false⟩ := by
    simp only [create, reset, ← sorted, List.map_map]
    rfl
  refine ⟨?_, List.Pairwise.nil, by simp [reset], fits⟩
  rw [readers, List.forall₂_map_left_iff, List.forall₂_map_right_iff, List.forall₂_same]
  intro record member
  have listed := (List.mem_insertionSort _).mp member
  exact .inl ⟨rfl, record.ahead
    (List.le_sum_of_mem (List.mem_map_of_mem (f := fun record => record.sections.length) listed))⟩

/-- What the viewer gives of every file is what its windows show of it. -/
theorem iterate_shows (records : List (CompleteRecord pb)) (beginTime endTime : UInt64) (channels : List String)
    {viewer : RecordViewer} (created : viewer = create (records.map (·.reader)) beginTime endTime channels)
    (fits : Fits viewer.beginTime viewer.endTime) :
    viewer.Yields pb ((records.flatMap fun record => shown SingleMessage.nanos kStepTimeNanoSec.toNat
      viewer.beginTime.toNat viewer.endTime.toNat 0 record.messages).filter viewer.passes) := by
  by_cases valid : viewer.isValid = true
  · obtain ⟨size, ordered, same, views⟩ := reset_views records beginTime endTime channels (created ▸ fits)
    rw [← created] at views
    refine ⟨viewer.reset.work (ordered.map CompleteRecord.messages) + size + 5, fun fuel enough => ?_⟩
    obtain ⟨out, collected, perm, sorted⟩ := collect_views views enough
    rw [iterate, if_pos valid]
    refine ⟨out, collected, sorted, perm.trans ?_⟩
    rw [upcoming, List.flatMap_map]
    exact (same.flatMap_right _).filter _
  · have past : viewer.endTime.toNat < viewer.beginTime.toNat := by
      simpa [isValid, UInt64.le_iff_toNat_le] using valid
    have nothing : (records.flatMap fun record => shown SingleMessage.nanos kStepTimeNanoSec.toNat
        viewer.beginTime.toNat viewer.endTime.toNat 0 record.messages) = [] :=
      List.flatMap_eq_nil_iff.mpr fun record _ => shown_past _ past record.messages
    rw [nothing]
    refine ⟨0, fun fuel _ => ⟨[], ?_, List.Pairwise.nil, .refl _⟩⟩
    rw [iterate, if_neg valid]

def requested (records : List (CompleteRecord pb)) (beginTime endTime : UInt64) (channels : List String) :
    List SingleMessage :=
  (records.flatMap CompleteRecord.messages).filter fun message =>
    beginTime ≤ message.time && message.time ≤ endTime && (channels.isEmpty || channels.contains message.channelName)

theorem range_eq (records : List (CompleteRecord pb)) (beginTime endTime : UInt64) (channels : List String)
    {viewer : RecordViewer} (created : viewer = create (records.map (·.reader)) beginTime endTime channels)
    {record : CompleteRecord pb} (member : record ∈ records) {message : SingleMessage}
    (present : message ∈ record.messages) :
    (decide (beginTime ≤ message.time) && decide (message.time ≤ endTime)) =
      decide (viewer.beginTime.toNat ≤ message.nanos ∧ message.nanos ≤ viewer.endTime.toNat) := by
  obtain ⟨low, high⟩ := @create_range _ beginTime endTime channels _
    (List.mem_map_of_mem (f := fun record : CompleteRecord pb => record.reader) member) record.laid.valid _
    (record.bounded message present)
  rw [← created] at low high
  have first : decide (viewer.beginTime.toNat ≤ message.nanos) = decide (beginTime ≤ message.time) :=
    decide_eq_decide.mpr (UInt64.le_iff_toNat_le.symm.trans low)
  have last : decide (message.nanos ≤ viewer.endTime.toNat) = decide (message.time ≤ endTime) :=
    decide_eq_decide.mpr (UInt64.le_iff_toNat_le.symm.trans high)
  rw [Bool.decide_and, first, last]

theorem requested_eq (records : List (CompleteRecord pb)) (beginTime endTime : UInt64) (channels : List String)
    {viewer : RecordViewer} (created : viewer = create (records.map (·.reader)) beginTime endTime channels) :
    requested records beginTime endTime channels = records.flatMap fun record => record.messages.filter fun message =>
      decide (viewer.beginTime.toNat ≤ message.nanos ∧ message.nanos ≤ viewer.endTime.toNat) && viewer.passes message := by
  rw [requested, List.filter_flatMap]
  apply List.flatMap_congr
  intro record member
  apply List.filter_congr
  intro message present
  have pass : viewer.passes message = (channels.isEmpty || channels.contains message.channelName) := by
    rw [created]
    rfl
  rw [pass, ← range_eq records beginTime endTime channels created member present]

/-- No message of the range is preceded in its file by one of a later window, or by one beyond the range. -/
def Unhidden (viewer : RecordViewer) (messages : List SingleMessage) : Prop :=
  messages.Pairwise fun before message => Clear SingleMessage.nanos kStepTimeNanoSec.toNat viewer.beginTime.toNat
    viewer.endTime.toNat viewer.passes before.nanos message

instance (viewer : RecordViewer) (messages : List SingleMessage) : Decidable (viewer.Unhidden messages) :=
  inferInstanceAs (Decidable (List.Pairwise _ messages))

theorem unhidden_iff (viewer : RecordViewer) (messages : List SingleMessage) :
    viewer.Unhidden messages ↔
      (shown SingleMessage.nanos kStepTimeNanoSec.toNat viewer.beginTime.toNat viewer.endTime.toNat 0 messages).filter
          viewer.passes =
        messages.filter fun message => decide (viewer.beginTime.toNat ≤ message.nanos ∧
          message.nanos ≤ viewer.endTime.toNat) && viewer.passes message := by
  rw [shown_eq_iff, Unhidden]
  refine (and_iff_right ?_).symm
  intro message _ _ _ _
  exact ⟨Nat.zero_le _, Nat.zero_le _⟩

theorem Yields.of_unhidden {records : List (CompleteRecord pb)} {beginTime endTime : UInt64} {channels : List String}
    {viewer : RecordViewer} (created : viewer = create (records.map (·.reader)) beginTime endTime channels)
    (fits : Fits viewer.beginTime viewer.endTime) (unhidden : ∀ record ∈ records, viewer.Unhidden record.messages) :
    viewer.Yields pb (requested records beginTime endTime channels) := by
  rw [requested_eq records beginTime endTime channels created,
    ← List.flatMap_congr fun record member => (unhidden_iff viewer record.messages).mp (unhidden record member),
    ← List.filter_flatMap]
  exact iterate_shows records beginTime endTime channels created fits

end RecordViewer

end CyberRT.Record

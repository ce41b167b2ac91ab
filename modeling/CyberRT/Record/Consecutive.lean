import CyberRT.Record.ViewedRange

namespace CyberRT.Record

open Lists

/-- Closed windows, one right behind the other, that make up a range of times. -/
inductive Partition : UInt64 → UInt64 → List (UInt64 × UInt64) → Prop
  | single {beginTime endTime : UInt64} : beginTime ≤ endTime → Partition beginTime endTime [(beginTime, endTime)]
  | cons {beginTime edge endTime : UInt64} {windows : List (UInt64 × UInt64)} : beginTime ≤ edge → edge < endTime →
    Partition (edge + 1) endTime windows → Partition beginTime endTime ((beginTime, edge) :: windows)

theorem Partition.consecutive {beginTime endTime : UInt64} {windows : List (UInt64 × UInt64)}
    (partition : Partition beginTime endTime windows) :
    Consecutive beginTime.toNat endTime.toNat (windows.map fun window => (window.1.toNat, window.2.toNat)) := by
  induction partition with
  | single within => exact .single (UInt64.le_iff_toNat_le.mp within)
  | @cons beginTime edge endTime windows within before _ ih =>
    have less := UInt64.lt_iff_toNat_lt.mp before
    have next : (edge + 1).toNat = edge.toNat + 1 :=
      RecordViewer.succ_toNat (Nat.lt_of_le_of_lt less endTime.toNat_lt)
    rw [next] at ih
    exact .cons (UInt64.le_iff_toNat_le.mp within) ih

namespace RecordReader

variable {pb : Protobuf}

def readWindows (pb : Protobuf) (fuel : Nat) : List (UInt64 × UInt64) → RecordReader → Option (List SingleMessage)
  | [], _ => some []
  | (beginTime, endTime) :: windows, reader =>
    match reader.readWindow pb beginTime endTime fuel with
    | none => none
    | some (messages, reader) => (readWindows pb fuel windows reader).map (messages ++ ·)

/-- A window behind the last message of the file leaves the reader as it is. -/
theorem readWindow_past {beginTime endTime : UInt64} {fuel : Nat} {reader : RecordReader}
    (valid : reader.isValid = true) (past : reader.header.endTime < beginTime) :
    reader.readWindow pb beginTime endTime (fuel + 2) = some ([], reader) := by
  have behind : (beginTime > reader.header.endTime || endTime < reader.header.beginTime) = true := by
    simp [past]
  have read : reader.readMessage pb beginTime endTime (fuel + 1) = some (none, reader) := by
    rw [readMessage, if_neg (by simp [valid]), if_pos behind]
  rw [readWindow, read]

theorem readWindows_past {fuel : Nat} {reader : RecordReader} {windows : List (UInt64 × UInt64)}
    (valid : reader.isValid = true) (past : ∀ window ∈ windows, reader.header.endTime < window.1) :
    reader.readWindows pb (fuel + 2) windows = some [] := by
  induction windows with
  | nil => rfl
  | cons window windows ih =>
    have rest := ih fun other member => past other (List.mem_cons_of_mem _ member)
    rw [readWindows, readWindow_past valid (past window (List.mem_cons_self ..))]
    simp only [rest, Option.map_some, List.append_nil]

theorem Ahead.valid {reader : RecordReader} {size : Nat} {messages : List SingleMessage}
    (ahead : reader.Ahead pb size messages) : reader.isValid = true := by
  obtain ⟨cursor, reads, _⟩ := ahead.cursor
  exact reads.valid

/-- The windows take what they can see of the messages before the reader, as long as the file reaches them. -/
theorem readWindows_eq {fuel size : Nat} {reader : RecordReader} {messages : List SingleMessage}
    {windows : List (UInt64 × UInt64)} {beginTime endTime : UInt64} (partition : Partition beginTime endTime windows)
    (ahead : reader.Ahead pb size messages) (enough : messages.length + size + 3 < fuel + 2) :
    reader.readWindows pb (fuel + 2) windows = some (takenBy SingleMessage.nanos
      (windows.map fun window => (window.1.toNat, window.2.toNat)) messages) := by
  induction windows generalizing reader messages beginTime with
  | nil => rfl
  | cons window windows ih =>
    have inside := partition.consecutive.within
    have valid := ahead.valid
    by_cases reaches : window.1 ≤ reader.header.endTime
    · have here : window.1 ≤ window.2 :=
        UInt64.le_iff_toNat_le.mpr (inside (window.1.toNat, window.2.toNat) (by simp)).2.1
      obtain ⟨next, taken, _, left⟩ := readWindow_eq ahead here reaches enough
      have fewer := length_visible_beyond SingleMessage.nanos window.1.toNat window.2.toNat messages
      rw [readWindows, taken]
      have rest : next.readWindows pb (fuel + 2) windows = some (takenBy SingleMessage.nanos
          (windows.map fun window => (window.1.toNat, window.2.toNat))
          (beyond SingleMessage.nanos window.2.toNat messages)) := by
        cases partition with
        | single => rfl
        | cons _ _ partition => exact ih partition left (by omega)
      simp only [rest, Option.map_some, List.map_cons, takenBy]
    · -- `ReadMessage` looks at the file neither for this window nor for a later one.
      have first : window.1 = beginTime := by cases partition <;> rfl
      have past : ∀ other ∈ window :: windows, reader.header.endTime < other.1 := by
        intro other member
        have after := (inside (other.1.toNat, other.2.toNat) (List.mem_map_of_mem member)).1
        rw [first] at reaches
        exact UInt64.lt_of_lt_of_le (UInt64.not_le.mp reaches) (UInt64.le_iff_toNat_le.mpr after)
      rw [readWindows_past valid past, takenBy_past]
      intro bounds member message present
      obtain ⟨other, listed, rfl⟩ := List.mem_map.mp member
      exact UInt64.lt_iff_toNat_lt.mp
        (UInt64.lt_of_le_of_lt (ahead.bounded message present).2 (past other listed))

end RecordReader

/-- Read from the start of a complete file in the order of time, the windows of a range give what lies in the range,
    in the order of the file. -/
theorem readWindows_range (pb : Protobuf) (record : CompleteRecord pb) (ordered : Sorted record.messages)
    (beginTime endTime : UInt64) (windows : List (UInt64 × UInt64))
    (partition : Partition beginTime endTime windows) :
    ∃ enough, ∀ fuel, enough < fuel → record.reader.reset.readWindows pb fuel windows =
      some (record.messages.filter fun message => beginTime ≤ message.time && message.time ≤ endTime) := by
  have ahead := @record.ahead pb _ (Nat.le_refl _)
  have sorted : record.messages.Pairwise fun before after => before.nanos ≤ after.nanos :=
    ordered.imp UInt64.le_iff_toNat_le.mp
  refine ⟨record.messages.length + record.sections.length + 5, fun fuel enough => ?_⟩
  obtain ⟨fuel, rfl⟩ : ∃ left, fuel = left + 2 := ⟨fuel - 2, by omega⟩
  rw [RecordReader.readWindows_eq partition ahead (by omega), takenBy_sorted _ partition.consecutive sorted]
  congr 1
  apply List.filter_congr
  intro message _
  rw [Bool.decide_and]
  rfl

/-- Two messages of two chunks, read in windows of which the first ends at the first message. -/
theorem promptFlush_windows : ∃ record : CompleteRecord Wire.recordProto,
    ∃ enough, ∀ fuel, enough < fuel → record.reader.reset.readWindows Wire.recordProto fuel [(0, 1), (2, 7)] =
      some [Recording.sample 1, Recording.sample 2] := by
  obtain ⟨record, two, _⟩ := RecordViewer.promptFlush_record
  have ordered : Sorted record.messages := by
    rw [two]
    unfold Sorted
    decide
  have read := readWindows_range Wire.recordProto record ordered 0 7 [(0, 1), (2, 7)]
    (.cons (by decide) (by decide) (.single (by decide)))
  rw [two] at read
  exact ⟨record, read⟩

end CyberRT.Record

import CyberRT.Record.TimeBounds

namespace CyberRT.Record

open Execution Lists

namespace RecordViewer

variable {pb : Protobuf}

theorem Yields.unhidden {records : List (CompleteRecord pb)} {beginTime endTime : UInt64} {channels : List String}
    {viewer : RecordViewer} (created : viewer = create (records.map (·.reader)) beginTime endTime channels)
    (fits : Fits viewer.beginTime viewer.endTime)
    (yields : viewer.Yields pb (requested records beginTime endTime channels)) :
    ∀ record ∈ records, viewer.Unhidden record.messages := by
  have given := iterate_shows records beginTime endTime channels created fits
  have same := (given.perm yields).length_eq
  rw [requested_eq records beginTime endTime channels created, List.filter_flatMap] at same
  intro record member
  refine (unhidden_iff viewer record.messages).mpr (eq_of_length_flatMap ?_ same record member)
  intro other _
  have part := (shown_sublist SingleMessage.nanos kStepTimeNanoSec.toNat viewer.beginTime.toNat viewer.endTime.toNat 0
    other.messages).filter viewer.passes
  rw [List.filter_filter] at part
  simpa only [Bool.and_comm] using part

/-- An iteration gives every message that it is asked for, once and in the order of time, exactly when no message is
    hidden behind a later one of its file. -/
theorem yields_requested_iff (records : List (CompleteRecord pb)) (beginTime endTime : UInt64)
    (channels : List String) (viewer : RecordViewer)
    (created : viewer = create (records.map (·.reader)) beginTime endTime channels)
    (fits : Fits viewer.beginTime viewer.endTime) :
    viewer.Yields pb (requested records beginTime endTime channels) ↔
      ∀ record ∈ records, viewer.Unhidden record.messages :=
  ⟨Yields.unhidden created fits, Yields.of_unhidden created fits⟩

theorem create_whole {reader : RecordReader} (valid : reader.isValid = true) (channels : List String) :
    (create [reader] 0 maxTime channels).beginTime = reader.header.beginTime ∧
    (create [reader] 0 maxTime channels).endTime = reader.header.endTime := by
  have alone : [reader].insertionSort (fun lhs rhs => rhs.precedes lhs = false) = [reader] := rfl
  simp only [create, alone, minBeginTime_single valid, maxEndTime_single valid]
  exact ⟨raise_zero _, lower_maxTime _⟩

theorem closed_record {header : Header} {events : List RecordEvent} {final : Recording}
    {messages : List SingleMessage} {first last : UInt64} (channels : header.channelNumber = 0)
    (chunks : header.chunkNumber = 0)
    (keeps : Meets (Recording.step pb) Recording.KeepsBounds (Recording.initial pb [] header) events)
    (ran : run (Recording.step pb) (Recording.initial pb [] header) events = some final)
    (closed : final.phase = .closed) (headed : Payload.Sized pb (.header final.writer.headerSection))
    (sized : ∀ entry ∈ final.writer.sections, entry.2.Sized pb) (small : final.writer.file.bytes.length < 2 ^ 63)
    (content : final.writer.fileMessages = messages)
    (range : final.writer.headerSection.beginTime = first ∧ final.writer.headerSection.endTime = last) :
    ∃ record : CompleteRecord pb, record.messages = messages ∧ ∀ names,
      (create [record.reader] 0 maxTime names).beginTime = first ∧
      (create [record.reader] 0 maxTime names).endTime = last := by
  obtain ⟨lays, closes⟩ := Recording.laid_out channels chunks ran
  obtain ⟨record, _, same, written, _⟩ :=
    (Recording.bounded_run keeps ran).record lays closes closed headed sized small
  refine ⟨record, written.trans content, fun names => ?_⟩
  rw [← range.1, ← range.2, ← same]
  exact create_whole record.laid.valid names

theorem promptFlush_record : ∃ record : CompleteRecord Wire.recordProto,
    record.messages = [Recording.sample 1, Recording.sample 2] ∧ ∀ names,
      (create [record.reader] 0 maxTime names).beginTime = 1 ∧
      (create [record.reader] 0 maxTime names).endTime = 2 :=
  @closed_record _ Recording.smallChunks Recording.promptFlush _ _ 1 2 rfl rfl (by decide +kernel) rfl rfl
    (by unfold Payload.Sized; decide +kernel) (by unfold Payload.Sized; decide +kernel)
    (Nat.lt_of_le_of_lt (@Recording.length_file_le Wire.recordProto [] Recording.smallChunks Recording.promptFlush _ rfl)
      (by decide +kernel)) rfl (by decide +kernel)

theorem promptFlush_yields : ∃ record : CompleteRecord Wire.recordProto,
    record.messages = [Recording.sample 1, Recording.sample 2] ∧
    (create [record.reader] 0 maxTime ["/chatter"]).Yields Wire.recordProto
      (requested [record] 0 maxTime ["/chatter"]) := by
  obtain ⟨record, two, range⟩ := promptFlush_record
  obtain ⟨begins, ends⟩ := range ["/chatter"]
  refine ⟨record, two, (yields_requested_iff [record] 0 maxTime ["/chatter"]
    (create [record.reader] 0 maxTime ["/chatter"]) rfl ?_).mpr ?_⟩
  · rw [begins, ends]
    decide
  · intro other member
    have pass : (create [record.reader] 0 maxTime ["/chatter"]).passes = fun message =>
        ["/chatter"].contains message.channelName := rfl
    rw [List.mem_singleton.mp member, two, Unhidden, begins, ends, pass]
    decide

/-- Two messages of one chunk, the later one first, with more than a second between them. -/
def secondsApart : List RecordEvent :=
  [.writeChannel ⟨"/chatter", "Chatter", []⟩, .writeMessage (Recording.sample 3000000000),
    .writeMessage (Recording.sample 1000000000)] ++ Recording.closeFlushing

theorem secondsApart_hides : ∃ record : CompleteRecord Wire.recordProto,
    record.messages = [Recording.sample 3000000000, Recording.sample 1000000000] ∧
    requested [record] 0 maxTime [] = [Recording.sample 3000000000, Recording.sample 1000000000] ∧
    ¬ (create [record.reader] 0 maxTime []).Yields Wire.recordProto (requested [record] 0 maxTime []) ∧
    (create [record.reader] 0 maxTime []).Yields Wire.recordProto [Recording.sample 3000000000] := by
  obtain ⟨record, two, range⟩ : ∃ record : CompleteRecord Wire.recordProto,
      record.messages = [Recording.sample 3000000000, Recording.sample 1000000000] ∧ ∀ names,
        (create [record.reader] 0 maxTime names).beginTime = 1000000000 ∧
        (create [record.reader] 0 maxTime names).endTime = 3000000000 :=
    @closed_record _ {} secondsApart _ _ 1000000000 3000000000 rfl rfl (by decide +kernel) rfl rfl
      (by unfold Payload.Sized; decide +kernel) (by unfold Payload.Sized; decide +kernel)
      (Nat.lt_of_le_of_lt (@Recording.length_file_le Wire.recordProto [] {} secondsApart _ rfl) (by decide +kernel))
      rfl (by decide +kernel)
  obtain ⟨begins, ends⟩ := range []
  have fits : Fits (create [record.reader] 0 maxTime []).beginTime (create [record.reader] 0 maxTime []).endTime := by
    rw [begins, ends]
    decide
  have pass : (create [record.reader] 0 maxTime []).passes = fun _ => true := rfl
  have given := @iterate_shows Wire.recordProto [record] 0 maxTime [] (create [record.reader] 0 maxTime []) rfl fits
  have asked : requested [record] 0 maxTime [] =
      [Recording.sample 3000000000, Recording.sample 1000000000] := by
    rw [requested, List.flatMap_singleton, two]
    decide
  rw [List.flatMap_singleton, two, begins, ends, pass] at given
  have one : (create [record.reader] 0 maxTime []).Yields Wire.recordProto [Recording.sample 3000000000] := given
  refine ⟨record, two, asked, fun yields => ?_, one⟩
  rw [asked] at yields
  have lengths := (one.perm yields).length_eq
  simp at lengths

end RecordViewer

end CyberRT.Record

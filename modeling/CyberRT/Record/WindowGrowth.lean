import Mathlib.Logic.Relation
import CyberRT.Record.ForwardReading
import CyberRT.Record.ViewOrder

namespace CyberRT.Record

open Relation Lists

namespace RecordReader

variable {pb : Protobuf} {first last : UInt64} {fuel more : Nat}

end RecordReader

section Drained

variable {pb : Protobuf} {first last : UInt64} {fuel more : Nat}

/-- Calls of `ReadMessage` for this interval come to the one that returns false. -/
def ViewedReader.EndsWithin (pb : Protobuf) (first last : UInt64) (viewed : ViewedReader) : Prop :=
  viewed.finished = false → ∃ fuel, (viewed.reader.readWindow pb first last fuel).isSome

end Drained

namespace RecordViewer

variable (pb : Protobuf)

def Unfilled (viewer : RecordViewer) : Prop :=
  viewer.currBeginTime ≤ viewer.endTime ∧ viewer.msgBuffer.length < kBufferMinSize

instance (viewer : RecordViewer) : Decidable viewer.Unfilled := inferInstanceAs (Decidable (_ ∧ _))

def window (fuel : Nat) (viewer : RecordViewer) : Option RecordViewer :=
  (drainAll pb viewer.currBeginTime viewer.thisEndTime fuel
    (viewer.readers.map (ViewedReader.expire viewer.currBeginTime)) viewer.msgBuffer).map fun drained =>
      { viewer with readers := drained.1, msgBuffer := drained.2, currBeginTime := viewer.thisEndTime + 1 }

/-- From one evaluation of the loop condition of `FillBuffer` to the next one. -/
def Turns (viewer next : RecordViewer) : Prop := viewer.Unfilled ∧ ∃ fuel, viewer.window pb fuel = some next

/-- `FillBuffer` comes to an end, and each turn of its loop leaves `curr_begin_time_` later than it was. -/
structure Grows (viewer : RecordViewer) : Prop where
  ends : ∃ fuel, (viewer.fillBuffer pb fuel).isSome
  grows : ∀ head next, ReflTransGen (Turns pb) viewer head → Turns pb head next →
    head.currBeginTime < next.currBeginTime

/-- What an iterator does to its viewer: `Reset`, and in `Update` the `FillBuffer` for an empty buffer and the `erase`
    of the first message. -/
inductive Moves : RecordViewer → RecordViewer → Prop
  | reset (viewer : RecordViewer) : Moves viewer viewer.reset
  | filled {viewer next : RecordViewer} {fuel : Nat} (empty : viewer.msgBuffer = [])
    (filled : viewer.fillBuffer pb fuel = some next) : Moves viewer next
  | erased {viewer : RecordViewer} {message : SingleMessage} {rest : List SingleMessage}
    (buffer : viewer.msgBuffer = message :: rest) : Moves viewer { viewer with msgBuffer := rest }

/-- Every `FillBuffer` that iterators over the viewer ever call ends, and its windows advance. -/
def AlwaysGrows (viewer : RecordViewer) : Prop :=
  ∀ state, ReflTransGen (Moves pb) viewer state → state.msgBuffer = [] → state.Grows pb

/-- No reader keeps a turn of `FillBuffer` in its inner loop. -/
def Reads (viewer : RecordViewer) : Prop :=
  ∀ viewed ∈ viewer.readers.map (ViewedReader.expire viewer.currBeginTime),
    viewed.EndsWithin pb viewer.currBeginTime viewer.thisEndTime

variable {pb : Protobuf} {viewer state head next final : RecordViewer} {fuel more : Nat}

theorem fillBuffer_window (fuel : Nat) (viewer : RecordViewer) :
    viewer.fillBuffer pb (fuel + 1) =
      if viewer.Unfilled then (viewer.window pb fuel).bind (fillBuffer pb fuel) else some viewer := by
  rw [fillBuffer]
  by_cases unfilled : viewer.Unfilled
  · rw [if_pos (show _ ∧ _ from unfilled), if_pos unfilled, window]
    cases drainAll pb viewer.currBeginTime viewer.thisEndTime fuel
        (viewer.readers.map (ViewedReader.expire viewer.currBeginTime)) viewer.msgBuffer with
    | none => rfl
    | some drained => rfl
  · rw [if_neg (show ¬ (_ ∧ _) from unfilled), if_neg unfilled]

theorem window_kept (ran : viewer.window pb fuel = some next) :
    next.beginTime = viewer.beginTime ∧ next.endTime = viewer.endTime ∧
    next.currBeginTime = viewer.thisEndTime + 1 := by
  unfold window at ran
  obtain ⟨drained, _, same⟩ := Option.map_eq_some_iff.mp ran
  rw [← same]
  exact ⟨rfl, rfl, rfl⟩

theorem fillBuffer_turns (ran : viewer.fillBuffer pb fuel = some final) :
    ReflTransGen (Turns pb) viewer final ∧ ¬ final.Unfilled := by
  induction fuel generalizing viewer with
  | zero => cases ran
  | succ fuel ih =>
    rw [fillBuffer_window] at ran
    by_cases unfilled : viewer.Unfilled
    · rw [if_pos unfilled] at ran
      obtain ⟨next, turned, rest⟩ := Option.bind_eq_some_iff.mp ran
      obtain ⟨turns, filled⟩ := ih rest
      exact ⟨.head ⟨unfilled, fuel, turned⟩ turns, filled⟩
    · rw [if_neg unfilled] at ran
      cases ran
      exact ⟨.refl, unfilled⟩

/-- Where no window runs over the end of `uint64_t`, a turn moves the window forward. -/
theorem Turns.grows (fits : Fits head.currBeginTime head.endTime) (turn : Turns pb head next) :
    head.currBeginTime < next.currBeginTime := by
  obtain ⟨unfilled, fuel, turned⟩ := turn
  obtain ⟨last, edge, forward⟩ := window_times fits unfilled.1
  rw [(window_kept turned).2.2]
  apply UInt64.lt_iff_toNat_lt.mpr
  omega

theorem Fits.of_next (within : viewer.currBeginTime ≤ viewer.endTime)
    (grows : viewer.currBeginTime < viewer.thisEndTime + 1) (fits : Fits (viewer.thisEndTime + 1) viewer.endTime) :
    Fits viewer.currBeginTime viewer.endTime := by
  intro _
  have begins := viewer.currBeginTime.toNat_lt
  have ends := viewer.endTime.toNat_lt
  have order := UInt64.le_iff_toNat_le.mp within
  have forward := UInt64.lt_iff_toNat_lt.mp grows
  have step : kStepTimeNanoSec.toNat = 1000000000 := rfl
  have sum := UInt64.toNat_add viewer.currBeginTime kStepTimeNanoSec
  have edge := UInt64.toNat_add viewer.thisEndTime 1
  rw [UInt64.toNat_one] at edge
  by_cases clamped : viewer.currBeginTime + kStepTimeNanoSec > viewer.endTime
  · have last : viewer.thisEndTime = viewer.endTime := by rw [thisEndTime, if_pos clamped]
    have larger := UInt64.lt_iff_toNat_lt.mp clamped
    rw [last] at edge forward
    rw [windowEnd_here (by omega)]
    omega
  · have last : viewer.thisEndTime = viewer.currBeginTime + kStepTimeNanoSec := by rw [thisEndTime, if_neg clamped]
    have smaller := UInt64.le_iff_toNat_le.mp (UInt64.not_lt.mp clamped)
    rw [last] at edge forward
    by_cases more : viewer.thisEndTime + 1 ≤ viewer.endTime
    · have rest := fits more
      have reached := UInt64.le_iff_toNat_le.mp more
      rw [last] at rest reached
      have whole : (viewer.currBeginTime + kStepTimeNanoSec + 1).toNat =
          viewer.currBeginTime.toNat + kStepTimeNanoSec.toNat + 1 := by omega
      rw [whole] at rest
      rw [windowEnd_later (by omega)]
      exact rest
    · have past := UInt64.lt_iff_toNat_lt.mp (UInt64.not_le.mp more)
      rw [last] at past
      rw [windowEnd_here (by omega)]
      omega

theorem turns_later (turns : ReflTransGen (Turns pb) viewer final)
    (grows : ∀ head next, ReflTransGen (Turns pb) viewer head → Turns pb head next →
      head.currBeginTime < next.currBeginTime) : viewer.currBeginTime ≤ final.currBeginTime := by
  induction turns with
  | refl => exact UInt64.le_refl _
  | tail turns turn ih => exact UInt64.le_trans ih (UInt64.le_of_lt (grows _ _ turns turn))

theorem fits_of_turns (turns : ReflTransGen (Turns pb) viewer final)
    (grows : ∀ head next, ReflTransGen (Turns pb) viewer head → Turns pb head next →
      head.currBeginTime < next.currBeginTime) (fits : Fits final.currBeginTime final.endTime) :
    Fits viewer.currBeginTime viewer.endTime := by
  induction turns using ReflTransGen.head_induction_on with
  | refl => exact fits
  | @head viewer next turn turns ih =>
    have fits' := ih fun head after reached => grows head after (.head turn reached)
    have forward := grows viewer next .refl turn
    obtain ⟨unfilled, fuel, turned⟩ := turn
    obtain ⟨_, ends, curr⟩ := window_kept turned
    rw [ends, curr] at fits'
    rw [curr] at forward
    exact Fits.of_next unfilled.1 forward fits'

theorem erase_all (viewer : RecordViewer) : ReflTransGen (Moves pb) viewer { viewer with msgBuffer := [] } := by
  induction buffer : viewer.msgBuffer generalizing viewer with
  | nil =>
    have same : { viewer with msgBuffer := [] } = viewer := by rw [← buffer]
    rw [same]
  | cons message rest ih => exact .head (.erased buffer) (ih { viewer with msgBuffer := rest } rfl)

theorem AlwaysGrows.fits (always : viewer.AlwaysGrows pb) (reached : ReflTransGen (Moves pb) viewer state)
    (empty : state.msgBuffer = []) : Fits state.currBeginTime state.endTime := by
  induction size : 2 ^ 64 - state.currBeginTime.toNat using Nat.strong_induction_on generalizing state with
  | _ n ih =>
    by_cases within : state.currBeginTime ≤ state.endTime
    · have unfilled : state.Unfilled := ⟨within, by rw [empty]; decide⟩
      have grows := always state reached empty
      obtain ⟨fuel, ended⟩ := grows.ends
      obtain ⟨final, filled⟩ := Option.isSome_iff_exists.mp ended
      obtain ⟨turns, stopped⟩ := fillBuffer_turns filled
      -- the loop has taken a turn, so that the next `FillBuffer` starts later than this one
      rcases ReflTransGen.cases_head turns with same | ⟨next, turn, rest⟩
      · rw [same] at unfilled
        exact absurd unfilled stopped
      · have forward := UInt64.lt_iff_toNat_lt.mp (grows.grows state next .refl turn)
        have later := UInt64.le_iff_toNat_le.mp
          (turns_later rest fun head after reaches => grows.grows head after (.head turn reaches))
        have emptied := (reached.tail (.filled empty filled)).trans (erase_all final)
        have bound := final.currBeginTime.toNat_lt
        have fits := @ih (2 ^ 64 - final.currBeginTime.toNat) (by omega) { final with msgBuffer := [] } emptied rfl rfl
        exact fits_of_turns turns grows.grows fits
    · intro more
      exact absurd more within

/-- A call of `Update` is a run of these moves. -/
theorem update_moves {got : Option SingleMessage} (updated : viewer.update pb fuel = some (got, next)) :
    ReflTransGen (Moves pb) viewer next := by
  induction fuel generalizing viewer with
  | zero => cases updated
  | succ fuel ih =>
    rw [update] at updated
    split at updated
    · cases updated
    · rename_i filled ready
      have moved : ReflTransGen (Moves pb) viewer filled := by
        split at ready
        · rename_i empty
          exact .single (.filled (List.isEmpty_iff.mp empty) ready)
        · cases ready
          exact .refl
      split at updated
      · cases updated
        exact moved
      · rename_i message rest buffer
        split at updated
        · cases updated
          exact moved.tail (.erased buffer)
        · exact (moved.tail (.erased buffer)).trans (ih updated)

end RecordViewer

/-- The reader is at the end of a file whose header names the last time there is. -/
structure RecordReader.Silent (reader : RecordReader) : Prop where
  pos : reader.fileReader.file.bytes.length ≤ reader.fileReader.file.pos
  chunk : reader.chunk = ⟨[]⟩
  endTime : reader.header.endTime = maxTime

namespace RecordReader

variable {pb : Protobuf} {first last : UInt64} {fuel : Nat}

theorem Silent.turn {reader : RecordReader} (silent : reader.Silent) (skip : Bool) :
    ∃ next, reader.turn pb first last skip = .returned false next ∧ next.Silent := by
  unfold RecordReader.turn
  by_cases ended : reader.reachEnd = true
  · rw [if_pos ended]
    exact ⟨reader, rfl, silent⟩
  · have nothing : reader.fileReader.file.bytes.drop reader.fileReader.file.pos = [] :=
      List.drop_eq_nil_of_le silent.pos
    have read : reader.fileReader.readSectionHead = (none, { reader.fileReader with endOfFile := true }) := by
      unfold RecordFileReader.readSectionHead Bytes.File.read
      rw [nothing, List.take_nil]
      rfl
    rw [if_neg ended, read]
    exact ⟨_, rfl, silent.pos, silent.chunk, silent.endTime⟩

theorem Silent.readMessage {reader next : RecordReader} {got : Option SingleMessage} (silent : reader.Silent)
    (read : reader.readMessage pb first last fuel = some (got, next)) : got = none ∧ next.Silent := by
  cases fuel with
  | zero => cases read
  | succ fuel =>
    rw [RecordReader.readMessage] at read
    by_cases invalid : reader.isValid = false
    · rw [if_pos invalid] at read
      cases read
      exact ⟨rfl, silent⟩
    by_cases outside : (first > reader.header.endTime || last < reader.header.beginTime) = true
    · rw [if_neg invalid, if_pos outside] at read
      cases read
      exact ⟨rfl, silent⟩
    have nothing : scan first last (reader.chunk.messages.drop reader.messageIndex) = .exhausted := by
      rw [silent.chunk, List.drop_nil, scan]
    rw [if_neg invalid, if_neg outside, nothing] at read
    cases fuel with
    | zero => cases read
    | succ fuel =>
      have moved : Silent { reader with messageIndex := reader.chunk.messages.length } :=
        ⟨silent.pos, silent.chunk, silent.endTime⟩
      obtain ⟨after, turned, kept⟩ := @Silent.turn pb first last _ moved false
      dsimp only at read
      rw [readNextChunk_turn, turned] at read
      cases read
      exact ⟨rfl, kept⟩

theorem Silent.drain {reader next : RecordReader} {buffer after : List SingleMessage} (silent : reader.Silent)
    (drained : reader.drain pb first last fuel buffer = some (next, after)) : after = buffer ∧ next.Silent := by
  cases fuel with
  | zero => cases drained
  | succ fuel =>
    rw [RecordReader.drain] at drained
    split at drained
    · cases drained
    · rename_i read
      cases drained
      exact ⟨rfl, (silent.readMessage read).2⟩
    · rename_i read
      cases (silent.readMessage read).1

end RecordReader

namespace RecordViewer

end RecordViewer

end CyberRT.Record

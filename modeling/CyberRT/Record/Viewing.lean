import Mathlib.Algebra.BigOperators.Group.List.Basic
import Mathlib.Algebra.Order.BigOperators.Group.List
import Mathlib.Algebra.Order.Group.Nat
import CyberRT.Record.Windows

namespace CyberRT.Record

open Lists

theorem emplace_perm (message : SingleMessage) (buffer : List SingleMessage) :
    (emplace message buffer).Perm (message :: buffer) := by
  induction buffer with
  | nil => exact .refl _
  | cons head rest ih =>
    rw [emplace]
    split
    · exact .refl _
    · exact (ih.cons head).trans (.swap ..)

def Sorted (messages : List SingleMessage) : Prop := messages.Pairwise fun before after => before.time ≤ after.time

instance (messages : List SingleMessage) : Decidable (Sorted messages) :=
  inferInstanceAs (Decidable (List.Pairwise _ messages))

theorem emplace_sorted {message : SingleMessage} {buffer : List SingleMessage} (sorted : Sorted buffer) :
    Sorted (emplace message buffer) := by
  induction buffer with
  | nil => exact List.pairwise_singleton _ _
  | cons head rest ih =>
    obtain ⟨least, tail⟩ := List.pairwise_cons.mp sorted
    rw [emplace]
    split
    · rename_i before
      refine List.pairwise_cons.mpr ⟨?_, sorted⟩
      intro other member
      rcases List.mem_cons.mp member with rfl | member
      · exact UInt64.le_of_lt before
      · exact UInt64.le_trans (UInt64.le_of_lt before) (least other member)
    · rename_i after
      refine List.pairwise_cons.mpr ⟨?_, ih tail⟩
      intro other member
      rcases List.mem_cons.mp ((emplace_perm message rest).mem_iff.mp member) with rfl | member
      · exact UInt64.not_lt.mp after
      · exact least other member

def emplaceAll (buffer messages : List SingleMessage) : List SingleMessage :=
  messages.foldl (fun buffer message => emplace message buffer) buffer

theorem emplaceAll_append (buffer left right : List SingleMessage) :
    emplaceAll buffer (left ++ right) = emplaceAll (emplaceAll buffer left) right :=
  List.foldl_append

theorem emplaceAll_perm (buffer messages : List SingleMessage) :
    (emplaceAll buffer messages).Perm (buffer ++ messages) := by
  induction messages generalizing buffer with
  | nil => rw [List.append_nil]; exact .refl _
  | cons message rest ih =>
    have first := (emplace_perm message buffer).append_right rest
    exact (ih (emplace message buffer)).trans (first.trans List.perm_middle.symm)

theorem emplaceAll_sorted {buffer : List SingleMessage} (sorted : Sorted buffer) (messages : List SingleMessage) :
    Sorted (emplaceAll buffer messages) := by
  induction messages generalizing buffer with
  | nil => exact sorted
  | cons message rest ih => exact ih (emplace_sorted sorted)

/-- What a viewed reader can still give from a time on: a finished one has nothing left from then on. -/
def ViewedReader.Shows (pb : Protobuf) (time : UInt64) (size : Nat) (viewed : ViewedReader)
    (messages : List SingleMessage) : Prop :=
  (viewed.finished = false ∧ viewed.reader.Ahead pb size messages) ∨
  (viewed.finished = true ∧ ∀ message ∈ messages, message.time < time)

theorem ViewedReader.Shows.expire {pb : Protobuf} {time : UInt64} {size : Nat} {viewed : ViewedReader}
    {messages : List SingleMessage} (shows' : viewed.Shows pb time size messages) :
    (viewed.expire time).Shows pb time size messages ∧
      ((viewed.expire time).finished = false → time ≤ (viewed.expire time).reader.header.endTime) := by
  rcases shows' with ⟨running, ahead⟩ | ⟨finished, past⟩
  · by_cases ended : viewed.reader.header.endTime < time
    · have expired : viewed.expire time = ⟨viewed.reader.reset, true⟩ := by simp [ViewedReader.expire, running, ended]
      rw [expired]
      refine ⟨.inr ⟨rfl, ?_⟩, by simp⟩
      intro message member
      exact UInt64.lt_of_le_of_lt (ahead.bounded message member).2 ended
    · have same : viewed.expire time = viewed := by simp [ViewedReader.expire, ended]
      rw [same]
      exact ⟨.inl ⟨running, ahead⟩, fun _ => UInt64.not_lt.mp ended⟩
  · have same : viewed.expire time = viewed := by simp [ViewedReader.expire, finished]
    rw [same]
    exact ⟨.inr ⟨finished, past⟩, by simp [finished]⟩

theorem visible_past {first last : UInt64} {messages : List SingleMessage}
    (past : ∀ message ∈ messages, message.time < first) :
    visible SingleMessage.nanos first.toNat last.toNat messages = [] := by
  refine List.eq_nil_iff_forall_not_mem.mpr ?_
  intro message member
  obtain ⟨here, low, _⟩ := mem_visible _ member
  have before : message.nanos < first.toNat := UInt64.lt_iff_toNat_lt.mp (past message here)
  omega

theorem drainAll_eq {pb : Protobuf} {first last next : UInt64} {fuel size : Nat} {readers : List ViewedReader}
    {files : List (List SingleMessage)} {buffer : List SingleMessage} (window : first ≤ last) (later : first ≤ next)
    (shows' : List.Forall₂ (ViewedReader.Shows pb first size) readers files)
    (enough : ∀ messages ∈ files, messages.length + size + 3 < fuel) :
    ∃ after, drainAll pb first last fuel (readers.map (ViewedReader.expire first)) buffer = some (after,
        emplaceAll buffer (files.flatMap (visible SingleMessage.nanos first.toNat last.toNat))) ∧
      List.Forall₂ (ViewedReader.Shows pb next size) after (files.map (beyond SingleMessage.nanos last.toNat)) := by
  induction shows' generalizing buffer with
  | nil => exact ⟨[], rfl, .nil⟩
  | @cons viewed messages readers files head _ ih =>
    have others : ∀ messages ∈ files, messages.length + size + 3 < fuel :=
      fun messages member => enough messages (List.mem_cons_of_mem _ member)
    obtain ⟨expired, reaches⟩ := head.expire
    rw [List.map_cons, drainAll, List.flatMap_cons, List.map_cons, emplaceAll_append]
    rcases expired with ⟨running, ahead⟩ | ⟨finished, past⟩
    · obtain ⟨reader, drained, same, left⟩ := @RecordReader.drain_eq pb first last fuel size
        (viewed.expire first).reader messages buffer ahead window (reaches running) (enough messages (by simp))
      obtain ⟨after, rest, shown⟩ :=
        @ih (emplaceAll buffer (visible SingleMessage.nanos first.toNat last.toNat messages)) others
      refine ⟨{ viewed.expire first with reader := reader } :: after, ?_, .cons (.inl ⟨running, left⟩) shown⟩
      simp only [running, Bool.false_eq_true, ite_false, drained, ← emplaceAll.eq_def, rest, Option.map_some]
    · obtain ⟨after, rest, shown⟩ := @ih buffer others
      have nothing := @visible_past first last messages past
      refine ⟨viewed.expire first :: after, ?_, .cons (.inr ⟨finished, ?_⟩) shown⟩
      · simp only [finished, ite_true, nothing, rest, Option.map_some]
        rfl
      · intro message member
        exact UInt64.lt_of_lt_of_le (past message ((beyond_sublist _ _ _).subset member)) later

namespace RecordViewer

def shownOf (viewer : RecordViewer) (messages : List SingleMessage) : List SingleMessage :=
  shown SingleMessage.nanos kStepTimeNanoSec.toNat viewer.currBeginTime.toNat viewer.endTime.toNat 0 messages

def upcoming (viewer : RecordViewer) (files : List (List SingleMessage)) : List SingleMessage :=
  viewer.msgBuffer ++ files.flatMap viewer.shownOf

def work (viewer : RecordViewer) (files : List (List SingleMessage)) : Nat :=
  viewer.msgBuffer.length + (files.map List.length).sum + (viewer.endTime.toNat + 1 - viewer.currBeginTime.toNat)

/-- No window of the viewer runs over the end of `uint64_t`. -/
def Fits (beginTime endTime : UInt64) : Prop :=
  beginTime ≤ endTime →
    windowEnd kStepTimeNanoSec.toNat beginTime.toNat endTime.toNat < 2 ^ 64 ∧ endTime.toNat + 1 < 2 ^ 64

instance (beginTime endTime : UInt64) : Decidable (Fits beginTime endTime) :=
  inferInstanceAs (Decidable (_ → _))

structure Views (pb : Protobuf) (size : Nat) (viewer : RecordViewer) (files : List (List SingleMessage)) : Prop where
  readers : List.Forall₂ (ViewedReader.Shows pb viewer.currBeginTime size) viewer.readers files
  sorted : Sorted viewer.msgBuffer
  past : ∀ message ∈ viewer.msgBuffer, message.time < viewer.currBeginTime
  fits : Fits viewer.currBeginTime viewer.endTime

/-- The viewer has moved on and still has the same messages to give. -/
structure Advances (viewer : RecordViewer) (files : List (List SingleMessage)) (next : RecordViewer)
    (left : List (List SingleMessage)) : Prop where
  endTime : next.endTime = viewer.endTime
  channels : next.channels = viewer.channels
  upcoming : (next.upcoming left).Perm (viewer.upcoming files)
  work : next.work left ≤ viewer.work files

theorem Advances.trans {viewer middle next : RecordViewer} {files between left : List (List SingleMessage)}
    (first : Advances viewer files middle between) (second : Advances middle between next left) :
    Advances viewer files next left :=
  ⟨second.endTime.trans first.endTime, second.channels.trans first.channels,
    second.upcoming.trans first.upcoming, Nat.le_trans second.work first.work⟩

theorem thisEndTime_toNat {viewer : RecordViewer} (fits : Fits viewer.currBeginTime viewer.endTime)
    (within : viewer.currBeginTime ≤ viewer.endTime) :
    viewer.thisEndTime.toNat = min (viewer.currBeginTime.toNat + kStepTimeNanoSec.toNat) viewer.endTime.toNat := by
  have bounded := (fits within).1
  have least : viewer.currBeginTime.toNat + kStepTimeNanoSec.toNat ≤
      windowEnd kStepTimeNanoSec.toNat viewer.currBeginTime.toNat viewer.endTime.toNat := by
    unfold windowEnd
    omega
  have sum : (viewer.currBeginTime + kStepTimeNanoSec).toNat =
      viewer.currBeginTime.toNat + kStepTimeNanoSec.toNat := by
    rw [UInt64.toNat_add, Nat.mod_eq_of_lt (by omega)]
  rw [thisEndTime]
  split
  · rename_i clamped
    have larger := UInt64.lt_iff_toNat_lt.mp clamped
    omega
  · rename_i inside
    have smaller := UInt64.le_iff_toNat_le.mp (UInt64.not_lt.mp inside)
    omega

theorem succ_toNat {time : UInt64} (small : time.toNat + 1 < 2 ^ 64) : (time + 1).toNat = time.toNat + 1 := by
  rw [UInt64.toNat_add, UInt64.toNat_one, Nat.mod_eq_of_lt small]

def behindWindow (viewer : RecordViewer) (readers : List ViewedReader) (files : List (List SingleMessage)) :
    RecordViewer :=
  { viewer with
    readers := readers
    msgBuffer := emplaceAll viewer.msgBuffer
      (files.flatMap (visible SingleMessage.nanos viewer.currBeginTime.toNat viewer.thisEndTime.toNat))
    currBeginTime := viewer.thisEndTime + 1 }

@[simp] theorem behindWindow_currBeginTime (viewer : RecordViewer) (readers : List ViewedReader)
    (files : List (List SingleMessage)) :
    (viewer.behindWindow readers files).currBeginTime = viewer.thisEndTime + 1 := rfl

@[simp] theorem behindWindow_endTime (viewer : RecordViewer) (readers : List ViewedReader)
    (files : List (List SingleMessage)) : (viewer.behindWindow readers files).endTime = viewer.endTime := rfl

theorem behindWindow_buffer (viewer : RecordViewer) (readers : List ViewedReader) (files : List (List SingleMessage)) :
    (viewer.behindWindow readers files).msgBuffer.Perm (viewer.msgBuffer ++
      files.flatMap (visible SingleMessage.nanos viewer.currBeginTime.toNat viewer.thisEndTime.toNat)) :=
  emplaceAll_perm ..

theorem window_times {viewer : RecordViewer} (fits : Fits viewer.currBeginTime viewer.endTime)
    (within : viewer.currBeginTime ≤ viewer.endTime) :
    viewer.thisEndTime.toNat = min (viewer.currBeginTime.toNat + kStepTimeNanoSec.toNat) viewer.endTime.toNat ∧
    (viewer.thisEndTime + 1).toNat = viewer.thisEndTime.toNat + 1 ∧
    viewer.currBeginTime.toNat ≤ viewer.endTime.toNat := by
  have last := thisEndTime_toNat fits within
  have small := (fits within).2
  exact ⟨last, succ_toNat (by omega), UInt64.le_iff_toNat_le.mp within⟩

theorem Fits.next {viewer : RecordViewer} (fits : Fits viewer.currBeginTime viewer.endTime)
    (within : viewer.currBeginTime ≤ viewer.endTime) : Fits (viewer.thisEndTime + 1) viewer.endTime := by
  obtain ⟨last, next, forward⟩ := window_times fits within
  intro more
  have reached := UInt64.le_iff_toNat_le.mp more
  rw [next] at reached ⊢
  have whole : viewer.thisEndTime.toNat = viewer.currBeginTime.toNat + kStepTimeNanoSec.toNat := by omega
  rw [whole, ← windowEnd_later (by omega)]
  exact fits within

theorem behindWindow_views {pb : Protobuf} {size : Nat} {viewer : RecordViewer} {files : List (List SingleMessage)}
    {readers : List ViewedReader} (views : Views pb size viewer files) (within : viewer.currBeginTime ≤ viewer.endTime)
    (shows' : List.Forall₂ (ViewedReader.Shows pb (viewer.thisEndTime + 1) size) readers
      (files.map (beyond SingleMessage.nanos viewer.thisEndTime.toNat))) :
    Views pb size (viewer.behindWindow readers files)
      (files.map (beyond SingleMessage.nanos viewer.thisEndTime.toNat)) := by
  obtain ⟨last, next, forward⟩ := window_times views.fits within
  refine ⟨shows', emplaceAll_sorted views.sorted _, ?_, views.fits.next within⟩
  intro message member
  apply UInt64.lt_iff_toNat_lt.mpr
  rw [behindWindow_currBeginTime, next]
  rcases List.mem_append.mp ((behindWindow_buffer ..).mem_iff.mp member) with old | new
  · have before := UInt64.lt_iff_toNat_lt.mp (views.past message old)
    omega
  · obtain ⟨messages, _, seen⟩ := List.mem_flatMap.mp new
    have inside : message.time.toNat ≤ viewer.thisEndTime.toNat := (mem_visible _ seen).2.2
    omega

theorem behindWindow_upcoming {pb : Protobuf} {size : Nat} {viewer : RecordViewer}
    {files : List (List SingleMessage)} (views : Views pb size viewer files)
    (within : viewer.currBeginTime ≤ viewer.endTime) (readers : List ViewedReader) :
    ((viewer.behindWindow readers files).upcoming (files.map (beyond SingleMessage.nanos viewer.thisEndTime.toNat))).Perm
      (viewer.upcoming files) := by
  obtain ⟨last, next, forward⟩ := window_times views.fits within
  have split : ∀ messages, viewer.shownOf messages =
      visible SingleMessage.nanos viewer.currBeginTime.toNat viewer.thisEndTime.toNat messages ++
        (viewer.behindWindow readers files).shownOf (beyond SingleMessage.nanos viewer.thisEndTime.toNat messages) := by
    intro messages
    simp only [shownOf, behindWindow_currBeginTime, behindWindow_endTime, next, last]
    exact shown_window _ (by omega) messages
  rw [upcoming, upcoming, List.flatMap_map, List.flatMap_congr fun messages _ => split messages]
  refine ((behindWindow_buffer ..).append_right _).trans ?_
  rw [List.append_assoc]
  exact (List.flatMap_append_perm ..).append_left _

theorem behindWindow_work {pb : Protobuf} {size : Nat} {viewer : RecordViewer} {files : List (List SingleMessage)}
    (views : Views pb size viewer files) (within : viewer.currBeginTime ≤ viewer.endTime)
    (readers : List ViewedReader) :
    (viewer.behindWindow readers files).work (files.map (beyond SingleMessage.nanos viewer.thisEndTime.toNat)) <
      viewer.work files := by
  obtain ⟨last, next, forward⟩ := window_times views.fits within
  have total : (files.flatMap (visible SingleMessage.nanos viewer.currBeginTime.toNat viewer.thisEndTime.toNat)).length +
      ((files.map (beyond SingleMessage.nanos viewer.thisEndTime.toNat)).map List.length).sum ≤
      (files.map List.length).sum := by
    rw [List.length_flatMap, List.map_map, ← List.sum_map_add]
    exact List.sum_le_sum fun messages _ => length_visible_beyond ..
  have buffered := (viewer.behindWindow_buffer readers files).length_eq
  rw [List.length_append] at buffered
  simp only [work, behindWindow_currBeginTime, behindWindow_endTime, next]
  omega

theorem fillBuffer_advances {pb : Protobuf} {size fuel : Nat} {viewer : RecordViewer}
    {files : List (List SingleMessage)} (views : Views pb size viewer files)
    (enough : viewer.work files + size + 3 < fuel) :
    ∃ next left, viewer.fillBuffer pb fuel = some next ∧ Views pb size next left ∧ Advances viewer files next left ∧
      (next.msgBuffer = [] → next.upcoming left = []) := by
  induction fuel generalizing viewer files with
  | zero => omega
  | succ fuel ih =>
    rw [fillBuffer]
    by_cases more : viewer.currBeginTime ≤ viewer.endTime ∧ viewer.msgBuffer.length < kBufferMinSize
    · obtain ⟨last, next, forward⟩ := window_times views.fits more.1
      have smaller := behindWindow_work views more.1
      have window : viewer.currBeginTime ≤ viewer.thisEndTime := UInt64.le_iff_toNat_le.mpr (by omega)
      have later : viewer.currBeginTime ≤ viewer.thisEndTime + 1 := UInt64.le_iff_toNat_le.mpr (by omega)
      have each : ∀ messages ∈ files, messages.length + size + 3 < fuel := by
        intro messages member
        have part := List.le_sum_of_mem (List.mem_map_of_mem (f := List.length) member)
        unfold work at enough
        omega
      obtain ⟨readers, drained, shows'⟩ :=
        @drainAll_eq pb _ _ _ fuel size _ _ viewer.msgBuffer window later views.readers each
      have passed := behindWindow_views views more.1 shows'
      obtain ⟨final, left, filled, kept, advances, ended⟩ := ih passed (by
        have less := smaller readers
        omega)
      have first : Advances viewer files (viewer.behindWindow readers files) _ :=
        ⟨rfl, rfl, behindWindow_upcoming views more.1 readers, Nat.le_of_lt (smaller readers)⟩
      rw [if_pos more, drained]
      exact ⟨final, left, filled, kept, first.trans advances, ended⟩
    · rw [if_neg more]
      refine ⟨viewer, files, rfl, views, ⟨rfl, rfl, .refl _, Nat.le_refl _⟩, ?_⟩
      intro empty
      have past : viewer.endTime.toNat < viewer.currBeginTime.toNat := by
        have not := not_and'.mp more (by rw [empty]; decide)
        exact UInt64.lt_iff_toNat_lt.mp (UInt64.not_le.mp not)
      have nothing : ∀ messages ∈ files, viewer.shownOf messages = [] := fun messages _ => shown_past _ past messages
      rw [upcoming, empty, List.nil_append, List.flatMap_eq_nil_iff]
      exact nothing

/-- A message that the viewer gives, and what is left behind it. -/
structure Gives (pb : Protobuf) (size : Nat) (viewer : RecordViewer) (files : List (List SingleMessage))
    (message : SingleMessage) (next : RecordViewer) (left : List (List SingleMessage)) : Prop where
  views : Views pb size next left
  channels : next.channels = viewer.channels
  upcoming : (message :: (next.upcoming left).filter viewer.passes).Perm ((viewer.upcoming files).filter viewer.passes)
  least : ∀ other ∈ next.upcoming left, message.time ≤ other.time
  work : next.work left < viewer.work files

theorem Views.pop {pb : Protobuf} {size : Nat} {viewer : RecordViewer} {files : List (List SingleMessage)}
    {message : SingleMessage} {rest : List SingleMessage} (views : Views pb size viewer files)
    (buffer : viewer.msgBuffer = message :: rest) :
    Views pb size { viewer with msgBuffer := rest } files ∧
      (∀ other ∈ RecordViewer.upcoming { viewer with msgBuffer := rest } files, message.time ≤ other.time) := by
  have sorted := views.sorted
  rw [buffer] at sorted
  obtain ⟨least, tail⟩ := List.pairwise_cons.mp sorted
  refine ⟨⟨views.readers, tail, ?_, views.fits⟩, ?_⟩
  · intro other member
    exact views.past other (by rw [buffer]; exact List.mem_cons_of_mem _ member)
  · intro other member
    rcases List.mem_append.mp member with here | later
    · exact least other here
    · obtain ⟨messages, _, seen⟩ := List.mem_flatMap.mp later
      have inside := (List.mem_filter.mp ((shown_sublist ..).subset seen)).2
      have from' : viewer.currBeginTime.toNat ≤ other.time.toNat := (of_decide_eq_true inside).1
      have before := UInt64.lt_iff_toNat_lt.mp (views.past message (by rw [buffer]; exact List.mem_cons_self ..))
      apply UInt64.le_iff_toNat_le.mpr
      omega

theorem update_gives {pb : Protobuf} {size fuel : Nat} {viewer : RecordViewer} {files : List (List SingleMessage)}
    (views : Views pb size viewer files) (enough : viewer.work files + size + 4 < fuel) :
    (∃ next, viewer.update pb fuel = some (none, next) ∧ (viewer.upcoming files).filter viewer.passes = []) ∨
    ∃ message next left, viewer.update pb fuel = some (some message, next) ∧
      Gives pb size viewer files message next left := by
  induction fuel generalizing viewer files with
  | zero => omega
  | succ fuel ih =>
    obtain ⟨filled, left, ready, kept, advances, ended⟩ : ∃ filled left,
        (if viewer.msgBuffer.isEmpty then viewer.fillBuffer pb fuel else some viewer) = some filled ∧
        Views pb size filled left ∧ Advances viewer files filled left ∧
        (filled.msgBuffer = [] → filled.upcoming left = []) := by
      by_cases empty : viewer.msgBuffer.isEmpty = true
      · rw [if_pos empty]
        exact fillBuffer_advances views (by omega)
      · rw [if_neg empty]
        refine ⟨viewer, files, rfl, views, ⟨rfl, rfl, .refl _, Nat.le_refl _⟩, ?_⟩
        intro none
        rw [none] at empty
        exact absurd rfl empty
    have same : filled.passes = viewer.passes := by
      funext message
      rw [passes, passes, advances.channels]
    have total := advances.upcoming.filter viewer.passes
    rw [update, ready]
    cases buffer : filled.msgBuffer with
    | nil =>
      rw [ended buffer, List.filter_nil] at total
      exact .inl ⟨filled, by simp only [buffer], total.nil_eq.symm⟩
    | cons message rest =>
      obtain ⟨popped, least⟩ := kept.pop buffer
      have smaller : RecordViewer.work { filled with msgBuffer := rest } left < filled.work left := by
        simp only [work, buffer, List.length_cons]
        omega
      have whole : filled.upcoming left = message :: RecordViewer.upcoming { filled with msgBuffer := rest } left := by
        rw [upcoming, buffer]
        rfl
      have bound := advances.work
      rw [whole] at total
      by_cases pass : filled.passes message = true
      · rw [List.filter_cons_of_pos (by rw [← same]; exact pass)] at total
        simp only [buffer, if_pos pass]
        exact .inr ⟨message, _, left, rfl, popped, advances.channels, total, least, by omega⟩
      · rw [List.filter_cons_of_neg (by rw [← same]; exact pass)] at total
        simp only [buffer, if_neg pass]
        have again : RecordViewer.passes { filled with msgBuffer := rest } = viewer.passes := same
        rcases ih popped (by omega) with ⟨next, ran, none⟩ | ⟨other, next, final, ran, gives⟩
        · rw [again] at none
          rw [none] at total
          exact .inl ⟨next, ran, total.nil_eq.symm⟩
        · have rest' := gives.upcoming
          rw [again] at rest'
          exact .inr ⟨other, next, final, ran, gives.views, gives.channels.trans advances.channels,
            rest'.trans total, gives.least, by have less := gives.work; omega⟩

theorem collect_views {pb : Protobuf} {size fuel : Nat} {viewer : RecordViewer} {files : List (List SingleMessage)}
    (views : Views pb size viewer files) (enough : viewer.work files + size + 5 < fuel) :
    ∃ out, viewer.collect pb fuel = some out ∧ out.Perm ((viewer.upcoming files).filter viewer.passes) ∧
      Sorted out := by
  induction fuel generalizing viewer files with
  | zero => omega
  | succ fuel ih =>
    rw [collect]
    rcases @update_gives pb size fuel viewer files views (by omega) with
      ⟨next, ran, none⟩ | ⟨message, next, left, ran, gives⟩
    · rw [ran, none]
      exact ⟨[], rfl, .refl _, List.Pairwise.nil⟩
    · have less := gives.work
      obtain ⟨out, collected, perm, sorted⟩ := ih gives.views (by omega)
      have same : next.passes = viewer.passes := by
        funext message
        rw [passes, passes, gives.channels]
      rw [same] at perm
      rw [ran]
      refine ⟨message :: out, by simp only [collected, Option.map_some], (perm.cons message).trans gives.upcoming, ?_⟩
      refine List.pairwise_cons.mpr ⟨?_, sorted⟩
      intro other member
      exact gives.least other (List.mem_filter.mp (perm.mem_iff.mp member)).1

end RecordViewer

end CyberRT.Record

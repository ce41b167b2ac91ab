import CyberRT.Shm.ConditionNotifier

namespace CyberRT.Shm

open Execution

/-- Where a thread stands in `Notify`: behind `fetch_add`, and behind the write of `infos[idx]`. -/
inductive NotifyStage where
  | idle
  | fetched (seq : Nat) (info : ReadableInfo)
  | written (seq : Nat) (info : ReadableInfo)
  deriving DecidableEq, Repr

/-- Where the listener stands in `Listen`: it has seen that `next_seq` moved, it has taken the number in `seqs[idx]`,
    it has copied `infos[idx]`. -/
inductive ListenStage where
  | unstarted
  | idle
  | unread
  | ready (index : Fin kBufLength)
  | copied (info : ReadableInfo)
  deriving DecidableEq, Repr

/-- Any number of threads in `Notify` and one listener, with the infos of the `Notify` calls by the number that
    `fetch_add` gave them, and what `Listen` returned true with. -/
structure NotifierSteps (Thread : Type) where
  indicator : Indicator := {}
  notifying : Thread → NotifyStage := fun _ => .idle
  listening : ListenStage := .unstarted
  nextSeq : Nat := 0
  obtained : List ReadableInfo := []
  returned : List (Nat × ReadableInfo) := []

inductive NotifierStep (Thread : Type) where
  | fetchAdd (thread : Thread) (info : ReadableInfo)
  | writeInfo (thread : Thread)
  | writeSeq (thread : Thread)
  | init
  | readNextSeq
  | readSeq
  | readInfo
  | advance
  deriving DecidableEq, Repr

namespace NotifierSteps

variable {Thread : Type} [DecidableEq Thread]

def setStage (state : NotifierSteps Thread) (thread : Thread) (stage : NotifyStage) : NotifierSteps Thread :=
  { state with notifying := Function.update state.notifying thread stage }

def step (state : NotifierSteps Thread) : NotifierStep Thread → Option (NotifierSteps Thread)
  | .fetchAdd thread info =>
    match state.notifying thread with
    | .idle =>
      let fetched := state.indicator.fetchAdd
      some { state.setStage thread (.fetched fetched.1 info) with
        indicator := fetched.2, obtained := state.obtained ++ [info] }
    | _ => none
  | .writeInfo thread =>
    match state.notifying thread with
    | .fetched seq info =>
      some { state.setStage thread (.written seq info) with
        indicator := state.indicator.writeInfo (slot seq) info }
    | _ => none
  | .writeSeq thread =>
    match state.notifying thread with
    | .written seq _ =>
      some { state.setStage thread .idle with indicator := state.indicator.writeSeq (slot seq) seq }
    | _ => none
  | .init =>
    match state.listening with
    | .unstarted => some { state with listening := .idle, nextSeq := state.indicator.nextSeq }
    | _ => none
  | .readNextSeq =>
    match state.listening with
    | .idle =>
      some { state with listening := if state.indicator.nextSeq ≠ state.nextSeq then .unread else .idle }
    | _ => none
  | .readSeq =>
    match state.listening with
    | .unread =>
      let index := slot state.nextSeq
      let actualSeq := state.indicator.seqs index
      if state.nextSeq ≤ actualSeq then some { state with listening := .ready index, nextSeq := actualSeq }
      else some { state with listening := .idle }
    | _ => none
  | .readInfo =>
    match state.listening with
    | .ready index => some { state with listening := .copied (state.indicator.infos index) }
    | _ => none
  | .advance =>
    match state.listening with
    | .copied info =>
      some { state with
        listening := .idle, nextSeq := state.nextSeq + 1, returned := state.returned ++ [(state.nextSeq, info)] }
    | _ => none

/-- Every `Listen` that returned true handed out the info of the `Notify` call that obtained the number it consumed. -/
def HandsOut (state : NotifierSteps Thread) : Prop :=
  ∀ entry ∈ state.returned, state.obtained[entry.1]? = some entry.2

/-- No thread is between its two writes to this slot. -/
def Settled (state : NotifierSteps Thread) (index : Fin kBufLength) : Prop :=
  ∀ thread seq info, state.notifying thread = .written seq info → slot seq ≠ index

/-- A slot is written only while no other thread is between its two writes to it and the listener is not between its
    two reads of it; and the listener reads the number in a slot only while no thread is between its two writes to it,
    and not while the `Notify` that obtained number 0 has yet to write the slot it waits for. -/
def Undisturbed (state : NotifierSteps Thread) : NotifierStep Thread → Prop
  | .writeInfo thread => ∀ seq info, state.notifying thread = .fetched seq info →
      state.Settled (slot seq) ∧ state.listening ≠ .ready (slot seq)
  | .readSeq => state.Settled (slot state.nextSeq) ∧
      ∀ thread info, state.nextSeq = 0 → state.notifying thread ≠ .fetched 0 info
  | _ => True

/-- A slot that no thread is writing holds a number with its info, or it is as it was created: then, if it is the slot
    of number 0, the `Notify` that obtains this number has not written it yet. -/
structure Sound (state : NotifierSteps Thread) : Prop where
  counts : state.obtained.length = state.indicator.nextSeq
  fetched : ∀ thread seq info, state.notifying thread = .fetched seq info → state.obtained[seq]? = some info
  written : ∀ thread seq info, state.notifying thread = .written seq info →
    state.obtained[seq]? = some info ∧ state.indicator.infos (slot seq) = info
  slots : ∀ index, state.Settled index →
    state.obtained[state.indicator.seqs index]? = some (state.indicator.infos index) ∨
    state.indicator.seqs index = 0 ∧
      (index = slot 0 → state.indicator.nextSeq = 0 ∨ ∃ thread info, state.notifying thread = .fetched 0 info)
  unread : state.listening = .unread → state.nextSeq = 0 → state.indicator.nextSeq ≠ 0
  ready : ∀ index, state.listening = .ready index →
    state.obtained[state.nextSeq]? = some (state.indicator.infos index)
  copied : ∀ info, state.listening = .copied info → state.obtained[state.nextSeq]? = some info
  handsOut : state.HandsOut

omit [DecidableEq Thread] in
theorem sound_start : ({} : NotifierSteps Thread).Sound where
  counts := rfl
  fetched := by simp
  written := by simp
  slots := by simp
  unread := by simp
  ready := by simp
  copied := by simp
  handsOut := by simp [HandsOut]

theorem setStage_notifying (state : NotifierSteps Thread) (thread other : Thread) (stage : NotifyStage) :
    (state.setStage thread stage).notifying other = if other = thread then stage else state.notifying other :=
  Function.update_apply ..

theorem setStage_keeps {state : NotifierSteps Thread} {thread other : Thread} {mine theirs next : NotifyStage}
    (here : state.notifying thread = mine) (there : state.notifying other = theirs) (differs : theirs ≠ mine) :
    (state.setStage thread next).notifying other = theirs := by
  rw [setStage_notifying, if_neg]
  · exact there
  · rintro rfl
    exact differs (there.symm.trans here)

theorem Sound.fetchAdd {state : NotifierSteps Thread} (sound : state.Sound) {thread : Thread}
    (idle : state.notifying thread = .idle) (info : ReadableInfo) :
    ({ state.setStage thread (.fetched state.indicator.nextSeq info) with
      indicator := state.indicator.fetchAdd.2, obtained := state.obtained ++ [info] } : NotifierSteps Thread).Sound := by
  have grows : ∀ {seq : Nat} {value : ReadableInfo}, state.obtained[seq]? = some value →
      (state.obtained ++ [info])[seq]? = some value := by
    intro seq value before
    rw [List.getElem?_append_left (List.getElem?_eq_some_iff.mp before).1]
    exact before
  constructor
  · simp [Indicator.fetchAdd, sound.counts]
  · intro other seq value stage
    simp only [setStage_notifying] at stage
    split at stage
    · cases stage
      rw [← sound.counts, List.getElem?_concat_length]
    · exact grows (sound.fetched other seq value stage)
  · intro other seq value stage
    simp only [setStage_notifying] at stage
    split at stage
    · cases stage
    · exact ⟨grows (sound.written other seq value stage).1, (sound.written other seq value stage).2⟩
  · intro index settled
    have before : state.Settled index := by
      intro other seq value stage
      exact settled other seq value (setStage_keeps idle stage (by simp))
    rcases sound.slots index before with holds | ⟨zero, pristine⟩
    · exact .inl (grows holds)
    · refine .inr ⟨zero, fun first => .inr ?_⟩
      rcases pristine first with none | ⟨other, value, stage⟩
      · refine ⟨thread, info, ?_⟩
        rw [setStage_notifying, if_pos rfl, none]
      · exact ⟨other, value, setStage_keeps idle stage (by simp)⟩
  · intro _ _
    simp [Indicator.fetchAdd]
  · intro index ready
    exact grows (sound.ready index ready)
  · intro value copied
    exact grows (sound.copied value copied)
  · intro entry member
    exact grows (sound.handsOut entry member)

theorem Sound.writeInfo {state : NotifierSteps Thread} (sound : state.Sound) {thread : Thread} {seq : Nat}
    {info : ReadableInfo} (stage : state.notifying thread = .fetched seq info) (settled : state.Settled (slot seq))
    (unwatched : state.listening ≠ .ready (slot seq)) :
    ({ state.setStage thread (.written seq info) with
      indicator := state.indicator.writeInfo (slot seq) info } : NotifierSteps Thread).Sound := by
  constructor
  · exact sound.counts
  · intro other number value stage'
    simp only [setStage_notifying] at stage'
    split at stage'
    · cases stage'
    · exact sound.fetched other number value stage'
  · intro other number value stage'
    simp only [setStage_notifying] at stage'
    split at stage'
    · cases stage'
      exact ⟨sound.fetched thread seq info stage, Function.update_self ..⟩
    · have before := sound.written other number value stage'
      refine ⟨before.1, ?_⟩
      simp only [Indicator.writeInfo]
      rw [Function.update_of_ne (settled other number value stage')]
      exact before.2
  · intro index settled'
    have other : index ≠ slot seq := by
      rintro rfl
      exact settled' thread seq info (by rw [setStage_notifying, if_pos rfl]) rfl
    have before : state.Settled index := by
      intro writer number value stage'
      exact settled' writer number value (setStage_keeps stage stage' (by simp))
    simp only [Indicator.writeInfo, Function.update_of_ne other]
    rcases sound.slots index before with holds | ⟨zero, pristine⟩
    · exact .inl holds
    · refine .inr ⟨zero, fun first => ?_⟩
      rcases pristine first with none | ⟨writer, value, stage'⟩
      · exact .inl none
      · refine .inr ⟨writer, value, setStage_keeps stage stage' ?_⟩
        rintro same
        cases same
        exact other first
  · exact sound.unread
  · intro index ready
    have other : index ≠ slot seq := by
      rintro rfl
      exact unwatched ready
    simp only [Indicator.writeInfo, Function.update_of_ne other]
    exact sound.ready index ready
  · exact sound.copied
  · exact sound.handsOut

theorem Sound.writeSeq {state : NotifierSteps Thread} (sound : state.Sound) {thread : Thread} {seq : Nat}
    {info : ReadableInfo} (stage : state.notifying thread = .written seq info) :
    ({ state.setStage thread .idle with
      indicator := state.indicator.writeSeq (slot seq) seq } : NotifierSteps Thread).Sound := by
  obtain ⟨obtained, stored⟩ := sound.written thread seq info stage
  constructor
  · exact sound.counts
  · intro other number value stage'
    simp only [setStage_notifying] at stage'
    split at stage'
    · cases stage'
    · exact sound.fetched other number value stage'
  · intro other number value stage'
    simp only [setStage_notifying] at stage'
    split at stage'
    · cases stage'
    · exact sound.written other number value stage'
  · intro index settled
    by_cases here : index = slot seq
    · subst here
      simp only [Indicator.writeSeq, Function.update_self]
      rw [stored]
      exact .inl obtained
    · have before : state.Settled index := by
        intro writer number value stage'
        by_cases same : writer = thread
        · subst same
          rw [stage] at stage'
          cases stage'
          exact Ne.symm here
        · apply settled writer number value
          rw [setStage_notifying, if_neg same]
          exact stage'
      simp only [Indicator.writeSeq, Function.update_of_ne here]
      rcases sound.slots index before with holds | ⟨zero, pristine⟩
      · exact .inl holds
      · refine .inr ⟨zero, fun first => ?_⟩
        rcases pristine first with none | ⟨writer, value, stage'⟩
        · exact .inl none
        · exact .inr ⟨writer, value, setStage_keeps stage stage' (by simp)⟩
  · exact sound.unread
  · exact sound.ready
  · exact sound.copied
  · exact sound.handsOut

omit [DecidableEq Thread] in
theorem Sound.of_listener {state : NotifierSteps Thread} (sound : state.Sound) (listening : ListenStage)
    (nextSeq : Nat) (returned : List (Nat × ReadableInfo))
    (unread : listening = .unread → nextSeq = 0 → state.indicator.nextSeq ≠ 0)
    (ready : ∀ index, listening = .ready index → state.obtained[nextSeq]? = some (state.indicator.infos index))
    (copied : ∀ info, listening = .copied info → state.obtained[nextSeq]? = some info)
    (handsOut : ∀ entry ∈ returned, state.obtained[entry.1]? = some entry.2) :
    ({ state with listening := listening, nextSeq := nextSeq, returned := returned } : NotifierSteps Thread).Sound :=
  ⟨sound.counts, sound.fetched, sound.written, sound.slots, unread, ready, copied, handsOut⟩

omit [DecidableEq Thread] in
theorem Sound.readSeq {state : NotifierSteps Thread} (sound : state.Sound) (unread : state.listening = .unread)
    (undisturbed : state.Undisturbed .readSeq)
    (reached : state.nextSeq ≤ state.indicator.seqs (slot state.nextSeq)) :
    ({ state with
      listening := .ready (slot state.nextSeq)
      nextSeq := state.indicator.seqs (slot state.nextSeq) } : NotifierSteps Thread).Sound := by
  obtain ⟨settled, begun⟩ := undisturbed
  apply sound.of_listener _ _ _ (by simp) _ (by simp) sound.handsOut
  intro index same
  cases same
  rcases sound.slots _ settled with holds | ⟨zero, pristine⟩
  · exact holds
  · have first : state.nextSeq = 0 := by omega
    have moved := sound.unread unread first
    rw [first] at pristine
    rcases pristine rfl with none | ⟨thread, info, stage⟩
    · exact absurd none moved
    · exact absurd stage (begun thread info first)

theorem sound_step {state next : NotifierSteps Thread} {event : NotifierStep Thread} (sound : state.Sound)
    (undisturbed : state.Undisturbed event) (taken : step state event = some next) : next.Sound := by
  cases event with
  | fetchAdd thread info =>
    simp only [step] at taken
    split at taken
    · rename_i idle
      cases taken
      exact sound.fetchAdd idle info
    · cases taken
  | writeInfo thread =>
    simp only [step] at taken
    split at taken
    · rename_i seq info stage
      cases taken
      obtain ⟨settled, unwatched⟩ := undisturbed seq info stage
      exact sound.writeInfo stage settled unwatched
    · cases taken
  | writeSeq thread =>
    simp only [step] at taken
    split at taken
    · rename_i seq info stage
      cases taken
      exact sound.writeSeq stage
    · cases taken
  | init =>
    simp only [step] at taken
    split at taken
    · cases taken
      exact sound.of_listener _ _ _ (by simp) (by simp) (by simp) sound.handsOut
    · cases taken
  | readNextSeq =>
    simp only [step] at taken
    split at taken
    · cases taken
      by_cases moved : state.indicator.nextSeq ≠ state.nextSeq
      · rw [if_pos moved]
        exact sound.of_listener _ _ _ (fun _ zero => zero ▸ moved) (by simp) (by simp) sound.handsOut
      · rw [if_neg moved]
        exact sound.of_listener _ _ _ (by simp) (by simp) (by simp) sound.handsOut
    · cases taken
  | readSeq =>
    simp only [step] at taken
    split at taken
    · rename_i unread
      split at taken
      · rename_i reached
        cases taken
        exact sound.readSeq unread undisturbed reached
      · cases taken
        exact sound.of_listener _ _ _ (by simp) (by simp) (by simp) sound.handsOut
    · cases taken
  | readInfo =>
    simp only [step] at taken
    split at taken
    · rename_i index ready
      cases taken
      apply sound.of_listener _ _ _ (by simp) (by simp) _ sound.handsOut
      intro info same
      cases same
      exact sound.ready index ready
    · cases taken
  | advance =>
    simp only [step] at taken
    split at taken
    · rename_i info copied
      cases taken
      apply sound.of_listener _ _ _ (by simp) (by simp) (by simp)
      intro entry member
      rcases List.mem_append.mp member with member | member
      · exact sound.handsOut entry member
      · rw [List.mem_singleton.mp member]
        exact sound.copied info copied
    · cases taken

end NotifierSteps

end CyberRT.Shm

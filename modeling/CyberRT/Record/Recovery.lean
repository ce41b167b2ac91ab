import CyberRT.Record.Truncation

namespace CyberRT.Record

open Execution

instance (pb : Protobuf) (bytes : List UInt8) (position : Nat) (payload : Payload) :
    Decidable (SectionAt pb bytes position payload) :=
  inferInstanceAs (Decidable (_ = _))

def Payload.channel? : Payload → Option Channel
  | .channel c => some c
  | _ => none

namespace RecordFileWriter

/-- The sections that stand whole in this content of the file. -/
def completeSections (pb : Protobuf) (w : RecordFileWriter) (bytes : List UInt8) : List Payload :=
  (w.sections.filter fun entry => SectionAt pb bytes entry.1 entry.2).map Prod.snd

/-- The `Channel` sections in file order. -/
def fileChannels (w : RecordFileWriter) : List Channel := w.sections.filterMap fun entry => entry.2.channel?

end RecordFileWriter

theorem placed_take {pb : Protobuf} {start cut : Nat} {sections : List (Nat × Payload)}
    (placed : Placed pb start sections) :
    ∃ tail, (layoutBytes pb sections).take (cut - start) =
        layoutBytes pb (sections.filter fun entry => entry.1 + (sectionBytes pb entry.2).length ≤ cut) ++ tail ∧
      (tail = [] ∨ ∃ entry ∈ sections, tail <+: sectionBytes pb entry.2 ∧
        tail.length < (sectionBytes pb entry.2).length) := by
  induction sections generalizing start with
  | nil => exact ⟨[], by simp [layoutBytes], .inl rfl⟩
  | cons entry rest ih =>
    obtain ⟨here, later⟩ := placed
    by_cases whole : entry.1 + (sectionBytes pb entry.2).length ≤ cut
    · obtain ⟨tail, split, torn⟩ := ih later
      refine ⟨tail, ?_, ?_⟩
      · have count : cut - start = (sectionBytes pb entry.2).length +
            (cut - (start + (sectionBytes pb entry.2).length)) := by omega
        rw [List.filter_cons_of_pos (by simpa using whole), layoutBytes, layoutBytes, List.flatMap_cons,
          List.flatMap_cons, count, List.take_length_add_append, List.append_assoc]
        exact congrArg _ split
      · rcases torn with none | ⟨other, member, torn⟩
        · exact .inl none
        · exact .inr ⟨other, List.mem_cons_of_mem _ member, torn⟩
    · have none : (entry :: rest).filter (fun entry => entry.1 + (sectionBytes pb entry.2).length ≤ cut) = [] := by
        rw [List.filter_eq_nil_iff]
        intro other member
        rcases List.mem_cons.mp member with rfl | member
        · simpa using whole
        · have further := placed_le pb later member
          simp only [decide_eq_true_eq]
          omega
      have short : cut - start < (sectionBytes pb entry.2).length := by
        have positive := length_sectionBytes pb entry.2
        simp only [sectionSize] at positive
        omega
      refine ⟨(sectionBytes pb entry.2).take (cut - start), ?_, .inr ⟨entry, List.mem_cons_self .., ?_, ?_⟩⟩
      · rw [none, layoutBytes, List.flatMap_cons, List.take_append_of_le_length (by omega)]
        rfl
      · exact List.take_prefix ..
      · rw [List.length_take]
        omega

namespace RecordFileWriter

/-- Cutting the file off leaves the sections that end before the cut. -/
theorem Layout.sectionAt_take {pb : Protobuf} {w : RecordFileWriter} (layout : Layout pb w) {entry : Nat × Payload}
    (member : entry ∈ w.sections) (cut : Nat) : SectionAt pb (w.file.bytes.take cut) entry.1 entry.2 ↔
      entry.1 + (sectionBytes pb entry.2).length ≤ cut := by
  have whole := layout.sectionAt member
  rw [SectionAt] at whole ⊢
  rw [List.drop_take, List.take_take]
  constructor
  · intro present
    have length := congrArg List.length present
    have positive := length_sectionBytes pb entry.2
    rw [List.length_take] at length
    simp only [sectionSize] at positive
    omega
  · intro before
    rw [Nat.min_eq_left (by omega), whole]

theorem Layout.completeSections_eq {pb : Protobuf} {w : RecordFileWriter} (layout : Layout pb w) (cut : Nat) :
    w.completeSections pb (w.file.bytes.take cut) =
      (w.sections.filter fun entry => entry.1 + (sectionBytes pb entry.2).length ≤ cut).map Prod.snd := by
  rw [completeSections]
  congr 1
  apply List.filter_congr
  intro entry member
  rw [decide_eq_decide]
  exact layout.sectionAt_take member cut

/-- What is left of a file: the header, whole sections and a part of the next one. -/
theorem Layout.take_eq {pb : Protobuf} {w : RecordFileWriter} (layout : Layout pb w) {cut : Nat}
    (after : sectionSize + headerLength ≤ cut)
    (within : cut ≤ sectionSize + headerLength + (layoutBytes pb w.sections).length) :
    ∃ tail, w.file.bytes.take cut = headerBlock pb w.headerSection ++
        ((w.completeSections pb (w.file.bytes.take cut)).flatMap (sectionBytes pb) ++ tail) ∧
      (tail = [] ∨ ∃ entry ∈ w.sections, tail <+: sectionBytes pb entry.2 ∧
        tail.length < (sectionBytes pb entry.2).length) := by
  obtain ⟨rest, content⟩ := layout.bytes
  obtain ⟨tail, split, torn⟩ := @placed_take pb _ cut _ layout.placed
  have here := length_headerBlock pb w.headerSection
  have count : cut = (headerBlock pb w.headerSection).length + (cut - (sectionSize + headerLength)) := by omega
  refine ⟨tail, ?_, torn⟩
  rw [layout.completeSections_eq, List.flatMap_map, ← layoutBytes, ← split, content, List.append_assoc, count,
    List.take_length_add_append, here, Nat.add_sub_cancel_left, List.take_append_of_le_length (by omega)]

@[simp] theorem writeChannel_fileChannels (pb : Protobuf) (w : RecordFileWriter) (channel : Channel) :
    (w.writeChannel pb channel).fileChannels = w.fileChannels ++ [channel] := by
  simp [fileChannels, Payload.channel?]

@[simp] theorem flushChunk_fileChannels (pb : Protobuf) (w : RecordFileWriter) :
    (w.flushChunk pb).fileChannels = w.fileChannels := by
  simp [fileChannels, Payload.channel?]

@[simp] theorem writeIndex_fileChannels (pb : Protobuf) (w : RecordFileWriter) :
    (w.writeIndex pb).fileChannels = w.fileChannels := by
  simp [fileChannels, writeIndex, writeSection, Payload.channel?]

end RecordFileWriter

namespace Recording

open RecordFileWriter

/-- The sections of the file: those of the calls and of the chunks, which the index closes. -/
structure Files (state : Recording) (past : List RecordEvent) : Prop where
  channels : state.writer.fileChannels = writtenChannels past
  pending : state.phase.indexWritten = false → ∀ entry ∈ state.writer.sections, entry.2.IsData
  written : state.phase.indexWritten = true → ∃ data position index,
    state.writer.sections = data ++ [(position, .index index)] ∧ ∀ entry ∈ data, entry.2.IsData

theorem initial_files (pb : Protobuf) (old : List UInt8) (header : Header) : Files (initial pb old header) [] where
  channels := rfl
  pending := by simp [initial, create, RecordFileWriter.writeHeader, writeSection]
  written := by simp [initial, Phase.indexWritten]

theorem Files.phase {state : Recording} {past : List RecordEvent} {event : RecordEvent} (files : Files state past)
    (writer : RecordFileWriter) (phase : Phase) (thread : Bool) (quiet : event.channel? = none)
    (same : phase.indexWritten = state.phase.indexWritten) (sections : writer.sections = state.writer.sections) :
    Files ⟨writer, phase, thread⟩ (past ++ [event]) := by
  refine ⟨?_, ?_, ?_⟩
  · rw [writtenChannels_snoc, quiet, Option.toList_none, List.append_nil, ← files.channels]
    exact congrArg (List.filterMap fun entry : Nat × Payload => entry.2.channel?) sections
  · simpa only [same, sections] using files.pending
  · simpa only [same, sections] using files.written

theorem Files.step {pb : Protobuf} {state next : Recording} {past : List RecordEvent} {event : RecordEvent}
    (files : Files state past) (drains : Drains state) (moves : Moves pb state event next) :
    Files next (past ++ [event]) := by
  cases moves with
  | writeChannel channel idle =>
    have before : state.phase.indexWritten = false := by simp [idle, Phase.indexWritten]
    refine ⟨?_, fun _ => ?_, by simp [before]⟩
    · rw [writtenChannels_snoc, writeChannel_fileChannels, files.channels]
      rfl
    · intro entry member
      rcases List.mem_append.mp member with old | new
      · exact files.pending before entry old
      · rw [List.mem_singleton.mp new]
        trivial
  | flush full =>
    have before := drains.writing full
    refine ⟨?_, fun _ => ?_, by simp [before]⟩
    · rw [writtenChannels_snoc, flushChunk_fileChannels, files.channels]
      simp [RecordEvent.channel?]
    · have messages : state.writer.chunkFlush.messages ≠ [] := by
        intro none
        simp [(Chunk.empty_iff _).mpr none] at full
      intro entry member
      simp only [flushChunk_sections, List.mem_append, List.mem_singleton] at member
      rcases member with (old | rfl) | rfl
      · exact files.pending before entry old
      · trivial
      · exact messages
  | writeIndex indexing =>
    have before : state.phase.indexWritten = false := by simp [indexing, Phase.indexWritten]
    refine ⟨?_, by simp [Phase.indexWritten], fun _ => ⟨_, _, _, rfl, files.pending before⟩⟩
    rw [writtenChannels_snoc, writeIndex_fileChannels, files.channels]
    simp [RecordEvent.channel?]
  | complete completing =>
    have written : state.phase.indexWritten = true := by simp [completing, Phase.indexWritten]
    exact files.phase _ _ _ rfl written.symm rfl
  | writeMessage message idle =>
    refine files.phase _ _ _ rfl ?_ rfl
    rw [idle]
    split <;> rfl
  | exit => exact files.phase _ _ _ rfl rfl rfl
  | swap here => exact files.phase _ _ _ rfl (by rw [here]; rfl) rfl
  | close here => exact files.phase _ _ _ rfl (by rw [here]; rfl) rfl
  | drained here empty => exact files.phase _ _ _ rfl (by rw [here]; rfl) rfl
  | lastSwap here => exact files.phase _ _ _ rfl (by rw [here]; rfl) rfl
  | lastDrained here empty => exact files.phase _ _ _ rfl (by rw [here]; rfl) rfl
  | stop here => exact files.phase _ _ _ rfl (by rw [here]; rfl) rfl
  | join here => exact files.phase _ _ _ rfl (by rw [here]; rfl) rfl

theorem files_run {pb : Protobuf} {old : List UInt8} {header : Header} {events : List RecordEvent}
    {final : Recording} (ran : run (step pb) (initial pb old header) events = some final) :
    Lays pb final ∧ Files final events := by
  have held : Drains final ∧ Lays pb final ∧ Files final events := by
    refine run_invariant (fun state past => Drains state ∧ Lays pb state ∧ Files state past) ?_
      ⟨initial_drains pb old header, initial_lays pb old header, initial_files pb old header⟩ ran
    intro state past event next taken ⟨drains, lays, files⟩
    have moves := step_moves pb taken
    exact ⟨drains.step moves, lays.step drains moves, files.step drains moves⟩
  exact held.2

end Recording

theorem writtenMessages_append (left right : List RecordEvent) :
    writtenMessages (left ++ right) = writtenMessages left ++ writtenMessages right := List.filterMap_append

theorem writtenMessages_map (messages : List SingleMessage) :
    writtenMessages (messages.map .writeMessage) = messages := by
  rw [writtenMessages, List.filterMap_map]
  exact List.filterMap_some

/-- The messages of the file come from its whole chunks, whatever of the index is left. -/
theorem salvage_messages {names : List String} {data : List Payload} (all : ∀ payload ∈ data, payload.IsData) :
    writtenMessages (salvage names data) = data.flatMap Payload.messages := by
  induction data generalizing names with
  | nil => rfl
  | cons payload rest ih =>
    have later : ∀ other ∈ rest, other.IsData := fun other member => all other (List.mem_cons_of_mem _ member)
    rw [List.flatMap_cons]
    cases payload with
    | channel channel =>
      rw [salvage]
      split
      · exact ih later
      · exact ih later
    | chunkHeader header => exact ih later
    | chunkBody body =>
      rw [salvage, writtenMessages_append, writtenMessages_map, ih later]
      rfl
    | header header => exact (all _ (List.mem_cons_self ..)).elim
    | index index => exact (all _ (List.mem_cons_self ..)).elim

theorem salvage_channels {names : List String} {data : List Payload} (all : ∀ payload ∈ data, payload.IsData) :
    ((writtenChannels (salvage names data)).map Channel.name).Nodup ∧
      ∀ name, name ∈ (writtenChannels (salvage names data)).map Channel.name ↔
        name ∉ names ∧ ∃ channel, Payload.channel channel ∈ data ∧ channel.name = name := by
  induction data generalizing names with
  | nil => exact ⟨List.nodup_nil, by simp [salvage, writtenChannels]⟩
  | cons payload rest ih =>
    have later : ∀ other ∈ rest, other.IsData := fun other member => all other (List.mem_cons_of_mem _ member)
    cases payload with
    | channel channel =>
      rw [salvage]
      by_cases known : channel.name ∈ names
      · obtain ⟨once, members⟩ := @ih names later
        rw [if_pos known]
        refine ⟨once, fun name => ?_⟩
        rw [members]
        apply and_congr_right
        intro absent
        have other : channel.name ≠ name := fun same => absent (same ▸ known)
        simp [other]
      · obtain ⟨once, members⟩ := @ih (names ++ [channel.name]) later
        have first : writtenChannels (.writeChannel channel :: salvage (names ++ [channel.name]) rest) =
            channel :: writtenChannels (salvage (names ++ [channel.name]) rest) := rfl
        rw [if_neg known, first, List.map_cons]
        refine ⟨List.nodup_cons.mpr ⟨?_, once⟩, fun name => ?_⟩
        · rw [members]
          simp
        · rw [List.mem_cons, members]
          by_cases same : name = channel.name
          · subst name
            simp [known]
          · simp [same, Ne.symm same]
    | chunkHeader header => simpa [salvage] using @ih names later
    | chunkBody body =>
      have none : writtenChannels (body.messages.map .writeMessage) = [] := by
        simp [writtenChannels, RecordEvent.channel?]
      have same : writtenChannels (salvage names (.chunkBody body :: rest)) = writtenChannels (salvage names rest) := by
        rw [salvage, writtenChannels, List.filterMap_append, ← writtenChannels, ← writtenChannels, none, List.nil_append]
      rw [same]
      simpa using @ih names later
    | header header => exact (all _ (List.mem_cons_self ..)).elim
    | index index => exact (all _ (List.mem_cons_self ..)).elim

theorem salvage_index {names : List String} {data : List Payload} (all : ∀ payload ∈ data, payload.IsData)
    (index : Index) : salvage names (data ++ [.index index]) = salvage names data := by
  induction data generalizing names with
  | nil => rfl
  | cons payload rest ih =>
    have later : ∀ other ∈ rest, other.IsData := fun other member => all other (List.mem_cons_of_mem _ member)
    cases payload with
    | channel channel =>
      rw [List.cons_append, salvage, salvage]
      simp only [ih later]
    | chunkHeader header => exact ih later
    | chunkBody body =>
      rw [List.cons_append, salvage, salvage, ih later]
    | header header => exact (all _ (List.mem_cons_self ..)).elim
    | index index => exact (all _ (List.mem_cons_self ..)).elim

namespace Recording

open RecordFileWriter

theorem Files.kind {state : Recording} {past : List RecordEvent} (files : Files state past) {entry : Nat × Payload}
    (member : entry ∈ state.writer.sections) : entry.2.IsData ∨ ∃ index, entry.2 = .index index := by
  cases indexed : state.phase.indexWritten with
  | false => exact .inl (files.pending indexed entry member)
  | true =>
    obtain ⟨data, position, index, sections, all⟩ := files.written indexed
    rw [sections] at member
    rcases List.mem_append.mp member with inside | last
    · exact .inl (all entry inside)
    · exact .inr ⟨index, by rw [List.mem_singleton.mp last]⟩

/-- The sections that are left of a file, without the index. -/
theorem Files.completeSections {pb : Protobuf} {state : Recording} {past : List RecordEvent} (files : Files state past)
    (bytes : List UInt8) : ∃ data : List Payload, (∀ payload ∈ data, payload.IsData) ∧
      (state.writer.completeSections pb bytes = data ∨
        ∃ index, state.writer.completeSections pb bytes = data ++ [.index index]) := by
  have kept : ∀ data : List (Nat × Payload), (∀ entry ∈ data, entry.2.IsData) →
      ∀ payload ∈ (data.filter fun entry => SectionAt pb bytes entry.1 entry.2).map Prod.snd, payload.IsData := by
    intro data all payload member
    obtain ⟨entry, present, rfl⟩ := List.mem_map.mp member
    exact all entry (List.mem_of_mem_filter present)
  cases indexed : state.phase.indexWritten with
  | false => exact ⟨_, kept _ (files.pending indexed), .inl rfl⟩
  | true =>
    obtain ⟨data, position, index, sections, all⟩ := files.written indexed
    refine ⟨_, kept data all, ?_⟩
    rw [RecordFileWriter.completeSections, sections, List.filter_append, List.map_append]
    by_cases last : SectionAt pb bytes position (.index index)
    · exact .inr ⟨index, by simp [last]⟩
    · exact .inl (by simp [last])

end Recording

namespace Recoverer

open Recording RecordFileWriter

theorem proc_incomplete {pb : Protobuf} {fuel : Nat} {bytes : List UInt8} {reader : RecordFileReader}
    (opened : RecordFileReader.openFile pb bytes = some reader) (incomplete : reader.header.isComplete = false) :
    proc pb fuel bytes = (readThrough pb fuel { reader := reader.reset }).map fun (result, recoverer) =>
      (result, recoverer.calls) := by
  simp [proc, opened, RecordFileReader.readIndex, incomplete]

/-- The reader gets over the whole sections and stops where the file ends. -/
theorem proc_cut {pb : Protobuf} {record : Recording} {past : List RecordEvent} {cut fuel : Nat} (filled : pb.Filled)
    (lays : Lays pb record) (files : Files record past) (incomplete : record.writer.headerSection.isComplete = false)
    (readWhole : ∀ entry ∈ record.writer.sections, entry.2.ReadWhole pb) (after : sectionSize + headerLength ≤ cut)
    (within : cut ≤ sectionSize + headerLength + (layoutBytes pb record.writer.sections).length)
    (enough : record.writer.sections.length + 2 < fuel) :
    proc pb fuel (record.writer.file.bytes.take cut) =
      some (true, salvage [] (record.writer.completeSections pb (record.writer.file.bytes.take cut))) := by
  obtain ⟨tail, left, torn⟩ := lays.layout.take_eq after within
  have behind : ∀ entry ∈ record.writer.sections, entry.2.Behind pb :=
    fun entry member => ⟨files.kind member, readWhole entry member⟩
  have present : ∀ payload ∈ record.writer.completeSections pb (record.writer.file.bytes.take cut),
      payload.Behind pb := by
    intro payload member
    obtain ⟨entry, kept, rfl⟩ := List.mem_map.mp member
    exact behind entry (List.mem_of_mem_filter kept)
  have fragment : Fragment pb tail := by
    rcases torn with none | ⟨entry, member, torn⟩
    · exact .inl none
    · exact .inr ⟨entry.2, behind entry member, torn⟩
  have fewer : (record.writer.completeSections pb (record.writer.file.bytes.take cut)).length ≤
      record.writer.sections.length := by
    rw [completeSections, List.length_map]
    exact List.length_filter_le ..
  have headed : Payload.Sized pb (.header record.writer.headerSection) :=
    ⟨filled.header _, Nat.lt_of_le_of_lt (pb.header_fits _) (by decide)⟩
  have opened := @RecordFileReader.openFile_eq pb _
    ((record.writer.completeSections pb (record.writer.file.bytes.take cut)).flatMap (sectionBytes pb) ++ tail) headed
  rw [← left] at opened
  obtain ⟨final, read, calls⟩ := @readThrough_sections pb { reader :=
      ⟨⟨record.writer.file.bytes.take cut, sectionSize + headerLength⟩, record.writer.headerSection, ⟨[]⟩, false⟩ }
    fuel _ _ _ filled left (length_headerBlock ..).symm rfl present fragment (by omega)
  rw [proc_incomplete opened incomplete]
  rw [RecordFileReader.reset, Bytes.File.seek, read, Option.map_some]
  exact congrArg (fun calls => some (true, calls)) calls

end Recoverer

/-- What the thread of the caller asks for. -/
def RecordEvent.isCall : RecordEvent → Bool
  | .writeChannel _ | .writeMessage _ | .close => true
  | .proceed | .flush | .exit => false

theorem writtenMessages_calls (events : List RecordEvent) :
    writtenMessages (events.filter RecordEvent.isCall) = writtenMessages events := by
  rw [writtenMessages, List.filterMap_filter]
  apply List.filterMap_congr
  intro event _
  cases event <;> rfl

theorem writtenChannels_calls (events : List RecordEvent) :
    writtenChannels (events.filter RecordEvent.isCall) = writtenChannels events := by
  rw [writtenChannels, List.filterMap_filter]
  apply List.filterMap_congr
  intro event _
  cases event <;> rfl

namespace Recording

open RecordFileWriter

variable {pb : Protobuf}

/-- The writer takes calls, and its flush thread runs. -/
structure Open (state : Recording) : Prop where
  idle : state.phase = .idle
  thread : state.flushThread = true
  writing : state.writer.isWriting = true

/-- The flush thread can empty its chunk while it runs. -/
theorem exists_flush {state : Recording} (thread : state.flushThread = true) (writing : state.writer.isWriting = true) :
    ∃ events w, events.filter RecordEvent.isCall = [] ∧ run (step pb) state events = some { state with writer := w } ∧
      w.chunkFlush.empty = true ∧ w.isWriting = true := by
  by_cases empty : state.writer.chunkFlush.empty = true
  · exact ⟨[], state.writer, rfl, rfl, empty, writing⟩
  · refine ⟨[.flush], state.writer.flushChunk pb, rfl, ?_, rfl, writing⟩
    simp [run_cons, step, thread, writing, empty]

theorem Open.calls {state : Recording} (opened : Open state) {calls : List RecordEvent}
    (writes : ∀ call ∈ calls, call.isCall = true ∧ call ≠ .close) :
    ∃ events final, events.filter RecordEvent.isCall = calls ∧ run (step pb) state events = some final ∧ Open final := by
  induction calls generalizing state with
  | nil => exact ⟨[], state, rfl, rfl, opened⟩
  | cons call rest ih =>
    obtain ⟨isCall, other⟩ := writes call (List.mem_cons_self ..)
    have first : ∃ events next, events.filter RecordEvent.isCall = [call] ∧ run (step pb) state events = some next ∧
        Open next := by
      cases call with
      | writeChannel channel =>
        refine ⟨[.writeChannel channel], { state with writer := state.writer.writeChannel pb channel }, rfl, ?_, ?_⟩
        · simp [run_cons, step, opened.idle]
        · exact ⟨opened.idle, opened.thread, opened.writing⟩
      | writeMessage message =>
        by_cases full : (state.writer.addMessage message).needFlush message = true
        · refine ⟨[.writeMessage message, .proceed], { state with
            writer := (state.writer.addMessage message).swapChunks, phase := .idle }, rfl, ?_, ?_⟩
          · simp [run_cons, step, proceed, opened.idle, full]
          · exact ⟨rfl, opened.thread, opened.writing⟩
        · refine ⟨[.writeMessage message], { state with writer := state.writer.addMessage message }, rfl, ?_, ?_⟩
          · simp [run_cons, step, opened.idle, full]
          · exact ⟨opened.idle, opened.thread, opened.writing⟩
      | close => exact absurd rfl other
      | proceed => cases isCall
      | flush => cases isCall
      | exit => cases isCall
    obtain ⟨events, next, filtered, ran, opened⟩ := first
    obtain ⟨more, final, filtered', ran', opened⟩ := ih opened fun call member => writes call (List.mem_cons_of_mem _ member)
    refine ⟨events ++ more, final, ?_, ?_, opened⟩
    · rw [List.filter_append, filtered, filtered']
      rfl
    · rw [run_append, ran]
      exact ran'

theorem Open.close {state : Recording} (opened : Open state) :
    ∃ events final, events.filter RecordEvent.isCall = [.close] ∧ run (step pb) state events = some final ∧
      final.phase = .closed := by
  obtain ⟨first, w, quiet, drained, empty, writing⟩ :=
    @exists_flush pb { state with phase := .draining } opened.thread opened.writing
  obtain ⟨second, v, quiet', drained', empty', _⟩ :=
    @exists_flush pb { state with writer := w.swapChunks, phase := .lastDraining } opened.thread writing
  let swap : List RecordEvent := [.proceed, .proceed]
  let stop : List RecordEvent := [.proceed, .proceed, .exit, .proceed, .proceed, .proceed]
  have swapped : run (step pb) ⟨w, .draining, state.flushThread⟩ swap =
      some ⟨w.swapChunks, .lastDraining, state.flushThread⟩ := by
    simp [swap, run_cons, step, proceed, empty]
  have closed : ∃ final, run (step pb) ⟨v, .lastDraining, state.flushThread⟩ stop = some final ∧ final.phase = .closed := by
    simp [stop, run_cons, step, proceed, empty', opened.thread]
  obtain ⟨final, ran, closed⟩ := closed
  refine ⟨.close :: (first ++ (swap ++ (second ++ stop))), final, ?_, ?_, closed⟩
  · rw [List.filter_cons_of_pos rfl, List.filter_append, List.filter_append, List.filter_append, quiet, quiet']
    rfl
  · rw [run_cons, step, if_pos opened.idle, Option.bind_some, run_append, drained, Option.bind_some, run_append, swapped,
      Option.bind_some, run_append, drained', Option.bind_some]
    exact ran

theorem initial_open (old : List UInt8) (header : Header) : Open (initial pb old header) := ⟨rfl, rfl, rfl⟩

end Recording

theorem salvage_calls {names : List String} {payloads : List Payload} :
    ∀ call ∈ salvage names payloads, call.isCall = true ∧ call ≠ .close := by
  fun_induction salvage names payloads with
  | case1 names channel rest known ih => exact ih
  | case2 names channel rest new ih =>
    intro call member
    rcases List.mem_cons.mp member with rfl | further
    · exact ⟨rfl, RecordEvent.noConfusion⟩
    · exact ih call further
  | case3 names header rest ih => exact ih
  | case4 names body rest ih =>
    intro call member
    rcases List.mem_append.mp member with own | further
    · obtain ⟨message, _, rfl⟩ := List.mem_map.mp own
      exact ⟨rfl, RecordEvent.noConfusion⟩
    · exact ih call further
  | case5 => simp
  | case6 => simp
  | case7 => simp

namespace Recoverer

open Recording RecordFileWriter

/-- A state that `writer_` can reach on an output file that held `old`, whatever its flush thread does between these
    calls and the `Close` of its destructor. -/
def Writes (pb : Protobuf) (old : List UInt8) (calls : List RecordEvent) (output : Recording) : Prop :=
  ∃ events, events.filter RecordEvent.isCall = calls ++ [.close] ∧
    run (step pb) (initial pb old HeaderBuilder.getHeader) events = some output ∧ output.phase = .closed

theorem exists_writes (pb : Protobuf) (old : List UInt8) {calls : List RecordEvent}
    (writes : ∀ call ∈ calls, call.isCall = true ∧ call ≠ .close) : ∃ output, Writes pb old calls output := by
  obtain ⟨first, middle, filtered, ran, opened⟩ := @Open.calls pb _ (initial_open old HeaderBuilder.getHeader) _ writes
  obtain ⟨last, output, filtered', ran', closed⟩ := @Open.close pb _ opened
  refine ⟨output, first ++ last, ?_, ?_, closed⟩
  · rw [List.filter_append, filtered, filtered']
  · rw [run_append, ran]
    exact ran'

theorem Writes.holds {pb : Protobuf} {old : List UInt8} {calls : List RecordEvent} {output : Recording}
    (writes : Writes pb old calls output) : output.writer.fileMessages.Perm (writtenMessages calls) ∧
      output.writer.fileChannels = writtenChannels calls := by
  obtain ⟨events, filtered, ran, closed⟩ := writes
  obtain ⟨drains, content⟩ := held_written ran
  have channels := (files_run ran).2.channels
  rw [drains.held_closed closed, ← writtenMessages_calls, filtered, writtenMessages_snoc] at content
  rw [← writtenChannels_calls, filtered, writtenChannels_snoc] at channels
  exact ⟨by simpa [RecordEvent.message?] using content, by simpa [RecordEvent.channel?] using channels⟩

/-- Wherever the file of a record that has not been completed is cut off behind its header, the recoverer comes to an
    end and saves the messages and the channels of the sections that are left whole. -/
theorem truncated_record_recovered (pb : Protobuf) (filled : pb.Filled) (old : List UInt8) (header : Header)
    (events : List RecordEvent) (record : Recording) (ran : run (step pb) (initial pb old header) events = some record)
    (incomplete : record.writer.headerSection.isComplete = false)
    (readWhole : ∀ entry ∈ record.writer.sections, entry.2.ReadWhole pb) (cut : Nat)
    (after : sectionSize + headerLength ≤ cut)
    (within : cut ≤ sectionSize + headerLength + (layoutBytes pb record.writer.sections).length) :
    let truncated := record.writer.file.bytes.take cut
    let present := record.writer.completeSections pb truncated
    ∃ calls, (∃ enough, ∀ fuel, enough < fuel → proc pb fuel truncated = some (true, calls)) ∧
      ∀ oldOutput, (∃ output, Writes pb oldOutput calls output) ∧ ∀ output, Writes pb oldOutput calls output →
        output.writer.fileMessages.Perm (present.flatMap Payload.messages) ∧
        (output.writer.fileChannels.map Channel.name).Nodup ∧
        ∀ name, name ∈ output.writer.fileChannels.map Channel.name ↔
          ∃ channel, Payload.channel channel ∈ present ∧ channel.name = name := by
  intro truncated present
  obtain ⟨lays, files⟩ := files_run ran
  obtain ⟨data, all, left⟩ := @Files.completeSections pb _ _ files truncated
  have saved : salvage [] present = salvage [] data ∧ present.flatMap Payload.messages = data.flatMap Payload.messages ∧
      ∀ channel, Payload.channel channel ∈ present ↔ Payload.channel channel ∈ data := by
    rcases left with same | ⟨index, same⟩
    · have same : present = data := same
      simp [same]
    · have same : present = data ++ [.index index] := same
      simp [same, salvage_index all index, Payload.messages]
  obtain ⟨calls, messages, channels⟩ := saved
  refine ⟨salvage [] data, ⟨record.writer.sections.length + 2, fun fuel enough => ?_⟩,
    fun oldOutput => ⟨exists_writes pb oldOutput salvage_calls, ?_⟩⟩
  · rw [← calls]
    exact proc_cut filled lays files incomplete readWhole after within enough
  · intro output writes
    obtain ⟨content, written⟩ := writes.holds
    obtain ⟨once, members⟩ := @salvage_channels [] data all
    rw [salvage_messages all, ← messages] at content
    rw [← written] at once members
    refine ⟨content, once, fun name => ?_⟩
    rw [members]
    simp [channels]

theorem recordProto_filled : Wire.recordProto.Filled where
  header := fun _ => Nat.succ_pos _
  channel := fun _ => Nat.succ_pos _
  chunkHeader := fun _ => Nat.succ_pos _
  chunkBody := by
    intro body some'
    obtain ⟨message, rest, messages⟩ := List.exists_cons_of_ne_nil some'
    simp [Wire.recordProto, messages, Wire.repeated, Bytes.Format.keyed]

/-- The writer stops before `Close`, with two chunks in the file. -/
def crashing : List RecordEvent :=
  [.writeChannel ⟨"/chatter", "Chatter", []⟩, .writeMessage (sample 1), .proceed, .flush, .writeMessage (sample 2),
    .proceed, .flush]

theorem crashing_recovered : ∃ record,
    run (step Wire.recordProto) (initial Wire.recordProto [] smallChunks) crashing = some record ∧
      ∃ calls, (∃ enough, ∀ fuel, enough < fuel →
        proc Wire.recordProto fuel (record.writer.file.bytes.take 2200) = some (true, calls)) ∧
        ∀ output, Writes Wire.recordProto [] calls output → output.writer.fileMessages.Perm [sample 1] := by
  have reached : (run (step Wire.recordProto) (initial Wire.recordProto [] smallChunks) crashing).any (fun record =>
      decide (record.writer.headerSection.isComplete = false ∧
        (∀ entry ∈ record.writer.sections, entry.2.ReadWhole Wire.recordProto) ∧
        2200 ≤ sectionSize + headerLength + (layoutBytes Wire.recordProto record.writer.sections).length ∧
        ((record.writer.sections.filter fun entry =>
          entry.1 + (sectionBytes Wire.recordProto entry.2).length ≤ 2200).map Prod.snd).flatMap
            Payload.messages = [sample 1])) = true := by
    decide +kernel
  obtain ⟨record, ran, cut⟩ := (Option.any_eq_true _ _).mp reached
  obtain ⟨incomplete, readWhole, within, left⟩ := of_decide_eq_true cut
  obtain ⟨calls, recovered, written⟩ := truncated_record_recovered Wire.recordProto recordProto_filled [] smallChunks
    crashing record ran incomplete readWhole 2200 (by decide) within
  refine ⟨record, ran, calls, recovered, fun output writes => ?_⟩
  have messages := ((written []).2 output writes).1
  rwa [(files_run ran).1.layout.completeSections_eq, left] at messages

end Recoverer

end CyberRT.Record

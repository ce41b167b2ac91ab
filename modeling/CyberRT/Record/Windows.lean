import CyberRT.Lists.Windows
import CyberRT.Record.ReadBack
import CyberRT.Record.Viewer

namespace CyberRT.Record

open Lists

def SingleMessage.nanos (message : SingleMessage) : Nat := message.time.toNat

def Spans (beginTime endTime : UInt64) (messages : List SingleMessage) : Prop :=
  ∀ message ∈ messages, beginTime ≤ message.time ∧ message.time ≤ endTime

instance (beginTime endTime : UInt64) (messages : List SingleMessage) : Decidable (Spans beginTime endTime messages) :=
  inferInstanceAs (Decidable (∀ message ∈ messages, _))

def ChunkHeader.Bounds (header : ChunkHeader) (body : ChunkBody) : Prop :=
  body.messages ≠ [] ∧ Spans header.beginTime header.endTime body.messages

instance (header : ChunkHeader) (body : ChunkBody) : Decidable (header.Bounds body) :=
  inferInstanceAs (Decidable (_ ∧ _))

/-- The data sections of a record file: every chunk header bounds the body behind it. -/
inductive Chunked : List Payload → Prop
  | nil : Chunked []
  | channel (channel : Channel) {rest : List Payload} : Chunked rest → Chunked (.channel channel :: rest)
  | chunk {header : ChunkHeader} {body : ChunkBody} {rest : List Payload} :
    header.Bounds body → Chunked rest → Chunked (.chunkHeader header :: .chunkBody body :: rest)

/-- Where a reader can stand in such a file: it may have left a chunk header behind it. -/
inductive Readable : List Payload → Prop
  | chunked {sections : List Payload} : Chunked sections → Readable sections
  | body (body : ChunkBody) {rest : List Payload} : Chunked rest → Readable (.chunkBody body :: rest)

/-- What `ReadMessage` gives and leaves, when the messages are all in one list. -/
def Scan.result : Scan → Option SingleMessage × List SingleMessage
  | .found message rest => (some message, rest)
  | .blocked rest => (none, rest)
  | .exhausted => (none, [])

theorem scan_append (beginTime endTime : UInt64) (left right : List SingleMessage) :
    scan beginTime endTime (left ++ right) =
      match scan beginTime endTime left with
      | .found message rest => .found message (rest ++ right)
      | .blocked rest => .blocked (rest ++ right)
      | .exhausted => scan beginTime endTime right := by
  fun_induction scan beginTime endTime left with
  | case1 => rfl
  | case2 message rest late =>
    rw [List.cons_append, scan, if_pos late]
    rfl
  | case3 message rest late early ih => rw [List.cons_append, scan, if_neg late, if_pos early, ih]
  | case4 message rest late early => rw [List.cons_append, scan, if_neg late, if_neg early]

theorem scan_late {beginTime endTime : UInt64} {messages : List SingleMessage}
    (late : ∀ message ∈ messages, endTime < message.time) : (scan beginTime endTime messages).result = (none, messages) := by
  cases messages with
  | nil => rfl
  | cons message rest => rw [scan, if_pos (late message (List.mem_cons_self ..)), Scan.result]

theorem scan_early {beginTime endTime : UInt64} {messages : List SingleMessage} (window : beginTime ≤ endTime)
    (early : ∀ message ∈ messages, message.time < beginTime) : scan beginTime endTime messages = .exhausted := by
  induction messages with
  | nil => rfl
  | cons message rest ih =>
    have here := early message (List.mem_cons_self ..)
    have inside : ¬ message.time > endTime := UInt64.not_lt.mpr (UInt64.le_of_lt (UInt64.lt_of_lt_of_le here window))
    rw [scan, if_neg inside, if_pos here]
    exact ih fun other member => early other (List.mem_cons_of_mem _ member)

theorem scan_visible (beginTime endTime : UInt64) (messages : List SingleMessage) :
    match scan beginTime endTime messages with
    | .found message rest =>
      visible SingleMessage.nanos beginTime.toNat endTime.toNat messages =
        message :: visible SingleMessage.nanos beginTime.toNat endTime.toNat rest ∧
      beyond SingleMessage.nanos endTime.toNat messages = beyond SingleMessage.nanos endTime.toNat rest ∧
      rest.length < messages.length
    | .blocked rest =>
      visible SingleMessage.nanos beginTime.toNat endTime.toNat messages = [] ∧
      beyond SingleMessage.nanos endTime.toNat messages = rest
    | .exhausted =>
      visible SingleMessage.nanos beginTime.toNat endTime.toNat messages = [] ∧
      beyond SingleMessage.nanos endTime.toNat messages = [] := by
  fun_induction scan beginTime endTime messages with
  | case1 => exact ⟨rfl, rfl⟩
  | case2 message rest late =>
    have outside : ¬ message.nanos ≤ endTime.toNat := Nat.not_le.mpr (UInt64.lt_iff_toNat_lt.mp late)
    simp [visible, beyond, outside]
  | case3 message rest late early ih =>
    have inside : message.nanos ≤ endTime.toNat := UInt64.le_iff_toNat_le.mp (UInt64.not_lt.mp late)
    have before : ¬ beginTime.toNat ≤ message.nanos := Nat.not_le.mpr (UInt64.lt_iff_toNat_lt.mp early)
    have hidden : visible SingleMessage.nanos beginTime.toNat endTime.toNat (message :: rest) =
        visible SingleMessage.nanos beginTime.toNat endTime.toNat rest := by simp [visible, inside, before]
    have passed : beyond SingleMessage.nanos endTime.toNat (message :: rest) =
        beyond SingleMessage.nanos endTime.toNat rest := by simp [beyond, inside]
    rw [hidden, passed]
    split at ih
    · exact ⟨ih.1, ih.2.1, Nat.lt_succ_of_lt ih.2.2⟩
    · exact ih
    · exact ih
  | case4 message rest late early =>
    have inside : message.nanos ≤ endTime.toNat := UInt64.le_iff_toNat_le.mp (UInt64.not_lt.mp late)
    have from' : beginTime.toNat ≤ message.nanos := UInt64.le_iff_toNat_le.mp (UInt64.not_lt.mp early)
    simp [visible, beyond, inside, from']

/-- The reader gives what a scan of the messages before it gives. -/
structure Agrees (scanned : Scan) (size : Nat) (read : Option SingleMessage × Cursor) : Prop where
  message : read.1 = scanned.result.1
  messages : read.2.messages = scanned.result.2
  readable : Readable read.2.remaining
  shorter : read.2.remaining.length ≤ size

theorem Agrees.longer {scanned : Scan} {size larger : Nat} {read : Option SingleMessage × Cursor}
    (agrees : Agrees scanned size read) (grown : size ≤ larger) : Agrees scanned larger read :=
  { agrees with shorter := Nat.le_trans agrees.shorter grown }

theorem agrees_body {beginTime endTime : UInt64} {body : ChunkBody} {rest : List Payload} (chunked : Chunked rest)
    (next : Agrees (scan beginTime endTime (rest.flatMap Payload.messages)) rest.length
      (nextMessage beginTime endTime false rest)) :
    Agrees (scan beginTime endTime ((Payload.chunkBody body :: rest).flatMap Payload.messages)) (rest.length + 1)
      (nextMessage beginTime endTime false (.chunkBody body :: rest)) := by
  have contents : (Payload.chunkBody body :: rest).flatMap Payload.messages =
      body.messages ++ rest.flatMap Payload.messages := rfl
  rw [contents, scan_append, nextMessage]
  cases scan beginTime endTime body.messages with
  | found message pending => exact ⟨rfl, rfl, .chunked chunked, Nat.le_succ _⟩
  | blocked pending => exact ⟨rfl, rfl, .chunked chunked, Nat.le_succ _⟩
  | exhausted => exact next.longer (Nat.le_succ _)

theorem nextMessage_scan {beginTime endTime : UInt64} {sections : List Payload} (window : beginTime ≤ endTime)
    (chunked : Chunked sections) :
    Agrees (scan beginTime endTime (sections.flatMap Payload.messages)) sections.length
      (nextMessage beginTime endTime false sections) := by
  induction chunked with
  | nil => exact ⟨rfl, rfl, .chunked .nil, Nat.le_refl _⟩
  | channel channel _ ih => exact ih.longer (Nat.le_succ _)
  | @chunk header body rest bounds chunked ih =>
    obtain ⟨filled, bounded⟩ := bounds
    have contents : (Payload.chunkHeader header :: .chunkBody body :: rest).flatMap Payload.messages =
        body.messages ++ rest.flatMap Payload.messages := rfl
    rw [nextMessage]
    by_cases after : header.beginTime > endTime
    · rw [if_pos after, contents]
      obtain ⟨message, others, first⟩ := List.exists_cons_of_ne_nil filled
      have late : message.time > endTime :=
        UInt64.lt_of_lt_of_le after (bounded message (by simp [first])).1
      refine ⟨?_, ?_, .body body chunked, Nat.le_succ _⟩
      · rw [first, List.cons_append, scan, if_pos late]
        rfl
      · rw [first, List.cons_append, scan, if_pos late]
        simp [Cursor.messages, Payload.messages, first, Scan.result]
    rw [if_neg after]
    by_cases before : header.endTime < beginTime
    · have skipped : scan beginTime endTime body.messages = .exhausted :=
        scan_early window fun message member => UInt64.lt_of_le_of_lt (bounded message member).2 before
      rw [contents, scan_append, skipped]
      simp only [before, decide_true, Bool.or_true, nextMessage]
      exact ih.longer (by simp only [List.length_cons]; omega)
    · simp only [before, decide_false, Bool.or_false]
      exact (agrees_body chunked ih).longer (Nat.le_succ _)

theorem Readable.nextMessage_scan {beginTime endTime : UInt64} {sections : List Payload}
    (readable : Readable sections) (window : beginTime ≤ endTime) :
    Agrees (scan beginTime endTime (sections.flatMap Payload.messages)) sections.length
      (nextMessage beginTime endTime false sections) := by
  cases readable with
  | chunked chunked => exact Record.nextMessage_scan window chunked
  | body body chunked => exact agrees_body chunked (Record.nextMessage_scan window chunked)

theorem Cursor.read_scan {header : Header} {beginTime endTime : UInt64} {cursor : Cursor}
    (readable : Readable cursor.remaining) (window : beginTime ≤ endTime) (reaches : beginTime ≤ header.endTime)
    (bounded : ∀ message ∈ cursor.messages, header.beginTime ≤ message.time) :
    Agrees (scan beginTime endTime cursor.messages) cursor.remaining.length (cursor.read header beginTime endTime) := by
  rw [read]
  by_cases early : endTime < header.beginTime
  · have late := @scan_late beginTime endTime cursor.messages
      fun message member => UInt64.lt_of_lt_of_le early (bounded message member)
    rw [if_pos (by simp [early])]
    refine ⟨?_, ?_, readable, Nat.le_refl _⟩
    · rw [late]
    · rw [late]
  · rw [if_neg (by simpa [early] using reaches), messages, scan_append]
    cases scan beginTime endTime cursor.pending with
    | found message pending => exact ⟨rfl, rfl, readable, Nat.le_refl _⟩
    | blocked pending => exact ⟨rfl, rfl, readable, Nat.le_refl _⟩
    | exhausted => exact readable.nextMessage_scan window

structure RecordReader.Ahead (pb : Protobuf) (reader : RecordReader) (size : Nat) (messages : List SingleMessage) :
    Prop where
  cursor : ∃ cursor, reader.Reads pb cursor ∧ Readable cursor.remaining ∧ cursor.messages = messages ∧
    cursor.remaining.length ≤ size
  bounded : Spans reader.header.beginTime reader.header.endTime messages

/-- `ReadMessage` called for one window until it returns false: the messages and the reader afterwards. -/
def RecordReader.readWindow (pb : Protobuf) (beginTime endTime : UInt64) :
    Nat → RecordReader → Option (List SingleMessage × RecordReader)
  | 0, _ => none
  | fuel + 1, reader =>
    match reader.readMessage pb beginTime endTime fuel with
    | none => none
    | some (none, reader) => some ([], reader)
    | some (some message, reader) =>
      (readWindow pb beginTime endTime fuel reader).map fun window => (message :: window.1, window.2)

/-- A window takes what it can see of the messages before the reader. -/
theorem RecordReader.readWindow_eq {pb : Protobuf} {beginTime endTime : UInt64} {fuel size : Nat}
    {reader : RecordReader} {messages : List SingleMessage} (ahead : reader.Ahead pb size messages)
    (window : beginTime ≤ endTime) (reaches : beginTime ≤ reader.header.endTime)
    (enough : messages.length + size + 3 < fuel) :
    ∃ next, reader.readWindow pb beginTime endTime fuel =
        some (visible SingleMessage.nanos beginTime.toNat endTime.toNat messages, next) ∧
      next.header = reader.header ∧ next.Ahead pb size (beyond SingleMessage.nanos endTime.toNat messages) := by
  induction fuel generalizing reader messages with
  | zero => omega
  | succ fuel ih =>
    obtain ⟨⟨cursor, reads, readable, rfl, small⟩, bounded⟩ := ahead
    obtain ⟨next, read, header, reached⟩ :=
      @readMessage_refines pb beginTime endTime fuel reader cursor reads (by omega)
    have agrees := Cursor.read_scan readable window reaches fun message member => (bounded message member).1
    have sees := scan_visible beginTime endTime cursor.messages
    have kept : ∀ rest, rest <:+ cursor.messages → ∀ message ∈ rest,
        next.header.beginTime ≤ message.time ∧ message.time ≤ next.header.endTime := by
      intro rest suffix message member
      rw [header]
      exact bounded message (suffix.subset member)
    have ahead : ∀ rest, (cursor.read reader.header beginTime endTime).2.messages = rest →
        rest <:+ cursor.messages → next.Ahead pb size rest := fun rest same suffix =>
      ⟨⟨_, reached, agrees.readable, same, Nat.le_trans agrees.shorter small⟩, kept rest suffix⟩
    rw [readWindow, read, agrees.message]
    cases scanned : scan beginTime endTime cursor.messages with
    | found message rest =>
      rw [scanned] at sees agrees
      obtain ⟨seen, passed, shorter⟩ := sees
      obtain ⟨final, taken, same, last⟩ := @ih next rest (ahead rest agrees.messages (scan_suffix_found scanned))
        (by rw [header]; exact reaches) (by omega)
      rw [seen, passed]
      simp only [Scan.result, taken, Option.map_some]
      exact ⟨final, rfl, same.trans header, last⟩
    | blocked rest =>
      rw [scanned] at sees agrees
      rw [sees.1, sees.2]
      exact ⟨next, rfl, header, ahead rest agrees.messages (scan_suffix_blocked scanned)⟩
    | exhausted =>
      rw [scanned] at sees agrees
      rw [sees.1, sees.2]
      exact ⟨next, rfl, header, ahead [] agrees.messages (List.nil_suffix)⟩

/-- `FillBuffer` puts what a window takes into its buffer. -/
theorem RecordReader.drain_readWindow {pb : Protobuf} {beginTime endTime : UInt64} {fuel : Nat} {reader : RecordReader}
    {buffer : List SingleMessage} :
    reader.drain pb beginTime endTime fuel buffer =
      (reader.readWindow pb beginTime endTime fuel).map fun window =>
        (window.2, window.1.foldl (fun buffer message => emplace message buffer) buffer) := by
  induction fuel generalizing reader buffer with
  | zero => rfl
  | succ fuel ih =>
    rw [drain, readWindow]
    cases reader.readMessage pb beginTime endTime fuel with
    | none => rfl
    | some read =>
      obtain ⟨got, next⟩ := read
      cases got with
      | none => rfl
      | some message =>
        simp only [ih, Option.map_map]
        rfl

theorem RecordReader.drain_eq {pb : Protobuf} {beginTime endTime : UInt64} {fuel size : Nat} {reader : RecordReader}
    {messages buffer : List SingleMessage} (ahead : reader.Ahead pb size messages) (window : beginTime ≤ endTime)
    (reaches : beginTime ≤ reader.header.endTime) (enough : messages.length + size + 3 < fuel) :
    ∃ next, reader.drain pb beginTime endTime fuel buffer = some (next,
        (visible SingleMessage.nanos beginTime.toNat endTime.toNat messages).foldl
          (fun buffer message => emplace message buffer) buffer) ∧
      next.header = reader.header ∧ next.Ahead pb size (beyond SingleMessage.nanos endTime.toNat messages) := by
  obtain ⟨next, taken, header, left⟩ := readWindow_eq ahead window reaches enough
  rw [drain_readWindow, taken]
  exact ⟨next, rfl, header, left⟩

end CyberRT.Record

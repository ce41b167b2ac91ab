import CyberRT.Message.Traits

namespace CyberRT.Message

open MessageTraits

/-- A message type whose content is copied out and in, where an empty content is not taken. -/
class Copied (T : Type) extends MessageTraits T where
  content : T → List UInt8
  byteSize_eq : ∀ message, byteSize message = toInt (content message).length
  serializes : ∀ message data size, serializeToArray message data size = copyToArray (content message) data size
  names : ∀ name message, content (setTypeName name message) = content message
  refuses : ∀ data size message, size ≤ 0 → parseFromArray data size message = (false, message)
  takes : ∀ bytes size message, 0 < size → (parseFromArray (some bytes) size message).1 = true ∧
    content (parseFromArray (some bytes) size message).2 = bytes.take size.toNat

instance : Copied RawMessage where
  content := RawMessage.message
  byteSize_eq := by
    intro message
    unfold byteSize RawMessage.instMessageTraits RawMessage.byteSize
    rfl
  serializes := fun _ _ _ => rfl
  names := fun _ _ => rfl
  refuses := by
    intro data size message small
    cases data with
    | none => rfl
    | some bytes => exact if_pos small
  takes := by
    intro bytes size message positive
    have parsed : parseFromArray (some bytes) size message = (true, { message with message := bytes.take size.toNat }) :=
      if_neg (Int.not_le.mpr positive)
    rw [parsed]
    exact ⟨rfl, rfl⟩

instance : Copied PyMessageWrap where
  content := PyMessageWrap.data
  byteSize_eq := by
    intro message
    unfold byteSize PyMessageWrap.instMessageTraits PyMessageWrap.byteSize
    rfl
  serializes := fun _ _ _ => rfl
  names := fun _ _ => rfl
  refuses := by
    intro data size message small
    cases data with
    | none => rfl
    | some bytes => exact if_pos small
  takes := by
    intro bytes size message positive
    have parsed : parseFromArray (some bytes) size message = (true, { message with data := bytes.take size.toNat }) :=
      if_neg (Int.not_le.mpr positive)
    rw [parsed]
    exact ⟨rfl, rfl⟩

theorem copyToArray_short {content bytes : List UInt8} {size : Int} (small : content.length < 2 ^ 31)
    (short : size < content.length) : copyToArray content (some bytes) size = (false, some bytes) := by
  unfold copyToArray
  rw [← toInt_eq (by omega) (show (content.length : Int) < 2 ^ 31 by omega)] at short
  exact if_pos short

theorem copyToArray_room {content bytes : List UInt8} {size : Int} (small : content.length < 2 ^ 31)
    (room : ¬ size < content.length) :
    copyToArray content (some bytes) size = (true, some (content ++ bytes.drop content.length)) := by
  unfold copyToArray
  rw [← toInt_eq (by omega) (show (content.length : Int) < 2 ^ 31 by omega)] at room
  exact if_neg room

section

variable {T : Type} [Copied T]

open Copied

/-- The header of a message, in front of whatever there is of its content. -/
def headed (message : T) (rest : List UInt8) : List UInt8 :=
  ((MessageHeader.create.setMsgType (messageType T)).setContentSize (UInt32.ofInt (content message).length)).bytes ++ rest

/-- The bytes that a message has in a buffer of exactly its size. -/
def frame (message : T) : List UInt8 := headed message (content message)

/-- The content fits into an `int` together with the header. -/
def Fits (message : T) : Prop := (content message).length + MessageHeader.size < 2 ^ 31

theorem length_frame (message : T) : (frame message).length = MessageHeader.size + (content message).length := by
  simp [frame, headed]

theorem byteSize_fits {message : T} (fits : Fits message) : byteSize message = (content message).length := by
  unfold Fits at fits
  rw [byteSize_eq, toInt_eq (by omega) (by omega)]

theorem fullByteSize_fits {message : T} (fits : Fits message) : fullByteSize message = (frame message).length := by
  have size := byteSize_fits fits
  have length := length_frame message
  unfold Fits at fits
  unfold fullByteSize
  rw [size, if_neg (by omega), toInt_eq (by omega) (by omega)]
  omega

/-- A message whose content fits is written exactly into the buffers that have room for its frame. -/
theorem serializeToHC_eq {message : T} (fits : Fits message) (data : List UInt8) (short : data.length < 2 ^ 31) :
    (serializeToHC message data data.length).1 = decide ((frame message).length ≤ data.length) ∧
    ((frame message).length = data.length → (serializeToHC message data data.length).2 = frame message) := by
  have size := byteSize_fits fits
  have length := length_frame message
  have header : MessageHeader.size = 192 := rfl
  unfold Fits at fits
  unfold serializeToHC
  rw [size, if_neg (by omega), toSize_eq (by omega)]
  by_cases headless : MessageHeader.size > data.length
  · rw [if_pos headless]
    have less : ¬ (frame message).length ≤ data.length := by omega
    exact ⟨by simp [less], fun same => absurd (Nat.le_of_eq same) less⟩
  · rw [if_neg headless]
    simp only [serializes]
    rw [toInt_eq (by omega) (by omega)]
    by_cases room : (data.length : Int) - MessageHeader.size < (content message).length
    · have less : ¬ (frame message).length ≤ data.length := by omega
      rw [copyToArray_short (by omega) room]
      exact ⟨by simp [less], fun same => absurd (Nat.le_of_eq same) less⟩
    · have enough : (frame message).length ≤ data.length := by omega
      rw [copyToArray_room (by omega) room]
      refine ⟨by simp [enough], fun same => ?_⟩
      have rest : (data.drop MessageHeader.size).drop (content message).length = [] := by
        rw [List.drop_drop]
        exact List.drop_eq_nil_of_le (by omega)
      rw [rest, List.append_nil]
      rfl

theorem contentSizeAt_headed {message : T} (fits : Fits message) (rest : List UInt8) :
    (MessageHeader.contentSizeAt (headed message rest)).toNat = (content message).length := by
  unfold Fits at fits
  rw [headed, MessageHeader.contentSizeAt_bytes, UInt32.ofInt]
  simp only [UInt32.toNat_ofNat']
  omega

theorem drop_headed (message : T) (rest : List UInt8) : (headed message rest).drop MessageHeader.size = rest :=
  List.drop_left' (MessageHeader.length_bytes _)

theorem parseFromHC_frame {message : T} (fits : Fits message) (other : T) :
    parseFromHC (frame message) (frame message).length other =
      parseFromArray (some (content message)) (content message).length
        (setTypeName (MessageHeader.msgTypeAt (frame message)) other) := by
  have whole : frame message = headed message (content message) := rfl
  have length := length_frame message
  have header : MessageHeader.size = 192 := rfl
  have announced := contentSizeAt_headed fits (content message)
  rw [← whole] at announced
  have behind := drop_headed message (content message)
  rw [← whole] at behind
  unfold Fits at fits
  unfold parseFromHC
  rw [if_neg (by omega)]
  simp only [announced, behind]
  have left : ((frame message).length : Int) - MessageHeader.size = ((content message).length : Nat) := by omega
  rw [left, toSize_eq (by omega), if_neg (Nat.lt_irrefl _), toInt_eq (by omega) (by omega)]

theorem parseFromHC_prefix {message : T} (fits : Fits message) {n : Nat} (proper : n < (frame message).length)
    (other : T) : parseFromHC ((frame message).take n) n other = (false, other) := by
  have length := length_frame message
  have header : MessageHeader.size = 192 := rfl
  unfold parseFromHC
  by_cases headless : (n : Int) < MessageHeader.size
  · exact if_pos headless
  · have cut : (frame message).take n = headed message ((content message).take (n - MessageHeader.size)) := by
      rw [frame, headed, List.take_append, MessageHeader.length_bytes, List.take_of_length_le (by simp; omega)]
      rfl
    have announced := contentSizeAt_headed fits ((content message).take (n - MessageHeader.size))
    unfold Fits at fits
    rw [if_neg headless, cut]
    simp only [announced]
    have left : (n : Int) - MessageHeader.size = ((n - MessageHeader.size : Nat) : Int) := by omega
    rw [left, toSize_eq (by omega), if_pos (by omega)]

end

section

variable {T : Type} [MessageTraits T]

/-- What `SerializeToHC` makes of a buffer of `FullByteSize` bytes. -/
def written (message : T) (buffer : List UInt8) : Bool × List UInt8 :=
  serializeToHC message buffer (fullByteSize message)

structure Framed (content : T → List UInt8) (message : T) : Prop where
  sized : 0 ≤ fullByteSize message
  writes : ∀ buffer : List UInt8, (buffer.length : Int) = fullByteSize message → (written message buffer).1 = true
  shorter : ∀ buffer : List UInt8, (buffer.length : Int) < fullByteSize message →
    (serializeToHC message buffer buffer.length).1 = false
  prefixes : ∀ buffer : List UInt8, (buffer.length : Int) = fullByteSize message → ∀ n : Nat,
    (n : Int) < fullByteSize message → ∀ other : T,
      (parseFromHC ((written message buffer).2.take n) n other).1 = false ∧
      content (parseFromHC ((written message buffer).2.take n) n other).2 = content other

/-- `ParseFromHC` of the written buffer ends with this result and this content. -/
def Parses (content : T → List UInt8) (message : T) (result : Bool) (gives : T → List UInt8) : Prop :=
  ∀ buffer : List UInt8, (buffer.length : Int) = fullByteSize message → ∀ other : T,
    (parseFromHC (written message buffer).2 (fullByteSize message) other).1 = result ∧
    content (parseFromHC (written message buffer).2 (fullByteSize message) other).2 = gives other

end

section

variable {T : Type} [Copied T]

open Copied

theorem written_eq {message : T} (fits : Fits message) {buffer : List UInt8}
    (sized : (buffer.length : Int) = fullByteSize message) : written message buffer = (true, frame message) := by
  have full := fullByteSize_fits fits
  have same : (frame message).length = buffer.length := by omega
  have length := length_frame message
  have small : buffer.length < 2 ^ 31 := by
    unfold Fits at fits
    omega
  have ⟨result, data⟩ := serializeToHC_eq fits buffer small
  rw [written, ← sized]
  apply Prod.ext
  · rw [result, same]
    simp
  · exact data same

theorem framed {message : T} (fits : Fits message) : Framed content message where
  sized := by
    have full := fullByteSize_fits fits
    omega
  writes := by
    intro buffer sized
    rw [written_eq fits sized]
  shorter := by
    intro buffer short
    have full := fullByteSize_fits fits
    have length := length_frame message
    have small : buffer.length < 2 ^ 31 := by
      unfold Fits at fits
      omega
    rw [(serializeToHC_eq fits buffer small).1]
    have less : ¬ (frame message).length ≤ buffer.length := by omega
    simp [less]
  prefixes := by
    intro buffer sized n proper other
    have full := fullByteSize_fits fits
    rw [written_eq fits sized, parseFromHC_prefix fits (by omega) other]
    exact ⟨rfl, rfl⟩

theorem parses_back {message : T} (fits : Fits message) (filled : content message ≠ []) :
    Parses content message true fun _ => content message := by
  intro buffer sized other
  have positive : 0 < (content message).length := List.length_pos_iff.mpr filled
  rw [written_eq fits sized, fullByteSize_fits fits, parseFromHC_frame fits other]
  have ⟨result, taken⟩ := takes (content message) (content message).length
    (setTypeName (MessageHeader.msgTypeAt (frame message)) other) (by omega)
  apply And.intro result
  rw [taken]
  exact List.take_of_length_le (Nat.le_refl _)

theorem parses_empty {message : T} (empty : content message = []) : Parses content message false content := by
  intro buffer sized other
  have fits : Fits message := by
    unfold Fits
    rw [empty]
    decide
  have nothing : ((content message).length : Int) ≤ 0 := by
    rw [empty]
    exact Int.le_refl 0
  rw [written_eq fits sized, fullByteSize_fits fits, parseFromHC_frame fits other, refuses _ _ _ nothing]
  exact ⟨rfl, names _ _⟩

end

/-- Both message types are framed and read back, where an empty content is written but not taken. -/
theorem serialize_parse_hc :
    (∀ raw : RawMessage, raw.message.length + MessageHeader.size < 2 ^ 31 →
      Framed RawMessage.message raw ∧
      (raw.message ≠ [] → Parses RawMessage.message raw true fun _ => raw.message) ∧
      (raw.message = [] → Parses RawMessage.message raw false RawMessage.message)) ∧
    (∀ py : PyMessageWrap, py.data.length + MessageHeader.size < 2 ^ 31 →
      Framed PyMessageWrap.data py ∧
      (py.data ≠ [] → Parses PyMessageWrap.data py true fun _ => py.data) ∧
      (py.data = [] → Parses PyMessageWrap.data py false PyMessageWrap.data)) :=
  ⟨fun raw fits => ⟨@framed RawMessage _ raw fits, @parses_back RawMessage _ raw fits, @parses_empty RawMessage _ raw⟩,
    fun py fits =>
      ⟨@framed PyMessageWrap _ py fits, @parses_back PyMessageWrap _ py fits, @parses_empty PyMessageWrap _ py⟩⟩

theorem serialize_parse_hc_chatter :
    Parses RawMessage.message ⟨[99, 104, 97, 116], 0⟩ true fun _ => [99, 104, 97, 116] :=
  (serialize_parse_hc.1 ⟨[99, 104, 97, 116], 0⟩ (by decide)).2.1 (by decide)

/-- The frame of an empty message is not parsed. -/
theorem empty_content_refused :
    ¬ (∀ raw : RawMessage, raw.message.length < 2 ^ 31 →
      Framed RawMessage.message raw ∧ Parses RawMessage.message raw true fun _ => raw.message) := by
  intro claimed
  have sized : ((List.replicate MessageHeader.size (0 : UInt8)).length : Int) = fullByteSize (RawMessage.mk [] 0) := by
    rw [List.length_replicate]
    decide
  have read := (claimed ⟨[], 0⟩ (by decide)).2 _ sized ⟨[], 0⟩
  have refused := @parses_empty RawMessage _ ⟨[], 0⟩ rfl _ sized ⟨[], 0⟩
  rw [refused.1] at read
  exact Bool.false_ne_true read.1

end CyberRT.Message

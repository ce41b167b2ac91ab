import Mathlib.Algebra.Ring.Int.Defs
import Mathlib.Data.List.TakeDrop
import CyberRT.Bytes.File

namespace CyberRT.Message

/-- The conversion of a value to `int`. -/
def toInt (n : Int) : Int := n.bmod (2 ^ 32)

/-- The conversion of an `int` to `size_t`. -/
def toSize (n : Int) : Nat := (n % 2 ^ 64).toNat

theorem toInt_eq {n : Int} (low : - 2 ^ 31 ≤ n) (high : n < 2 ^ 31) : toInt n = n := by
  unfold toInt
  rw [Int.bmod_eq_of_le (by omega) (by omega)]

theorem toSize_eq {n : Nat} (small : n < 2 ^ 64) : toSize n = n := by
  unfold toSize
  omega

structure MessageHeader where
  magicNum : Vector UInt8 8
  seq : Vector UInt8 8
  timestampNs : Vector UInt8 8
  srcId : Vector UInt8 8
  dstId : Vector UInt8 8
  msgType : Vector UInt8 129
  res : Vector UInt8 19
  contentSize : Vector UInt8 4
  deriving DecidableEq

namespace MessageHeader

/-- `sizeof(MessageHeader)`. -/
def size : Nat := 192

/-- The header with every field reset. -/
def create : MessageHeader where
  magicNum := #v[66, 68, 65, 67, 66, 68, 65, 67]
  seq := Vector.replicate 8 0
  timestampNs := Vector.replicate 8 0
  srcId := Vector.replicate 8 0
  dstId := Vector.replicate 8 0
  msgType := Vector.replicate 129 0
  res := Vector.replicate 19 0
  contentSize := Vector.replicate 4 0

/-- `Convert32ToArray`: the bytes in network order. -/
def convert32ToArray (input : UInt32) : Vector UInt8 4 :=
  ⟨(Bytes.encode 4 input.toNat).reverse.toArray, by simp⟩

def convertArrayTo32 (input : List UInt8) : UInt32 := UInt32.ofNat (Bytes.decode input.reverse)

theorem convertArrayTo32_convert32ToArray (input : UInt32) :
    convertArrayTo32 (convert32ToArray input).toList = input := by
  have listed : (convert32ToArray input).toList = (Bytes.encode 4 input.toNat).reverse := rfl
  have decoded := @Bytes.decode_encode 4 input.toNat input.toNat_lt
  rw [convertArrayTo32, listed, List.reverse_reverse, decoded, UInt32.ofNat_toNat]

/-- `set_msg_type`: a name that does not fit is cut, so that a zero byte stays behind it. -/
def setMsgType (header : MessageHeader) (msgType : List UInt8) : MessageHeader :=
  if msgType.length = 0 then header
  else
    let realLen := if 129 ≤ msgType.length then 128 else msgType.length
    { header with
      msgType := ⟨(msgType.take realLen ++ List.replicate (129 - realLen) 0).toArray, by
        simp only [List.size_toArray, List.length_append, List.length_take, List.length_replicate, realLen]
        split <;> omega⟩ }

def setContentSize (header : MessageHeader) (contentSize : UInt32) : MessageHeader :=
  { header with contentSize := convert32ToArray contentSize }

/-- The fields before `content_size_`, as they lie in memory. -/
def front (header : MessageHeader) : List UInt8 :=
  header.magicNum.toList ++ header.seq.toList ++ header.timestampNs.toList ++ header.srcId.toList ++
    header.dstId.toList ++ header.msgType.toList ++ header.res.toList

def bytes (header : MessageHeader) : List UInt8 := header.front ++ header.contentSize.toList

/-- `header->content_size()` of a header that lies at the start of a buffer. -/
def contentSizeAt (data : List UInt8) : UInt32 := convertArrayTo32 ((data.drop 188).take 4)

/-- The name that `header->msg_type()` points to, up to its zero byte. -/
def msgTypeAt (data : List UInt8) : List UInt8 := ((data.drop 40).take 129).takeWhile (· ≠ 0)

@[simp] theorem length_front (header : MessageHeader) : header.front.length = 188 := by
  simp [front]

@[simp] theorem length_bytes (header : MessageHeader) : header.bytes.length = size := by
  simp [bytes, size]

theorem contentSizeAt_bytes (header : MessageHeader) (contentSize : UInt32) (rest : List UInt8) :
    contentSizeAt ((header.setContentSize contentSize).bytes ++ rest) = contentSize := by
  have lies : (header.setContentSize contentSize).bytes ++ rest =
      (header.setContentSize contentSize).front ++ ((convert32ToArray contentSize).toList ++ rest) := by
    rw [bytes, List.append_assoc]
    rfl
  rw [contentSizeAt, lies, List.drop_left' (length_front _), List.take_left' (by simp)]
  exact convertArrayTo32_convert32ToArray contentSize

end MessageHeader

/-- What the function templates find for a message type: its own members or the defaults. -/
class MessageTraits (T : Type) where
  byteSize : T → Int
  messageType : List UInt8
  setTypeName : List UInt8 → T → T
  /-- The result and the buffer afterwards. -/
  serializeToArray : T → Option (List UInt8) → Int → Bool × Option (List UInt8)
  parseFromArray : Option (List UInt8) → Int → T → Bool × T

section

variable {T : Type} [MessageTraits T]

open MessageTraits

def fullByteSize (message : T) : Int :=
  let contentSize := byteSize message
  if contentSize < 0 then contentSize else toInt (contentSize + MessageHeader.size)

def parseFromHC (data : List UInt8) (size : Int) (message : T) : Bool × T :=
  if size < MessageHeader.size then (false, message)
  else
    let contentSize := MessageHeader.contentSizeAt data
    if toSize (size - MessageHeader.size) < contentSize.toNat then (false, message)
    else
      parseFromArray (some (data.drop MessageHeader.size)) (toInt contentSize.toNat)
        (setTypeName (MessageHeader.msgTypeAt data) message)

def serializeToHC (message : T) (data : List UInt8) (size : Int) : Bool × List UInt8 :=
  let msgSize := byteSize message
  if msgSize < 0 then (false, data)
  else
    let header := (MessageHeader.create.setMsgType (messageType T)).setContentSize (UInt32.ofInt msgSize)
    if MessageHeader.size > toSize size then (false, data)
    else
      let leftSize := toInt (size - MessageHeader.size)
      let written := serializeToArray message (some (data.drop MessageHeader.size)) leftSize
      (written.1, header.bytes ++ written.2.getD [])

end

/-- `RawMessage` and `PyMessageWrap` copy their content out and in alike. -/
def copyToArray (content : List UInt8) (data : Option (List UInt8)) (size : Int) : Bool × Option (List UInt8) :=
  match data with
  | none => (false, data)
  | some bytes =>
    if size < toInt content.length then (false, data)
    else (true, some (content ++ bytes.drop content.length))

structure RawMessage where
  message : List UInt8
  timestamp : UInt64
  deriving DecidableEq

namespace RawMessage

def byteSize (raw : RawMessage) : Int := toInt raw.message.length

def typeName : List UInt8 := "apollo.cyber.message.RawMessage".toList.map fun letter => UInt8.ofNat letter.toNat

def serializeToArray (raw : RawMessage) (data : Option (List UInt8)) (size : Int) : Bool × Option (List UInt8) :=
  copyToArray raw.message data size

def parseFromArray (data : Option (List UInt8)) (size : Int) (raw : RawMessage) : Bool × RawMessage :=
  match data with
  | none => (false, raw)
  | some bytes => if size ≤ 0 then (false, raw) else (true, { raw with message := bytes.take size.toNat })

instance : MessageTraits RawMessage where
  byteSize := byteSize
  messageType := typeName
  setTypeName := fun _ raw => raw
  serializeToArray := serializeToArray
  parseFromArray := parseFromArray

end RawMessage

structure PyMessageWrap where
  data : List UInt8
  typeName : List UInt8
  deriving DecidableEq

namespace PyMessageWrap

def byteSize (py : PyMessageWrap) : Int := toInt py.data.length

/-- `PY_MESSAGE_FULLNAME`. -/
def fullName : List UInt8 := "apollo.cyber.message.PyMessage".toList.map fun letter => UInt8.ofNat letter.toNat

def serializeToArray (py : PyMessageWrap) (data : Option (List UInt8)) (size : Int) : Bool × Option (List UInt8) :=
  copyToArray py.data data size

def parseFromArray (data : Option (List UInt8)) (size : Int) (py : PyMessageWrap) : Bool × PyMessageWrap :=
  match data with
  | none => (false, py)
  | some bytes => if size ≤ 0 then (false, py) else (true, { py with data := bytes.take size.toNat })

instance : MessageTraits PyMessageWrap where
  byteSize := byteSize
  messageType := fullName
  setTypeName := fun _ py => py
  serializeToArray := serializeToArray
  parseFromArray := parseFromArray

end PyMessageWrap

end CyberRT.Message

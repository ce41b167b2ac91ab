import Mathlib.Algebra.Ring.Nat
import Mathlib.Data.List.TakeDrop

namespace Bytes

/-- The low `width` bytes of a number, least significant byte first. -/
def encode : Nat → Nat → List UInt8
  | 0, _ => []
  | width + 1, n => UInt8.ofNat n :: encode width (n / 256)

def decode : List UInt8 → Nat
  | [] => 0
  | byte :: bytes => byte.toNat + 256 * decode bytes

@[simp] theorem length_encode (width n : Nat) : (encode width n).length = width := by
  induction width generalizing n with
  | zero => rfl
  | succ width ih => simp [encode, ih]

theorem decode_encode {width n : Nat} (fits : n < 256 ^ width) : decode (encode width n) = n := by
  induction width generalizing n with
  | zero =>
    simp only [Nat.pow_zero, Nat.lt_one_iff] at fits
    simp [encode, decode, fits]
  | succ width ih =>
    have quotient : n / 256 < 256 ^ width := by
      rw [Nat.pow_succ] at fits
      omega
    rw [encode, decode, ih quotient, UInt8.toNat_ofNat']
    omega

/-- An open file: its content and the offset of the next read or write. -/
structure File where
  bytes : List UInt8
  pos : Nat
  deriving DecidableEq, Repr

namespace File

def seek (file : File) (pos : Nat) : File := { file with pos := pos }

def write (file : File) (data : List UInt8) : File where
  bytes := file.bytes.take file.pos ++ data ++ file.bytes.drop (file.pos + data.length)
  pos := file.pos + data.length

/-- Reads at most `count` bytes. -/
def read (file : File) (count : Nat) : List UInt8 × File :=
  let got := (file.bytes.drop file.pos).take count
  (got, { file with pos := file.pos + got.length })

@[simp] theorem seek_bytes (file : File) (pos : Nat) : (file.seek pos).bytes = file.bytes := rfl

@[simp] theorem seek_pos (file : File) (pos : Nat) : (file.seek pos).pos = pos := rfl

@[simp] theorem write_pos (file : File) (data : List UInt8) : (file.write data).pos = file.pos + data.length := rfl

theorem length_write_le {file : File} {bound : Nat} (within : file.bytes.length ≤ max bound file.pos)
    (data : List UInt8) : (file.write data).bytes.length ≤ max bound (file.write data).pos := by
  rw [write_pos, write, List.length_append, List.length_append, List.length_take, List.length_drop]
  omega

/-- A write at the end of a known part of the content extends that part. -/
theorem write_bytes {file : File} {front rest : List UInt8} (content : file.bytes = front ++ rest)
    (here : file.pos = front.length) (data : List UInt8) :
    (file.write data).bytes = front ++ data ++ rest.drop data.length := by
  rw [write, content, here, List.take_left, List.drop_append, List.drop_of_length_le (Nat.le_add_right _ _),
    Nat.add_sub_cancel_left, List.nil_append]

/-- What lies before the place of a write stays as it is. -/
theorem write_kept {file : File} {first count : Nat} (before : first + count ≤ file.pos)
    (inside : file.pos ≤ file.bytes.length) (data : List UInt8) :
    ((file.write data).bytes.drop first).take count = (file.bytes.drop first).take count := by
  have same : (file.write data).bytes.take file.pos = file.bytes.take file.pos := by
    rw [write, List.append_assoc, List.take_append_of_le_length (Nat.le_of_eq (List.length_take_of_le inside).symm),
      List.take_of_length_le (Nat.le_of_eq (List.length_take_of_le inside))]
  have part : ∀ bytes : List UInt8, (bytes.drop first).take count = ((bytes.take file.pos).drop first).take count := by
    intro bytes
    rw [List.drop_take, List.take_take, Nat.min_eq_left (by omega)]
  rw [part, same, ← part]

/-- What has been written stands at the place of the write. -/
theorem write_here {file : File} (inside : file.pos ≤ file.bytes.length) (data : List UInt8) :
    ((file.write data).bytes.drop file.pos).take data.length = data := by
  have length := List.length_take_of_le inside
  rw [write, List.append_assoc, List.drop_append_of_le_length (Nat.le_of_eq length.symm),
    List.drop_of_length_le (Nat.le_of_eq length), List.nil_append, List.take_left]

theorem write_inside {file : File} (inside : file.pos ≤ file.bytes.length) (data : List UInt8) :
    (file.write data).pos ≤ (file.write data).bytes.length := by
  rw [write_pos, write, List.length_append, List.length_append, List.length_take_of_le inside]
  omega

theorem write_write (file : File) (first second : List UInt8) (inside : file.pos ≤ file.bytes.length) :
    (file.write first).write second = file.write (first ++ second) := by
  obtain ⟨front, rest, content, here⟩ : ∃ front rest, file.bytes = front ++ rest ∧ file.pos = front.length :=
    ⟨file.bytes.take file.pos, file.bytes.drop file.pos, (List.take_append_drop _ _).symm,
      (List.length_take_of_le inside).symm⟩
  have once := write_bytes content here first
  have twice := write_bytes once (by simp [write, here]) second
  have joined := write_bytes content here (first ++ second)
  have bytes : ((file.write first).write second).bytes = (file.write (first ++ second)).bytes := by
    rw [twice, joined, List.drop_drop, List.append_assoc front, List.length_append]
  have pos : ((file.write first).write second).pos = (file.write (first ++ second)).pos := by
    simp only [write_pos, List.length_append]
    omega
  calc (file.write first).write second
      = ⟨((file.write first).write second).bytes, ((file.write first).write second).pos⟩ := rfl
    _ = file.write (first ++ second) := by rw [bytes, pos]

theorem read_eq {file : File} {front data rest : List UInt8} (content : file.bytes = front ++ data ++ rest)
    (here : file.pos = front.length) :
    file.read data.length = (data, { file with pos := file.pos + data.length }) := by
  have got : (file.bytes.drop file.pos).take data.length = data := by
    rw [content, here, List.append_assoc, List.drop_left, List.take_left]
  simp only [read, got]

/-- A read of at least what is left takes all of it. -/
theorem read_rest {file : File} {front data : List UInt8} (content : file.bytes = front ++ data)
    (here : file.pos = front.length) {count : Nat} (enough : data.length ≤ count) :
    file.read count = (data, file.seek file.bytes.length) := by
  have got : (file.bytes.drop file.pos).take count = data := by
    rw [content, here, List.drop_left, List.take_of_length_le enough]
  have last : file.pos + data.length = file.bytes.length := by rw [content, here, List.length_append]
  simp only [read, got, last]
  rfl

end File

end Bytes

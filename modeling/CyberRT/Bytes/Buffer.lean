import Mathlib.Data.List.GetD
import Mathlib.Logic.Function.Basic

namespace Bytes

/-- A buffer of bytes by address. -/
abbrev Buffer := Nat → UInt8

namespace Buffer

def read (buffer : Buffer) (pos count : Nat) : List UInt8 := (List.range count).map fun i => buffer (pos + i)

def write (buffer : Buffer) (pos : Nat) (data : List UInt8) : Buffer :=
  fun i => if pos ≤ i ∧ i < pos + data.length then data.getD (i - pos) 0 else buffer i

@[simp] theorem length_read (buffer : Buffer) (pos count : Nat) : (buffer.read pos count).length = count := by
  simp [read]

theorem read_write (buffer : Buffer) (pos : Nat) (data : List UInt8) :
    (buffer.write pos data).read pos data.length = data := by
  apply List.ext_getElem
  · simp
  · intro i bound bound'
    have inside : pos ≤ pos + i ∧ pos + i < pos + data.length := by omega
    simp [read, write, bound']

theorem read_write_before (buffer : Buffer) (pos count pos' : Nat) (data : List UInt8) (before : pos + count ≤ pos') :
    (buffer.write pos' data).read pos count = buffer.read pos count := by
  apply List.map_congr_left
  intro i member
  have bound := List.mem_range.mp member
  have outside : ¬(pos' ≤ pos + i ∧ pos + i < pos' + data.length) := by omega
  simp only [write, if_neg outside]

theorem read_add (buffer : Buffer) (pos first second : Nat) :
    buffer.read pos (first + second) = buffer.read pos first ++ buffer.read (pos + first) second := by
  rw [read, List.range_add, List.map_append, List.map_map]
  apply congrArg (buffer.read pos first ++ ·)
  apply List.map_congr_left
  intro i _
  show buffer (pos + (first + i)) = buffer (pos + first + i)
  rw [Nat.add_assoc]

theorem write_outside (buffer : Buffer) {pos i : Nat} {data : List UInt8} (outside : pos + data.length ≤ i) :
    buffer.write pos data i = buffer i := by
  have apart : ¬(pos ≤ i ∧ i < pos + data.length) := by omega
  simp only [write, if_neg apart]

/-- The bytes of a list as a memory that starts with them. -/
def ofList (bytes : List UInt8) : Buffer := fun i => bytes.getD i 0

theorem read_ofList (bytes : List UInt8) : (ofList bytes).read 0 bytes.length = bytes := by
  apply List.ext_getElem
  · simp
  · intro i bound bound'
    simp [read, ofList, bound']

end Buffer

end Bytes

import Mathlib.Algebra.Ring.Nat
import Mathlib.Data.List.TakeDrop

namespace Bytes

/-- Base 128 digits, least significant first, with the top bit set on all but the last. -/
def encodeVarint : Nat → Nat → List UInt8
  | 0, n => [UInt8.ofNat n]
  | fuel + 1, n =>
    if n < 128 then [UInt8.ofNat n] else UInt8.ofNat (n % 128 + 128) :: encodeVarint fuel (n / 128)

def decodeVarint : List UInt8 → Option (Nat × List UInt8)
  | [] => none
  | byte :: bytes =>
    if byte.toNat < 128 then some (byte.toNat, bytes)
    else (decodeVarint bytes).map fun (n, rest) => (byte.toNat - 128 + 128 * n, rest)

theorem decodeVarint_single {n : Nat} (small : n < 128) (rest : List UInt8) :
    decodeVarint (UInt8.ofNat n :: rest) = some (n, rest) := by
  have byte : (UInt8.ofNat n).toNat = n := by
    rw [UInt8.toNat_ofNat']
    omega
  rw [decodeVarint, byte, if_pos small]

theorem decodeVarint_encodeVarint {fuel n : Nat} (enough : n ≤ fuel) (rest : List UInt8) :
    decodeVarint (encodeVarint fuel n ++ rest) = some (n, rest) := by
  induction fuel generalizing n with
  | zero =>
    obtain rfl := Nat.le_zero.mp enough
    exact decodeVarint_single (by decide) rest
  | succ fuel ih =>
    rw [encodeVarint]
    split
    · rename_i small
      exact decodeVarint_single small rest
    · rename_i large
      have byte : (UInt8.ofNat (n % 128 + 128)).toNat = n % 128 + 128 := by
        rw [UInt8.toNat_ofNat']
        omega
      have continues : ¬ n % 128 + 128 < 128 := by omega
      rw [List.cons_append, decodeVarint, byte, if_neg continues, ih (by omega)]
      simp only [Option.map_some, Option.some.injEq, Prod.mk.injEq, and_true]
      omega

theorem length_encodeVarint_le {fuel n digits : Nat} (bound : n < 128 ^ (digits + 1)) :
    (encodeVarint fuel n).length ≤ digits + 1 := by
  induction fuel generalizing n digits with
  | zero => simp [encodeVarint]
  | succ fuel ih =>
    rw [encodeVarint]
    split
    · simp
    · rename_i large
      cases digits with
      | zero =>
        rw [Nat.zero_add, Nat.pow_one] at bound
        omega
      | succ digits =>
        have quotient : n / 128 < 128 ^ (digits + 1) := by
          rw [Nat.pow_succ] at bound
          omega
        have shorter := ih quotient
        rw [List.length_cons]
        omega

/-- A self-delimiting encoding: a decoder stops where the encoder stopped. -/
structure Format (α : Type) where
  encode : α → List UInt8
  decode : List UInt8 → Option (α × List UInt8)
  decode_encode : ∀ a rest, decode (encode a ++ rest) = some (a, rest)

namespace Format

variable {α β : Type}

def varint : Format Nat where
  encode n := encodeVarint n n
  decode := decodeVarint
  decode_encode _ := decodeVarint_encodeVarint (Nat.le_refl _)

/-- A fixed byte in front of a value. -/
def keyed (key : UInt8) (format : Format α) : Format α where
  encode a := key :: format.encode a
  decode
    | [] => none
    | byte :: bytes => if byte = key then format.decode bytes else none
  decode_encode a rest := by simp [format.decode_encode]

def seq (first : Format α) (second : Format β) : Format (α × β) where
  encode pair := first.encode pair.1 ++ second.encode pair.2
  decode bytes :=
    (first.decode bytes).bind fun (a, middle) => (second.decode middle).map fun (b, rest) => ((a, b), rest)
  decode_encode pair rest := by
    simp [List.append_assoc, first.decode_encode, second.decode_encode]

theorem length_keyed_le {format : Format α} {a : α} {size : Nat} (within : (format.encode a).length ≤ size)
    (key : UInt8) : ((keyed key format).encode a).length ≤ size + 1 :=
  Nat.succ_le_succ within

theorem length_seq_le {first : Format α} {second : Format β} {a : α} {b : β} {size size' : Nat}
    (within : (first.encode a).length ≤ size) (within' : (second.encode b).length ≤ size') :
    ((first.seq second).encode (a, b)).length ≤ size + size' := by
  rw [seq, List.length_append]
  exact Nat.add_le_add within within'

/-- The same encoding for a type whose values have a representation. -/
def imap (format : Format α) (view : β → α) (build : α → Option β) (build_view : ∀ b, build (view b) = some b) :
    Format β where
  encode b := format.encode (view b)
  decode bytes := (format.decode bytes).bind fun (a, rest) => (build a).map (·, rest)
  decode_encode b rest := by simp [format.decode_encode, build_view]

/-- A run of bytes behind its length. -/
def bytes : Format (List UInt8) where
  encode data := varint.encode data.length ++ data
  decode input := (varint.decode input).bind fun (count, rest) =>
    if count ≤ rest.length then some (rest.take count, rest.drop count) else none
  decode_encode data rest := by
    simp [List.append_assoc, varint.decode_encode]

/-- Values one after the other up to the end of the input. -/
def decodeAll (format : Format α) : Nat → List UInt8 → Option (List α)
  | _, [] => some []
  | 0, _ :: _ => none
  | fuel + 1, byte :: input =>
    (format.decode (byte :: input)).bind fun (a, rest) => (decodeAll format fuel rest).map (a :: ·)

theorem decodeAll_flatMap (format : Format α) (visible : ∀ a, format.encode a ≠ []) {fuel : Nat} {items : List α}
    (enough : items.length ≤ fuel) : format.decodeAll fuel (items.flatMap format.encode) = some items := by
  induction items generalizing fuel with
  | nil => simp [decodeAll]
  | cons a items ih =>
    cases fuel with
    | zero => simp at enough
    | succ fuel =>
      have rest := ih (Nat.le_of_succ_le_succ enough)
      have first := format.decode_encode a (items.flatMap format.encode)
      cases encoded : format.encode a with
      | nil => exact absurd encoded (visible a)
      | cons byte tail =>
        rw [encoded] at first
        rw [List.flatMap_cons, encoded, List.cons_append, decodeAll, ← List.cons_append, first]
        simp [rest]

theorem length_le_flatMap (format : Format α) (visible : ∀ a, format.encode a ≠ []) (items : List α) :
    items.length ≤ (items.flatMap format.encode).length := by
  induction items with
  | nil => simp
  | cons a items ih =>
    have shown := List.length_pos_iff.mpr (visible a)
    rw [List.flatMap_cons, List.length_append, List.length_cons]
    omega

/-- A whole input that holds one value. -/
def parse (format : Format α) (input : List UInt8) : Option α :=
  match format.decode input with
  | some (a, []) => some a
  | _ => none

theorem parse_encode (format : Format α) (a : α) : format.parse (format.encode a) = some a := by
  have decoded := format.decode_encode a []
  rw [List.append_nil] at decoded
  rw [parse, decoded]

/-- A value in a run of bytes of its own. -/
def delimited (format : Format α) : Format α :=
  bytes.imap format.encode format.parse format.parse_encode

/-- A list of values in a run of bytes of its own. -/
def parseAll (format : Format α) (input : List UInt8) : Option (List α) := format.decodeAll input.length input

theorem parseAll_flatMap (format : Format α) (visible : ∀ a, format.encode a ≠ []) (items : List α) :
    format.parseAll (items.flatMap format.encode) = some items :=
  decodeAll_flatMap format visible (length_le_flatMap format visible items)

end Format

end Bytes

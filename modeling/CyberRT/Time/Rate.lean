import Mathlib.Algebra.Order.Group.Nat
import Mathlib.Algebra.Ring.Int.Defs
import Mathlib.Data.List.Chain

namespace CyberRT.Time

/-- The members of a `Rate`; times are unsigned nanoseconds, durations signed ones. -/
structure Rate where
  start : UInt64
  expectedCycleTime : Int64
  actualCycleTime : Int64
  deriving DecidableEq, Repr

/-- One `Sleep`: what `Time::Now()` gave in it, until when it slept if it did, the new start, and the time of its
    return. -/
structure SleepCall where
  reading : UInt64
  sleptUntil : Option UInt64
  start : UInt64
  returned : UInt64
  deriving DecidableEq, Repr

/-- The call does not return before it has read the clock, and its sleep is not cut short. -/
structure SleepCall.Whole (call : SleepCall) : Prop where
  reads : call.reading.toNat ≤ call.returned.toNat
  sleeps : ∀ time, call.sleptUntil = some time → time.toNat ≤ call.returned.toNat

instance (call : SleepCall) : Decidable call.Whole :=
  decidable_of_iff (call.reading.toNat ≤ call.returned.toNat ∧
      call.sleptUntil.all (fun time => decide (time.toNat ≤ call.returned.toNat)) = true)
    ⟨fun ⟨reads, sleeps⟩ => ⟨reads, fun time slept => by simpa [slept] using sleeps⟩,
      fun ⟨reads, sleeps⟩ => ⟨reads, by cases slept : call.sleptUntil <;> simp [sleeps, slept]⟩⟩

/-- The clock does not go back from call to call. -/
structure Forward (calls : List SleepCall) : Prop where
  whole : ∀ call ∈ calls, call.Whole
  chain : calls.IsChain fun call next => call.returned.toNat ≤ next.reading.toNat

theorem Forward.tail {call : SleepCall} {calls : List SleepCall} (forward : Forward (call :: calls)) : Forward calls :=
  ⟨fun later member => forward.whole later (List.mem_cons_of_mem _ member), forward.chain.tail⟩

namespace Rate

variable (rate : Rate)

/-- `Sleep`, with the argument of `SleepUntil` if that is called. -/
def sleep (actualEnd : UInt64) : Rate × Option UInt64 :=
  let expectedEnd :=
    if actualEnd < rate.start then actualEnd + rate.expectedCycleTime.toUInt64
    else rate.start + rate.expectedCycleTime.toUInt64
  let sleepTime := (expectedEnd - actualEnd).toInt64
  let next := { rate with start := expectedEnd, actualCycleTime := (actualEnd - rate.start).toInt64 }
  if sleepTime < 0 then
    (if actualEnd > expectedEnd + rate.expectedCycleTime.toUInt64 then { next with start := actualEnd } else next, none)
  else (next, some expectedEnd)

/-- A `Sleep` for each pair of what the clock shows in it and at its return. -/
def calls (rate : Rate) : List (UInt64 × UInt64) → List SleepCall
  | [] => []
  | (reading, returned) :: clock =>
    let (next, sleptUntil) := rate.sleep reading
    ⟨reading, sleptUntil, next.start, returned⟩ :: calls next clock

/-- The cycle in nanoseconds. -/
def cycle : Nat := rate.expectedCycleTime.toInt.toNat

/-- Times and cycles that leave room for the arithmetic. -/
structure Fits (rate : Rate) (clock : List (UInt64 × UInt64)) : Prop where
  positive : 0 ≤ rate.expectedCycleTime.toInt
  short : rate.expectedCycleTime.toInt ≤ 2 ^ 61
  readings : ∀ entry ∈ clock, entry.1.toNat < 2 ^ 62

variable {rate}

theorem toNat_toUInt64 {duration : Int64} (positive : 0 ≤ duration.toInt) :
    duration.toUInt64.toNat = duration.toInt.toNat := by
  rw [Int64.toNat_toUInt64_of_le (Int64.le_iff_toInt_le.mpr positive)]
  rfl

theorem toInt_toInt64 (difference : UInt64) : difference.toInt64.toInt = (difference.toNat : Int).bmod (2 ^ 64) :=
  BitVec.toInt_eq_toNat_bmod difference.toBitVec

theorem toNat_add {first second : UInt64} (small : first.toNat + second.toNat < 2 ^ 64) :
    (first + second).toNat = first.toNat + second.toNat := by
  rw [UInt64.toNat_add, Nat.mod_eq_of_lt small]

/-- A difference of times is negative as a duration. -/
theorem negative_iff {first second : UInt64} (small : first.toNat < 2 ^ 63) (small' : second.toNat < 2 ^ 63) :
    (first - second).toInt64 < 0 ↔ first.toNat < second.toNat := by
  rw [Int64.lt_iff_toInt_lt, toInt_toInt64, UInt64.toNat_sub]
  show Int.bmod _ _ < 0 ↔ _
  rw [Int.bmod_def]
  split <;> omega

/-- The end that is expected lies a cycle behind the start, or behind the reading where the clock has gone back. -/
theorem sleep_spec (positive : 0 ≤ rate.expectedCycleTime.toInt) (short : rate.expectedCycleTime.toInt ≤ 2 ^ 61)
    {reading : UInt64} (early : reading.toNat < 2 ^ 62) : ∃ expectedEnd : UInt64,
    expectedEnd.toNat = min rate.start.toNat reading.toNat + rate.cycle ∧
      (rate.sleep reading).1.expectedCycleTime = rate.expectedCycleTime ∧
      (rate.sleep reading).2 = (if expectedEnd.toNat < reading.toNat then none else some expectedEnd) ∧
      (rate.sleep reading).1.start =
        if expectedEnd.toNat + rate.cycle < reading.toNat then reading else expectedEnd := by
  have cycle : rate.expectedCycleTime.toUInt64.toNat = rate.cycle := toNat_toUInt64 positive
  have bound : rate.cycle ≤ 2 ^ 61 := by
    unfold Rate.cycle
    omega
  have behind : ∀ {time : UInt64}, time.toNat < 2 ^ 63 →
      (time + rate.expectedCycleTime.toUInt64).toNat = time.toNat + rate.cycle := by
    intro time small
    rw [toNat_add (by omega), cycle]
  obtain ⟨expectedEnd, same, place⟩ : ∃ expectedEnd : UInt64,
      (if reading < rate.start then reading + rate.expectedCycleTime.toUInt64
        else rate.start + rate.expectedCycleTime.toUInt64) = expectedEnd ∧
      expectedEnd.toNat = min rate.start.toNat reading.toNat + rate.cycle := by
    refine ⟨_, rfl, ?_⟩
    split
    · rename_i back
      rw [UInt64.lt_iff_toNat_lt] at back
      rw [behind (by omega), Nat.min_eq_right (Nat.le_of_lt back)]
    · rename_i forward
      rw [UInt64.lt_iff_toNat_lt, Nat.not_lt] at forward
      rw [behind (by omega), Nat.min_eq_left forward]
  have late : (expectedEnd - reading).toInt64 < 0 ↔ expectedEnd.toNat < reading.toNat :=
    negative_iff (by omega) (by omega)
  have lost : reading > expectedEnd + rate.expectedCycleTime.toUInt64 ↔
      expectedEnd.toNat + rate.cycle < reading.toNat := by
    rw [gt_iff_lt, UInt64.lt_iff_toNat_lt, behind (by omega)]
  refine ⟨expectedEnd, place, ?_⟩
  unfold sleep
  dsimp only
  rw [same]
  by_cases slow : expectedEnd.toNat < reading.toNat
  · rw [if_pos (late.mpr slow), if_pos slow]
    by_cases far : expectedEnd.toNat + rate.cycle < reading.toNat
    · rw [if_pos (lost.mpr far), if_pos far]
      exact ⟨rfl, rfl, rfl⟩
    · rw [if_neg fun past => far (lost.mp past), if_neg far]
      exact ⟨rfl, rfl, rfl⟩
  · have near : ¬expectedEnd.toNat + rate.cycle < reading.toNat := by omega
    rw [if_neg fun past => slow (late.mp past), if_neg slow, if_neg near]
    exact ⟨rfl, rfl, rfl⟩

variable {clock : List (UInt64 × UInt64)} {reading returned : UInt64}

theorem Fits.head (fits : rate.Fits ((reading, returned) :: clock)) : reading.toNat < 2 ^ 62 :=
  fits.readings _ List.mem_cons_self

theorem Fits.tail (fits : rate.Fits ((reading, returned) :: clock)) : (rate.sleep reading).1.Fits clock := by
  obtain ⟨_, -, same, -⟩ := sleep_spec fits.positive fits.short fits.head
  exact ⟨same ▸ fits.positive, same ▸ fits.short, fun entry member => fits.readings entry (List.mem_cons_of_mem _ member)⟩

end Rate

end CyberRT.Time

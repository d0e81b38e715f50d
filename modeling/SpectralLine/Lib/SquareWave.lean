import Mathlib.Algebra.Order.Floor.Ring
import Mathlib.Algebra.Order.Field.Basic
import Mathlib.Tactic.Ring
import Mathlib.Tactic.Linarith
import Mathlib.Tactic.Push

set_option autoImplicit false

universe u

-- A signal that is high for onTime at the start of every period.
structure SquareWave (K : Type u) [Field K] [LinearOrder K] where
  origin : K
  period : K
  onTime : K
  rises : 0 < onTime
  falls : onTime < period

namespace SquareWave

variable {K : Type u} [Field K] [LinearOrder K] [IsStrictOrderedRing K]

section

variable (w : SquareWave K)

def rise (k : ℤ) : K := w.origin + k * w.period

def fall (k : ℤ) : K := w.rise k + w.onTime

def Transition (x : K) : Prop := ∃ k, x = w.rise k ∨ x = w.fall k

omit [IsStrictOrderedRing K] in
theorem period_pos : 0 < w.period := w.rises.trans w.falls

omit [IsStrictOrderedRing K] in
theorem rise_add (k n : ℤ) : w.rise (k + n) = w.rise k + n * w.period := by
  simp only [rise, Int.cast_add]
  ring

theorem rise_mono (j k : ℤ) (order : j ≤ k) : w.rise j ≤ w.rise k := by
  have scaled : (j : K) * w.period ≤ k * w.period :=
    mul_le_mul_of_nonneg_right (Int.cast_le.mpr order) w.period_pos.le
  simp only [rise]
  linarith

theorem fall_mono (j k : ℤ) (order : j ≤ k) : w.fall j ≤ w.fall k := by
  have rises := w.rise_mono j k order
  simp only [fall]
  linarith

theorem rise_before_fall (k : ℤ) : w.rise k < w.fall k := by
  have rises := w.rises
  simp only [fall]
  linarith

theorem fall_before_rise (k : ℤ) : w.fall k < w.rise (k + 1) := by
  have falls := w.falls
  rw [rise_add, Int.cast_one, one_mul, fall]
  linarith

-- Between a rise and the fall after it no transition is near.
theorem clear_while_high (k : ℤ) (c t : K) (late : w.rise k + c < t) (early : t + c < w.fall k) (x : K)
    (transition : w.Transition x) : c < |t - x| := by
  obtain ⟨j, rfl | rfl⟩ := transition
  · rcases lt_or_ge k j with after | before
    · have later := w.rise_mono (k + 1) j after
      have next := w.fall_before_rise k
      have far := neg_le_abs (t - w.rise j)
      linarith
    · have earlier := w.rise_mono j k before
      have far := le_abs_self (t - w.rise j)
      linarith
  · rcases lt_or_ge j k with before | after
    · have earlier := w.rise_mono (j + 1) k before
      have next := w.fall_before_rise j
      have far := le_abs_self (t - w.fall j)
      linarith
    · have later := w.fall_mono k j after
      have far := neg_le_abs (t - w.fall j)
      linarith

theorem clear_while_low (k : ℤ) (c t : K) (late : w.fall k + c < t) (early : t + c < w.rise (k + 1)) (x : K)
    (transition : w.Transition x) : c < |t - x| := by
  obtain ⟨j, rfl | rfl⟩ := transition
  · rcases lt_or_ge k j with after | before
    · have later := w.rise_mono (k + 1) j after
      have far := neg_le_abs (t - w.rise j)
      linarith
    · have earlier := w.rise_mono j k before
      have next := w.rise_before_fall k
      have far := le_abs_self (t - w.rise j)
      linarith
  · rcases lt_or_ge k j with after | before
    · have later := w.rise_mono (k + 1) j after
      have next := w.rise_before_fall j
      have far := neg_le_abs (t - w.fall j)
      linarith
    · have earlier := w.fall_mono j k before
      have far := le_abs_self (t - w.fall j)
      linarith

-- A clock that starts at `start` near a rise and counts cycles of `cycle` with
-- a high part of `on`, neither longer than the true ones. At phase `phase` of
-- its cycle number `count`, more than `blank` away from its own transitions,
-- the wave has no transition within `blank` less the error of the start and
-- what the shorter cycles have added since.
theorem clear_of_phase (k : ℤ) (count : ℕ) (start cycle on phase blank error : K)
    (shorter : cycle ≤ w.period) (shortOn : on ≤ w.onTime)
    (late : start < w.rise k + error) (early : w.rise k < start + error)
    (afterRise : blank ≤ phase) (beforeRise : phase + blank ≤ cycle)
    (offFall : phase + blank ≤ on ∨ on + blank ≤ phase) (x : K) (transition : w.Transition x) :
    blank - error - (count * (w.period - cycle) + (w.onTime - on)) < |start + count * cycle + phase - x| := by
  have drift : 0 ≤ (count : K) * (w.period - cycle) := mul_nonneg (Nat.cast_nonneg count) (by linarith)
  have whole : w.rise (k + count) = w.rise k + (count * cycle + count * (w.period - cycle)) := by
    rw [rise_add, Int.cast_natCast]
    ring
  rcases offFall with before | after
  · apply w.clear_while_high (k + count) _ _ _ _ x transition
    · rw [whole]
      linarith
    · rw [fall, whole]
      linarith
  · apply w.clear_while_low (k + count) _ _ _ _ x transition
    · rw [fall, whole]
      linarith
    · rw [rise_add, whole, Int.cast_one, one_mul]
      linarith

end

section Sampled

variable [FloorRing K] (w : SquareWave K)

-- The period that an instant falls in.
def turn (x : K) : ℤ := ⌊(x - w.origin) / w.period⌋

def High (x : K) : Prop := x < w.fall (w.turn x)

instance (x : K) : Decidable (w.High x) := inferInstanceAs (Decidable (x < _))

theorem rise_turn (x : K) : w.rise (w.turn x) ≤ x := by
  have below := Int.floor_le ((x - w.origin) / w.period)
  rw [le_div_iff₀ w.period_pos] at below
  simp only [rise, turn]
  linarith

theorem before_next_rise (x : K) : x < w.rise (w.turn x + 1) := by
  have above := Int.lt_floor_add_one ((x - w.origin) / w.period)
  rw [div_lt_iff₀ w.period_pos] at above
  simp only [rise, turn, Int.cast_add, Int.cast_one]
  linarith

-- Two instants of one period without a rise between them: high at the later
-- one means high at the earlier one.
theorem rise_between (a b : K) (order : a ≤ b) (low : ¬ w.High a) (high : w.High b) :
    ∃ k, a < w.rise k ∧ w.rise k ≤ b := by
  refine ⟨w.turn b, ?_, w.rise_turn b⟩
  by_contra begun
  have same : w.turn a = w.turn b := by
    apply le_antisymm
    · exact Int.floor_le_floor (div_le_div_of_nonneg_right (by linarith) w.period_pos.le)
    · by_contra behind
      have earlier := w.rise_mono (w.turn a + 1) (w.turn b) (by omega)
      have next := w.before_next_rise a
      linarith
  apply low
  rw [High, same]
  rw [High] at high
  exact lt_of_le_of_lt order high

end Sampled

end SquareWave

import Mathlib.Algebra.Order.Group.Unbundled.Int
import Mathlib.Tactic.Ring
import Mathlib.Tactic.Linarith

set_option autoImplicit false

namespace Circular

-- Distance on a circle of whole steps, measured on the line that covers it.
theorem near_multiple_iff (period x bound : ℤ) (positive : 0 < period) :
    (∃ k : ℤ, |x - k * period| ≤ bound) ↔ x % period ≤ bound ∨ period - x % period ≤ bound := by
  have split := Int.mul_ediv_add_emod x period
  have low := Int.emod_nonneg x positive.ne'
  have high := Int.emod_lt_of_pos x positive
  constructor
  · rintro ⟨k, near⟩
    obtain ⟨below, above⟩ := abs_le.mp near
    rcases le_or_gt k (x / period) with before | after
    · left
      have later : k * period ≤ x / period * period := mul_le_mul_of_nonneg_right before positive.le
      linarith
    · right
      have next : (x / period + 1) * period ≤ k * period := mul_le_mul_of_nonneg_right after positive.le
      linarith
  · rintro (near | near)
    · refine ⟨x / period, abs_le.mpr ⟨?_, ?_⟩⟩
      · linarith
      · linarith
    · refine ⟨x / period + 1, abs_le.mpr ⟨?_, ?_⟩⟩
      · linarith
      · linarith

-- Phase after a shift that is shorter than the period.
theorem shifted_phase (period x shift : ℤ) (nonneg : 0 ≤ shift) (short : shift < period) :
    (x - shift) % period = if shift ≤ x % period then x % period - shift else x % period - shift + period := by
  have positive : 0 < period := by omega
  have low := Int.emod_nonneg x positive.ne'
  have high := Int.emod_lt_of_pos x positive
  have reduced : (x - shift) % period = (x % period - shift) % period := (Int.emod_sub_emod x period shift).symm
  rw [reduced]
  by_cases after : shift ≤ x % period
  · rw [if_pos after]
    exact Int.emod_eq_of_lt (by omega) (by omega)
  · rw [if_neg after, ← Int.add_emod_right]
    exact Int.emod_eq_of_lt (by omega) (by omega)

-- With a second mark inside the period, its images in the neighbouring periods
-- are never nearer than the first mark, so one period is enough for it.
theorem near_mark_iff (period mark x bound : ℤ) (inside : 0 ≤ mark) (short : mark < period) :
    (∃ k e : ℤ, (e = 0 ∨ e = mark) ∧ |x - (k * period + e)| ≤ bound) ↔
      x % period ≤ bound ∨ period - x % period ≤ bound ∨ |x % period - mark| ≤ bound := by
  have positive : 0 < period := by omega
  have low := Int.emod_nonneg x positive.ne'
  have high := Int.emod_lt_of_pos x positive
  have first := near_multiple_iff period x bound positive
  have second := near_multiple_iff period (x - mark) bound positive
  rw [shifted_phase period x mark inside short] at second
  have marks : (∃ k e : ℤ, (e = 0 ∨ e = mark) ∧ |x - (k * period + e)| ≤ bound) ↔
      (∃ k : ℤ, |x - k * period| ≤ bound) ∨ ∃ k : ℤ, |x - mark - k * period| ≤ bound := by
    constructor
    · rintro ⟨k, e, rfl | rfl, near⟩
      · exact Or.inl ⟨k, by rwa [add_zero] at near⟩
      · exact Or.inr ⟨k, by rwa [sub_sub, add_comm e]⟩
    · rintro (⟨k, near⟩ | ⟨k, near⟩)
      · exact ⟨k, 0, Or.inl rfl, by rwa [add_zero]⟩
      · exact ⟨k, mark, Or.inr rfl, by rwa [sub_sub, add_comm mark] at near⟩
  rw [marks, first, second, abs_le]
  split_ifs with after
  · omega
  · omega

end Circular

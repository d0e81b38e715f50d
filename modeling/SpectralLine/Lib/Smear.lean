import Mathlib.Data.Nat.Size
import Mathlib.Data.Nat.Bitwise

set_option autoImplicit false

namespace Smear

-- Bit j of y is set when one of the w bits of x from j up is.
def Filled (x y width : Nat) : Prop := ∀ j, y.testBit j = true ↔ ∃ d < width, x.testBit (j + d) = true

theorem filled_self (x : Nat) : Filled x x 1 := by
  intro j
  constructor
  · intro set
    exact ⟨0, Nat.one_pos, set⟩
  · rintro ⟨d, below, set⟩
    obtain rfl : d = 0 := by omega
    exact set

theorem filled_double (x y width : Nat) (filled : Filled x y width) : Filled x (y ||| y >>> width) (width + width) := by
  intro j
  rw [Nat.testBit_or, Nat.testBit_shiftRight, Bool.or_eq_true, Nat.add_comm width j, filled j, filled (j + width)]
  constructor
  · rintro (⟨d, below, set⟩ | ⟨d, below, set⟩)
    · exact ⟨d, by omega, set⟩
    · exact ⟨width + d, by omega, by rwa [← Nat.add_assoc]⟩
  · rintro ⟨d, below, set⟩
    by_cases near : d < width
    · exact Or.inl ⟨d, near, set⟩
    · refine Or.inr ⟨d - width, by omega, ?_⟩
      rwa [show j + width + (d - width) = j + d by omega]

-- Once the smear is as wide as the number, all bits below its top are set.
theorem filled_ones (x y width : Nat) (fits : x < 2 ^ width) (filled : Filled x y width) : y = 2 ^ x.size - 1 := by
  apply Nat.eq_of_testBit_eq
  intro j
  rw [Nat.testBit_two_pow_sub_one, Bool.eq_iff_iff, filled j, decide_eq_true_eq, Nat.lt_size]
  constructor
  · rintro ⟨d, _, set⟩
    exact (Nat.pow_le_pow_right Nat.two_pos (Nat.le_add_right j d)).trans (Nat.ge_two_pow_of_testBit set)
  · intro reaches
    obtain ⟨i, above, set⟩ := Nat.exists_ge_and_testBit_of_ge_two_pow reaches
    have top : i < width := by
      by_contra outside
      have large := (Nat.pow_le_pow_right Nat.two_pos (Nat.not_lt.mp outside)).trans (Nat.ge_two_pow_of_testBit set)
      omega
    refine ⟨i - j, by omega, ?_⟩
    rwa [Nat.add_sub_cancel' above]

end Smear

import Mathlib.Algebra.Order.BigOperators.Ring.Finset
import Mathlib.Algebra.Order.Field.Basic
import Mathlib.Algebra.BigOperators.Ring.Finset

set_option autoImplicit false

namespace WeightedMean

universe u v

variable {ι : Type u} {𝕜 : Type v} [Field 𝕜]

def mean (window : Finset ι) (weight value : ι → 𝕜) : 𝕜 := (∑ j ∈ window, weight j * value j) / ∑ j ∈ window, weight j

theorem mean_congr (window : Finset ι) (weight first second : ι → 𝕜) (same : ∀ j ∈ window, first j = second j) :
    mean window weight first = mean window weight second := by
  rw [mean, mean, Finset.sum_congr rfl fun j member => congrArg (weight j * ·) (same j member)]

section

variable [LinearOrder 𝕜] [IsStrictOrderedRing 𝕜] (window : Finset ι) (weight value : ι → 𝕜)
  (positive : ∀ j ∈ window, 0 < weight j) (some_ : window.Nonempty)

include positive some_

theorem total_positive : 0 < ∑ j ∈ window, weight j := Finset.sum_pos positive some_

theorem mean_constant (level : 𝕜) (constant : ∀ j ∈ window, value j = level) : mean window weight value = level := by
  rw [mean_congr window weight value (fun _ => level) constant, mean, ← Finset.sum_mul,
    mul_div_cancel_left₀ level (total_positive window weight positive some_).ne']

theorem le_mean (low : 𝕜) (above : ∀ j ∈ window, low ≤ value j) : low ≤ mean window weight value := by
  rw [mean, le_div_iff₀ (total_positive window weight positive some_), mul_comm, Finset.sum_mul]
  exact Finset.sum_le_sum fun j member => mul_le_mul_of_nonneg_left (above j member) (positive j member).le

theorem mean_le (high : 𝕜) (below : ∀ j ∈ window, value j ≤ high) : mean window weight value ≤ high := by
  rw [mean, div_le_iff₀ (total_positive window weight positive some_), mul_comm, Finset.sum_mul]
  exact Finset.sum_le_sum fun j member => mul_le_mul_of_nonneg_left (below j member) (positive j member).le

end

end WeightedMean

import Mathlib.Data.Rat.Floor
import Mathlib.Algebra.Order.Field.Rat
import Mathlib.Tactic.Linarith

set_option autoImplicit false

-- Numbers computed without rounding, with infinities and NaN as IEEE-754 has
-- them. There is one zero.
inductive Extended where
  | finite (value : ℚ)
  | posInf
  | negInf
  | nan
deriving DecidableEq

namespace Extended

-- The infinity with the sign of a number, none of zero.
def infinite (sign : ℚ) : Extended := if 0 < sign then posInf else if sign < 0 then negInf else nan

def neg : Extended → Extended
  | finite x => finite (-x)
  | posInf => negInf
  | negInf => posInf
  | nan => nan

def add : Extended → Extended → Extended
  | finite x, finite y => finite (x + y)
  | finite _, y => y
  | x, finite _ => x
  | posInf, posInf => posInf
  | negInf, negInf => negInf
  | _, _ => nan

def sub (x y : Extended) : Extended := add x (neg y)

def mul : Extended → Extended → Extended
  | finite x, finite y => finite (x * y)
  | finite x, posInf => infinite x
  | posInf, finite y => infinite y
  | finite x, negInf => infinite (-x)
  | negInf, finite y => infinite (-y)
  | posInf, posInf => posInf
  | negInf, negInf => posInf
  | posInf, negInf => negInf
  | negInf, posInf => negInf
  | _, _ => nan

def div : Extended → Extended → Extended
  | finite x, finite y => if y = 0 then infinite x else finite (x / y)
  | posInf, finite y => if y < 0 then negInf else posInf
  | negInf, finite y => if y < 0 then posInf else negInf
  | finite _, posInf => finite 0
  | finite _, negInf => finite 0
  | _, _ => nan

def abs : Extended → Extended
  | finite x => finite |x|
  | nan => nan
  | _ => posInf

def lt : Extended → Extended → Bool
  | finite x, finite y => decide (x < y)
  | finite _, posInf => true
  | negInf, finite _ => true
  | negInf, posInf => true
  | _, _ => false

def le : Extended → Extended → Bool
  | finite x, finite y => decide (x ≤ y)
  | nan, _ => false
  | _, nan => false
  | negInf, _ => true
  | _, posInf => true
  | _, _ => false

def isFinite : Extended → Bool
  | finite _ => true
  | _ => false

-- Towards zero, as a conversion to an integer goes.
def truncate (x : ℚ) : ℤ := if 0 ≤ x then ⌊x⌋ else -⌊-x⌋

-- To the nearest integer, halves away from zero.
def roundAway (x : ℚ) : ℤ := if 0 ≤ x then ⌊x + 1 / 2⌋ else -⌊-x + 1 / 2⌋

-- Conversions to integers; none is one that is undefined.
def toUnsigned (width : ℕ) : Extended → Option ℕ
  | finite x => if -1 < x ∧ x < 2 ^ width then some (truncate x).toNat else none
  | _ => none

def toSigned (width : ℕ) : Extended → Option ℤ
  | finite x => if -(2 ^ (width - 1)) - 1 < x ∧ x < 2 ^ (width - 1) then some (truncate x) else none
  | _ => none

theorem is_finite_iff (x : Extended) : x.isFinite = true ↔ ∃ value, x = finite value := by
  cases x <;> simp [isFinite]

theorem div_finite (x y : ℚ) (nonzero : y ≠ 0) : div (finite x) (finite y) = finite (x / y) := if_neg nonzero

theorem truncate_natural (x : ℚ) (natural : 0 ≤ x) : truncate x = ⌊x⌋ := if_pos natural

theorem round_away_integer (n : ℤ) : roundAway n = n := by
  rw [roundAway]
  split_ifs with natural
  · rw [Int.floor_intCast_add]
    norm_num
  · rw [← Int.cast_neg, Int.floor_intCast_add]
    norm_num

theorem round_away_near (x : ℚ) : |(roundAway x : ℚ) - x| ≤ 1 / 2 := by
  have half : ∀ y : ℚ, |(⌊y + 1 / 2⌋ : ℚ) - y| ≤ 1 / 2 := by
    intro y
    have least := Int.floor_le (y + 1 / 2)
    have most := Int.lt_floor_add_one (y + 1 / 2)
    rw [abs_le]
    constructor <;> linarith
  rw [roundAway]
  split_ifs with natural
  · exact half x
  · have mirrored : ((-⌊-x + 1 / 2⌋ : ℤ) : ℚ) - x = -(⌊-x + 1 / 2⌋ - -x) := by
      rw [Int.cast_neg]
      linarith
    rw [mirrored, abs_neg]
    exact half (-x)

theorem round_away_bounds (x : ℚ) (natural : 0 ≤ x) (limit : ℤ) (below : x < limit + 1 / 2) :
    0 ≤ roundAway x ∧ roundAway x ≤ limit := by
  have near := abs_le.mp (round_away_near x)
  constructor
  · rw [roundAway, if_pos natural]
    exact Int.floor_nonneg.mpr (by linarith)
  · have small : (roundAway x : ℚ) < limit + 1 := by linarith [near.2]
    exact Int.lt_add_one_iff.mp (by exact_mod_cast small)

theorem to_unsigned_natural (width : ℕ) (x : ℚ) (natural : 0 ≤ x) (n : ℕ) :
    toUnsigned width (finite x) = some n ↔ x < 2 ^ width ∧ n = ⌊x⌋.toNat := by
  have above : -1 < x := by linarith
  rw [toUnsigned, truncate_natural x natural]
  by_cases inside : x < 2 ^ width
  · rw [if_pos ⟨above, inside⟩, Option.some.injEq, and_iff_right inside]
    exact eq_comm
  · rw [if_neg fun both => inside both.2]
    exact ⟨(fun same => nomatch same), fun both => absurd both.1 inside⟩

end Extended

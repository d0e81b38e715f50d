import Mathlib.Algebra.BigOperators.Intervals
import Mathlib.Algebra.BigOperators.Group.List.Lemmas

set_option autoImplicit false

universe u

-- Sums that a group of threads forms in a shared array.
namespace TreeSum

variable {M : Type u} [AddCommMonoid M]

-- The first `lanes` threads each add the element `shift` further on to their
-- own. All of them read before any of them writes.
def addShifted (lanes shift : Nat) (data : Nat → M) (tid : Nat) : M :=
  if tid < lanes then data tid + data (tid + shift) else data tid

theorem add_shifted_sum (lanes shift : Nat) (inside : shift ≤ lanes) (data : Nat → M) :
    ∑ tid ∈ Finset.range shift, addShifted lanes shift data tid = ∑ tid ∈ Finset.range (2 * shift), data tid := by
  have added : ∀ tid ∈ Finset.range shift, addShifted lanes shift data tid = data tid + data (shift + tid) := by
    intro tid member
    have below : tid < lanes := Nat.lt_of_lt_of_le (Finset.mem_range.mp member) inside
    rw [addShifted, if_pos below, Nat.add_comm tid]
  rw [Finset.sum_congr rfl added, Finset.sum_add_distrib, Nat.two_mul, Finset.sum_range_add]

-- for (s = half; s > stop; s /= 2), with a barrier after each pass.
def halvingLoop (stop s : Nat) (data : Nat → M) : Nat → M :=
  if stop < s then halvingLoop stop (s / 2) (addShifted s s data) else data
termination_by s
decreasing_by omega

theorem halving_loop_sum (stop passes : Nat) (data : Nat → M) :
    ∑ tid ∈ Finset.range (2 * stop), halvingLoop stop (2 ^ passes * stop) data tid =
      ∑ tid ∈ Finset.range (2 * (2 ^ passes * stop)), data tid := by
  induction passes generalizing data with
  | zero => rw [halvingLoop, if_neg (by omega), pow_zero, Nat.one_mul]
  | succ passes ih =>
      have twice : 2 ^ (passes + 1) * stop = 2 * (2 ^ passes * stop) := by rw [Nat.pow_succ, Nat.mul_comm _ 2, Nat.mul_assoc]
      by_cases empty : stop = 0
      · subst empty
        simp
      · have size : 1 * stop ≤ 2 ^ passes * stop := Nat.mul_le_mul_right stop (Nat.one_le_two_pow)
        rw [twice, halvingLoop, if_pos (by omega), Nat.mul_div_cancel_left _ (by decide), ih, add_shifted_sum _ _ (Nat.le_refl _)]

-- The last shifts, 2 ^ (passes - 1) down to 1, by threads in lockstep: lanes
-- that are past the shift add elements that nobody reads again.
def lockstepTail (lanes passes : Nat) (data : Nat → M) : Nat → M :=
  ((List.range passes).reverse.map fun pass => 2 ^ pass).foldl (fun data shift => addShifted lanes shift data) data

theorem lockstep_tail_sum (lanes passes : Nat) (enough : 2 ^ passes ≤ 2 * lanes) (data : Nat → M) :
    lockstepTail lanes passes data 0 = ∑ tid ∈ Finset.range (2 ^ passes), data tid := by
  induction passes generalizing data with
  | zero => simp [lockstepTail]
  | succ passes ih =>
      have twice : 2 ^ (passes + 1) = 2 * 2 ^ passes := by rw [Nat.pow_succ, Nat.mul_comm]
      have first : lockstepTail lanes (passes + 1) data = lockstepTail lanes passes (addShifted lanes (2 ^ passes) data) := by
        simp only [lockstepTail, List.range_succ, List.reverse_append, List.reverse_singleton, List.singleton_append, List.map_cons,
          List.foldl_cons]
      rw [first, ih (by omega), add_shifted_sum _ _ (by omega), twice]

-- Blocks of one size side by side.
theorem blocks_sum (size count : Nat) (data : Nat → M) :
    ∑ block ∈ Finset.range count, ∑ tid ∈ Finset.range size, data (block * size + tid) =
      ∑ k ∈ Finset.range (count * size), data k := by
  induction count with
  | zero => simp
  | succ count ih => rw [Finset.sum_range_succ, ih, Nat.succ_mul, Finset.sum_range_add]

-- Elements from n on are zero.
theorem guarded_sum (n size : Nat) (covers : n ≤ size) (data : Nat → M) :
    ∑ k ∈ Finset.range size, (if k < n then data k else 0) = ∑ k ∈ Finset.range n, data k := by
  rw [← Finset.sum_filter]
  congr 1
  ext k
  simp only [Finset.mem_filter, Finset.mem_range]
  omega

-- Atomic additions in any order.
theorem atomic_sum (order : List Nat) (count : Nat) (all : order.Perm (List.range count)) (part : Nat → M) (start : M) :
    order.foldl (fun sum block => sum + part block) start = start + ∑ block ∈ Finset.range count, part block := by
  have folded : ∀ (blocks : List Nat) (start : M),
      blocks.foldl (fun sum block => sum + part block) start = start + (blocks.map part).sum := by
    intro blocks
    induction blocks with
    | nil => intro start; simp
    | cons block rest ih => intro start; rw [List.foldl_cons, ih, List.map_cons, List.sum_cons, add_assoc]
  rw [folded, (all.map part).sum_eq]
  rfl

end TreeSum

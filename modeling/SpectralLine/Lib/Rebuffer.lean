import Mathlib.Data.List.Basic
import Mathlib.Algebra.Order.Group.Nat

set_option autoImplicit false

namespace Rebuffer

universe u v

variable {A : Type u} {S : Type v} (n : Nat) (step : S → List A → S)

-- Whole blocks of n are taken from the front while there are any; the rest
-- stays pending.
def drain (state : S) (pending : List A) : S × List A :=
  if 0 < n ∧ n ≤ pending.length then drain (step state (pending.take n)) (pending.drop n) else (state, pending)
termination_by pending.length
decreasing_by
  rw [List.length_drop]
  omega

def blocks (content : List A) : List (List A) := (List.range (content.length / n)).map fun j => (content.drop (j * n)).take n

theorem drain_append (state : S) (pending more : List A) :
    drain n step (drain n step state pending).1 ((drain n step state pending).2 ++ more) = drain n step state (pending ++ more) := by
  fun_induction drain n step state pending with
  | case1 state pending full ih =>
      have longer : 0 < n ∧ n ≤ (pending ++ more).length := by
        rw [List.length_append]
        omega
      rw [ih]
      conv_rhs => rw [drain, if_pos longer, List.take_append_of_le_length full.2, List.drop_append_of_le_length full.2]
  | case2 state pending short => rfl

-- How the content is cut into chunks does not matter.
theorem drain_chunks (chunks : List (List A)) (state : S) (pending : List A) :
    chunks.foldl (fun held chunk => drain n step held.1 (held.2 ++ chunk)) (drain n step state pending) =
      drain n step state (pending ++ chunks.flatten) := by
  induction chunks generalizing pending with
  | nil => rw [List.foldl_nil, List.flatten_nil, List.append_nil]
  | cons chunk rest ih => rw [List.foldl_cons, drain_append, ih, List.flatten_cons, List.append_assoc]

theorem blocks_next (content : List A) (positive : 0 < n) (full : n ≤ content.length) :
    blocks n content = content.take n :: blocks n (content.drop n) := by
  have count : content.length / n = (content.drop n).length / n + 1 := by
    rw [List.length_drop, Nat.div_eq_sub_div positive full]
  rw [blocks, blocks, count, List.range_succ_eq_map, List.map_cons, List.map_map, Nat.zero_mul, List.drop_zero]
  refine congrArg (List.cons _) (List.map_congr_left fun j _ => ?_)
  rw [Function.comp_apply, List.drop_drop, Nat.succ_mul, Nat.add_comm]

theorem blocks_length (content : List A) : (blocks n content).length = content.length / n := by
  rw [blocks, List.length_map, List.length_range]

theorem drain_blocks (positive : 0 < n) (state : S) (content : List A) :
    (drain n step state content).1 = (blocks n content).foldl step state := by
  fun_induction drain n step state content with
  | case1 state pending full ih => rw [ih, blocks_next n pending positive full.2, List.foldl_cons]
  | case2 state pending short =>
      have none_ : pending.length / n = 0 := Nat.div_eq_of_lt (by omega)
      rw [blocks, none_]
      rfl

end Rebuffer

import Mathlib.Algebra.Order.Group.Unbundled.Int
import Mathlib.Tactic.Ring
import Mathlib.Tactic.Linarith

set_option autoImplicit false

universe u

-- A ring of `depth` blocks of `size` elements each, written block by block
-- from its start over and over.
namespace BlockRing

variable {A : Type u} (size depth : Nat)

-- Element `p` of block `turn`, whichever slot of the ring that is.
def cell (turn p : Nat) : Nat := (turn * size + p) % (depth * size)

theorem cell_inside (turn p : Nat) (sizePos : 0 < size) (depthPos : 0 < depth) : cell size depth turn p < depth * size :=
  Nat.mod_lt _ (Nat.mul_pos depthPos sizePos)

theorem cell_wraps (turn p : Nat) : cell size depth (turn + depth) p = cell size depth turn p := by
  rw [cell, cell, Nat.add_mul, Nat.add_right_comm, Nat.add_mod_right]

theorem mod_apart (width a b : Nat) (before : a < b) (near : b < a + width) : a % width ≠ b % width := by
  intro same
  have divides : width ∣ b - a := Nat.dvd_of_mod_eq_zero (Nat.sub_mod_eq_zero_of_mod_eq same.symm)
  have least := Nat.le_of_dvd (by omega) divides
  omega

theorem cell_apart (early late p q : Nat) (before : early < late) (near : late < early + depth) (insideP : p < size)
    (insideQ : q < size) : cell size depth early p ≠ cell size depth late q := by
  have lower : (early + 1) * size ≤ late * size := Nat.mul_le_mul_right size before
  have upper : (late + 1) * size ≤ (early + depth) * size := Nat.mul_le_mul_right size near
  rw [Nat.succ_mul] at lower upper
  rw [Nat.add_mul] at upper
  exact mod_apart (depth * size) _ _ (by omega) (by omega)

theorem cell_injective (turn p q : Nat) (depthPos : 0 < depth) (insideP : p < size) (insideQ : q < size)
    (same : cell size depth turn p = cell size depth turn q) : p = q := by
  have whole : size ≤ depth * size := Nat.le_mul_of_pos_left size depthPos
  by_contra different
  rcases Nat.lt_or_gt_of_ne different with below | above
  · exact mod_apart (depth * size) _ _ (Nat.add_lt_add_left below _) (by omega) same
  · exact mod_apart (depth * size) _ _ (Nat.add_lt_add_left above _) (by omega) same.symm

-- After `turns` blocks the ring holds the last `depth` of them, the oldest at
-- the next position to write; the blocks before the first are the fill.
def Holds (ring : Nat → A) (turns : Nat) (block : ℤ → Nat → A) : Prop :=
  ∀ t < depth, ∀ p < size, ring (cell size depth (turns + t) p) = block ((turns : ℤ) - depth + t) p

theorem holds_start (fill : A) (block : ℤ → Nat → A) (before : ∀ j < 0, ∀ p, block j p = fill) :
    Holds size depth (fun _ => fill) 0 block := by
  intro t inside p _
  exact (before _ (by omega) p).symm

theorem holds_next (ring written : Nat → A) (turns : Nat) (block : ℤ → Nat → A) (holds : Holds size depth ring turns block)
    (here : ∀ p < size, written (cell size depth turns p) = block turns p)
    (elsewhere : ∀ k, (∀ p < size, k ≠ cell size depth turns p) → written k = ring k) :
    Holds size depth written (turns + 1) block := by
  intro t inside p bound
  by_cases newest : t + 1 = depth
  · have place : turns + 1 + t = turns + depth := by omega
    have index : ((turns + 1 : Nat) : ℤ) - depth + t = turns := by omega
    rw [place, cell_wraps, index]
    exact here p bound
  · have kept : written (cell size depth (turns + 1 + t) p) = ring (cell size depth (turns + (t + 1)) p) := by
      rw [Nat.add_assoc, Nat.add_comm 1 t]
      refine elsewhere _ fun q range => ?_
      exact (cell_apart size depth turns (turns + (t + 1)) q p (by omega) (by omega) range bound).symm
    rw [kept, holds (t + 1) (by omega) p bound]
    congr 1
    omega

-- One conditional subtraction replaces the modulo.
theorem wrapped_once (turns t p : Nat) (tap : t < depth) (inside : p < size) :
    (if depth * size ≤ turns * size % (depth * size) + t * size + p
      then turns * size % (depth * size) + t * size + p - depth * size
      else turns * size % (depth * size) + t * size + p) = cell size depth (turns + t) p := by
  have room : (t + 1) * size ≤ depth * size := Nat.mul_le_mul_right size tap
  rw [Nat.succ_mul] at room
  have head : turns * size % (depth * size) < depth * size := Nat.mod_lt _ (by omega)
  have place : cell size depth (turns + t) p = (turns * size % (depth * size) + t * size + p) % (depth * size) := by
    rw [cell, Nat.add_mul, Nat.add_assoc, Nat.add_assoc, Nat.mod_add_mod]
  rw [place]
  split_ifs with beyond
  · rw [Nat.mod_eq_sub_mod beyond]
    exact (Nat.mod_eq_of_lt (by omega)).symm
  · exact (Nat.mod_eq_of_lt (by omega)).symm

end BlockRing

import Mathlib.Data.List.Basic
import Mathlib.Logic.Function.Basic
import SpectralLine.Lib.BlockRing

set_option autoImplicit false

namespace CellRing

universe u

variable {Item : Type u}

-- Of a growing sequence, the cells hold the values from `first` on, value k in
-- cell k mod size, and every other cell is empty.
structure Live (size : Nat) (cells : Nat → Option Item) (values : List Item) (first : Nat) : Prop where
  live : ∀ k, first ≤ k → k < values.length → cells (k % size) = values[k]?
  dead : ∀ s < size, (∀ k, first ≤ k → k < values.length → k % size ≠ s) → cells s = none

section

variable (size : Nat) (cells : Nat → Option Item) (values : List Item) (first : Nat)

theorem live_start : Live size (fun _ => (none : Option Item)) [] first :=
  ⟨fun k _ inside => absurd inside (Nat.not_lt_zero k), fun _ _ _ => rfl⟩

-- A cell is free as long as less than one ring of values is live.
theorem next_dead (live : Live size cells values first) (order : first ≤ values.length)
    (room : values.length < first + size) : cells (values.length % size) = none := by
  refine live.dead _ (Nat.mod_lt _ (by omega)) fun k low high => ?_
  exact BlockRing.mod_apart size k values.length high (by omega)

theorem live_append (live : Live size cells values first) (item : Item) (order : first ≤ values.length)
    (room : values.length < first + size) :
    Live size (Function.update cells (values.length % size) (some item)) (values ++ [item]) first := by
  constructor
  · intro k low high
    rw [List.length_append, List.length_singleton] at high
    by_cases last : k = values.length
    · rw [last, Function.update_self, List.getElem?_concat_length]
    · have apart := BlockRing.mod_apart size k values.length (by omega) (by omega)
      rw [Function.update_of_ne apart, live.live k low (by omega), List.getElem?_append_left (by omega)]
  · intro s inside away
    have other := away values.length order (by rw [List.length_append]; exact Nat.lt_succ_self _)
    rw [Function.update_of_ne (Ne.symm other)]
    exact live.dead s inside fun k low high => away k low (by rw [List.length_append]; exact Nat.lt_succ_of_lt high)

theorem first_live (live : Live size cells values first) (inside : first < values.length) :
    cells (first % size) = values[first]? := live.live first (Nat.le_refl _) inside

theorem live_drop (live : Live size cells values first)
    (window : values.length ≤ first + size) :
    Live size (Function.update cells (first % size) none) values (first + 1) := by
  constructor
  · intro k low high
    have apart := BlockRing.mod_apart size first k low (by omega)
    rw [Function.update_of_ne (Ne.symm apart), live.live k (by omega) high]
  · intro s below away
    by_cases here : s = first % size
    · rw [here, Function.update_self]
    · rw [Function.update_of_ne here]
      refine live.dead s below fun k low high same => ?_
      rcases Nat.lt_or_eq_of_le low with later | now
      · exact away k later high same
      · exact here (by rw [now, same])

-- Emptying the cells of all live values, oldest first.
def drain (size : Nat) (first count : Nat) (cells : Nat → Option Item) : Nat → Option Item :=
  (List.range count).foldl (fun cells i => Function.update cells ((first + i) % size) none) cells

omit values in
theorem drain_succ (count : Nat) :
    drain size first (count + 1) cells = Function.update (drain size first count cells) ((first + count) % size) none := by
  simp [drain, List.range_succ]

theorem drain_live (live : Live size cells values first) (window : values.length ≤ first + size) (count : Nat) :
    Live size (drain size first count cells) values (first + count) := by
  induction count with
  | zero => exact live
  | succ count ih =>
      rw [drain_succ]
      exact live_drop size _ values (first + count) ih (by omega)

end

end CellRing

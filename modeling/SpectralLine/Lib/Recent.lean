import Mathlib.Data.List.Basic

set_option autoImplicit false

namespace Recent

section

variable {α : Type}

-- The last `count` elements.
def recent (count : Nat) (xs : List α) : List α := xs.drop (xs.length - count)

-- How many elements at the end satisfy the test without a break.
def streak (p : α → Bool) (xs : List α) : Nat := (xs.reverse.takeWhile p).length

theorem streak_snoc (p : α → Bool) (xs : List α) (x : α) :
    streak p (xs ++ [x]) = if p x then streak p xs + 1 else 0 := by
  cases holds : p x with
  | true => simp [streak, holds]
  | false => simp [streak, holds]

theorem run_length (p : α → Bool) (xs : List α) (count : Nat) :
    count ≤ (xs.takeWhile p).length ↔ count ≤ xs.length ∧ ∀ x ∈ xs.take count, p x = true := by
  induction xs generalizing count with
  | nil => simp
  | cons x rest ih =>
      cases count with
      | zero => simp
      | succ count =>
          cases holds : p x with
          | true => simp [holds, ih]
          | false => simp [holds]

theorem streak_recent (p : α → Bool) (xs : List α) (count : Nat) :
    count ≤ streak p xs ↔ count ≤ xs.length ∧ ∀ x ∈ recent count xs, p x = true := by
  rw [streak, run_length, List.length_reverse, List.take_reverse]
  simp only [List.mem_reverse, recent]

theorem recent_at (xs : List α) (count : Nat) (enough : count ≤ xs.length) (t : Fin count) :
    ∃ x ∈ recent count xs, xs[xs.length - count + t.val]? = some x := by
  have inside : xs.length - count + t.val < xs.length := by omega
  refine ⟨xs[xs.length - count + t.val], ?_, List.getElem?_eq_getElem inside⟩
  rw [recent, List.mem_drop_iff_getElem]
  exact ⟨t.val, by omega, rfl⟩

end

end Recent

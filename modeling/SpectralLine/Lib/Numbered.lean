import Mathlib.Data.List.Basic
import Mathlib.Order.Basic

set_option autoImplicit false

namespace Numbered

universe u

variable {M : Type u} (number : M → Nat)

-- A log of offers, each with the message it led to or none, where every
-- message carries the position of its offer.
def Numbers (log : List (Option M)) : Prop := ∀ (n : Nat) (message : M), log[n]? = some (some message) → number message = n

theorem numbers_nil : Numbers number ([] : List (Option M)) := by
  intro n message found
  cases found

theorem appended_entry {A : Type u} (list : List A) (last : A) (i : Nat) (entry : A) (found : (list ++ [last])[i]? = some entry) :
    list[i]? = some entry ∨ i = list.length ∧ entry = last := by
  rw [List.getElem?_append] at found
  by_cases inside : i < list.length
  · rw [if_pos inside] at found
    exact Or.inl found
  · rw [if_neg inside] at found
    obtain ⟨bound, same⟩ := List.getElem?_eq_some_iff.mp found
    rw [List.length_singleton] at bound
    have position : i = list.length := by omega
    subst position
    rw [List.getElem_singleton] at same
    exact Or.inr ⟨rfl, same.symm⟩

theorem numbers_append (log : List (Option M)) (offer : Option M) (numbers : Numbers number log)
    (last : ∀ message, offer = some message → number message = log.length) : Numbers number (log ++ [offer]) := by
  intro n message found
  rcases appended_entry log offer n (some message) found with old | ⟨position, same⟩
  · exact numbers n message old
  · rw [position]
    exact last message same.symm

theorem numbers_increasing (log : List (Option M)) (numbers : Numbers number log) (n m : Nat) (first second : M)
    (before : n < m) (offered : log[n]? = some (some first)) (later : log[m]? = some (some second)) :
    number first < number second := by
  rw [numbers n first offered, numbers m second later]
  exact before

-- The offers strictly between two positions.
def between (log : List (Option M)) (n m : Nat) : List (Option M) := (log.drop (n + 1)).take (m - (n + 1))

def droppedBetween (log : List (Option M)) (n m : Nat) : Nat := (between log n m).countP Option.isNone

def acceptedBetween (log : List (Option M)) (n m : Nat) : Nat := (between log n m).countP Option.isSome

theorem between_length (log : List (Option M)) (n m : Nat) (inside : m ≤ log.length) :
    (between log n m).length = m - (n + 1) := by
  rw [between, List.length_take, List.length_drop]
  omega

theorem dropped_and_accepted (log : List (Option M)) (n m : Nat) (inside : m ≤ log.length) :
    droppedBetween log n m + acceptedBetween log n m = m - (n + 1) := by
  have split := List.length_eq_countP_add_countP (l := between log n m) Option.isNone
  have others : (between log n m).countP (fun offer => decide ¬ Option.isNone offer = true) = acceptedBetween log n m := by
    rw [acceptedBetween]
    congr 1
    funext offer
    cases offer <;> rfl
  rw [others, between_length log n m inside] at split
  exact split.symm

-- The numbers of two messages tell how many offers between them were dropped.
theorem numbers_gap (log : List (Option M)) (numbers : Numbers number log) (n m : Nat) (first second : M)
    (offered : log[n]? = some (some first)) (later : log[m]? = some (some second)) :
    droppedBetween log n m + acceptedBetween log n m = number second - (number first + 1) := by
  have inside : m < log.length := (List.getElem?_eq_some_iff.mp later).1
  rw [numbers n first offered, numbers m second later]
  exact dropped_and_accepted log n m (Nat.le_of_lt inside)

end Numbered
